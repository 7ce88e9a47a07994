import BuildRunner.Event.Basic
import BuildRunner.Json.Decode

set_option autoImplicit false

/-! # Decoding events

The events that JSON trees stand for. A decoder goes through the members of an object in
their order and puts each into the slot of its field, so a field given twice and a value of
the wrong kind are noticed where they stand. In the list form of a record its items are put
into the slots of the fields one after another.
-/

namespace BuildRunner

open Json (Decoded DecodeError Form fill vacant surplus wanted required asText asBool asWord
  asList asOption)

def fieldOfName? {φ : Type} (fields : List φ) (name : φ → String) (key : String) : Option φ :=
  fields.find? fun f => name f = key

/-! ## Highlighted text -/

inductive SpanText.Field where
  | text
  | highlightStart
  | highlightEnd
deriving Repr, DecidableEq

namespace SpanText

def Field.all : List Field := [.text, .highlightStart, .highlightEnd]

def Field.key : Field → String
  | .text => "text"
  | .highlightStart => "highlight_start"
  | .highlightEnd => "highlight_end"

/-- A `SpanText` of which some fields have been read. -/
structure Draft where
  text : Option String := none
  highlightStart : Option UInt32 := none
  highlightEnd : Option UInt32 := none

def Draft.put (d : Draft) (f : Field) (v : Json) : Decoded Draft :=
  match f with
  | .text => return { d with text := ← fill f.key d.text asText v }
  | .highlightStart => return { d with highlightStart := ← fill f.key d.highlightStart asWord v }
  | .highlightEnd => return { d with highlightEnd := ← fill f.key d.highlightEnd asWord v }

/-- The finished value; what was not read has its default. -/
def Draft.finish (d : Draft) : SpanText :=
  ⟨d.text.getD "", d.highlightStart.getD 0, d.highlightEnd.getD 0⟩

def record : Json.Record Field Draft SpanText where
  title := "struct SpanText"
  fields := Field.all
  key := Field.key
  empty := {}
  put := Draft.put
  finish := fun _ d => .ok d.finish

def ofJson : Json → Decoded SpanText := record.ofJson

end SpanText

/-! ## Spans and expansions -/

inductive Span.Field where
  | fileName
  | byteStart
  | byteEnd
  | lineStart
  | lineEnd
  | columnStart
  | columnEnd
  | isPrimary
  | label
  | expansion
  | text
deriving Repr, DecidableEq

namespace Span

def Field.all : List Field :=
  [.fileName, .byteStart, .byteEnd, .lineStart, .lineEnd, .columnStart, .columnEnd, .isPrimary,
    .label, .expansion, .text]

def Field.key : Field → String
  | .fileName => "file_name"
  | .byteStart => "byte_start"
  | .byteEnd => "byte_end"
  | .lineStart => "line_start"
  | .lineEnd => "line_end"
  | .columnStart => "column_start"
  | .columnEnd => "column_end"
  | .isPrimary => "is_primary"
  | .label => "label"
  | .expansion => "expansion"
  | .text => "text"

structure Draft where
  fileName : Option String := none
  byteStart : Option UInt32 := none
  byteEnd : Option UInt32 := none
  lineStart : Option UInt32 := none
  lineEnd : Option UInt32 := none
  columnStart : Option UInt32 := none
  columnEnd : Option UInt32 := none
  isPrimary : Option Bool := none
  label : Option (Option String) := none
  expansion : Option (Option (Expansion Span)) := none
  text : Option (List SpanText) := none

/-- A label, of which the empty one is none. -/
def asLabel (j : Json) : Decoded (Option String) :=
  (asOption asText j).map fun label => label.filter (· ≠ "")

/-- Puts a value into the slot of a field other than `expansion`. -/
def Draft.put (d : Draft) (f : Field) (v : Json) : Decoded Draft :=
  match f with
  | .fileName => return { d with fileName := ← fill f.key d.fileName asText v }
  | .byteStart => return { d with byteStart := ← fill f.key d.byteStart asWord v }
  | .byteEnd => return { d with byteEnd := ← fill f.key d.byteEnd asWord v }
  | .lineStart => return { d with lineStart := ← fill f.key d.lineStart asWord v }
  | .lineEnd => return { d with lineEnd := ← fill f.key d.lineEnd asWord v }
  | .columnStart => return { d with columnStart := ← fill f.key d.columnStart asWord v }
  | .columnEnd => return { d with columnEnd := ← fill f.key d.columnEnd asWord v }
  | .isPrimary => return { d with isPrimary := ← fill f.key d.isPrimary asBool v }
  | .label => return { d with label := ← fill f.key d.label asLabel v }
  | .expansion => .ok d
  | .text => return { d with text := ← fill f.key d.text (asList SpanText.ofJson) v }

def Draft.finish (d : Draft) : Span where
  fileName := d.fileName.getD ""
  byteStart := d.byteStart.getD 0
  byteEnd := d.byteEnd.getD 0
  lineStart := d.lineStart.getD 0
  lineEnd := d.lineEnd.getD 0
  columnStart := d.columnStart.getD 0
  columnEnd := d.columnEnd.getD 0
  isPrimary := d.isPrimary.getD false
  label := d.label.getD none
  expansion := d.expansion.getD none
  text := d.text.getD []

end Span

namespace Expansion

inductive Field where
  | span
  | macroName
  | definition
deriving Repr, DecidableEq

def Field.all : List Field := [.span, .macroName, .definition]

def Field.key : Field → String
  | .span => "span"
  | .macroName => "macro_decl_name"
  | .definition => "def_site_span"

structure Draft where
  span : Option Span := none
  macroName : Option String := none
  definition : Option (Option Span) := none

/-- What an expansion is called where it was wanted. -/
def title : String := "struct SpanExpansion"

/-- The finished value, which must have its span. -/
def Draft.finish (form : Form) (d : Draft) : Decoded (Expansion Span) := do
  let span ← required form Field.span.key 0 d.span
  return ⟨span, d.macroName.getD "", d.definition.getD none⟩

end Expansion

mutual

def Span.ofJson : Json → Decoded Span
  | .object ms => (Span.ofMembers {} ms).map Span.Draft.finish
  | .array js => (Span.ofItems {} Span.Field.all js).map Span.Draft.finish
  | j => wanted j "struct Span"
termination_by structural j => j

/-- Puts the members of an object into their slots. -/
def Span.ofMembers (d : Span.Draft) : List (String × Json) → Decoded Span.Draft
  | [] => .ok d
  | (k, v) :: ms =>
    match fieldOfName? Span.Field.all Span.Field.key k with
    | none => Span.ofMembers d ms
    | some .expansion => do
      vacant Span.Field.expansion.key d.expansion
      let e ← Expansion.ofJson? v
      Span.ofMembers { d with expansion := some e } ms
    | some f => do Span.ofMembers (← d.put f v) ms
termination_by structural ms => ms

/-- Puts the items of a list into the slots of `fields`. -/
def Span.ofItems (d : Span.Draft) (fields : List Span.Field) : List Json → Decoded Span.Draft
  | [] => .ok d
  | j :: js =>
    match fields with
    | [] => surplus Span.Field.all.length (j :: js)
    | .expansion :: fs => do
      let e ← Expansion.ofJson? j
      Span.ofItems { d with expansion := some e } fs js
    | f :: fs => do Span.ofItems (← d.put f j) fs js
termination_by structural js => js

/-- The expansion that a tree stands for, or none for null. -/
def Expansion.ofJson? : Json → Decoded (Option (Expansion Span))
  | .null => .ok none
  | .object ms => do
    let d ← Expansion.ofMembers {} ms
    return some (← d.finish .object)
  | .array js => do
    let d ← Expansion.ofItems {} Expansion.Field.all js
    return some (← d.finish (.list Expansion.title Expansion.Field.all.length))
  | j => wanted j Expansion.title
termination_by structural j => j

def Expansion.ofMembers (d : Expansion.Draft) : List (String × Json) → Decoded Expansion.Draft
  | [] => .ok d
  | (k, v) :: ms =>
    match fieldOfName? Expansion.Field.all Expansion.Field.key k with
    | none => Expansion.ofMembers d ms
    | some .span => do
      vacant Expansion.Field.span.key d.span
      let s ← Span.ofJson v
      Expansion.ofMembers { d with span := some s } ms
    | some .macroName => do
      let n ← fill Expansion.Field.macroName.key d.macroName asText v
      Expansion.ofMembers { d with macroName := n } ms
    | some .definition => do
      vacant Expansion.Field.definition.key d.definition
      let s ← if v.isNull then .ok none else (Span.ofJson v).map some
      Expansion.ofMembers { d with definition := some s } ms
termination_by structural ms => ms

def Expansion.ofItems (d : Expansion.Draft) (fields : List Expansion.Field) :
    List Json → Decoded Expansion.Draft
  | [] => .ok d
  | j :: js =>
    match fields with
    | [] => surplus Expansion.Field.all.length (j :: js)
    | .span :: fs => do
      let s ← Span.ofJson j
      Expansion.ofItems { d with span := some s } fs js
    | .macroName :: fs => do
      let n ← fill Expansion.Field.macroName.key d.macroName asText j
      Expansion.ofItems { d with macroName := n } fs js
    | .definition :: fs => do
      let s ← if j.isNull then .ok none else (Span.ofJson j).map some
      Expansion.ofItems { d with definition := some s } fs js
termination_by structural js => js

end

def Expansion.ofJson (j : Json) : Decoded (Expansion Span) := do
  match ← Expansion.ofJson? j with
  | some e => return e
  | none => wanted j Expansion.title

/-! ## Child messages -/

inductive Child.Field where
  | level
  | message
  | children
deriving Repr, DecidableEq

namespace Child

def Field.all : List Field := [.level, .message, .children]

def Field.key : Field → String
  | .level => "level"
  | .message => "message"
  | .children => "children"

structure Draft where
  level : Option String := none
  message : Option String := none
  children : Option (List Child) := none

def Draft.finish (d : Draft) : Child :=
  ⟨d.level.getD "", d.message.getD "", d.children.getD []⟩

mutual

def ofJson : Json → Decoded Child
  | .object ms => (ofMembers {} ms).map Draft.finish
  | .array js => (ofItems {} Field.all js).map Draft.finish
  | j => wanted j "struct ChildMessage"
termination_by structural j => j

def ofMembers (d : Draft) : List (String × Json) → Decoded Draft
  | [] => .ok d
  | (k, v) :: ms =>
    match fieldOfName? Field.all Field.key k with
    | none => ofMembers d ms
    | some .level => do
      ofMembers { d with level := ← fill Field.level.key d.level asText v } ms
    | some .message => do
      ofMembers { d with message := ← fill Field.message.key d.message asText v } ms
    | some .children => do
      vacant Field.children.key d.children
      let cs ← listOfJson v
      ofMembers { d with children := some cs } ms
termination_by structural ms => ms

def ofItems (d : Draft) (fields : List Field) : List Json → Decoded Draft
  | [] => .ok d
  | j :: js =>
    match fields with
    | [] => surplus Field.all.length (j :: js)
    | .level :: fs => do
      ofItems { d with level := ← fill Field.level.key d.level asText j } fs js
    | .message :: fs => do
      ofItems { d with message := ← fill Field.message.key d.message asText j } fs js
    | .children :: fs => do
      let cs ← listOfJson j
      ofItems { d with children := some cs } fs js
termination_by structural js => js

def listOfJson : Json → Decoded (List Child)
  | .array js => listOfItems js
  | j => wanted j "a sequence"
termination_by structural j => j

def listOfItems : List Json → Decoded (List Child)
  | [] => .ok []
  | j :: js => do
    let c ← ofJson j
    let cs ← listOfItems js
    return c :: cs
termination_by structural js => js

end

end Child

/-! ## Compiler messages -/

inductive CompilerMessage.Field where
  | level
  | message
  | code
  | spans
  | children
deriving Repr, DecidableEq

namespace CompilerMessage

def Field.all : List Field := [.level, .message, .code, .spans, .children]

def Field.key : Field → String
  | .level => "level"
  | .message => "message"
  | .code => "code"
  | .spans => "spans"
  | .children => "children"

structure Draft where
  level : Option String := none
  message : Option String := none
  code : Option (Option String) := none
  spans : Option (List Span) := none
  children : Option (List Child) := none

/-- The values of the members with a given key. -/
def valuesOf (key : String) (ms : List (String × Json)) : List Json :=
  (ms.filter fun m => m.1 = key).map Prod.snd

/-- An error code: a text, or an object with exactly one text under `code`. -/
def asCode : Json → Decoded String
  | .string s => .ok s
  | .object ms =>
    match valuesOf "code" ms with
    | [.string s] => .ok s
    | _ => .error (.noForm "RawCode")
  | _ => .error (.noForm "RawCode")

def Draft.put (d : Draft) (f : Field) (v : Json) : Decoded Draft :=
  match f with
  | .level => return { d with level := ← fill f.key d.level asText v }
  | .message => return { d with message := ← fill f.key d.message asText v }
  | .code => return { d with code := ← fill f.key d.code (asOption asCode) v }
  | .spans => return { d with spans := ← fill f.key d.spans (asList Span.ofJson) v }
  | .children => return { d with children := ← fill f.key d.children Child.listOfJson v }

def Draft.finish (d : Draft) : CompilerMessage :=
  ⟨d.level.getD "", d.message.getD "", d.code.getD none, d.spans.getD [], d.children.getD []⟩

def record : Json.Record Field Draft CompilerMessage where
  title := "struct CompilerMessage"
  fields := Field.all
  key := Field.key
  empty := {}
  put := Draft.put
  finish := fun _ d => .ok d.finish

def ofJson : Json → Decoded CompilerMessage := record.ofJson

end CompilerMessage

/-! ## Events -/

namespace ToolEvent

/-- The key that says what an event is. -/
def reasonKey : String := "reason"

/-- The key of the payload of a compiler message. -/
def messageKey : String := "message"

def compilerMessageReason : String := "compiler-message"

/-- What an event is called where it was wanted. -/
def title : String := "internally tagged enum ToolEvent"

def asReason : Json → Decoded String
  | .string s => .ok s
  | j => wanted j "variant identifier"

def reasonOf (found : Option String) : List (String × Json) → Decoded (Option String)
  | [] => .ok found
  | (k, v) :: ms =>
    if k = reasonKey then do reasonOf (← fill reasonKey found asReason v) ms
    else reasonOf found ms

def payloadOf (found : Option CompilerMessage) :
    List (String × Json) → Decoded (Option CompilerMessage)
  | [] => .ok found
  | (k, v) :: ms =>
    if k = messageKey then do payloadOf (← fill messageKey found CompilerMessage.ofJson v) ms
    else payloadOf found ms

/-- The event of an object with a given reason. -/
def ofReason (reason : String) (ms : List (String × Json)) : Decoded ToolEvent :=
  if reason = compilerMessageReason then do
    let m ← required .object messageKey 0 (← payloadOf none ms)
    return .compilerMessage m
  else .ok .other

/-- The event of a list with a given reason at its head. -/
def ofReasonItems (reason : String) (js : List Json) : Decoded ToolEvent :=
  if reason = compilerMessageReason then
    match js with
    | [] => .error (.wrongLength 0
        ("struct variant ToolEvent::CompilerMessage with " ++ Json.itemCount 1))
    | j :: rest => do
      let m ← CompilerMessage.ofJson j
      if rest.isEmpty then return .compilerMessage m else surplus 1 rest
  else if js.isEmpty then .ok .other
  else surplus 0 js

def ofJson : Json → Decoded ToolEvent
  | .object ms => do
    let reason ← required .object reasonKey 0 (← reasonOf none ms)
    ofReason reason ms
  | .array [] => .error (.missingField reasonKey)
  | .array (j :: js) => do ofReasonItems (← asReason j) js
  | j => wanted j title

end ToolEvent
end BuildRunner
