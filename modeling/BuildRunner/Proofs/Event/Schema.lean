import BuildRunner.Proofs.Event.Fields
import BuildRunner.Proofs.Event.Record

set_option autoImplicit false

/-! # The schema of events

The records of an event, the fields of each and what every field contains, as data. `Content.decode`
reads what a field contains; it is made of the decoders of events. `Part.decode_object` says for all
records at once which value an object stands for, so that what holds of all fields need not be said
of one after another.
-/

namespace BuildRunner

open Json (Decoded Record Given asText asBool asWord asList asOption)
open CompilerMessage (valuesOf asCode)

/-! ## Records and contents -/

/-- The records of an event, among them the object form of an error code. -/
inductive Part where
  | message
  | span
  | expansion
  | text
  | child
  | code
deriving Repr, DecidableEq

inductive Content where
  | text
  | word
  | flag
  /-- A text or null, where the empty text stands for null. -/
  | label
  | record (part : Part)
  | nullable (content : Content)
  | list (content : Content)
deriving Repr, DecidableEq

namespace Part

def Field : Part → Type
  | .message => CompilerMessage.Field
  | .span => Span.Field
  | .expansion => Expansion.Field
  | .text => SpanText.Field
  | .child => Child.Field
  | .code => Unit

def key : (p : Part) → p.Field → String
  | .message => CompilerMessage.Field.key
  | .span => Span.Field.key
  | .expansion => Expansion.Field.key
  | .text => SpanText.Field.key
  | .child => Child.Field.key
  | .code => fun _ => "code"

def content : (p : Part) → p.Field → Content
  | .message, .level => .text
  | .message, .message => .text
  | .message, .code => .nullable (.record .code)
  | .message, .spans => .list (.record .span)
  | .message, .children => .list (.record .child)
  | .span, .fileName => .text
  | .span, .byteStart => .word
  | .span, .byteEnd => .word
  | .span, .lineStart => .word
  | .span, .lineEnd => .word
  | .span, .columnStart => .word
  | .span, .columnEnd => .word
  | .span, .isPrimary => .flag
  | .span, .label => .label
  | .span, .expansion => .nullable (.record .expansion)
  | .span, .text => .list (.record .text)
  | .expansion, .span => .record .span
  | .expansion, .macroName => .text
  | .expansion, .definition => .nullable (.record .span)
  | .text, .text => .text
  | .text, .highlightStart => .word
  | .text, .highlightEnd => .word
  | .child, .level => .text
  | .child, .message => .text
  | .child, .children => .list (.record .child)
  | .code, _ => .text

def Value : Part → Type
  | .message => CompilerMessage
  | .span => Span
  | .expansion => Expansion Span
  | .text => SpanText
  | .child => Child
  | .code => String

def decode : (p : Part) → Json → Decoded p.Value
  | .message => CompilerMessage.ofJson
  | .span => Span.ofJson
  | .expansion => Expansion.ofJson
  | .text => SpanText.ofJson
  | .child => Child.ofJson
  | .code => asCode

end Part

namespace Content

def Value : Content → Type
  | .text => String
  | .word => UInt32
  | .flag => Bool
  | .label => Option String
  | .record p => p.Value
  | .nullable c => Option c.Value
  | .list c => List c.Value

def decode : (c : Content) → Json → Decoded c.Value
  | .text => asText
  | .word => asWord
  | .flag => asBool
  | .label => Span.asLabel
  | .record p => p.decode
  | .nullable c => asOption c.decode
  | .list c => asList c.decode

/-- The value of a field that is missing, for contents that have one. -/
def default? : (c : Content) → Option c.Value
  | .text => some ""
  | .word => some (0 : UInt32)
  | .flag => some false
  | .label => some none
  | .record _ => none
  | .nullable _ => some none
  | .list _ => some []

end Content

namespace Part

def default? : (p : Part) → (f : p.Field) → Option (p.content f).Value
  | .code, _ => none
  | p, f => (p.content f).default?

/-- The keys without which no object stands for a value. -/
def requiredKeys : Part → List String
  | .expansion => ["span"]
  | .code => ["code"]
  | _ => []

theorem mem_requiredKeys {p : Part} {f : p.Field} :
    p.key f ∈ p.requiredKeys ↔ p.default? f = none := by
  cases p <;> cases f <;> simp [key, requiredKeys, default?, content, Content.default?,
    Expansion.Field.key]

def make : (p : Part) → (∀ f, (p.content f).Value) → p.Value
  | .message, b =>
    CompilerMessage.mk (b .level) (b .message) (b .code) (b .spans) (b .children)
  | .span, b =>
    Span.mk (b .fileName) (b .byteStart) (b .byteEnd) (b .lineStart) (b .lineEnd) (b .columnStart)
      (b .columnEnd) (b .isPrimary) (b .label) (b .expansion) (b .text)
  | .expansion, b => Expansion.mk (b .span) (b .macroName) (b .definition)
  | .text, b => SpanText.mk (b .text) (b .highlightStart) (b .highlightEnd)
  | .child, b => Child.mk (b .level) (b .message) (b .children)
  | .code, b => b ()

/-- All fields have a default but for those of expansions and error codes. -/
theorem isSome_default? (p : Part) (h : p ≠ .expansion) (h' : p ≠ .code) (f : p.Field) :
    (p.default? f).isSome := by
  cases p with
  | expansion => exact absurd rfl h
  | code => exact absurd rfl h'
  | _ => cases f <;> rfl

end Part

/-! ## Slots -/

theorem Expansion.Draft.finish_eq_ok {d : Expansion.Draft} {e : Expansion Span} :
    d.finish .object = .ok e ↔
      ∃ s, d.span = some s ∧ ⟨s, d.macroName.getD "", d.definition.getD none⟩ = e := by
  rw [Expansion.Draft.finish, Json.bind_eq_ok]
  simp only [Json.required_eq_ok, Json.pure_eq_ok]

namespace Part

/-- How the drafts of a record keep the fields of a part. -/
abbrev Drafts (p : Part) {δ : Type} (r : Record p.Field δ p.Value) : Type :=
  r.Slots (fun f => (p.content f).decode) p.default? p.make

def messageDrafts : Drafts .message CompilerMessage.record where
  get d
    | .level => d.level
    | .message => d.message
    | .code => d.code
    | .spans => d.spans
    | .children => d.children
  set d
    | .level, b => { d with level := some b }
    | .message, b => { d with message := some b }
    | .code, b => { d with code := some b }
    | .spans, b => { d with spans := some b }
    | .children, b => { d with children := some b }
  keyed f := by cases f <;> rfl
  get_empty f := by cases f <;> rfl
  get_set_self d f b := by cases f <;> rfl
  get_set_of_ne d f b g h := by cases f <;> cases g <;> first | rfl | exact absurd rfl h
  put_iff d f v d' := by
    cases f with
    | children =>
        show CompilerMessage.Draft.put d .children v = .ok d' ↔ _
        rw [CompilerMessage.Draft.put, funext Child.listOfJson_eq]
        exact Json.put_eq_ok
    | _ => exact Json.put_eq_ok
  finish_iff d := Record.finish_of_defaults (isSome_default? .message (by decide) (by decide)) rfl

def spanDrafts : Drafts .span Span.record where
  get d
    | .fileName => d.fileName
    | .byteStart => d.byteStart
    | .byteEnd => d.byteEnd
    | .lineStart => d.lineStart
    | .lineEnd => d.lineEnd
    | .columnStart => d.columnStart
    | .columnEnd => d.columnEnd
    | .isPrimary => d.isPrimary
    | .label => d.label
    | .expansion => d.expansion
    | .text => d.text
  set d
    | .fileName, b => { d with fileName := some b }
    | .byteStart, b => { d with byteStart := some b }
    | .byteEnd, b => { d with byteEnd := some b }
    | .lineStart, b => { d with lineStart := some b }
    | .lineEnd, b => { d with lineEnd := some b }
    | .columnStart, b => { d with columnStart := some b }
    | .columnEnd, b => { d with columnEnd := some b }
    | .isPrimary, b => { d with isPrimary := some b }
    | .label, b => { d with label := some b }
    | .expansion, b => { d with expansion := some b }
    | .text, b => { d with text := some b }
  keyed f := by cases f <;> rfl
  get_empty f := by cases f <;> rfl
  get_set_self d f b := by cases f <;> rfl
  get_set_of_ne d f b g h := by cases f <;> cases g <;> first | rfl | exact absurd rfl h
  put_iff d f v d' := by
    cases f with
    | expansion =>
        have read : Expansion.ofJson? = asOption Expansion.ofJson := by
          funext j
          rw [Expansion.ofJson?_eq, funext Expansion.ofJson_eq]
        show (Json.fill _ _ Expansion.ofJson? v >>= _) = .ok d' ↔ _
        rw [read]
        exact Json.put_eq_ok
    | _ => exact Json.put_eq_ok
  finish_iff d := Record.finish_of_defaults (isSome_default? .span (by decide) (by decide)) rfl

def expansionDrafts : Drafts .expansion Expansion.record where
  get d
    | .span => d.span
    | .macroName => d.macroName
    | .definition => d.definition
  set d
    | .span, b => { d with span := some b }
    | .macroName, b => { d with macroName := some b }
    | .definition, b => { d with definition := some b }
  keyed f := by cases f <;> rfl
  get_empty f := by cases f <;> rfl
  get_set_self d f b := by cases f <;> rfl
  get_set_of_ne d f b g h := by cases f <;> cases g <;> first | rfl | exact absurd rfl h
  put_iff d f v d' := by cases f <;> exact Json.put_eq_ok
  finish_iff d e := by
    refine Expansion.Draft.finish_eq_ok.trans ⟨?_, ?_⟩
    · rintro ⟨s, hs, rfl⟩
      refine ⟨fun
        | .span => s
        | .macroName => d.macroName.getD ""
        | .definition => d.definition.getD none, fun f => ?_, rfl⟩
      cases f with
      | span => exact congrArg (Option.or · none) hs
      | macroName => cases d.macroName <;> rfl
      | definition => cases d.definition <;> rfl
    · rintro ⟨b, hb, rfl⟩
      have span : d.span = some (b .span) := Option.or_none.symm.trans (hb .span)
      have macroName : d.macroName.getD "" = b .macroName :=
        Option.some.inj (Option.or_some.symm.trans (hb .macroName))
      have definition : d.definition.getD none = b .definition :=
        Option.some.inj (Option.or_some.symm.trans (hb .definition))
      exact ⟨b .span, span, by rw [macroName, definition]; rfl⟩

def textDrafts : Drafts .text SpanText.record where
  get d
    | .text => d.text
    | .highlightStart => d.highlightStart
    | .highlightEnd => d.highlightEnd
  set d
    | .text, b => { d with text := some b }
    | .highlightStart, b => { d with highlightStart := some b }
    | .highlightEnd, b => { d with highlightEnd := some b }
  keyed f := by cases f <;> rfl
  get_empty f := by cases f <;> rfl
  get_set_self d f b := by cases f <;> rfl
  get_set_of_ne d f b g h := by cases f <;> cases g <;> first | rfl | exact absurd rfl h
  put_iff d f v d' := by cases f <;> exact Json.put_eq_ok
  finish_iff d := Record.finish_of_defaults (isSome_default? .text (by decide) (by decide)) rfl

def childDrafts : Drafts .child Child.record where
  get d
    | .level => d.level
    | .message => d.message
    | .children => d.children
  set d
    | .level, b => { d with level := some b }
    | .message, b => { d with message := some b }
    | .children, b => { d with children := some b }
  keyed f := by cases f <;> rfl
  get_empty f := by cases f <;> rfl
  get_set_self d f b := by cases f <;> rfl
  get_set_of_ne d f b g h := by cases f <;> cases g <;> first | rfl | exact absurd rfl h
  put_iff d f v d' := by cases f <;> exact Json.put_eq_ok
  finish_iff d := Record.finish_of_defaults (isSome_default? .child (by decide) (by decide)) rfl

/-! ## Objects -/

/-- An error code in its object form is the only value of its key. -/
theorem code_object {ms : List (String × Json)} {s : String} :
    asCode (.object ms) = .ok s ↔ valuesOf "code" ms = [.string s] := by
  rw [asCode]
  split
  · rename_i t only
    simp [only]
  · rename_i other
    refine ⟨nofun, fun only => absurd only (other s)⟩

/-- **Which value an object stands for**, whatever record it is. -/
theorem decode_object (p : Part) {ms : List (String × Json)} {a : p.Value} :
    p.decode (.object ms) = .ok a ↔
      ∃ b, (∀ f, Given (p.content f).decode (p.default? f) (valuesOf (p.key f) ms) (b f)) ∧
        p.make b = a := by
  cases p with
  | message => exact messageDrafts.ofJson_object
  | span =>
      have read : Part.decode .span (.object ms) = Span.record.ofJson (.object ms) :=
        Span.ofJson_eq _
      exact read ▸ spanDrafts.ofJson_object
  | expansion =>
      have read : Part.decode .expansion (.object ms) = Expansion.record.ofJson (.object ms) :=
        Expansion.ofJson_eq _
      exact read ▸ expansionDrafts.ofJson_object
  | text => exact textDrafts.ofJson_object
  | child =>
      have read : Part.decode .child (.object ms) = Child.record.ofJson (.object ms) :=
        Child.ofJson_eq _
      exact read ▸ childDrafts.ofJson_object
  | code =>
      refine Iff.trans code_object ⟨fun only => ⟨fun _ => a, fun _ => ?_, rfl⟩, ?_⟩
      · exact Json.given_none.mpr ⟨_, only, rfl⟩
      · rintro ⟨b, given, rfl⟩
        obtain ⟨v, only, read⟩ := Json.given_none.mp (given ())
        exact Json.asText_eq_ok.mp read ▸ only

theorem key_inj (p : Part) {f g : p.Field} (h : p.key f = p.key g) : f = g := by
  cases p with
  | message => exact messageDrafts.key_inj h
  | span => exact spanDrafts.key_inj h
  | expansion => exact expansionDrafts.key_inj h
  | text => exact textDrafts.key_inj h
  | child => exact childDrafts.key_inj h
  | code => rfl

end Part

/-! ## Events -/

namespace ToolEvent

theorem asReason_eq_ok {j : Json} {s : String} : asReason j = .ok s ↔ j = .string s := by
  cases j <;> simp [asReason, Json.wanted]

theorem reasonOf_eq (found : Option String) (ms : List (String × Json)) :
    reasonOf found ms = Json.fillAll reasonKey asReason found (valuesOf reasonKey ms) :=
  Json.fillAll_unique (fun _ => rfl) (fun _ _ _ _ => rfl) found ms

theorem payloadOf_eq (found : Option CompilerMessage) (ms : List (String × Json)) :
    payloadOf found ms =
      Json.fillAll messageKey CompilerMessage.ofJson found (valuesOf messageKey ms) :=
  Json.fillAll_unique (fun _ => rfl) (fun _ _ _ _ => rfl) found ms

/-- The event of an object with a given reason. -/
theorem ofReason_eq_ok {reason : String} {ms : List (String × Json)} {e : ToolEvent} :
    ofReason reason ms = .ok e ↔
      if reason = compilerMessageReason then
        ∃ v m, valuesOf messageKey ms = [v] ∧ CompilerMessage.ofJson v = .ok m ∧
          .compilerMessage m = e
      else .other = e := by
  rw [ofReason]
  split
  · simp only [payloadOf_eq, ← bind_assoc, Json.bind_eq_ok (b := e), Json.required_fillAll,
      Json.pure_eq_ok]
    constructor
    · rintro ⟨m, ⟨v, only, read⟩, rfl⟩
      exact ⟨v, m, only, read, rfl⟩
    · rintro ⟨v, m, only, read, rfl⟩
      exact ⟨m, ⟨v, only, read⟩, rfl⟩
  · rw [Except.ok.injEq]

/-- **Which event an object stands for** depends on the values of its reason, and for a compiler
message on those of its payload. -/
theorem ofJson_object {ms : List (String × Json)} {e : ToolEvent} :
    ofJson (.object ms) = .ok e ↔
      ∃ reason, valuesOf reasonKey ms = [.string reason] ∧ ofReason reason ms = .ok e := by
  rw [ofJson, reasonOf_eq, ← bind_assoc, Json.bind_eq_ok]
  simp only [Json.required_fillAll, asReason_eq_ok]
  constructor
  · rintro ⟨reason, ⟨v, only, rfl⟩, h⟩
    exact ⟨reason, only, h⟩
  · rintro ⟨reason, only, h⟩
    exact ⟨reason, ⟨_, only, rfl⟩, h⟩

end ToolEvent
end BuildRunner
