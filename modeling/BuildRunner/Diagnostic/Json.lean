import BuildRunner.Diagnostic.Basic
import BuildRunner.Config.Json

set_option autoImplicit false

/-! # Diagnostics as JSON

The trees of severities, positions, ranges and diagnostics, and the values that trees stand
for. All fields are required.
-/

namespace BuildRunner

open Json (Decoded Form fill surplus wanted required asText asWord word)

/-! ## Severities -/

def Severity.ofName? (s : String) : Option Severity := all.find? fun v => v.name = s

def Severity.ofJson : Json → Decoded Severity := Json.asName ofName? "Severity"

def Severity.toJson (s : Severity) : Json := .string s.name

/-! ## Positions -/

namespace Position

inductive Field where
  | line
  | column
deriving Repr, DecidableEq

def Field.all : List Field := [.line, .column]

def Field.key : Field → String
  | .line => "line"
  | .column => "column"

/-- A position of which some fields have been read. -/
structure Draft where
  line : Option UInt32 := none
  column : Option UInt32 := none

def Draft.put (d : Draft) (f : Field) (v : Json) : Decoded Draft :=
  match f with
  | .line => return { d with line := ← fill f.key d.line asWord v }
  | .column => return { d with column := ← fill f.key d.column asWord v }

def Draft.finish (form : Form) (d : Draft) : Decoded Position := do
  let line ← required form Field.line.key 0 d.line
  let column ← required form Field.column.key 1 d.column
  return ⟨line, column⟩

def record : Json.Record Field Draft Position where
  title := "struct Position"
  fields := Field.all
  key := Field.key
  empty := {}
  put := Draft.put
  finish := Draft.finish

def ofJson : Json → Decoded Position := record.ofJson

def toJson (p : Position) : Json :=
  .object [(Field.line.key, word p.line), (Field.column.key, word p.column)]

end Position

/-! ## Ranges -/

namespace Range

inductive Field where
  | start
  | stop
deriving Repr, DecidableEq

def Field.all : List Field := [.start, .stop]

def Field.key : Field → String
  | .start => "start"
  | .stop => "end"

structure Draft where
  start : Option Position := none
  stop : Option Position := none

def Draft.put (d : Draft) (f : Field) (v : Json) : Decoded Draft :=
  match f with
  | .start => return { d with start := ← fill f.key d.start Position.ofJson v }
  | .stop => return { d with stop := ← fill f.key d.stop Position.ofJson v }

def Draft.finish (form : Form) (d : Draft) : Decoded Range := do
  let start ← required form Field.start.key 0 d.start
  let stop ← required form Field.stop.key 1 d.stop
  return ⟨start, stop⟩

def record : Json.Record Field Draft Range where
  title := "struct Range"
  fields := Field.all
  key := Field.key
  empty := {}
  put := Draft.put
  finish := Draft.finish

def ofJson : Json → Decoded Range := record.ofJson

def toJson (r : Range) : Json :=
  .object [(Field.start.key, r.start.toJson), (Field.stop.key, r.stop.toJson)]

end Range

/-! ## Diagnostics -/

namespace Diagnostic

inductive Field where
  | filePath
  | range
  | message
  | severity
deriving Repr, DecidableEq

def Field.all : List Field := [.filePath, .range, .message, .severity]

def Field.key : Field → String
  | .filePath => "file_path"
  | .range => "range"
  | .message => "message"
  | .severity => "severity"

structure Draft where
  filePath : Option String := none
  range : Option Range := none
  message : Option String := none
  severity : Option Severity := none

def Draft.put (d : Draft) (f : Field) (v : Json) : Decoded Draft :=
  match f with
  | .filePath => return { d with filePath := ← fill f.key d.filePath asText v }
  | .range => return { d with range := ← fill f.key d.range Range.ofJson v }
  | .message => return { d with message := ← fill f.key d.message asText v }
  | .severity => return { d with severity := ← fill f.key d.severity Severity.ofJson v }

def Draft.finish (form : Form) (d : Draft) : Decoded Diagnostic := do
  let filePath ← required form Field.filePath.key 0 d.filePath
  let range ← required form Field.range.key 1 d.range
  let message ← required form Field.message.key 2 d.message
  let severity ← required form Field.severity.key 3 d.severity
  return ⟨filePath, range, message, severity⟩

def record : Json.Record Field Draft Diagnostic where
  title := "struct FileDiagnostic"
  fields := Field.all
  key := Field.key
  empty := {}
  put := Draft.put
  finish := Draft.finish

def ofJson : Json → Decoded Diagnostic := record.ofJson

def toJson (d : Diagnostic) : Json :=
  .object [
    (Field.filePath.key, .string d.filePath),
    (Field.range.key, d.range.toJson),
    (Field.message.key, .string d.message),
    (Field.severity.key, d.severity.toJson)]

end Diagnostic
end BuildRunner
