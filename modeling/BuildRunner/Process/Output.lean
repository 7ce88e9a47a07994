import BuildRunner.Text.Line

set_option autoImplicit false

/-! # The output of a process

The lines of the two streams of a process, merged into one. Each stream keeps its order. When
both have a line the streams take turns; the merged stream has ended when both have.
-/

namespace BuildRunner

/-- A line and the stream on which it was written. -/
inductive OutputLine where
  | output (text : String)
  | error (text : String)
deriving Repr, DecidableEq

def OutputLine.text : OutputLine → String
  | .output s | .error s => s

/-- What somebody finds who asks a stream for a line. -/
inductive Arrival where
  /-- The stream is open and has no line yet. -/
  | nothing
  | line (l : OutputLine)
  /-- There will be no more lines. -/
  | ended
deriving Repr, DecidableEq

/-- One stream: the lines that have arrived and whether more can come. -/
structure Channel where
  reader : Line.Reader := {}
  isOpen : Bool := true
deriving Repr, DecidableEq

namespace Channel

def feed (c : Channel) (chunk : List UInt8) : Channel := { c with reader := c.reader.feed chunk }

def finish (c : Channel) (ending : Line.Ending) : Channel :=
  if c.isOpen then ⟨c.reader.finish ending, false⟩ else c

/-- The first line, and the channel without it. -/
def pop? (c : Channel) : Option (String × Channel) :=
  match c.reader.ready with
  | [] => none
  | l :: ls => some (l, { c with reader := { c.reader with ready := ls } })

end Channel

/-- Both streams of a process. -/
structure Channels where
  output : Channel := {}
  errors : Channel := {}
  /-- Whether the standard error is asked first. -/
  errorsFirst : Bool := false
deriving Repr, DecidableEq

namespace Channels

def popOutput? (c : Channels) : Option (OutputLine × Channels) :=
  c.output.pop?.map fun (l, rest) => (.output l, { c with output := rest, errorsFirst := true })

def popError? (c : Channels) : Option (OutputLine × Channels) :=
  c.errors.pop?.map fun (l, rest) => (.error l, { c with errors := rest, errorsFirst := false })

/-- The next line, and the streams without it. -/
def pop? (c : Channels) : Option (OutputLine × Channels) :=
  if c.errorsFirst then c.popError?.or c.popOutput? else c.popOutput?.or c.popError?

/-- What somebody finds who asks for a line, and the streams if a line is taken. -/
def next (c : Channels) : Arrival × Channels :=
  match c.pop? with
  | some (l, c) => (.line l, c)
  | none => (if c.output.isOpen ∨ c.errors.isOpen then .nothing else .ended, c)

end Channels
end BuildRunner
