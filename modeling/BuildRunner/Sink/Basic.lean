import BuildRunner.Diagnostic.Basic
import BuildRunner.Notice

set_option autoImplicit false

/-! # Sinks

Everything that a task produces goes to sinks: one for diagnostics, one for text, one for
notices. A sink knows a task only by the calls it gets, so a history of calls says all about
what a sink can hold.
-/

namespace BuildRunner

inductive SinkCall where
  /-- Diagnostics of earlier tasks are forgotten. -/
  | clear
  /-- A diagnostic whose file is seen from a working directory. -/
  | publish (directory : String) (d : Diagnostic)
  | text (line : String)
  | notify (n : Notice)
deriving Repr, DecidableEq

/-- Which calls break down, after they have been made, seen with the calls before them, the last
one first. -/
abbrev Breakdown := List SinkCall → SinkCall → Bool

def Breakdown.never : Breakdown := fun _ _ => false

def Breakdown.onText (line : String) : Breakdown := fun _ call => call = .text line

end BuildRunner
