import BuildRunner.Console.Line
import BuildRunner.Notice
import BuildRunner.Sink.Memory

set_option autoImplicit false

/-! # Sinks that print

Text and notices are printed as they come. Diagnostics are either printed as they come as well,
or kept and printed with a summary at the end.
-/

namespace BuildRunner.Console

/-- What becomes of diagnostics. -/
inductive Diagnostics where
  /-- They are printed as they come. -/
  | stream
  /-- They are kept for the end. -/
  | collect
deriving Repr, DecidableEq

/-- What is printed at a call of a sink; `time` is the time at which that happens. -/
def ofCall (time : String) (mode : Diagnostics) : SinkCall → List Printed
  | .clear => []
  | .publish dir d =>
    match mode with
    | .stream => [published dir d]
    | .collect => []
  | .text line => [output line]
  | .notify n => [notice time n.text]

def collected (calls : List SinkCall) : Collected := (MemorySinks.ofCalls calls).collected

end BuildRunner.Console
