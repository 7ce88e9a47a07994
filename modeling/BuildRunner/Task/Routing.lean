import BuildRunner.Diagnostic.Numbering
import BuildRunner.Process.Output
import BuildRunner.Text.Blank

set_option autoImplicit false

/-! # Where lines go

A line of the standard output that starts with a brace, blanks apart, is read as an event; all
other lines are text and pass unchanged. What is published depends on the lines of the standard
output alone.
-/

namespace BuildRunner

def eventStart : Char := '\x7b'

/-- Whether a line is meant as an event. -/
def looksLikeEvent (line : String) : Bool :=
  (Blank.trimStart line.toList).head? = some eventStart

inductive Routed where
  | text (line : String)
  | diagnostics (ds : List Diagnostic)
  /-- The line looks like an event and is none. -/
  | malformed
deriving Repr, DecidableEq

/-- What a task has counted so far. -/
structure Routing where
  numbering : Numbering := {}
  /-- The diagnostics that were found. -/
  diagnostics : Nat := 0
  /-- The lines that look like events and are none. -/
  malformedLines : Nat := 0
deriving Repr, DecidableEq

namespace Routing

def routeOutput (r : Routing) (line : String) : Routed × Routing :=
  if looksLikeEvent line then
    match r.numbering.ofLine line with
    | (.ok ds, n) => (.diagnostics ds, { r with numbering := n, diagnostics := r.diagnostics + ds.length })
    | (.error _, n) => (.malformed, { r with numbering := n, malformedLines := r.malformedLines + 1 })
  else (.text line, r)

/-- What becomes of a line, and the counts after it. -/
def route (r : Routing) : OutputLine → Routed × Routing
  | .output line => r.routeOutput line
  | .error line => (.text line, r)

end Routing
end BuildRunner
