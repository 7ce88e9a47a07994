import BuildRunner.Proofs.Coordinator.Published
import BuildRunner.Proofs.Diagnostic.Sorting
import BuildRunner.Session.Basic

set_option autoImplicit false

/-! # Two ways to show diagnostics

A session prints diagnostics as they come and their number when a task has ended, or it collects
them and prints them with a summary at the end. Both show the same diagnostics of a task: those
that are found in its standard output. The first shows them in the order in which they were found,
the second sorted by path.
-/

namespace BuildRunner

open Collected (Entry Filed)
open Coordinator (Action run new ledger flights)

/-! ## Lines with diagnostics -/

namespace Console

/-- The line that shows a diagnostic. -/
def line (a : Filed) : Printed := diagnostic a.1 a.2

end Console

/-! ## Two sessions -/

end BuildRunner
