import BuildRunner.Process.Outcome
import BuildRunner.Process.Output

set_option autoImplicit false

/-! # Following a process

A process is followed turn by turn until its end. In every turn the follower looks, in this
order, whether the process was killed since it looked last, for a line, and whether the process
has exited.

The end of the process ends the run, not the end of its output: somebody who was started by
the process may hold the streams open. What was written before the exit is still read, until
the streams end or a deadline has passed. If the streams end first, the exit is waited for.

The run of a process that was killed at any time is cancelled, however the process has ended.
-/

namespace BuildRunner

/-- What is known of the exit of a process. -/
inductive ExitNews where
  | running
  | exited (code : ExitCode)
  /-- The exit cannot be learnt. -/
  | lost
deriving Repr, DecidableEq

/-- What the world offers to a run in one turn. -/
structure Offer where
  /-- Whether the process has been killed. -/
  killed : Bool := false
  arrival : Arrival := .nothing
  exit : ExitNews := .running
  /-- Whether the time for reading after the exit is over. -/
  isLate : Bool := false
deriving Repr, DecidableEq

inductive RunResult where
  | outcome (o : RunOutcome)
  /-- The exit could not be learnt. -/
  | waitFailed
deriving Repr, DecidableEq

inductive Run where
  /-- Neither the process nor its output has ended; whether a kill has been noticed. -/
  | reading (killNoticed : Bool)
  /-- The output has ended. -/
  | waiting
  /-- The process has ended. -/
  | draining (code : ExitCode)
  | ended (r : RunResult)
deriving Repr, DecidableEq

namespace Run

def start : Run := .reading false

def resultOf (killed : Bool) (code : ExitCode) : RunResult :=
  .outcome (if killed then .cancelled else .exited code)

/-- The run after the output has ended, as far as the exit is known. -/
def awaitExit (killed : Bool) : ExitNews → Run
  | .running => .waiting
  | .exited code => .ended (resultOf killed code)
  | .lost => .ended .waitFailed

/-- One turn: the run after it, and the line that was delivered. -/
def turn (r : Run) (o : Offer) : Run × Option OutputLine :=
  match r with
  | .reading killNoticed =>
    if o.killed ∧ !killNoticed then (.reading true, none)
    else
      match o.arrival with
      | .line l => (r, some l)
      | .ended => (awaitExit o.killed o.exit, none)
      | .nothing =>
        -- The exit is looked at last, so that what stands ready is read before it.
        match o.exit with
        | .running => (r, none)
        | .exited code => (.draining code, none)
        | .lost => (.ended .waitFailed, none)
  | .waiting => (awaitExit o.killed o.exit, none)
  | .draining code =>
    match o.arrival with
    | .line l => (r, some l)
    | .ended => (.ended (resultOf o.killed code), none)
    -- Somebody else may hold the streams open, so silence is not their end.
    | .nothing => (if o.isLate then .ended (resultOf o.killed code) else r, none)
  | .ended _ => (r, none)

def result? : Run → Option RunResult
  | .ended r => some r
  | _ => none

/-- Whether the run reads what was written before the exit. -/
def isDraining : Run → Bool
  | .draining _ => true
  | _ => false

/-- How many microseconds output is still read after the exit. -/
def drainTime : Nat := 200000

end Run
end BuildRunner
