import BuildRunner.Host.Ongoing
import BuildRunner.Host.Spawn
import BuildRunner.Host.Step
import BuildRunner.Process.Run

set_option autoImplicit false

/-! # Following processes of a host

Somebody outside of a host follows a process that was launched there: what has been written is
taken from the pipes, and a run is offered what is known at the moment. While nobody can do
anything the clock goes on to the next moment at which somebody can.
-/

namespace BuildRunner.Host

/-- A process that is followed from outside. -/
structure Follower where
  child : Launched
  channels : Channels := {}
  /-- When the reading after the exit ends. -/
  deadline : Option Nat := none
deriving Repr

namespace Follower

/-- A channel after everything has been taken from its pipe. -/
def pull (c : BuildRunner.Channel) (pipe : Nat) (h : Machine) : BuildRunner.Channel × Machine :=
  match h.readPipe pipe with
  | (.bytes bs, h) => (c.feed bs, h)
  | (.nothingYet, h) => (c, h)
  | (.ended, h) | (.broken _, h) => (c.finish .clean, h)

def pullAll (f : Follower) (h : Machine) : Follower × Machine :=
  let (output, h) := pull f.channels.output f.child.output h
  let (errors, h) := pull f.channels.errors f.child.errors h
  ({ f with channels := { f.channels with output := output, errors := errors } }, h)

def exitNews (f : Follower) (h : Machine) : ExitNews :=
  match h.exitCode? f.child.id with
  | some code => .exited code
  | none => .running

def offer (f : Follower) (h : Machine) (killed : Bool) : Offer where
  killed := killed
  arrival := f.channels.next.1
  exit := f.exitNews h
  isLate := f.deadline.any (· ≤ h.clock)

/-- The follower after a run has taken a turn, from `before` to `after`. -/
def afterTurn (f : Follower) (h : Machine) (after : Run) (delivered : Bool) : Follower :=
  let f := if delivered then { f with channels := f.channels.next.2 } else f
  if after.isDraining ∧ f.deadline.isNone then { f with deadline := some (h.clock + Run.drainTime) }
  else f

end Follower

/-! ## Time -/

namespace Machine

/-- How many rounds count as one moment. -/
def roundsPerMoment : Nat := 100000

/-- How far the clock goes on when a host is still busy after all of these rounds. -/
def busyTime : Nat := 250000

/-- The host when its processes have done what they can do now, and whether they are at rest. -/
def quiet (h : Machine) : Bool × Machine :=
  match h.settle roundsPerMoment with
  | (true, h) => (true, h)
  | (false, h) => (false, h.atTime (h.clock + busyTime))

/-- The host at the next moment at which one of its processes or somebody who waits for one of
`others` can go on, if there is such a moment. -/
def later? (h : Machine) (others : List Nat) : Option Machine :=
  ((h.nextTimer?.toList ++ others).min?).map h.atTime

/-- The signal that ends a group. -/
def terminate (h : Machine) (c : Launched) : Machine := h.signalGroup .terminate c.id

end Machine

/-! ## One process -/

/-- One process that is run to its end. -/
structure Execution where
  host : Machine
  follower : Follower
  run : Run := .start
  killed : Bool := false
  /-- The lines that have been delivered, the last one first. -/
  delivered : List OutputLine := []

namespace Execution

def start (h : Machine) (s : Surroundings) (l : Launch) : Except LaunchError Execution :=
  (h.spawn s l).map fun (child, h) => { host := h, follower := { child := child } }

/-- Kills the process; only the first time counts. -/
def kill (x : Execution) : Execution :=
  if x.killed then x else { x with killed := true, host := x.host.terminate x.follower.child }

/-- Lets the host do what it can do now, and takes what was written. Whether the host is at rest
is said as well. -/
def pull (x : Execution) : Bool × Execution :=
  let (rests, h) := x.host.quiet
  let (f, h) := x.follower.pullAll h
  (rests, { x with follower := f, host := h })

/-- The execution at the next moment at which anybody can go on. -/
def later? (limit : Option Nat) (x : Execution) : Option Execution :=
  (x.host.later? (x.follower.deadline.toList ++ limit.toList)).map fun h => { x with host := h }

/-- How an execution goes on when turns are taken by `poll`. -/
def ongoing (poll : Execution → Bool × Execution) : Ongoing Execution where
  poll := poll
  pull := pull
  later? := later?
  clock := fun x => x.host.clock

/-- The next line, or nothing at the end of both streams. -/
def nextLine (x : Execution) : Option OutputLine × Execution :=
  let x := (ongoing fun x => (false, x)).reach (fun x => x.follower.channels.next.1 ≠ .nothing) x
  match x.follower.channels.next with
  | (.line l, rest) => (some l, { x with follower := { x.follower with channels := rest } })
  | _ => (none, x)

/-- Takes a turn, and kills the process when a line equals `trigger`. Whether anything came of
the turn is said as well. -/
def turn (trigger : Option String) (x : Execution) : Bool × Execution :=
  let (run, line) := x.run.turn (x.follower.offer x.host x.killed)
  let y := { x with
    run := run
    follower := x.follower.afterTurn x.host run line.isSome
    delivered := line.toList ++ x.delivered }
  (line.isSome || run ≠ x.run, if line.any fun l => some l.text = trigger then y.kill else y)

def finish (trigger : Option String) (x : Execution) : Execution :=
  (ongoing (turn trigger)).reach (fun x => x.run.result?.isSome) x

end Execution
end BuildRunner.Host
