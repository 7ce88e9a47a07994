set_option autoImplicit false

/-! # The state of a single flight

At most one task runs. A request that arrives meanwhile is dropped unless it is forced, in
which case the running task has to make way first. A task leaves the state only under its own
number, so a late call for an older task changes nothing.

The line to a task is held by everybody who has a handle on it: whether it was killed, and
whether its end has been signalled. It is kept apart from the state, and nothing that happens
to it changes the state.
-/

namespace BuildRunner

abbrev TaskId := UInt64

structure TaskHandle where
  id : TaskId
  commandLine : String
  /-- Which line leads to the task. Numbers of tasks may be used again, lines are not. -/
  line : Nat
deriving Repr, DecidableEq

/-- What is done with a request. -/
inductive Decision where
  /-- Nothing is running: the task is started. -/
  | start
  /-- A task is running and the request is not forced. -/
  | drop
  /-- This task has to end, then the request is decided again. -/
  | preempt (running : TaskHandle)
deriving Repr, DecidableEq

/-- The task that is running, if any. -/
inductive TaskState where
  | idle
  | running (handle : TaskHandle)
deriving Repr, DecidableEq

namespace TaskState

def current? : TaskState → Option TaskHandle
  | .idle => none
  | .running h => some h

def isRunning (s : TaskState) : Bool := s.current?.isSome

def decide (s : TaskState) (force : Bool) : Decision :=
  match s with
  | .idle => .start
  | .running h => if force then .preempt h else .drop

/-- Whether `id` is running. -/
def isCurrent (s : TaskState) (id : TaskId) : Bool := s.current?.any (·.id = id)

/-- The state after `id` has ended: idle if it was running, else as it was. -/
def finish (s : TaskState) (id : TaskId) : TaskState := if s.isCurrent id then .idle else s

end TaskState

/-- What is shared by all who hold a handle on one task. -/
structure TaskLine where
  /-- Somebody has killed the task. -/
  killed : Bool := false
  /-- The last value sent by the task's driver: whether the task has ended. -/
  done : Bool := false
  /-- The driver can still send. -/
  held : Bool := true
deriving Repr, DecidableEq

namespace TaskLine

def kill (l : TaskLine) : TaskLine := { l with killed := true }

/-- Sends a value, if the driver still can. -/
def send (l : TaskLine) (value : Bool) : TaskLine := if l.held then { l with done := value } else l

/-- Gives up the sending end. -/
def release (l : TaskLine) : TaskLine := { l with held := false }

/-- Whether somebody who waits for the end goes on: it was signalled, or nobody is left to do so. -/
def isOver (l : TaskLine) : Bool := l.done || !l.held

end TaskLine
end BuildRunner
