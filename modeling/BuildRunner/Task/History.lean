import BuildRunner.Task.State

set_option autoImplicit false

/-! # Histories of the state

A state together with the handles of all tasks that were ever begun, newest first, and the line
to each. A history is told by the operations on the state and on the lines, of which some are
answered. Most tasks are begun with a line of their own.
-/

namespace BuildRunner

/-- A state and everything that was begun. -/
structure TaskHistory where
  state : TaskState := .idle
  /-- The tasks that were begun, newest first, each with its line. -/
  begun : List (TaskHandle × TaskLine) := []
deriving Repr, DecidableEq

namespace TaskHistory

/-- What can happen to a state and to the lines of its tasks. -/
inductive Operation where
  | begin (id : TaskId) (commandLine : String)
  /-- A task is begun with a handle that was there before. -/
  | beginAgain (handle : TaskHandle)
  | finish (id : TaskId)
  /-- A request is decided. -/
  | decide (force : Bool)
  | kill (line : Nat)
  | send (line : Nat) (value : Bool)
  | release (line : Nat)
deriving Repr, DecidableEq

inductive Answer where
  | nothing
  /-- Whether the task that has ended was running. -/
  | ended (wasRunning : Bool)
  | decided (decision : Decision)
deriving Repr, DecidableEq

/-- The handle of a task that is begun next. -/
def handle (t : TaskHistory) (id : TaskId) (commandLine : String) : TaskHandle :=
  ⟨id, commandLine, t.begun.length⟩

def onLine (t : TaskHistory) (line : Nat) (f : TaskLine → TaskLine) : TaskHistory :=
  { t with begun := t.begun.map fun b => if b.1.line = line then (b.1, f b.2) else b }

def apply (t : TaskHistory) : Operation → TaskHistory
  | .begin id commandLine =>
    let h := t.handle id commandLine
    ⟨.running h, (h, {}) :: t.begun⟩
  | .beginAgain h => { t with state := .running h }
  | .finish id => { t with state := t.state.finish id }
  | .decide _ => t
  | .kill line => t.onLine line TaskLine.kill
  | .send line value => t.onLine line fun l => l.send value
  | .release line => t.onLine line TaskLine.release

def answer (t : TaskHistory) : Operation → Answer
  | .finish id => .ended (t.state.isCurrent id)
  | .decide force => .decided (t.state.decide force)
  | _ => .nothing

def run (t : TaskHistory) (ops : List Operation) : TaskHistory := ops.foldl apply t

/-- The newest task with a number, and its line. -/
def newest? (t : TaskHistory) (id : TaskId) : Option (TaskHandle × TaskLine) :=
  t.begun.find? fun b => b.1.id = id

end TaskHistory
end BuildRunner
