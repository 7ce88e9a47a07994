import BuildRunner.Number.Elapsed
import BuildRunner.Process.Outcome
import BuildRunner.Task.State

set_option autoImplicit false

/-! # Reports

What is known about a task when it has ended.
-/

namespace BuildRunner

inductive TaskOutcome where
  /-- By itself, after some time. -/
  | exited (code : ExitCode) (elapsed : Elapsed)
  /-- It was killed. -/
  | cancelled
deriving Repr

structure TaskReport where
  id : TaskId
  commandLine : String
  outcome : TaskOutcome
  /-- The number of diagnostics that were published. -/
  diagnostics : Nat := 0
  /-- The number of lines that looked like events and were none. -/
  malformedLines : Nat := 0
deriving Repr

namespace TaskReport

/-- Whether the task was killed. -/
def isCancelled (r : TaskReport) : Bool :=
  match r.outcome with
  | .cancelled => true
  | .exited .. => false

/-- The status with which the task exited, if it did. -/
def exitCode (r : TaskReport) : ExitCode :=
  match r.outcome with
  | .cancelled => none
  | .exited code _ => code

/-- The lines that close the text of a task that ended by itself. -/
def closingLines (code : ExitCode) (elapsed : Elapsed) : List String :=
  [match code with
   | some c => "Completed with code " ++ toString c
   | none => "Completed: terminated by signal",
   "Finished in " ++ elapsed.text]

end TaskReport

/-- Why a ticket was not followed by a report. -/
inductive TaskError where
  /-- The tool could not be launched. -/
  | launch (reason : LaunchError)
  /-- The exit of the process could not be learnt. -/
  | wait
  /-- What drove the task broke down. -/
  | join
deriving Repr, DecidableEq

def TaskError.message : TaskError → String
  | .launch reason => "Failed to launch build tool: " ++ reason.message
  | .wait => "Failed to wait for process"
  | .join => "Task join error"

end BuildRunner
