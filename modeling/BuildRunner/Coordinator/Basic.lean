import BuildRunner.Process.Launch
import BuildRunner.Process.Run
import BuildRunner.Sink.Basic
import BuildRunner.Task.Report
import BuildRunner.Task.Request
import BuildRunner.Task.Routing

set_option autoImplicit false

/-! # The coordinator

The coordinator runs one task at a time for any number of callers. A task has a driver that
follows its process, hands what it finds to the sinks, and leaves the state when the process has
ended. Callers and drivers are independent of one another: each is at some stage, and any of
them may take the next step.

What an outsider decides is part of the action: whether a process can be launched, whether a
signal can be delivered, and what a run is offered.
-/

namespace BuildRunner

/-! ## Tasks -/

/-- What becomes of a ticket. -/
inductive TicketResult where
  | report (r : TaskReport)
  | failed (e : TaskError)
deriving Repr

inductive Driver where
  /-- It follows the process. -/
  | following (run : Run)
  /-- It publishes the diagnostics of a line. -/
  | publishing (run : Run) (left : List Diagnostic)
  /-- The process has exited: it writes the closing lines. -/
  | closing (left : List String) (outcome : TaskOutcome)
  /-- A sink has broken down: it kills the process. -/
  | abandoning
  /-- It leaves the state. -/
  | finishing (r : TicketResult)
  /-- It signals the end. -/
  | signalling (r : TicketResult)
  /-- It gives up its end of the line and hands over the result. -/
  | releasing (r : TicketResult)
  | done (r : TicketResult)
  /-- It has gone without leaving the state. -/
  | vanished
deriving Repr

namespace Driver

/-- Whether a driver waits for the process, or is gone. -/
def rests : Driver → Bool
  | .following _ | .done _ | .vanished => true
  | _ => false

/-- A bound on the steps of a driver up to its next rest. -/
def bound : Driver → Nat
  | .publishing _ ds => ds.length + 6
  | .closing ss _ => ss.length + 6
  | _ => 6

end Driver

/-- A task that was started. -/
structure Task where
  handle : TaskHandle
  line : TaskLine := {}
  /-- How often the process and its group were asked to end. -/
  signals : Nat := 0
  directory : String
  routing : Routing := {}
  driver : Driver := .following .start
deriving Repr

namespace Task

def id (t : Task) : TaskId := t.handle.id

/-- Kills a task; only the first time counts. -/
def kill (t : Task) : Task :=
  if t.line.killed then t else { t with line := t.line.kill, signals := t.signals + 1 }

def report (t : Task) (outcome : TaskOutcome) : TaskReport where
  id := t.id
  commandLine := t.handle.commandLine
  outcome := outcome
  diagnostics := t.routing.diagnostics
  malformedLines := t.routing.malformedLines

def result? (t : Task) : Option TicketResult :=
  match t.driver with
  | .done r => some r
  | _ => none

end Task

/-! ## Callers -/

/-- What a caller wants. -/
inductive Demand where
  | invoke (r : TaskRequest)
  | stop
  /-- A check of a target; without one, of the target in the settings. -/
  | check (directory : String) (target : Option CheckTarget) (force : Bool)
  /-- Whether the tool has a `check`. -/
  | support (directory : String)
deriving Repr, DecidableEq

/-- What a caller is told. -/
inductive Answer where
  /-- A task was started: its number and its line. -/
  | started (id : TaskId) (line : Nat)
  | dropped
  | failed (e : LaunchError)
  /-- Whether there was a task to stop. -/
  | stopped (any : Bool)
  | support (s : CheckSupport)
  /-- A sink has broken down. -/
  | broken
deriving Repr, DecidableEq

/-- Why a caller looks at the state. -/
inductive Purpose where
  | invoke (r : TaskRequest)
  | stop
deriving Repr, DecidableEq

/-- What a caller does when it knows whether the tool has a `check`. -/
inductive AfterProbe where
  | tell
  | check (target : Option CheckTarget) (force : Bool)
deriving Repr, DecidableEq

/-- What a caller does next that starts a task. -/
inductive Starting where
  /-- It says what is started. -/
  | announcing
  /-- It launches the process. -/
  | launching
  /-- It tells the user that nothing could be launched. -/
  | notifying (e : LaunchError)
deriving Repr, DecidableEq

inductive Stage where
  /-- It wants to know whether the tool has a `check`. -/
  | probing (directory : String) (next : AfterProbe)
  /-- It looks at the state. -/
  | deciding (p : Purpose)
  /-- It has found the state idle, and keeps the lock on it while it starts a task. -/
  | starting (r : TaskRequest) (next : Starting)
  /-- It kills the task that was running. -/
  | killing (p : Purpose) (running : TaskHandle)
  /-- It waits for the end of that task. -/
  | awaiting (p : Purpose) (running : TaskHandle)
  /-- That task is over: it takes it out of the state if it is still there. -/
  | clearing (p : Purpose) (running : TaskHandle)
  | answered (a : Answer)
  /-- It could not signal that task: its call has failed for a reason. -/
  | unsignalled (reason : String)
deriving Repr, DecidableEq

structure Caller where
  stage : Stage
  /-- The tasks it has killed, the last one first. -/
  killed : List TaskId := []
deriving Repr, DecidableEq

def Demand.stage : Demand → Stage
  | .invoke r => .deciding (.invoke r)
  | .stop => .deciding .stop
  | .check dir target force => .probing dir (.check target force)
  | .support dir => .probing dir .tell

/-! ## The coordinator -/

/-- What is known about the tool's `check`. -/
inductive Probe where
  | unasked
  | running (run : Run)
  | settled (s : CheckSupport)
deriving Repr, DecidableEq

def Probe.isRunning : Probe → Bool
  | .running _ => true
  | _ => false

/-- The part of the settings that a coordinator needs. -/
structure Tool where
  program : String
  assignments : Environment := []
  checkTarget : CheckTarget := .all
deriving Repr, DecidableEq

namespace Tool

def ofConfig (c : Config) : Tool := ⟨c.toolPath, c.environment, c.checkTarget⟩

def launchFor (t : Tool) (r : TaskRequest) : Launch where
  program := t.program
  command := r.command
  args := augment r.command r.args
  workingDirectory := r.workingDirectory
  assignments := t.assignments

def announcement (t : Tool) (r : TaskRequest) : String := "Started " ++ (t.launchFor r).commandLine

/-- The launch that finds out whether there is a `check`. -/
def probeIn (t : Tool) (directory : String) : Launch where
  program := t.program
  command := "check"
  args := ["--help"]
  workingDirectory := directory
  assignments := t.assignments

def checkRequest (t : Tool) (s : CheckSupport) (directory : String) (target : Option CheckTarget)
    (force : Bool) : TaskRequest :=
  let (command, args) := s.commandFor (target.getD t.checkTarget)
  { command := command, args := args, workingDirectory := directory, force := force }

end Tool

structure Coordinator where
  tool : Tool
  state : TaskState := .idle
  /-- The caller that holds the lock on the state. -/
  lock : Option Nat := none
  nextId : TaskId := 1
  probe : Probe := .unasked
  /-- How many probes were launched. -/
  probes : Nat := 0
  /-- All tasks that were started, by their lines. -/
  tasks : List Task := []
  /-- All callers there have been. -/
  callers : List Caller := []
  /-- The calls of sinks, the last one first. -/
  calls : List SinkCall := []
deriving Repr

namespace Coordinator

def new (tool : Tool) : Coordinator := { tool := tool }

/-- The calls of sinks in their order. -/
def history (c : Coordinator) : List SinkCall := c.calls.reverse

/-- Whether somebody holds the lock on the state. -/
def isLocked (c : Coordinator) : Bool := c.lock.isSome

def onTask (c : Coordinator) (line : Nat) (f : Task → Task) : Coordinator :=
  { c with tasks := c.tasks.modify line f }

def stage? (c : Coordinator) (caller : Nat) : Option Stage := (c.callers[caller]?).map (·.stage)

def setStage (c : Coordinator) (caller : Nat) (s : Stage) : Coordinator :=
  { c with callers := c.callers.modify caller fun k => { k with stage := s } }

/-- Whether the end of the task with a line is known. -/
def isOver (c : Coordinator) (line : Nat) : Bool := (c.tasks[line]?).any (·.line.isOver)

def wasKilled (c : Coordinator) (line : Nat) : Bool := (c.tasks[line]?).any (·.line.killed)

/-- Makes a call of a sink; whether the sink breaks down is said as well. -/
def emit (c : Coordinator) (b : Breakdown) (call : SinkCall) : Bool × Coordinator :=
  (b c.calls call, { c with calls := call :: c.calls })

end Coordinator
end BuildRunner
