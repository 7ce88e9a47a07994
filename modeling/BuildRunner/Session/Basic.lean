import BuildRunner.CommandLine
import BuildRunner.Console.Sinks
import BuildRunner.Coordinator.Step
import BuildRunner.Session.Typed

set_option autoImplicit false

/-! # Sessions

A session serves one person with one coordinator. Either it runs a single task and reports it,
or it reads one command after another and runs what they ask for. A session reacts to what the
person does and to what its callers of the coordinator are told.
-/

namespace BuildRunner

namespace Session

/-! ## Exit statuses -/

def success : Nat := 0

/-- The status of a failure that has no status of its own. -/
def failure : Nat := 1

/-- The status of a session that cannot begin. -/
def misuse : Nat := 2

/-- The status of a session that a person has interrupted. -/
def interrupted : Nat := 130

def statusOf : ExitCode → Nat
  | some n => if 0 ≤ n ∧ n ≤ 255 then n.toNat else failure
  | none => failure

def status : TicketResult → Nat
  | .failed _ => failure
  | .report r =>
    match r.outcome with
    | .cancelled => failure
    | .exited code _ => statusOf code

/-! ## Stages -/

inductive Stage where
  /-- The only task is being started by a caller. -/
  | starting (caller : Nat)
  /-- The only task is running. -/
  | running (line : Nat)
  /-- The only task was interrupted and is being stopped by a caller. -/
  | interrupting (caller : Nat)
  /-- A command is awaited. -/
  | reading
  /-- A command is being carried out by a caller. -/
  | obeying (caller : Nat)
  /-- The running task is being stopped by a caller; commands follow. -/
  | stopping (caller : Nat)
  /-- The running task is being stopped by a caller; nothing follows. -/
  | leaving (caller : Nat)
  | finished (status : Nat)
deriving Repr, DecidableEq

inductive Event where
  /-- The next line. -/
  | line (text : String)
  /-- There are no more lines. -/
  | ended
  /-- The next line cannot be read. -/
  | unreadable (reason : String)
  | interrupt
deriving Repr, DecidableEq

/-- Whether an interrupt ends the whole program, as nothing has ever listened for one. -/
def Stage.isExposed : Stage → Bool
  | .starting _ => true
  | _ => false

/-- What a session does: its next stage, what it demands, and what it prints. -/
structure Reaction where
  stage : Stage
  demand : Option Demand := none
  printed : List Console.Printed := []
deriving Repr

/-! ## Single tasks -/

def demandOf (dir : String) : CommandLine.Work → Option Demand
  | .task command args =>
    some (.invoke { command := command, args := args, workingDirectory := dir })
  | .check library => some (.check dir (if library then some .library else none) false)
  | .interactive => none

/-- What is printed for the result of the only task: an error, or the diagnostics unless the task
was cancelled. -/
def resultLines (calls : List SinkCall) : TicketResult → List Console.Printed
  | .failed e => [Console.error e.message]
  | .report r => if r.isCancelled then [] else Console.report (Console.collected calls)

/-! ## Commands -/

/-- What a person is told whose command was dropped. -/
def droppedNotice : String := "A task is already running; prefix with \x60!\x60 to restart it"

/-- What a typed line makes a session do; `caller` is the number of its next caller. -/
def obey (dir : String) (caller : Nat) (t : Typed) : Reaction :=
  if t.command = "quit" ∨ t.command = "exit" then ⟨.leaving caller, some .stop, []⟩
  else if t.command = "stop" then ⟨.stopping caller, some .stop, []⟩
  else if t.command = "check" then ⟨.obeying caller, some (.check dir none t.force), []⟩
  else
    ⟨.obeying caller, some (.invoke {
      command := t.command
      args := t.args
      workingDirectory := dir
      force := t.force }), []⟩

/-- What an event makes a session do that awaits a command. -/
def read (dir : String) (caller : Nat) : Event → Reaction
  | .line text =>
    match Typed.parse text with
    | none => ⟨.reading, none, []⟩
    | some t => obey dir caller t
  | .ended => ⟨.leaving caller, some .stop, []⟩
  | .unreadable reason => ⟨.leaving caller, some .stop, [Console.error reason]⟩
  | .interrupt => ⟨.stopping caller, some .stop, []⟩

def obeyedLines (time : String) : Except String Answer → List Console.Printed
  | .ok .dropped => [Console.notice time droppedNotice]
  | _ => []

/-- What is printed when a task should have been stopped: why it could not be signalled, if so. -/
def stoppedLines : Except String Answer → List Console.Printed
  | .ok _ => []
  | .error reason => [Console.error reason]

def watchedLines : TicketResult → List Console.Printed
  | .failed e => [Console.error e.message]
  | .report r => if r.isCancelled then [] else [Console.count r.diagnostics]

/-! ## Reactions -/

/-- How the call of a caller has ended, if it has: with an answer, or for a reason. -/
def ending? (c : Coordinator) (caller : Nat) : Option (Except String Answer) :=
  match c.stage? caller with
  | some (.answered a) => some (.ok a)
  | some (.unsignalled reason) => some (.error reason)
  | _ => none

def result? (c : Coordinator) (line : Nat) : Option TicketResult :=
  (c.tasks[line]?).bind Task.result?

/-- What a session does when its stage and the coordinator let it go on. -/
def goOn (time : String) (c : Coordinator) : Stage → Option Reaction
  | .starting caller =>
    (ending? c caller).map fun
      | .ok (.started _ line) => ⟨.running line, none, []⟩
      | _ => ⟨.finished failure, none, []⟩
  | .running line =>
    (result? c line).map fun r => ⟨.finished (status r), none, resultLines c.history r⟩
  | .interrupting caller =>
    (ending? c caller).map fun e => ⟨.finished interrupted, none, stoppedLines e⟩
  | .obeying caller => (ending? c caller).map fun e => ⟨.reading, none, obeyedLines time e⟩
  | .stopping caller => (ending? c caller).map fun e => ⟨.reading, none, stoppedLines e⟩
  | .leaving caller => (ending? c caller).map fun e => ⟨.finished success, none, stoppedLines e⟩
  | .reading | .finished _ => none

/-- What a session does at an event, if it takes notice of it. -/
def notice (dir : String) (c : Coordinator) (s : Stage) (e : Event) : Option Reaction :=
  match s, e with
  | .reading, e => some (read dir c.callers.length e)
  | .running _, .interrupt => some ⟨.interrupting c.callers.length, some .stop, []⟩
  | _, _ => none

def opening (dir : String) (c : Coordinator) (w : CommandLine.Work) : Reaction :=
  match demandOf dir w with
  | some d => ⟨.starting c.callers.length, some d, []⟩
  | none => ⟨.reading, none, []⟩

/-- Whether the results of started tasks are printed as they come. -/
def isStreaming (w : CommandLine.Work) : Console.Diagnostics :=
  match w with
  | .interactive => .stream
  | _ => .collect

end Session
end BuildRunner
