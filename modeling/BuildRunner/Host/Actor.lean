import BuildRunner.Host.Bytes
import BuildRunner.Host.Machine

set_option autoImplicit false

/-! # A shell at work

One step of a shell is taken on a working copy of its process. When the step is over the copy
is put back, unless the process has ended meanwhile.
-/

namespace BuildRunner.Host

open Shell (Command Memory Source Variable)

/-- A shell that takes a step. -/
structure Actor where
  host : Machine
  self : Process
  shell : Interpreter
  /-- The program that takes the place of the shell. -/
  successor : Option Program := none
  /-- Whether an error of the command that is run ends the shell. -/
  isStrict : Bool := false

namespace Actor

/-! ## Beginning and end of a step -/

def settle (a : Actor) : Machine :=
  if a.host.isAlive a.self.id then
    a.host.update { a.self with program := a.successor.getD (.shell a.shell) }
  else a.host

/-- The same shell in a host in which others may have changed it. -/
def reload (a : Actor) (h : Machine) : Actor :=
  match h.process? a.self.id with
  | none => { a with host := h }
  | some p =>
    match p.program with
    | .shell s => { a with host := h, self := p, shell := s }
    | _ => { a with host := h, self := p }

/-- Sends a signal to a process, which may be the shell itself. -/
def signal (a : Actor) (s : Signal) (id : Nat) : Actor := a.reload (a.settle.signal s id)

def signalGroup (a : Actor) (s : Signal) (group : Nat) : Actor :=
  a.reload (a.settle.signalGroup s group)

/-! ## Memory and stack -/

def memory (a : Actor) : Memory := a.shell.memory

def withMemory (a : Actor) (m : Memory) : Actor := { a with shell := { a.shell with memory := m } }

def status (a : Actor) : Nat := a.memory.status

def done (a : Actor) (status : Nat) : Actor := a.withMemory { a.memory with status := status }

def withStack (a : Actor) (frames : List Frame) : Actor :=
  { a with shell := { a.shell with stack := frames } }

/-- Does something before everything else that is left to do. -/
def push (a : Actor) (frames : List Frame) : Actor := a.withStack (frames ++ a.shell.stack)

def withDescriptors (a : Actor) (ds : Descriptors) : Actor :=
  { a with self := { a.self with descriptors := ds } }

def giveBack (a : Actor) (k : Kept) : Actor :=
  match k with
  | .switches x => a.withMemory { a.memory with switches := x }
  | .variable name none => a.withMemory (a.memory.unset name)
  | .variable name (some v) =>
    let m := a.memory.put name v
    a.withMemory <|
      if name = "OPTIND" then
        match v.value.bind Shell.Numeral.count? with
        | some n => { m with optionIndex := max n 1, optionOffset := none }
        | none => m
      else m

def redirectTo (ds : Descriptors) (fd description : Nat) : Descriptors :=
  (fd, description) :: ds.filter fun d => d.1 ≠ fd

def closed (ds : Descriptors) (fd : Nat) : Descriptors := ds.filter fun d => d.1 ≠ fd

/-- Descriptors in which one that was changed leads again to what it led to before. -/
def replaced (ds : Descriptors) (change : Nat × Option Nat) : Descriptors :=
  match change.2 with
  | none => closed ds change.1
  | some kept =>
    match ds.lookup kept with
    | some n => redirectTo (closed ds kept) change.1 n
    | none => ds

/-- Gives back what was saved for a command. -/
def restore (a : Actor) (saved : Saved) : Actor :=
  let a := saved.kept.foldl giveBack a
  let a := a.withDescriptors (saved.displaced.foldl replaced a.self.descriptors)
  { a with shell := { a.shell with command := saved.command } }

/-- Forgets what descriptors led to before they were changed. -/
def keepChanges (a : Actor) (displaced : Displaced) : Actor :=
  a.withDescriptors (displaced.foldl (fun ds d => (d.2.map (closed ds)).getD ds) a.self.descriptors)

/-- Makes the parameters those of another function. -/
def withParameters (a : Actor) (p : Parameters) : Actor :=
  a.withMemory { a.memory with
    arguments := p.arguments, optionIndex := p.optionIndex, optionOffset := p.optionOffset }

def parameters (a : Actor) : Parameters :=
  ⟨a.memory.arguments, a.memory.optionIndex, a.memory.optionOffset⟩

/-! ## Output -/

/-- Writes to a descriptor; whether that was possible. -/
def write (a : Actor) (fd : Nat) (s : String) : Actor × Bool :=
  match a.host.write a.self fd (bytesOf s) with
  | .ok h => ({ a with host := h }, true)
  | .error .noReader => (a.signal .pipe a.self.id, false)
  | .error .closed => (a, false)

/-- Writes a message under the name of the script. -/
def complain (a : Actor) (message : String) : Actor :=
  let under := match a.shell.command with
    | some name => name ++ ": "
    | none => ""
  (a.write 2 (a.memory.name ++ ": " ++ toString a.shell.line ++ ": " ++ under ++ message ++ "\n")).1

/-- Writes the output of a command and sets the status. -/
def say (a : Actor) (output : String) (status : Nat) : Actor :=
  if output = "" then a.done status
  else
    match a.write 1 output with
    | (a, true) => a.done status
    | (a, false) => (a.complain ((a.shell.command.getD "") ++ ": I/O error")).done (status ||| 1)

/-! ## Leaving commands -/

/-- The actor after a frame that is left early. -/
def abandon (a : Actor) : Frame → Actor
  | .restore saved => a.restore saved
  | .call caller => a.withParameters caller
  | .trapped status => a.done status
  | .expand (.call c) _ => a.restore c.saved
  | .expand (.enclosed _ _ _ (.here saved) _) _ => a.restore saved
  | _ => a

/-- The actor after a frame that is left because the shell ends: variables stay as they are. -/
def abandonAtEnd (a : Actor) : Frame → Actor
  | .restore saved => a.restore { saved with kept := [] }
  | .expand (.call c) _ => a.restore { c.saved with kept := [] }
  | f@(.call _) | f@(.expand ..) => a.abandon f
  | _ => a

def isLoop : Frame → Bool
  | .loopTest .. | .loopBody .. | .each .. => true
  | _ => false

/-- Whether a frame is the end of a function. -/
def isCall : Frame → Bool
  | .call _ => true
  | _ => false

/-- Whether `return` leads to a frame. -/
def isReturnPoint : Frame → Bool
  | .call _ | .sourced => true
  | _ => false

/-- Whether errors end at a frame. -/
def isCatching : Frame → Bool
  | .catching => true
  | _ => false

/-- Leaves frames up to the first one that satisfies `stop`, which becomes the top. -/
def unwind (a : Actor) (stop : Frame → Bool) : Actor :=
  let left := a.shell.stack.takeWhile fun f => !stop f
  (left.foldl abandon a).withStack (a.shell.stack.dropWhile fun f => !stop f)

/-- The number of loops around the current command that stand on the stack. -/
def loopDepth (a : Actor) : Nat := (a.shell.stack.takeWhile fun f => !isCall f).countP isLoop

def isInCall (a : Actor) : Bool := a.shell.stack.any isCall

/-- The number of loops around the current command. -/
def allLoops (a : Actor) : Nat := a.loopDepth + if a.isInCall then 0 else a.shell.loops

/-- The number of functions around the current command. -/
def allCalls (a : Actor) : Nat := a.shell.stack.countP isCall + a.shell.calls

/-- Leaves `n` loops but for the last one's frame. -/
def unwindLoops (a : Actor) : Nat → Actor
  | 0 => a
  | n + 1 =>
    let a := a.unwind isLoop
    if n = 0 then a else (a.withStack (a.shell.stack.drop 1)).unwindLoops n

/-- The script of a text that is read by itself. -/
def sourceOf (text : String) : Source := { rest := text.toList }

/-- Ends the shell: the action for the exit is run first. -/
def leave (a : Actor) (status : Nat) : Actor :=
  let a := ((a.shell.stack.foldl abandonAtEnd a).withStack []).done status
  match a.shell.traps.lookup 0 with
  | none | some "" => a.withStack [.leave status]
  | some action =>
    { a with shell := { a.shell with
        traps := a.shell.traps.filter (·.1 ≠ 0)
        stack := [.script (sourceOf action) .text false false, .leave status] } }

/-- The status that an exit without number has: that before the action which is being run. -/
def exitStatus (a : Actor) : Nat :=
  (a.shell.stack.findSome? fun
    | .trapped s | .leave s => some s
    | _ => none).getD a.status

/-- Ends what an error ends: the shell, or what is above the place where errors end. -/
def fault (a : Actor) (status : Nat) : Actor :=
  if a.shell.stack.any isCatching then
    let a := a.unwind isCatching
    (a.withStack (a.shell.stack.drop 1)).done status
  else a.leave status

/-- Writes a message about an error and ends what it ends. -/
def die (a : Actor) (message : String) : Actor := (a.complain message).fault 2

/-- Writes a message about an error of the command that is run. -/
def refuse (a : Actor) (message : String) : Actor :=
  if a.isStrict then a.die message else (a.complain message).done 2

/-! ## Children -/

def hasTraps (a : Actor) : Bool := a.shell.traps.any (·.2 ≠ "")

/-- Whether a frame is the end of a command to which variables can be local. -/
def isScope : Frame → Bool
  | .restore saved => saved.isScope
  | _ => false

/-- The shell as it goes on in a child: actions are forgotten, but signals stay ignored. -/
def inChild (a : Actor) (frames : List Frame) : Interpreter :=
  let scope : List Frame := [.restore { isScope := true, command := a.shell.command }]
  { a.shell with
    traps := a.shell.traps.filter (·.2 = "")
    pending := []
    jobs := {}
    loops := a.allLoops
    calls := a.allCalls
    stack := frames ++ if a.shell.stack.any isScope then scope else [] }

def spawn (a : Actor) (descriptors : Descriptors) (program : Program) : Nat × Actor :=
  let (id, h) := a.host.fork a.self fun p =>
    { p with descriptors := descriptors, program := program }
  (id, { a with host := h })

/-- Starts a child that goes on as this shell with some frames. -/
def spawnShell (a : Actor) (descriptors : Descriptors) (frames : List Frame) : Nat × Actor :=
  a.spawn descriptors (.shell (a.inChild frames))

/-- The first number of the descriptors that a shell has for itself. -/
def firstOwn : Nat := 10

def freeDescriptor (ds : Descriptors) : Nat := (ds.foldl (fun n d => max n (d.1 + 1)) firstOwn)

def inherited (ds : Descriptors) : Descriptors := ds.filter fun d => d.1 < firstOwn

def withoutInput (a : Actor) : Actor × Descriptors :=
  let (n, h) := a.host.describe .null
  ({ a with host := h }, redirectTo a.self.descriptors 0 n)

/-- Makes a pipe: the descriptions of its two ends. -/
def pipe (a : Actor) : Nat × Nat × Actor :=
  let (p, h) := a.host.newPipe false
  let (r, h) := h.describe (.reader p)
  let (w, h) := h.describe (.writer p)
  (r, w, { a with host := h })

def backgroundIgnored : List Signal := [.interrupt, .quit]

/-- How many steps a child in the background needs to begin, while its parent goes on. -/
def startTime : Nat := 64

def inBackground (p : Process) : Process :=
  { p with
    ignored := backgroundIgnored ++ p.ignored
    program := match p.program with
      | .shell s => .shell { s with
          hardIgnored := backgroundIgnored ++ s.hardIgnored
          stack := .delay startTime :: s.stack }
      | other => other }

def withJobs (a : Actor) (js : Jobs) : Actor := { a with shell := { a.shell with jobs := js } }

/-- Makes room for a command that runs in a process of its own. -/
def makeRoom (a : Actor) : Actor := a.withJobs a.shell.jobs.room.2

/-- Leaves children that have just started to themselves, as one job. -/
def detach (a : Actor) (ids : List Nat) : Actor :=
  let h := ids.foldl (fun h id =>
    match h.process? id with
    | some p => h.update (inBackground p)
    | none => h) a.host
  let memory := { a.memory with lastJob := ids.getLast? }
  { a with host := h, shell := { a.shell with memory := memory, jobs := a.shell.jobs.add ids } }

/-- Forgets a child that has ended. -/
def reap (a : Actor) (id : Nat) : Actor := { a with host := a.host.reap id }

def notice (a : Actor) : Actor :=
  a.shell.jobs.running.foldl (fun a id =>
    match a.host.ending? id with
    | some e => (a.withJobs (a.shell.jobs.notice id e)).reap id
    | none => a) a

/-- Tells how a child was ended by a signal, unless that is ordinary. -/
def announce (a : Actor) (e : Ending) : Actor :=
  match e with
  | .exited _ => a
  | .signalled s =>
    if s = .interrupt ∨ s = .pipe then a else (a.write 2 (s.description ++ "\n")).1

end Actor
end BuildRunner.Host
