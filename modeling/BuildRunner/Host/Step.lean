import BuildRunner.Host.ShellStep

set_option autoImplicit false

/-! # Steps of a host

The processes of a host take steps in turn. When none of them can take one, the host waits for
the clock or for somebody outside.
-/

namespace BuildRunner.Host

namespace Machine

/-! ## Utilities -/

/-- Ends a process with a status, unless it has ended already. -/
def exit (h : Machine) (id status : Nat) : Machine :=
  if h.isAlive id then h.finish id (.exited status) else h

/-- Replaces the program of a process, unless the process has ended. -/
def continueAs (h : Machine) (p : Process) (program : Program) : Machine :=
  if h.isAlive p.id then h.update { p with program := program } else h

/-- Writes for a process that ends if nobody reads what it writes. -/
def writeFor (h : Machine) (p : Process) (fd : Nat) (bs : List UInt8) : Machine :=
  match h.write p fd bs with
  | .ok h => h
  | .error .noReader => h.signal .pipe p.id
  | .error .closed => h

def tell (h : Machine) (p : Process) (message : String) : Machine :=
  h.writeFor p 2 (bytesOf (message ++ "\n"))

def isOpen (h : Machine) (p : Process) (fd : Nat) : Bool := (h.lookUp p fd).isSome

def fileAt? (h : Machine) (p : Process) (fd : Nat) : Option Nat :=
  match h.lookUp p fd with
  | some (_, .file n _ _) => some n
  | _ => none

def sightOf (h : Machine) (p : Process) (d : Description) : Except FileError Sight :=
  match d with
  | .directory => .error .isDirectory
  | .file n position _ =>
    let content := (h.files.body n).content
    let left := content.drop position
    .ok { text := narrow left
          isRegular := true
          size := content.length
          isOutput := h.fileAt? p 1 = some n && !left.isEmpty }
  | _ => .ok {}

def outlook (h : Machine) (p : Process) : Outlook where
  file path := do
    let (d, _) ← h.openPath p path .read false
    h.sightOf p d
  standard := (h.lookUp p 0).map fun x => ((h.sightOf p x.2).toOption).getD {}
  isStandard := h.isStandardInput p

def carryOut (h : Machine) (p : Process) (e : Effect) : Machine :=
  if !h.isAlive p.id then h
  else
    match e with
    | .output s =>
      match h.write p 1 (bytesOf s) with
      | .ok h => h
      | .error .noReader => h.signal .pipe p.id
      | .error .closed =>
        match p.program with
        | .count c => (h.tell p (c.name ++ ": write error: Bad file descriptor")).exit p.id 1
        | .transliterate t => (h.tell p (t.name ++ ": write error: Bad file descriptor")).exit p.id 1
        | _ => h
    | .error s => h.writeFor p 2 (bytesOf s)
    | .append path s =>
      match h.files.findSlot p.directory (widen path) with
      | .ok (.file n) => { h with files := h.files.modify n (· ++ bytesOf s) }
      | _ => h
    | .empty path =>
      match h.openPath p path .write false with
      | .ok (_, h) => h
      | .error _ => h
    | .replace path s =>
      match h.files.locate p.directory (widen path) with
      | .error _ => h
      | .ok place =>
        let executable := match h.files.at? place with
          | some (.file _ x) => x
          | _ => false
        let (n, files) := h.files.newFile
          { content := bytesOf s, executable := executable, changed := h.files.now }
        { h with files := files.putSlot place (.file n) }

def carryOutAll (h : Machine) (p : Process) (es : List Effect) : Machine :=
  es.foldl (fun h e => h.carryOut p e) h

/-- What arrives at the standard input of a process, unless nothing has arrived yet. -/
def arrived? (h : Machine) (p : Process) : Option (Arrived × Machine) :=
  match h.read p 0 with
  | (.nothingYet, _) => none
  | (.bytes bs, h) => some (.text (narrow bs), h)
  | (.ended, h) => some (.ended, h)
  | (.broken e, h) => some (.broken e (h.isOpen p 0), h)

/-- One step of a process that joins files. -/
def stepCat (h : Machine) (p : Process) (c : Cat) : Option Machine :=
  if !h.isOpen p 1 then
    some ((h.tell p (c.name ++ ": standard output: Bad file descriptor")).exit p.id 1)
  else
    match c.step (h.outlook p) with
    | some (es, c, finished) =>
      let h := h.carryOutAll p es
      some (if finished then h.exit p.id c.status else h.continueAs p (.cat c))
    | none =>
      (h.arrived? p).map fun (x, h) =>
        let (es, c) := c.receive x
        (h.carryOutAll p es).continueAs p (.cat c)

def stepCount (h : Machine) (p : Process) (c : WordCount) : Option Machine :=
  match c.step (h.outlook p) with
  | some (es, c, finished) =>
    let h := h.carryOutAll p es
    some (if finished then h.exit p.id c.status else h.continueAs p (.count c))
  | none =>
    (h.arrived? p).map fun (x, h) =>
      let (es, c) := c.receive x
      (h.carryOutAll p es).continueAs p (.count c)

def stepTransliterate (h : Machine) (p : Process) (t : Transliterate) : Option Machine :=
  if t.warnings ≠ "" then
    some ((h.carryOut p (.error t.warnings)).continueAs p (.transliterate { t with warnings := "" }))
  else if t.finished then some (h.exit p.id t.status)
  else
    (h.arrived? p).map fun (x, h) =>
      let (es, t) := t.receive x
      (h.carryOutAll p es).continueAs p (.transliterate t)

/-- How many commands an editor runs in one step. -/
def editsInOneGo : Nat := 20000

/-- Ends an editing process. What it has not used of an input that can be read again, or that it
reads line by line, is there for others. -/
def endEdit (h : Machine) (p : Process) (e : Sed.Editor) (status : Nat) : Machine :=
  let h := if h.isSeekable p 0 ∨ e.setting.unbuffered then h.putBack p 0 (bytesOf e.leftover) else h
  if h.isOpen p 1 then h.exit p.id status
  else (h.tell p (e.setting.name ++ ": couldn't close stdout: Bad file descriptor")).exit p.id 4

def stepEdit (h : Machine) (p : Process) (e : Sed.Editor) : Option Machine :=
  let (waits, e) := e.advance (h.readable p) editsInOneGo
  let flushed := if waits then e.flush else e
  let effects := flushed.effects.reverse
  let after := { flushed with effects := [] }
  let h := h.carryOutAll p effects
  match after.phase with
  | .finished status => some (h.endEdit p after status)
  | _ =>
    if !effects.isEmpty ∨ !waits then some (h.continueAs p (.edit after))
    else (h.arrived? p).map fun (x, h) => h.continueAs p (.edit (after.receive x))

/-- One step of a process that reads the script of an editor. -/
def stepGather (h : Machine) (p : Process) (name : String) (args : List String)
    (parts : List (List UInt8)) : Option Machine :=
  match h.read p 0 with
  | (.nothingYet, _) => none
  | (.bytes bs, h) => some (h.continueAs p (.gather name args (bs :: parts)))
  | (_, h) =>
    let script := narrow parts.reverse.flatten
    let files : Sed.Readable := fun path =>
      if path = "-" ∨ path = "/dev/stdin" then .ok script else h.readable p path
    some (h.continueAs p (h.editorProgram p files name args))

/-! ## Processes -/

def stepProcess (h : Machine) (p : Process) : Option Machine :=
  match p.program with
  | .shell s => (Actor.step { host := h, self := p, shell := s }).map Actor.settle
  | .sleep t => if h.clock < t then none else some (h.exit p.id 0)
  | .cat c => h.stepCat p c
  | .count c => h.stepCount p c
  | .transliterate t => h.stepTransliterate p t
  | .edit e => h.stepEdit p e
  | .gather name args parts => h.stepGather p name args parts
  | .report output error status =>
    some (((h.writeFor p 1 output).writeFor p 2 error).exit p.id status)

/-- One step of the process with a number, if it is alive and can take one. -/
def stepOf (h : Machine) (id : Nat) : Option Machine :=
  match h.process? id with
  | none => none
  | some p => if p.ending.isSome then none else h.stepProcess p

/-- One step of every process that can take one, and how many did. -/
def round (h : Machine) : Nat × Machine :=
  (h.processes.map (·.id)).foldl (fun (n, h) id =>
    match h.stepOf id with
    | some h => (n + 1, h)
    | none => (n, h)) (0, h)

/-- Steps until no process can take one; whether that was reached within `fuel` rounds. -/
def settle : Nat → Machine → Bool × Machine
  | 0, h => (false, h)
  | fuel + 1, h =>
    match h.round with
    | (0, h) => (true, h)
    | (_, h) => settle fuel h

end Machine
end BuildRunner.Host
