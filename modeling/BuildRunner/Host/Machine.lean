import BuildRunner.Host.Bytes
import BuildRunner.Host.Process

set_option autoImplicit false

/-! # What processes can do

The operations that a host offers to its processes: descriptors and pipes, children, signals and
ends. A pipe has ended for its readers when no process can write to it any more.
-/

namespace BuildRunner.Host

namespace Machine

/-! ## Processes -/

def process? (h : Machine) (id : Nat) : Option Process := h.processes.find? fun p => p.id = id

def update (h : Machine) (p : Process) : Machine :=
  { h with processes := h.processes.map fun q => if q.id = p.id then p else q }

def ending? (h : Machine) (id : Nat) : Option Ending := (h.process? id).bind (·.ending)

def isAlive (h : Machine) (id : Nat) : Bool := (h.process? id).any (·.ending.isNone)

/-- Forgets a process that has ended. -/
def reap (h : Machine) (id : Nat) : Machine :=
  { h with processes := h.processes.filter fun p => p.id ≠ id }

/-- The process that started all others. -/
def outside : Nat := 0

/-- Forgets the processes that have ended and whose parents cannot ask for them. -/
def tidy (h : Machine) : Machine :=
  { h with processes := h.processes.filter fun p =>
      p.ending.isNone || p.parent = outside || h.isAlive p.parent }

/-- Adds a process that is like `p` but for `change`. -/
def fork (h : Machine) (p : Process) (change : Process → Process) : Nat × Machine :=
  let id := h.nextId
  let q := change { p with id := id, parent := p.id, ending := none }
  (id, { h with processes := h.processes ++ [q], nextId := id + 1 })

/-! ## Ends and signals -/

/-- Whether a shell has an action for a signal. -/
def catches (p : Process) (s : Signal) : Bool :=
  match p.program with
  | .shell sh => (sh.traps.lookup s.number).any (· ≠ "")
  | _ => false

/-- Notes for a shell that a signal has arrived. -/
def note (h : Machine) (p : Process) (s : Signal) : Machine :=
  match p.program with
  | .shell sh =>
    h.update { p with program := .shell { sh with pending := sh.pending.filter (· ≠ s) ++ [s] } }
  | _ => h

/-- Ends a process; its parent is told. -/
def finish (h : Machine) (id : Nat) (e : Ending) : Machine :=
  match h.process? id with
  | none => h
  | some p =>
    let h := (h.update { p with ending := some e, descriptors := [] }).tidy
    match h.process? p.parent with
    | some q => if q.ending.isNone ∧ catches q .child then h.note q .child else h
    | none => h

def signal (h : Machine) (s : Signal) (id : Nat) : Machine :=
  match h.process? id with
  | none => h
  | some p =>
    if p.ending.isSome ∨ s.number = 0 then h
    else if s = .kill then h.finish id (.signalled s)
    else if p.ignored.contains s then h
    else if catches p s then h.note p s
    else if s.isFatal then h.finish id (.signalled s)
    else h

def signalGroup (h : Machine) (s : Signal) (group : Nat) : Machine :=
  ((h.processes.filter (·.group = group)).map (·.id)).foldl (fun h id => h.signal s id) h

/-! ## Descriptors -/

def describe (h : Machine) (d : Description) : Nat × Machine :=
  (h.descriptions.size, { h with descriptions := h.descriptions.push d })

/-- Makes a pipe: its number. -/
def newPipe (h : Machine) (readOutside : Bool) : Nat × Machine :=
  (h.pipes.size, { h with pipes := h.pipes.push { readOutside := readOutside } })

/-- What a descriptor of a process leads to, and the number of its description. -/
def lookUp (h : Machine) (p : Process) (fd : Nat) : Option (Nat × Description) := do
  let n ← p.descriptors.lookup fd
  return (n, ← h.descriptions[n]?)

/-- Whether some process has a description that satisfies a predicate. -/
def isHeld (h : Machine) (f : Description → Bool) : Bool :=
  h.processes.any fun p => p.descriptors.any fun d => (h.descriptions[d.2]?).any f

def hasWriter (h : Machine) (pipe : Nat) : Bool :=
  h.isHeld fun
    | .writer n => n = pipe
    | _ => false

def hasReader (h : Machine) (pipe : Nat) : Bool :=
  (h.pipes[pipe]?).any (·.readOutside) ||
  h.isHeld fun
    | .reader n => n = pipe
    | _ => false

inductive Arrival where
  | bytes (bs : List UInt8)
  | nothingYet
  | ended
  /-- A reason why it cannot be read. -/
  | broken (e : FileError)
deriving Repr, DecidableEq

def readPipe (h : Machine) (pipe : Nat) : Arrival × Machine :=
  match h.pipes[pipe]? with
  | none => (.ended, h)
  | some content =>
    match content.parts with
    | [] => (if h.hasWriter pipe then .nothingYet else .ended, h)
    | parts =>
      (.bytes parts.reverse.flatten, { h with pipes := h.pipes.setIfInBounds pipe { content with parts := [] } })

/-- Puts bytes back in front of what is in a pipe. -/
def unread (h : Machine) (pipe : Nat) (bs : List UInt8) : Machine :=
  match h.pipes[pipe]? with
  | none => h
  | some content =>
    if bs.isEmpty then h
    else { h with pipes := h.pipes.setIfInBounds pipe { content with parts := content.parts ++ [bs] } }

def redescribe (h : Machine) (n : Nat) (d : Description) : Machine :=
  { h with descriptions := h.descriptions.setIfInBounds n d }

def canRead : Shell.Access → Bool
  | .read | .both => true
  | _ => false

def read (h : Machine) (p : Process) (fd : Nat) : Arrival × Machine :=
  match h.lookUp p fd with
  | none | some (_, .writer _) => (.broken .badDescriptor, h)
  | some (_, .null) => (.ended, h)
  | some (_, .directory) => (.broken .isDirectory, h)
  | some (_, .reader pipe) => h.readPipe pipe
  | some (n, .file number position access) =>
    if !canRead access then (.broken .badDescriptor, h)
    else
      match (h.files.body number).content.drop position with
      | [] => (.ended, h)
      | bs => (.bytes bs, h.redescribe n (.file number (position + bs.length) access))

def putBack (h : Machine) (p : Process) (fd : Nat) (bs : List UInt8) : Machine :=
  match h.lookUp p fd with
  | some (_, .reader pipe) => h.unread pipe bs
  | some (n, .file number position access) =>
    h.redescribe n (.file number (position - bs.length) access)
  | _ => h

/-- Whether what a descriptor leads to can be read again from another position. -/
def isSeekable (h : Machine) (p : Process) (fd : Nat) : Bool :=
  match h.lookUp p fd with
  | some (_, .file ..) => true
  | _ => false

inductive WriteError where
  | closed
  | noReader
deriving Repr, DecidableEq

def write (h : Machine) (p : Process) (fd : Nat) (bs : List UInt8) : Except WriteError Machine :=
  match h.lookUp p fd with
  | some (_, .null) => .ok h
  | some (_, .writer pipe) =>
    if !h.hasReader pipe then .error .noReader
    else
      match h.pipes[pipe]? with
      | none => .error .closed
      | some content =>
        if bs.isEmpty then .ok h
        else .ok { h with pipes := h.pipes.setIfInBounds pipe { content with parts := bs :: content.parts } }
  | some (n, .file number position access) =>
    if access = .read then .error .closed
    else if bs.isEmpty then .ok h
    else
      let position := if access = .append then (h.files.body number).content.length else position
      let h := { h with files := h.files.writeAt number position bs }
      .ok (h.redescribe n (.file number (position + bs.length) access))
  | _ => .error .closed

/-! ## Opening files -/

def descriptorNamed? (path : String) : Option Nat :=
  let numbered := fun (front : String) =>
    let ds := path.toList.drop front.length
    if path.startsWith front ∧ !ds.isEmpty ∧ ds.all Char.isDigit then
      some (Shell.Numeral.digits 10 ds)
    else none
  if path = "/dev/stdin" then some 0
  else if path = "/dev/stdout" then some 1
  else if path = "/dev/stderr" then some 2
  else (numbered "/dev/fd/").orElse fun _ => numbered "/proc/self/fd/"

def openFile (h : Machine) (number : Nat) (access : Shell.Access) : Description × Machine :=
  let empties := access = .write || access = .overwrite
  (.file number 0 access,
    if empties then { h with files := h.files.modify number fun _ => [] } else h)

/-- Opens what a descriptor leads to once more. -/
def reopen (h : Machine) (p : Process) (fd : Nat) (access : Shell.Access) :
    Except FileError (Description × Machine) :=
  match h.lookUp p fd with
  | none => .error .notFound
  | some (_, .reader pipe) | some (_, .writer pipe) =>
    .ok (if access = .read then .reader pipe else .writer pipe, h)
  | some (_, .file number _ _) => .ok (h.openFile number access)
  | some (_, .directory) => if access = .read then .ok (.directory, h) else .error .isDirectory
  | some (_, .null) => .ok (.null, h)

/-- Opens the file at a path. With `fresh` no file may be there. -/
def openPath (h : Machine) (p : Process) (path : String) (access : Shell.Access) (fresh : Bool) :
    Except FileError (Description × Machine) :=
  match descriptorNamed? path with
  | some fd => h.reopen p fd access
  | none =>
    if access = .read then do
      match ← h.files.findSlot p.directory (widen path) with
      | .directory => return (.directory, h)
      | .null | .utility _ => return (.null, h)
      | .file number => return h.openFile number .read
    else
      match fresh, h.files.findSlot p.directory (widen path) with
      | true, .ok (.file _) => .error .fileExists
      | _, _ => do
        let (slot, files) ← h.files.create p.directory (widen path)
        let h := { h with files := files }
        match slot with
        | .file number => return h.openFile number access
        | _ => return (.null, h)

/-! ## Time -/

def nextTimer? (h : Machine) : Option Nat :=
  (h.processes.filterMap fun p =>
    match p.ending, p.program with
    | none, .sleep t => some t
    | _, _ => none).min?

def atTime (h : Machine) (clock : Nat) : Machine :=
  let clock := max h.clock clock
  { h with clock := clock, files := h.files.atTime clock }

/-! ## Finding programs -/

/-- Where programs are searched if nothing else is said. -/
def defaultPath : String := "/bin:/usr/bin"

/-- The parts of a search path; an empty one is the current directory. -/
def directoriesOf (path : String) : List String :=
  (Path.splitBy ':' [] path.toList).map String.ofList

/-- The path of a file inside of a part of a search path. -/
def inDirectory (d name : String) : String := if d = "" then name else Path.join d name

def canRun (h : Machine) (dir : Option Place) (path : String) : Except FileError String := do
  match ← h.files.find dir (widen path) with
  | .utility _ | .file _ true => return path
  | _ => throw .accessDenied

/-- The path of a program that is searched. -/
def search (h : Machine) (dir : Option Place) (path name : String) : Except FileError String :=
  let tried := (directoriesOf path).map fun d => h.canRun dir (inDirectory d name)
  match tried.findSome? Except.toOption with
  | some path => .ok path
  | none =>
    if tried.any (fun
      | .error .accessDenied => true
      | _ => false) then .error .accessDenied
    else .error .notFound

/-- The path of a program as it is found from a directory by somebody with an environment. -/
def resolve (h : Machine) (dir : Option Place) (env : Environment) (name : String) :
    Except FileError String :=
  if name = "" then .error .notFound
  else if name.toList.contains '/' then h.canRun dir name
  else h.search dir ((env.get? "PATH").getD defaultPath) name

end Machine
end BuildRunner.Host
