import BuildRunner.Host.Start
import BuildRunner.Process.Launch
import BuildRunner.Process.Outcome

set_option autoImplicit false

/-! # Launching processes from outside

A process that is launched from outside of the host leads a group of its own, has nothing to
read, and writes into two pipes that are read outside. The program is found as the process itself
would find it: from its working directory and with its own variables.
-/

namespace BuildRunner.Host

/-- What somebody outside holds of a process. -/
structure Launched where
  id : Nat
  /-- The pipe of the standard output. -/
  output : Nat
  /-- The pipe of the standard error. -/
  errors : Nat
deriving Repr, DecidableEq

def launchError (program : String) (e : FileError) : LaunchError :=
  match e with
  | .notFound => .notFound program
  | .accessDenied => .permissionDenied program
  | e => .io e.message

/-- Whether a text cannot be given to a program. -/
def hasNul (s : String) : Bool := s.toList.contains (Char.ofNat 0)

/-- A variable as the program finds it: the first equals sign ends the name. -/
def asPassed (name value : String) : String × String :=
  let cs := (name ++ "=" ++ value).toList
  (String.ofList (cs.takeWhile (· ≠ '=')), String.ofList ((cs.dropWhile (· ≠ '=')).drop 1))

/-- An environment as the program finds it, in narrow texts. -/
def environmentOf (env : Environment) : Environment :=
  env.foldl (fun e (n, v) =>
    let (n, v) := asPassed n v
    e.set (narrowText n) (narrowText v)) []

/-- Where and what a caller is: the directory it works in and its variables. -/
structure Surroundings where
  directory : Option Place
  environment : Environment
  /-- The directory that the system knows for the user's settings. Where no variable names one it may
  know one all the same. -/
  settingsDirectory : Option String := environment.settingsDirectory?

namespace Machine

def directoryFor (h : Machine) (base : Option Place) (path : String) : Except FileError Place :=
  match h.files.locate base path with
  | .error e => .error e
  | .ok p =>
    match h.files.at? p with
    | some .directory => .ok p
    | some _ => .error .notDirectory
    | none => .error .notFound

/-- Whether a launch holds a text that cannot be given to a program. -/
def isUnspeakable (l : Launch) : Bool :=
  hasNul l.program || l.arguments.any hasNul || hasNul l.workingDirectory ||
    l.assignments.any fun v => hasNul v.1 || hasNul v.2

def processFor (h : Machine) (s : Surroundings) (l : Launch) (descriptors : Descriptors) :
    Except LaunchError Process :=
  if isUnspeakable l then .error (.io "nul byte found in provided data")
  else
    let failed := fun (e : FileError) => Except.error (launchError l.program e)
    match h.directoryFor s.directory l.workingDirectory with
    | .error e => failed e
    | .ok dir =>
      let env := environmentOf (s.environment.setAll l.assignments)
      let name := narrowText l.program
      let p : Process := {
        id := h.nextId
        group := h.nextId
        parent := outside
        directory := some dir
        descriptors := descriptors
        environment := env
        program := .report [] [] 0 }
      -- The program is looked up in the directory of the new process, and in its environment.
      let started := do
        let path ← h.resolve (some dir) env name
        h.program p env name path (l.arguments.map narrowText)
      match started with
      | .error e => failed e
      | .ok program => .ok { p with program := program }

def spawn (h : Machine) (s : Surroundings) (l : Launch) : Except LaunchError (Launched × Machine) :=
  let (out, h) := h.newPipe true
  let (err, h) := h.newPipe true
  let (d0, h) := h.describe .null
  let (d1, h) := h.describe (.writer out)
  let (d2, h) := h.describe (.writer err)
  match h.processFor s l [(0, d0), (1, d1), (2, d2)] with
  | .error e => .error e
  | .ok p =>
    .ok (⟨p.id, out, err⟩,
      { h with processes := h.processes ++ [p], nextId := h.nextId + 1 })

/-- Stops reading from a pipe outside of the host. -/
def closeOutside (h : Machine) (pipe : Nat) : Machine :=
  match h.pipes[pipe]? with
  | none => h
  | some content =>
    { h with pipes := h.pipes.setIfInBounds pipe { content with readOutside := false } }

def close (h : Machine) (c : Launched) : Machine := (h.closeOutside c.output).closeOutside c.errors

def exitCode? (h : Machine) (id : Nat) : Option ExitCode :=
  (h.ending? id).map fun
    | .exited n => some (n : Int)
    | .signalled _ => none

end Machine
end BuildRunner.Host
