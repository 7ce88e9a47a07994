import BuildRunner.Host.Builtin.Lookup

set_option autoImplicit false

/-! # Commands on the flow of control

The commands of a shell that leave something early, read other scripts or become another program.
-/

namespace BuildRunner.Host

namespace Actor

/-- Goes on with a number, or reports that a text is none. -/
def withCount (a : Actor) (text : String) (next : Nat → Actor) : Actor :=
  match Shell.Numeral.count text with
  | .ok n => next n
  | .error reason => a.refuse reason

def exit (a : Actor) (args : List String) : Actor :=
  match args with
  | [] => a.leave a.exitStatus
  | text :: _ => a.withCount text a.leave

/-- Whether a frame is the end of the shell. -/
def isLeaving : Frame → Bool
  | .leave _ => true
  | _ => false

def leaveCall (a : Actor) (args : List String) : Actor :=
  let back := fun (finish : Actor → Actor) =>
    if a.shell.stack.any isReturnPoint then finish (a.unwind isReturnPoint)
    else if a.shell.stack.any isLeaving then finish (a.unwind isLeaving)
    else
      let a := finish (a.unwind fun _ => false)
      a.leave a.status
  match args with
  | [] => back fun a => a
  | text :: _ => a.withCount text fun n => back fun a => a.done n

/-- The frames of a loop that goes on, or that is over, after what it was doing has been left, and
the status then. A loop that is left while its test is run has the status of its body. -/
def afterLoop (again : Bool) : Frame → List Frame × Nat
  | f@(.loopTest _ test _ _ result) =>
    if again then ([.run test { tested := true }, f], 0) else ([], result)
  | f => (if again then [f] else [], 0)

/-- Leaves loops, the last one of which may go on. -/
def leaveLoops (a : Actor) (again : Bool) (args : List String) : Actor :=
  let text := args.headD "1"
  a.withCount text fun n =>
    if n = 0 then a.refuse (Shell.Numeral.fault text)
    else
      let here := a.loopDepth
      if a.allLoops = 0 then a.done 0
      else if n > here ∧ here < a.allLoops then (a.unwind fun _ => false).done 0
      else
        let a := (a.unwindLoops (min n here)).done 0
        match a.shell.stack with
        | f :: rest =>
          let (frames, status) := afterLoop again f
          (a.withStack (frames ++ rest)).done status
        | [] => a

/-- Where errors of a script end that is read into this shell. -/
def errorsEnd (a : Actor) : List Frame := if a.isStrict then [] else [.catching]

def evaluate (a : Actor) (args : List String) (tested : Bool) : Actor :=
  if args.isEmpty then a.done 0
  else
    a.push (.script (sourceOf (String.intercalate " " args)) .text false tested :: a.errorsEnd)

def scriptPath (a : Actor) (name : String) : Option String :=
  if name.toList.contains '/' then some name
  else
    ((Machine.directoriesOf a.searchPath).map fun d => Machine.inDirectory d name).find? fun path =>
      match a.host.files.find a.self.directory (widen path) with
      | .ok (.file ..) | .ok (.utility _) => true
      | _ => false

def source (a : Actor) (args : List String) : Actor :=
  a.withFlags {} args fun flags =>
    match flags.left with
    | [] => a.done 0
    | name :: _ =>
      match a.scriptPath name with
      | none => a.refuse (name ++ ": not found")
      | some path =>
        match a.host.scriptAt a.self path with
        | .error e =>
          let reason := match e with
            | .notFound | .notDirectory => "No such file"
            | e => e.text
          a.refuse ("cannot open " ++ path ++ ": " ++ reason)
        | .ok script =>
          let a := a.push (.script (sourceOf script) .file false false :: .sourced :: a.errorsEnd)
          { a with shell := { a.shell with command := some path } }

/-! ## Programs -/

def startingStatus : FileError → Nat
  | .notFound | .notDirectory => 127
  | _ => 126

def become (a : Actor) (name path : String) (args : List String) : Except FileError Actor := do
  let p := { a.self with
    descriptors := inherited a.self.descriptors
    environment := a.memory.environment }
  let program ← a.host.programForShell p p.environment name path args
  return { a with self := p, successor := some program }

/-- Becomes another program, or stays as it is if none is named. -/
def exec (a : Actor) (args : List String) : Actor :=
  match args with
  | [] => a.done 0
  | name :: rest =>
    let path := if name.toList.contains '/' then .ok name
      else a.host.search a.self.directory a.searchPath name
    match path.bind fun path => a.become name path rest with
    | .ok a => a
    | .error e => (a.complain (name ++ ": " ++ startingReason e)).leave (startingStatus e)

end Actor
end BuildRunner.Host
