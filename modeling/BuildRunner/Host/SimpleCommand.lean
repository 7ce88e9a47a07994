import BuildRunner.Host.Builtin.Run
import BuildRunner.Host.Lead
import BuildRunner.Host.Matching
import BuildRunner.Host.Redirect

set_option autoImplicit false

/-! # Simple commands

A simple command is expanded word by word, then the targets of its redirections, which are
performed next, then its assignments one by one. What it has become is written for a person who
traces the shell, and run: as a function, as a command of the shell, or as a program in a process
of its own.
-/

namespace BuildRunner.Host

open Shell (Expanding Matching Word)

namespace Actor

/-- Goes on with what words are expanded for. -/
def pursue (a : Actor) (p : Purpose) : Actor := a.push [.expand p []]

def matching (a : Actor) : Matching := Matching.paths a.host.files a.self.directory

/-! ## Words and assignments -/

def nextFields (a : Actor) (c : Call) (w : Word) : Expanding (List String) :=
  let lead := a.leadOf c.fields
  let assigns := lead.kind = some .builtin && takesAssignments ((c.fields[lead.skipped]?).getD "")
  match (if assigns then Word.assignment? w else none) with
  | some (name, value) => Shell.expandAssignment name value
  | none => Shell.expandFields a.matching w

/-- Whether the assignments in front of a command hold for nothing but the command. -/
def hasOwnVariables (a : Actor) (c : Call) : Bool :=
  !c.fields.isEmpty && (a.leadOf c.fields).special ≠ some true

/-- Whether a command makes the shell another program. -/
def isReplacing (a : Actor) (c : Call) : Bool :=
  let lead := a.leadOf c.fields
  match c.fields.drop lead.skipped with
  | "exec" :: _ :: _ => lead.kind = some .builtin
  | _ => false

/-- Makes an assignment of a command, in front of `rest`. -/
def assignFor (a : Actor) (c : Call) (name value : String) (rest : List (String × Word)) : Actor :=
  match a.memory.assign name value with
  | .error reason => (a.pursue (.call c)).die reason
  | .ok m =>
    let own := a.hasOwnVariables c
    let kept := if own then .variable name (a.memory.find? name) :: c.saved.kept else c.saved.kept
    let m := if own ∨ a.isReplacing c then m.share name else m
    (a.withMemory m).pursue <| .call { c with
      given := rest
      made := c.made ++ [(name, value)]
      saved := { c.saved with kept := kept } }

/-- Writes a command for a person who traces the shell, to where errors went before the
redirections of the command. -/
def trace (a : Actor) (c : Call) (front : String) : Actor :=
  let fd := ((c.saved.displaced.lookup 2).bind id).getD 2
  let words := c.made.map (fun x => x.1 ++ "=" ++ x.2) ++ c.fields
  (a.write fd (front ++ String.intercalate " " words ++ "\n")).1

/-! ## Running -/

/-- How many functions can be inside of one another. -/
def callLimit : Nat := 1000

def runFunction (a : Actor) (c : Call) (body : Shell.Command) (args : List String) : Actor :=
  let back : Frame := .restore { c.saved with isScope := true }
  if a.allCalls ≥ callLimit then
    (a.push [back]).die
      ("Maximum function recursion depth (" ++ toString callLimit ++ ") reached")
  else
    let frames : List Frame := [.run body { tested := c.mode.tested }, .call a.parameters, back]
    (a.push frames).withArguments args

/-- Runs a command of the shell. Changes of descriptors stay if the command does nothing else. -/
def runBuiltin (a : Actor) (c : Call) (special : Bool) (name : String) (args : List String) :
    Actor :=
  let stays := name = "exec" ∧ args.isEmpty
  let saved := if stays then { c.saved with displaced := [] } else c.saved
  let a := if stays then a.keepChanges c.saved.displaced else a
  let a := { a with isStrict := special, shell := { a.shell with command := some name } }
  (a.push [.restore { saved with isScope := a.hasOwnVariables c }]).builtin name args c.mode.tested

def cannotStart (a : Actor) (name : String) (e : FileError) : Actor :=
  a.complain (name ++ ": " ++ startingReason e)

def runInChild (a : Actor) (c : Call) (name path : String) (args : List String) : Actor :=
  let a := a.makeRoom
  let p := { a.self with
    id := a.host.nextId
    parent := a.self.id
    descriptors := inherited a.self.descriptors
    environment := a.memory.environment }
  match a.host.programForShell p p.environment name path args with
  | .error e => ((a.cannotStart name e).done (startingStatus e)).restore c.saved
  | .ok program =>
    let (id, h) := a.host.fork a.self fun q =>
      { q with descriptors := p.descriptors, environment := p.environment, program := program }
    { a with host := h }.push [.await [id], .restore c.saved]

/-- Runs a program. It takes the place of a shell that has nothing else to do. -/
def runProgram (a : Actor) (c : Call) (standard : Bool) (name : String) (args : List String) :
    Actor :=
  let found :=
    if name.toList.contains '/' then .ok (name, a)
    else if standard then
      (a.host.search a.self.directory standardPath name).map fun path => (path, a)
    else a.locate name
  match found with
  | .error e => ((a.cannotStart name e).done 127).restore c.saved
  | .ok (path, a) =>
    if c.mode.last ∧ !a.hasTraps then
      match a.become name path args with
      | .ok a => a
      | .error e => (a.cannotStart name e).leave (startingStatus e)
    else a.runInChild c name path args

/-- Runs a command that has been expanded. -/
def runCall (a : Actor) (c : Call) : Actor :=
  let lead := a.leadOf c.fields
  match c.fields.drop lead.skipped with
  | [] => (a.done a.shell.substituted).restore c.saved
  | name :: args =>
    let builtin := a.runBuiltin c (lead.special = some true) name args
    match lead.kind with
    | some .function =>
      match a.shell.functions.lookup name with
      | some body => a.runFunction c body args
      | none => builtin
    | some .program => a.runProgram c lead.standard name args
    | some .builtin | none => builtin

/-! ## Expansion -/

/-- Gives up a command because of a redirection. -/
def refuseRedirection (a : Actor) (c : Call) (reason : String) : Actor :=
  let a := ((a.complain reason).done 2).restore c.saved
  if (a.leadOf c.fields).special = some true then a.fault 2 else a

def expandCall (a : Actor) (c : Call) : Expanding (Actor → Actor) :=
  match c.words, c.openings.left, c.openings.targets, c.given with
  | w :: ws, _, _, _ => do
    let fields ← a.nextFields c w
    return (·.pursue (.call { c with words := ws, fields := c.fields ++ fields }))
  | [], r :: rs, ts, _ => do
    let t ← target r
    return (·.pursue (.call { c with openings := { left := rs, targets := ts ++ [t] } }))
  | [], [], t :: ts, _ => do
    let text ← a.textFor t
    return fun a =>
      match text.bind (a.perform (some c.saved.displaced) t) with
      | .error reason => a.refuseRedirection c reason
      | .ok (a, kept) =>
        let saved := { c.saved with displaced := kept.getD [] }
        a.pursue (.call { c with openings := { left := [], targets := ts }, saved := saved })
  | [], [], [], (name, w) :: rest => do
    let value ← Shell.expandValue w
    return (·.assignFor c name value rest)
  | [], [], [], [] =>
    if a.memory.has .trace ∧ !c.isTraced ∧ !a.shell.isTracing then do
      let front ← Shell.expandDocument (Shell.promptOf ((a.memory.get? "PS4").getD ""))
      return fun a => (a.trace c front).pursue (.call { c with isTraced := true })
    else return (·.runCall c)

end Actor
end BuildRunner.Host
