import BuildRunner.Host.Builtin.Variable
import BuildRunner.Shell.Builtin.Directory
import BuildRunner.Shell.Builtin.Limit
import BuildRunner.Shell.Builtin.Mask

set_option autoImplicit false

/-! # Commands on the surroundings of a shell

The commands that show or change the working directory, the permissions of new files and the
limits.
-/

namespace BuildRunner.Host

open Shell (Directory.candidates Directory.path)

namespace Actor

def leadsToDirectory (a : Actor) (path : String) : Bool :=
  a.host.files.isDirectoryAt a.self.directory (widen path)

/-- Goes to the directory at a path. Unless it goes by the files alone, dots in the path are taken
away first. -/
def enter (a : Actor) (physical : Bool) (target : String) : Option Actor :=
  let path := if physical then target else Directory.path a.shell.directory target
  match a.host.files.locate a.self.directory (widen path) with
  | .error _ => none
  | .ok p =>
    if a.host.files.isDirectory p then
      let named := if physical then narrowText p.path else path
      let m := (a.memory.set "OLDPWD" a.shell.directory).share "OLDPWD"
      let m := (m.set "PWD" named).share "PWD"
      let a := { a with
        self := { a.self with directory := some p }
        shell := { a.shell with directory := named } }
      some (a.withMemory m)
    else none

/-- Whether the last of two options asks for names without detours. -/
def isPhysical (flags : Shell.Flags) : Bool := flags.given.getLast?.map (·.1) = some 'P'

def changeDirectory (a : Actor) (args : List String) : Actor :=
  a.withFlags { plain := "LP" } args fun flags =>
    let back := flags.left.head? = some "-"
    let wish := if back then a.memory.get? "OLDPWD"
      else flags.left.head?.orElse fun _ => a.memory.get? "HOME"
    let target := wish.getD ""
    let named := if target = "" then "." else target
    let candidates := Directory.candidates (a.memory.get? "CDPATH") named
    let (path, shown) := (candidates.find? fun c => a.leadsToDirectory c.1).getD (named, false)
    match a.enter (isPhysical flags) path with
    | none => a.refuse ("can't cd to " ++ target)
    | some a => a.say (if shown || back then a.shell.directory ++ "\n" else "") 0

def showDirectory (a : Actor) (args : List String) : Actor :=
  a.withFlags { plain := "LP" } args fun flags =>
    let own := (a.self.directory.map fun p => narrowText p.path).getD ""
    a.say ((if isPhysical flags then own else a.shell.directory) ++ "\n") 0

/-- Shows or sets the permissions that new files do not get. -/
def mask (a : Actor) (args : List String) : Actor :=
  a.withFlags { plain := "S" } args fun flags =>
    match flags.left with
    | [] =>
      let m := a.self.mask
      a.say ((if flags.has 'S' then Shell.Mask.symbolic m else Shell.Mask.octal m) ++ "\n") 0
    | text :: _ =>
      match Shell.Mask.read a.self.mask text with
      | .ok m => { a with self := { a.self with mask := m } }.done 0
      | .error reason => a.refuse reason

def limit (a : Actor) (args : List String) : Actor :=
  match Shell.Limit.run a.self.limits args with
  | .ok (shown, limits) => { a with self := { a.self with limits := limits } }.say shown 0
  | .error reason => a.refuse reason

end Actor
end BuildRunner.Host
