import BuildRunner.Path
import BuildRunner.Task.Command

set_option autoImplicit false

/-! # Configuration

Which tool is run, in which environment, and what `check` covers. An environment is a list
of variables in the order in which they were first set, each once.
-/

namespace BuildRunner

abbrev Environment := List (String × String)

namespace Environment

/-- Sets a variable: a new one comes last, one that is there keeps its place. -/
def set (env : Environment) (name value : String) : Environment :=
  match env with
  | [] => [(name, value)]
  | (n, v) :: rest => if n = name then (n, value) :: rest else (n, v) :: set rest name value

def get? (env : Environment) (name : String) : Option String := env.lookup name

def setAll (env overrides : Environment) : Environment :=
  overrides.foldl (fun e (n, v) => set e n v) env

/-- The directory for a user's settings that variables name: one that is named itself has to be
absolute, else it is inside of the home directory. -/
def settingsDirectory? (env : Environment) : Option String :=
  match env.get? "XDG_CONFIG_HOME" with
  | some dir => if Path.isAbsolute dir then some dir else inHome
  | none => inHome
where
  inHome : Option String :=
    (env.get? "HOME").bind fun home => if home = "" then none else some (Path.join home ".config")

end Environment

structure Config where
  /-- The tool to launch. -/
  toolPath : String := "cargo"
  /-- The home directory of the tool, exported to it. -/
  toolHome : Option String := none
  /-- More variables for the tool. -/
  assignments : Environment := []
  /-- What `check` covers. -/
  checkTarget : CheckTarget := .all
deriving Repr, DecidableEq

def toolHomeVariable : String := "CARGO_HOME"

/-- The variables that the tool gets in addition to those of its caller; the home directory
wins over a variable of the same name. -/
def Config.environment (c : Config) : Environment :=
  match c.toolHome with
  | none => c.assignments
  | some home => c.assignments.set toolHomeVariable home

end BuildRunner
