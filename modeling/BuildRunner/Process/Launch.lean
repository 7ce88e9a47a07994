import BuildRunner.Config.Basic

set_option autoImplicit false

/-! # Launches

What is needed to launch a process: the program, a subcommand with its arguments, a directory to
work in, and variables that win over those of the caller.
-/

namespace BuildRunner

/-- One launch of the tool. -/
structure Launch where
  program : String
  command : String
  args : List String := []
  workingDirectory : String
  assignments : Environment := []
deriving Repr, DecidableEq

namespace Launch

def withArgs (l : Launch) (args : List String) : Launch := { l with args := l.args ++ args }

def withVariables (l : Launch) (env : Environment) : Launch :=
  { l with assignments := l.assignments.setAll env }

/-- All arguments of the process: the subcommand and what follows it. -/
def arguments (l : Launch) : List String := l.command :: l.args

/-- The words of the command line with a blank between them, as a person reads it. -/
def commandLine (l : Launch) : String := String.intercalate " " (l.program :: l.arguments)

end Launch
end BuildRunner
