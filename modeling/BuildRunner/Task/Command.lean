set_option autoImplicit false

/-! # Subcommands and their arguments

The subcommands that can report as JSON are given the flags that make them do so, in front
of their own arguments. What `check` covers is a setting; a tool that has no `check` is made
to do the same by another subcommand.
-/

namespace BuildRunner

/-- The flags that make the tool write JSON, one event to a line. -/
def messageFormatFlags : List String := ["--message-format", "json"]

/-- The subcommands that understand those flags. -/
def reportingCommands : List String := ["build", "check", "clippy", "run", "test"]

def reportsJson (command : String) : Bool := reportingCommands.contains command

/-- The arguments behind a subcommand, with the flags in front if it understands them. -/
def augment (command : String) (args : List String) : List String :=
  (if reportsJson command then messageFormatFlags else []) ++ args

/-- What `check` covers. -/
inductive CheckTarget where
  /-- Every target of the package. -/
  | all
  /-- The library alone. -/
  | library
deriving Repr, DecidableEq

namespace CheckTarget

def every : List CheckTarget := [.all, .library]

def name : CheckTarget → String
  | .all => "all"
  | .library => "library"

def ofName? (s : String) : Option CheckTarget := every.find? fun t => t.name = s

/-- The arguments that restrict `check` to a target. -/
def flags : CheckTarget → List String
  | .all => []
  | .library => ["--lib"]

end CheckTarget

/-- Whether the tool has a `check` subcommand. -/
inductive CheckSupport where
  | supported
  | unsupported
deriving Repr, DecidableEq

def CheckSupport.commandFor (s : CheckSupport) (t : CheckTarget) : String × List String :=
  match s with
  | .supported => ("check", t.flags)
  | .unsupported => ("rustc", t.flags ++ ["--", "-Zno-trans"])

end BuildRunner
