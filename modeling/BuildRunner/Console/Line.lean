import BuildRunner.Console.Style
import BuildRunner.Diagnostic.Collected

set_option autoImplicit false

/-! # Lines on the console

The lines that are shown to a person. Diagnostics, counts and the output of the tool go to the
standard output, notices and errors to the standard error. Positions are shown counted from
one.
-/

namespace BuildRunner.Console

/-- Where a line is printed. -/
inductive Stream where
  | output
  | error
deriving Repr, DecidableEq

/-- A printed text; the line feed after it is left out. -/
structure Printed where
  stream : Stream
  text : String
deriving Repr, DecidableEq

def written (s : Stream) (ps : List Printed) : String :=
  String.join ((ps.filter (·.stream = s)).map fun p => p.text ++ "\n")

/-- The word for a severity in its colour. -/
def tag : Severity → String
  | .error => bold (coloured .red Severity.error.label)
  | .warning => bold (coloured .yellow Severity.warning.label)
  | .information => coloured .blue Severity.information.label
  | .hint => coloured .green Severity.hint.label

/-- A number counted from zero as the same number counted from one. -/
def toOne (n : UInt32) : Nat := n.toNat + 1

/-- A diagnostic under the path of its file. -/
def diagnostic (path : String) (d : Diagnostic) : Printed :=
  ⟨.output, bold path ++ ":" ++ toString (toOne d.range.start.line) ++ ":" ++
    toString (toOne d.range.start.column) ++ ": " ++ tag d.severity ++ ": " ++ d.message⟩

/-- A diagnostic whose file is seen from a working directory. -/
def published (dir : String) (d : Diagnostic) : Printed := diagnostic (Path.join dir d.filePath) d

def summaryLabel : String := bold (coloured .blue "[SUMMARY]")

/-- How many errors, warnings and other diagnostics there are. -/
def summary (errors warnings others : Nat) : Printed :=
  ⟨.output, summaryLabel ++ " " ++ coloured .red (toString errors) ++ " error(s), " ++
    coloured .yellow (toString warnings) ++ " warning(s), " ++ toString others ++ " note(s)"⟩

/-- How many diagnostics a task had. -/
def count (n : Nat) : Printed := ⟨.output, summaryLabel ++ " " ++ toString n ++ " diagnostic(s)"⟩

def output (line : String) : Printed := ⟨.output, line⟩

def notice (time message : String) : Printed :=
  ⟨.error, dim time ++ " " ++ bold (coloured .yellow "[NOTICE]") ++ " " ++ message⟩

def error (message : String) : Printed :=
  ⟨.error, bold (coloured .red "[ERROR]") ++ " " ++ coloured .red message⟩

def report (c : Collected) : List Printed :=
  (c.files.flatMap fun f => f.2.map (diagnostic f.1)) ++
    [summary (c.count .error) (c.count .warning) c.others]

end BuildRunner.Console
