import BuildRunner.Diagnostic.Basic
import BuildRunner.Path

set_option autoImplicit false

/-! # Collected diagnostics

The diagnostics of a task, file by file. A diagnostic is entered under the path that its file
has when it is seen from the working directory. Files are in the order of paths; spellings of
the same path share an entry, which keeps the spelling it was made with. Within an entry the
diagnostics are in the order in which they were published.
-/

namespace BuildRunner

/-- What is known about the files: a path with its diagnostics, for each file. -/
structure Collected where
  files : List (String × List Diagnostic) := []
deriving Repr, DecidableEq

namespace Collected

def empty : Collected := {}

/-- Enters a diagnostic at the place of its path. -/
def enter (path : String) (d : Diagnostic) :
    List (String × List Diagnostic) → List (String × List Diagnostic)
  | [] => [(path, [d])]
  | (q, ds) :: rest =>
    match Path.compare path q with
    | .lt => (path, [d]) :: (q, ds) :: rest
    | .eq => (q, ds ++ [d]) :: rest
    | .gt => (q, ds) :: enter path d rest

/-- Adds a diagnostic that was published for a working directory. -/
def publish (c : Collected) (dir : String) (d : Diagnostic) : Collected :=
  ⟨enter (Path.join dir d.filePath) d c.files⟩

/-- The diagnostics of the file at `path`, under whatever spelling. -/
def forFile (c : Collected) (path : String) : List Diagnostic :=
  match c.files.find? fun f => Path.compare path f.1 = .eq with
  | some f => f.2
  | none => []

/-- All diagnostics, in the order of their files. -/
def toList (c : Collected) : List Diagnostic := c.files.flatMap (·.2)

def size (c : Collected) : Nat := c.toList.length

def isEmpty (c : Collected) : Bool := c.size = 0

def count (c : Collected) (s : Severity) : Nat := c.toList.countP fun d => d.severity = s

/-- The number of diagnostics that are neither errors nor warnings. -/
def others (c : Collected) : Nat := c.size - (c.count .error + c.count .warning)

end Collected
end BuildRunner
