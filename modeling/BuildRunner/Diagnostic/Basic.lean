set_option autoImplicit false

/-! # Diagnostics

A diagnostic says something about a range of one file. Lines and columns count from zero in
32 bits; the compiler counts them from one, so each is reduced by one on the way in, where
zero stays zero, and raised by one on the way out.
-/

namespace BuildRunner

/-- How grave a diagnostic is. -/
inductive Severity where
  | error
  | warning
  | information
  | hint
deriving Repr, DecidableEq

namespace Severity

/-- The severities from the gravest on. -/
def all : List Severity := [.error, .warning, .information, .hint]

def rank : Severity → Nat
  | .error => 0
  | .warning => 1
  | .information => 2
  | .hint => 3

/-- The severity of a compiler's level; any level it does not know is an error. -/
def ofLevel (level : String) : Severity :=
  if level = "warning" then .warning
  else if level = "note" then .information
  else if level = "help" then .hint
  else .error

/-- Whether `s` is at least as grave as `t`. -/
def le (s t : Severity) : Bool := s.rank ≤ t.rank

/-- The word that a person reads. -/
def label : Severity → String
  | .error => "error"
  | .warning => "warning"
  | .information => "info"
  | .hint => "hint"

/-- The name that a machine reads. -/
def name : Severity → String
  | .error => "Error"
  | .warning => "Warning"
  | .information => "Information"
  | .hint => "Hint"

end Severity

/-- A position in a file, counted from zero. -/
structure Position where
  line : UInt32
  column : UInt32
deriving Repr, DecidableEq

/-- Whether `p` comes before `q` or is `q`: lines decide before columns. -/
def Position.le (p q : Position) : Bool :=
  p.line < q.line || (p.line == q.line && p.column ≤ q.column)

structure Range where
  start : Position
  stop : Position
deriving Repr, DecidableEq

/-- A number counted from one as the same number counted from zero; zero stays zero. -/
def fromOne (n : UInt32) : UInt32 := if n = 0 then 0 else n - 1

def Range.ofOneBased (lineStart columnStart lineEnd columnEnd : UInt32) : Range :=
  ⟨⟨fromOne lineStart, fromOne columnStart⟩, ⟨fromOne lineEnd, fromOne columnEnd⟩⟩

/-- What is said about a part of a file. -/
structure Diagnostic where
  /-- The file as the tool names it, usually seen from the working directory. -/
  filePath : String
  range : Range
  message : String
  severity : Severity
deriving Repr, DecidableEq

end BuildRunner
