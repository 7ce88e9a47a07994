import BuildRunner.Diagnostic.Basic
import BuildRunner.Event.Line

set_option autoImplicit false

/-! # Diagnostics from events

A message without spans yields nothing and one with a single plain span one diagnostic. Any
other message with spans is complex. Complex messages are numbered from one on, and each
yields a diagnostic for every primary span and for every other span that has a label; all of
them start with the number in parentheses, so that they can be told to belong together.

The diagnostic of a primary span holds the whole message: code, message, label and the child
messages, each on a line of its own and indented by its depth. That of another span holds its
label alone.
-/

namespace BuildRunner

/-! ## Child messages -/

/-- Two spaces for each level of depth. -/
def indent (depth : Nat) : String := String.ofList (List.replicate (2 * depth) ' ')

mutual

/-- A child message and its children, each on a new line. -/
def Child.render (depth : Nat) : Child → String
  | ⟨level, message, children⟩ =>
    "\n" ++ indent depth ++ level ++ ": " ++ message ++ Child.renderAll (depth + 1) children
termination_by structural c => c

def Child.renderAll (depth : Nat) : List Child → String
  | [] => ""
  | c :: cs => Child.render depth c ++ Child.renderAll depth cs
termination_by structural cs => cs

end

/-! ## The text at a span -/

/-- A code before the message. -/
def codePart : Option String → String
  | none => ""
  | some code => code ++ ": "

/-- A label behind the message. -/
def labelPart : Option String → String
  | none => ""
  | some label => "\n" ++ label

def CompilerMessage.textAt (m : CompilerMessage) (s : Span) : String :=
  codePart m.code ++ m.message ++ labelPart s.label ++ Child.renderAll 1 m.children

def Span.range (s : Span) : Range :=
  .ofOneBased s.lineStart s.columnStart s.lineEnd s.columnEnd

def Span.diagnostic (s : Span) (severity : Severity) (text : String) : Diagnostic :=
  ⟨s.fileName, s.range, text, severity⟩

/-! ## Numbers -/

/-- The mark at the start of the diagnostics of the `n`-th complex message. -/
def mark (n : UInt32) : String := "(" ++ toString n.toNat ++ ") "

/-- The diagnostic of a complex message at one of its spans, if it has one there. -/
def CompilerMessage.diagnosticAt (m : CompilerMessage) (n : UInt32) (s : Span) :
    Option Diagnostic :=
  let severity := Severity.ofLevel m.level
  if s.isPrimary then some (s.diagnostic severity (mark n ++ m.textAt s))
  else s.label.map fun label => s.diagnostic severity (mark n ++ label)

/-- The number of complex messages seen so far. -/
structure Numbering where
  count : UInt32 := 0
deriving Repr, DecidableEq

namespace Numbering

/-- The diagnostics of a message and the numbering after it. -/
def ofMessage (n : Numbering) (m : CompilerMessage) : List Diagnostic × Numbering :=
  match m.spans with
  | [] => ([], n)
  | s :: _ =>
    if m.isComplex then
      let k := n.count + 1
      (m.spans.filterMap (m.diagnosticAt k), ⟨k⟩)
    else ([s.diagnostic (Severity.ofLevel m.level) (m.textAt s)], n)

def ofEvent (n : Numbering) (e : ToolEvent) : List Diagnostic × Numbering :=
  match e.message? with
  | some m => n.ofMessage m
  | none => ([], n)

/-- The diagnostics of a line and the numbering after it; a line that is no event leaves the
numbering as it is. -/
def ofLine (n : Numbering) (line : String) : Except Malformed (List Diagnostic) × Numbering :=
  match ToolEvent.ofLine line with
  | .error reason => (.error ⟨line, reason⟩, n)
  | .ok e =>
    let (ds, n) := n.ofEvent e
    (.ok ds, n)

/-- The results of the lines of a stream, each with the numbering after it. -/
def ofLines (n : Numbering) : List String → List (Except Malformed (List Diagnostic) × Numbering)
  | [] => []
  | line :: lines =>
    let r := n.ofLine line
    r :: r.2.ofLines lines

end Numbering
end BuildRunner
