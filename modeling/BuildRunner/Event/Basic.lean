set_option autoImplicit false

/-! # Tool events

The events that the build tool writes as JSON, one to a line. Only a compiler message
carries something to report; it points into files by spans and may have child messages. A
span that comes out of a macro says from where, so spans contain spans. Positions count from
one, and an empty label is no label.
-/

namespace BuildRunner

/-- A source line with the columns that are highlighted in it. -/
structure SpanText where
  text : String := ""
  highlightStart : UInt32 := 0
  highlightEnd : UInt32 := 0
deriving Repr, DecidableEq

/-- How a span of kind `α` came out of a macro. -/
structure Expansion (α : Type) where
  /-- Where the macro was called. -/
  span : α
  /-- The name of the macro. -/
  macroName : String := ""
  /-- Where the macro is defined, if that is known. -/
  definition : Option α := none
deriving Repr

/-- A part of a source file. -/
structure Span where
  fileName : String := ""
  byteStart : UInt32 := 0
  byteEnd : UInt32 := 0
  lineStart : UInt32 := 0
  lineEnd : UInt32 := 0
  columnStart : UInt32 := 0
  columnEnd : UInt32 := 0
  /-- Whether the message is about this span; other spans help to explain it. -/
  isPrimary : Bool := false
  label : Option String := none
  expansion : Option (Expansion Span) := none
  text : List SpanText := []
deriving Repr

/-- A message that explains another one. -/
structure Child where
  level : String := ""
  message : String := ""
  children : List Child := []
deriving Repr

structure CompilerMessage where
  level : String := ""
  message : String := ""
  code : Option String := none
  spans : List Span := []
  children : List Child := []
deriving Repr

/-- Whether a message is reported at each of its spans: it has several, or its only one came
out of a macro. -/
def CompilerMessage.isComplex (m : CompilerMessage) : Bool :=
  match m.spans with
  | [] => false
  | [only] => only.expansion.isSome
  | _ => true

inductive ToolEvent where
  | compilerMessage (message : CompilerMessage)
  | other
deriving Repr

/-- The compiler message of an event, if it carries one. -/
def ToolEvent.message? : ToolEvent → Option CompilerMessage
  | .compilerMessage m => some m
  | .other => none

end BuildRunner
