import BuildRunner.Event.Decode

set_option autoImplicit false

/-! # Encoding events

The JSON trees that events are written as. A record is an object of all its fields in their
order; what is not there is null.
-/

namespace BuildRunner

open Json (word)

def Json.ofText? : Option String → Json
  | none => .null
  | some s => .string s

def SpanText.toJson (t : SpanText) : Json :=
  .object [(Field.text.key, .string t.text), (Field.highlightStart.key, word t.highlightStart),
    (Field.highlightEnd.key, word t.highlightEnd)]

mutual

def Span.toJson : Span → Json
  | ⟨fileName, byteStart, byteEnd, lineStart, lineEnd, columnStart, columnEnd, isPrimary, label,
      expansion, text⟩ =>
    .object [
      (Span.Field.fileName.key, .string fileName),
      (Span.Field.byteStart.key, word byteStart),
      (Span.Field.byteEnd.key, word byteEnd),
      (Span.Field.lineStart.key, word lineStart),
      (Span.Field.lineEnd.key, word lineEnd),
      (Span.Field.columnStart.key, word columnStart),
      (Span.Field.columnEnd.key, word columnEnd),
      (Span.Field.isPrimary.key, .bool isPrimary),
      (Span.Field.label.key, Json.ofText? label),
      (Span.Field.expansion.key, Expansion.toJson? expansion),
      (Span.Field.text.key, .array (text.map SpanText.toJson))]
termination_by structural s => s

/-- The tree of an expansion, or null. -/
def Expansion.toJson? : Option (Expansion Span) → Json
  | none => .null
  | some ⟨span, macroName, definition⟩ =>
    .object [
      (Expansion.Field.span.key, Span.toJson span),
      (Expansion.Field.macroName.key, .string macroName),
      (Expansion.Field.definition.key, Span.toJson? definition)]
termination_by structural e => e

def Span.toJson? : Option Span → Json
  | none => .null
  | some s => Span.toJson s
termination_by structural s => s

end

def Expansion.toJson (e : Expansion Span) : Json := Expansion.toJson? (some e)

mutual

def Child.toJson : Child → Json
  | ⟨level, message, children⟩ =>
    .object [
      (Child.Field.level.key, .string level),
      (Child.Field.message.key, .string message),
      (Child.Field.children.key, .array (Child.listToJson children))]
termination_by structural c => c

def Child.listToJson : List Child → List Json
  | [] => []
  | c :: cs => Child.toJson c :: Child.listToJson cs
termination_by structural cs => cs

end

def CompilerMessage.toJson (m : CompilerMessage) : Json :=
  .object [
    (Field.level.key, .string m.level),
    (Field.message.key, .string m.message),
    (Field.code.key, Json.ofText? m.code),
    (Field.spans.key, .array (m.spans.map Span.toJson)),
    (Field.children.key, .array (Child.listToJson m.children))]

/-- The reason written for an event that carries nothing. -/
def ToolEvent.otherReason : String := "other"

def ToolEvent.toJson : ToolEvent → Json
  | .compilerMessage m =>
    .object [(reasonKey, .string compilerMessageReason), (messageKey, m.toJson)]
  | .other => .object [(reasonKey, .string otherReason)]

end BuildRunner
