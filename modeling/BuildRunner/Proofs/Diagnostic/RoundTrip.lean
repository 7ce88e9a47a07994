import BuildRunner.Diagnostic.Json
import BuildRunner.Proofs.Event.RoundTrip

set_option autoImplicit false

/-! # The wire format takes back what it gives

Events and diagnostics are written as trees and read from trees. What was written is read as the same
value, with one exception: an empty label is no label to a reader. A reader accepts more than a
writer writes: missing fields, lists for records, an object for a code, empty labels. All this is
gone once it has been read, so that reading, writing and reading again is reading
(`wire_round_trip`).
-/

namespace BuildRunner

open Json (RoundTrip roundTrip_of fill_vacant asText_string asWord_word ok_bind)

/-! ## Diagnostics -/

theorem Severity.ofJson_toJson (s : Severity) : ofJson s.toJson = .ok s := by
  cases s <;> rfl

namespace Position

def slot (p : Position) : Field → Json
  | .line => Json.word p.line
  | .column => Json.word p.column

theorem ofJson_toJson (p : Position) : ofJson p.toJson = .ok p := by
  refine record.ofJson_fields p.slot (by decide) (d := ⟨some p.line, some p.column⟩) ?_ rfl
  simp only [record, Field.all, List.foldlM_cons, List.foldlM_nil, slot, Draft.put, bind_assoc,
    pure_bind, ok_bind, fill_vacant (asWord_word _)]
  rfl

end Position

namespace Range

def slot (r : Range) : Field → Json
  | .start => r.start.toJson
  | .stop => r.stop.toJson

theorem ofJson_toJson (r : Range) : ofJson r.toJson = .ok r := by
  refine record.ofJson_fields r.slot (by decide) (d := ⟨some r.start, some r.stop⟩) ?_ rfl
  simp only [record, Field.all, List.foldlM_cons, List.foldlM_nil, slot, Draft.put, bind_assoc,
    pure_bind, ok_bind, fill_vacant (Position.ofJson_toJson _)]
  rfl

end Range

namespace Diagnostic

def slot (d : Diagnostic) : Field → Json
  | .filePath => .string d.filePath
  | .range => d.range.toJson
  | .message => .string d.message
  | .severity => d.severity.toJson

theorem ofJson_toJson (d : Diagnostic) : ofJson d.toJson = .ok d := by
  refine record.ofJson_fields d.slot (by decide)
    (d := ⟨some d.filePath, some d.range, some d.message, some d.severity⟩) ?_ rfl
  simp only [record, Field.all, List.foldlM_cons, List.foldlM_nil, slot, Draft.put, bind_assoc,
    pure_bind, ok_bind, fill_vacant (asText_string _), fill_vacant (Range.ofJson_toJson _),
    fill_vacant (Severity.ofJson_toJson _)]
  rfl

end Diagnostic

/-! ## All of the wire -/

/-- **The wire format takes back what it gives.** Each kind of value makes a round trip: events,
compiler messages, spans and expansions if none of their labels is empty, however deep it is, and the
others always. Nothing else is read than values that make the round trip, and whatever tree a value
was read from, what is written for it is read as it again. -/
theorem wire_round_trip :
    RoundTrip ToolEvent.toJson ToolEvent.ofJson (fun e => "" ∉ e.labels) ∧
    RoundTrip CompilerMessage.toJson CompilerMessage.ofJson (fun m => "" ∉ m.labels) ∧
    RoundTrip Child.toJson Child.ofJson (fun _ => True) ∧
    RoundTrip Span.toJson Span.ofJson (fun s => "" ∉ s.labels) ∧
    RoundTrip Expansion.toJson Expansion.ofJson (fun e => "" ∉ e.labels) ∧
    RoundTrip SpanText.toJson SpanText.ofJson (fun _ => True) ∧
    RoundTrip Diagnostic.toJson Diagnostic.ofJson (fun _ => True) := by
  refine ⟨?_, ?_, ?_, ?_, ?_, ?_, ?_⟩
  · exact roundTrip_of ToolEvent.ofJson_toJson fun _ _ => ToolEvent.labels_kept
  · exact roundTrip_of CompilerMessage.ofJson_toJson fun _ _ => CompilerMessage.labels_kept
  · exact roundTrip_of (fun c _ => c.ofJson_toJson) fun _ _ _ => trivial
  · exact roundTrip_of Span.ofJson_toJson fun _ _ => Span.labels_kept
  · exact roundTrip_of Expansion.ofJson_toJson fun _ _ => Expansion.labels_kept
  · exact roundTrip_of (fun t _ => t.ofJson_toJson) fun _ _ _ => trivial
  · exact roundTrip_of (fun d _ => d.ofJson_toJson) fun _ _ _ => trivial

/-- A message in the list form, with an object for its code and an empty label in its only span, is
read; its label and its missing fields have their defaults. -/
example : ToolEvent.ofJson (.array [.string "compiler-message", .object [
      ("code", .object [("code", .string "E0384"), ("explanation", .string "")]),
      ("spans", .array [.array [.string "src/lib.rs"], .object [("label", .string "")]])]]) =
    .ok (.compilerMessage
      { code := some "E0384", spans := [{ fileName := "src/lib.rs" }, {}] }) := rfl

end BuildRunner
