import BuildRunner.Console.Line
import BuildRunner.Proofs.Diagnostic.Splitting
import BuildRunner.Proofs.Event.Schema

set_option autoImplicit false

/-! # Positions from the wire to the console

The compiler counts lines and columns from one, a diagnostic from zero, and the console from one
again. A diagnostic stands at the span that it comes from (`Diagnostic.StandsAt`), where each number
is one less and zero stays zero. So there is always room for the one that is added when the number
is printed, and the printed number is that of the span, or one where the span has zero
(`Diagnostic.StandsAt.shownAt`).
-/

namespace BuildRunner

open Json (Given asWord)
open CompilerMessage (valuesOf)

variable {m : CompilerMessage} {s : Span} {d : Diagnostic} {k : UInt32}

/-! ## One diagnostic -/

theorem Position.le_iff {p q : Position} :
    p.le q = true ↔ p.line < q.line ∨ p.line = q.line ∧ p.column ≤ q.column := by
  simp [Position.le]

/-- **A diagnostic is shown at a span**: in its file, with its first position counted from one, where
neither addition overflows, and with an end that is not before the start if that holds of the
span. -/
structure Diagnostic.ShownAt (d : Diagnostic) (s : Span) : Prop where
  file : d.filePath = s.fileName
  line_fits : (d.range.start.line + 1).toNat = Console.toOne d.range.start.line
  column_fits : (d.range.start.column + 1).toNat = Console.toOne d.range.start.column
  printed : ∀ path, Console.diagnostic path d = ⟨.output, Console.bold path ++ ":" ++
    toString (max 1 s.lineStart.toNat) ++ ":" ++ toString (max 1 s.columnStart.toNat) ++ ": " ++
    Console.tag d.severity ++ ": " ++ d.message⟩
  ordered : 1 ≤ s.lineStart → 1 ≤ s.columnStart → 1 ≤ s.lineEnd → 1 ≤ s.columnEnd →
    s.lineStart < s.lineEnd ∨ s.lineStart = s.lineEnd ∧ s.columnStart ≤ s.columnEnd →
    d.range.start.le d.range.stop = true

/-- There is room above a number that was reduced by one. -/
theorem toNat_add_one_of_pred {n wire : UInt32} (h : n.toNat = wire.toNat - 1) :
    (n + 1).toNat = Console.toOne n := by
  have bound := wire.toNat_lt
  rw [UInt32.toNat_add, UInt32.toNat_one]
  exact Nat.mod_eq_of_lt (by omega)

theorem toOne_of_pred {n wire : UInt32} (h : n.toNat = wire.toNat - 1) :
    Console.toOne n = max 1 wire.toNat := by
  rw [Console.toOne, h]
  omega

/-- **What stands at a span is shown there.** -/
theorem Diagnostic.StandsAt.shownAt (h : d.StandsAt s) : d.ShownAt s where
  file := h.file
  line_fits := toNat_add_one_of_pred h.startLine
  column_fits := toNat_add_one_of_pred h.startColumn
  printed path := by
    rw [Console.diagnostic, toOne_of_pred h.startLine, toOne_of_pred h.startColumn]
  ordered lineStart columnStart lineEnd columnEnd order := by
    -- All numbers are one less, so their order stays as it was.
    simp only [UInt32.le_iff_toNat_le, UInt32.lt_iff_toNat_lt, ← UInt32.toNat_inj, UInt32.toNat_one,
      Position.le_iff] at *
    have startLine := h.startLine
    have startColumn := h.startColumn
    have stopLine := h.stopLine
    have stopColumn := h.stopColumn
    omega

/-! ## The diagnostics of a line -/

/-- **The spans at which a message is reported**, in order: those that are primary or have a label if
the message is complex, and otherwise its only one. -/
def CompilerMessage.reported (m : CompilerMessage) : List Span :=
  if m.isComplex then m.spans.filter fun s => s.isPrimary || s.label.isSome else m.spans

theorem CompilerMessage.standsAt_diagnosticAt (m : CompilerMessage) (k : UInt32) (ss : List Span) :
    List.Forall₂ Diagnostic.StandsAt (ss.filterMap (m.diagnosticAt k))
      (ss.filter fun s => s.isPrimary || s.label.isSome) := by
  induction ss with
  | nil => exact .nil
  | cons s ss ih =>
      have found := m.isSome_diagnosticAt k s
      rw [List.filterMap_cons, List.filter_cons]
      cases h : m.diagnosticAt k s with
      | none => rwa [if_neg (by simp [← found, h])]
      | some d =>
          rw [if_pos (by simp [← found, h])]
          exact .cons (of_diagnosticAt h).1 ih

/-- **Every diagnostic of a message stands at the span that it comes from.** -/
theorem Numbering.standsAt_ofEvent (n : Numbering) (m : CompilerMessage) :
    List.Forall₂ Diagnostic.StandsAt (n.ofEvent (.compilerMessage m)).1 m.reported := by
  by_cases complex : m.isComplex = true
  · rw [n.ofEvent_complex complex, CompilerMessage.reported, if_pos complex]
    exact m.standsAt_diagnosticAt _ _
  · -- With two spans or more it would be complex.
    rw [CompilerMessage.reported, if_neg complex]
    match spans : m.spans with
    | [] => simp [ofEvent, ToolEvent.message?, ofMessage, spans]
    | [s] =>
        have plain : s.expansion = none := by simpa [CompilerMessage.isComplex, spans] using complex
        rw [n.ofEvent_simple spans plain]
        exact .cons (s.standsAt_diagnostic _ _) .nil
    | _ :: _ :: _ => simp [CompilerMessage.isComplex, spans] at complex

/-! ## The wire -/

/-- **The positions of a span are those of its object**: what a field gives, and zero where there is
none. -/
theorem Span.positions_of_object {ms : List (String × Json)} (h : Span.ofJson (.object ms) = .ok s) :
    Given asWord (some 0) (valuesOf "line_start" ms) s.lineStart ∧
    Given asWord (some 0) (valuesOf "column_start" ms) s.columnStart ∧
    Given asWord (some 0) (valuesOf "line_end" ms) s.lineEnd ∧
    Given asWord (some 0) (valuesOf "column_end" ms) s.columnEnd := by
  obtain ⟨b, given, rfl⟩ := (Part.span.decode_object).mp h
  exact ⟨given .lineStart, given .columnStart, given .lineEnd, given .columnEnd⟩

/-! ## Every line -/

/-- **Positions survive from the wire to the console.**

A line that is accepted is an event, and its diagnostics are those of the spans at which the event is
reported, one for each in their order. Every diagnostic is shown at its span: the numbers on the
console are those of the span, or one for zero, and making them out of the numbers of the diagnostic
never overflows. The range of a diagnostic does not end before it starts if its span does not, and
counts from one. The numbers of a span are those of its object, and zero where a field is
missing. -/
theorem positions_survive {n n' : Numbering} {line : String} {ds : List Diagnostic}
    (accepted : n.ofLine line = (.ok ds, n')) :
    (∃ e, ToolEvent.ofLine line = .ok e ∧
      List.Forall₂ Diagnostic.ShownAt ds (e.message?.elim [] CompilerMessage.reported)) ∧
    (∀ ms s, Span.ofJson (.object ms) = .ok s →
      Given asWord (some 0) (valuesOf "line_start" ms) s.lineStart ∧
      Given asWord (some 0) (valuesOf "column_start" ms) s.columnStart ∧
      Given asWord (some 0) (valuesOf "line_end" ms) s.lineEnd ∧
      Given asWord (some 0) (valuesOf "column_end" ms) s.columnEnd) := by
  refine ⟨?_, fun ms s read => Span.positions_of_object read⟩
  obtain ⟨e, read, given⟩ := Numbering.exists_event accepted
  obtain rfl : (n.ofEvent e).1 = ds := congrArg Prod.fst given
  refine ⟨e, read, ?_⟩
  cases e with
  | other => exact .nil
  | compilerMessage m => exact (n.standsAt_ofEvent m).imp fun _ _ stands => stands.shownAt

/-- A primary span without its line and in the last column that there is, a span that is not
reported, and a label in the last line. -/
def extremes : String :=
  "\x7b\"reason\":\"compiler-message\",\"message\":\x7b\"spans\":[" ++
    "\x7b\"column_start\":4294967295,\"is_primary\":true\x7d,\x7b\"line_start\":7\x7d," ++
    "\x7b\"line_start\":4294967295,\"column_start\":0,\"label\":\"here\"\x7d]\x7d\x7d"

theorem positions_survive_extremes :
    ∃ ds n, Numbering.ofLine {} extremes = (.ok ds, n) ∧
      (ds.map fun d => (Console.toOne d.range.start.line, Console.toOne d.range.start.column)) =
        [(1, 4294967295), (4294967295, 1)] ∧
      ∀ d ∈ ds, (d.range.start.line + 1).toNat = Console.toOne d.range.start.line := by
  have computed : ((Numbering.ofLine {} extremes).1.toOption.map fun ds => ds.map fun d =>
      (Console.toOne d.range.start.line, Console.toOne d.range.start.column)) =
      some [(1, 4294967295), (4294967295, 1)] := by
    decide +kernel
  rcases h : Numbering.ofLine {} extremes with ⟨_ | ds, n⟩
  · rw [h] at computed
    cases computed
  · rw [h] at computed
    obtain ⟨⟨e, -, shown⟩, -⟩ := positions_survive h
    have fits := shown.imp fun d s at_span => And.intro at_span.line_fits at_span
    exact ⟨ds, n, rfl, Option.some.inj computed, (List.forall₂_and_left _ _).mp fits |>.1⟩

end BuildRunner
