import BuildRunner.Proofs.Diagnostic.Numbering
import Mathlib.Algebra.Group.Nat.Defs
import Mathlib.Data.List.Forall2

set_option autoImplicit false

/-! # The diagnostics of a message

A message becomes what its spans contribute, in the order of the spans. A message with a single
plain span has one diagnostic there. In a complex message a primary span contributes the diagnostic
that the message would have if that span were its only one, behind the number of the message; any
other span contributes its label, behind the same number, or nothing if it has none. So the two ways
to make diagnostics agree on what is said at a primary span.
-/

namespace BuildRunner

/-! ## Where a diagnostic stands -/

/-- **A diagnostic stands at a span**: it is about the same file, from the same first position to
the same last one, where positions are counted from zero. -/
structure Diagnostic.StandsAt (d : Diagnostic) (s : Span) : Prop where
  file : d.filePath = s.fileName
  startLine : d.range.start.line.toNat = s.lineStart.toNat - 1
  startColumn : d.range.start.column.toNat = s.columnStart.toNat - 1
  stopLine : d.range.stop.line.toNat = s.lineEnd.toNat - 1
  stopColumn : d.range.stop.column.toNat = s.columnEnd.toNat - 1

/-- **A diagnostic is as grave as a level says.** Three levels have severities of their own; all
others mean an error. -/
structure Diagnostic.GraveAs (d : Diagnostic) (level : String) : Prop where
  warning : d.severity = .warning ↔ level = "warning"
  information : d.severity = .information ↔ level = "note"
  hint : d.severity = .hint ↔ level = "help"

variable {m : CompilerMessage} {n : Numbering} {s : Span} {d : Diagnostic} {k : UInt32}

/-- One less, and zero stays zero. -/
theorem toNat_fromOne (n : UInt32) : (fromOne n).toNat = n.toNat - 1 := by
  unfold fromOne
  split
  · rename_i zero
    rw [zero]
    rfl
  · rename_i positive
    have one_le : 1 ≤ n := by
      have : n.toNat ≠ 0 := fun zero => positive (UInt32.toNat_inj.mp zero)
      rw [UInt32.le_iff_toNat_le, UInt32.toNat_one]
      omega
    exact UInt32.toNat_sub_of_le n 1 one_le

theorem Span.standsAt_diagnostic (s : Span) (severity : Severity) (text : String) :
    (s.diagnostic severity text).StandsAt s where
  file := rfl
  startLine := toNat_fromOne _
  startColumn := toNat_fromOne _
  stopLine := toNat_fromOne _
  stopColumn := toNat_fromOne _

theorem Span.graveAs_diagnostic (s : Span) (level text : String) :
    (s.diagnostic (.ofLevel level) text).GraveAs level := by
  have severity : (s.diagnostic (.ofLevel level) text).severity = .ofLevel level := rfl
  constructor <;> rw [severity, Severity.ofLevel] <;> grind

/-! ## What a span contributes -/

/-- A message with `s` as its **only span**, and that did not come out of a macro. -/
def CompilerMessage.only (m : CompilerMessage) (s : Span) : CompilerMessage :=
  { m with spans := [{ s with expansion := none }] }

/-- **What a span contributes** to the diagnostics of the `k`-th complex message. -/
inductive CompilerMessage.Contributes (m : CompilerMessage) (k : Nat) :
    Span → List Diagnostic → Prop where
  /-- What the message says at its only span, behind the number. -/
  | primary {s : Span} {d : Diagnostic} : s.isPrimary = true →
      (∀ n : Numbering, n.ofEvent (.compilerMessage (m.only s)) = ([d], n)) →
      m.Contributes k s [{ d with message := "(" ++ toString k ++ ") " ++ d.message }]
  | labelled {s : Span} {d : Diagnostic} {label : String} : s.isPrimary = false →
      s.label = some label → d.message = "(" ++ toString k ++ ") " ++ label → m.Contributes k s [d]
  | silent {s : Span} : s.isPrimary = false → s.label = none → m.Contributes k s []

namespace Numbering

/-- A message with a single plain span is reported there, be the span primary or not. -/
theorem ofEvent_simple (n : Numbering) (one : m.spans = [s]) (plain : s.expansion = none) :
    n.ofEvent (.compilerMessage m) =
      ([s.diagnostic (.ofLevel m.level) (m.textAt s)], n) := by
  have simple : m.isComplex = false := by simp [CompilerMessage.isComplex, one, plain]
  simp [ofEvent, ToolEvent.message?, ofMessage, one, simple]

/-- Neither the other spans nor the expansion matter for what is said at a primary span. -/
theorem ofEvent_only (n : Numbering) (m : CompilerMessage) (s : Span) :
    n.ofEvent (.compilerMessage (m.only s)) =
      ([s.diagnostic (.ofLevel m.level) (m.textAt s)], n) :=
  ofEvent_simple (m := m.only s) (s := { s with expansion := none }) n rfl rfl

end Numbering

namespace CompilerMessage

theorem contributes_diagnosticAt (m : CompilerMessage) (k : UInt32) (s : Span) :
    m.Contributes k.toNat s (m.diagnosticAt k s).toList := by
  unfold diagnosticAt
  by_cases primary : s.isPrimary = true
  · rw [if_pos primary]
    exact .primary primary fun n => n.ofEvent_only m s
  · rw [if_neg primary]
    have other : s.isPrimary = false := Bool.eq_false_iff.mpr primary
    cases label : s.label with
    | none => exact .silent other label
    | some text => exact .labelled other label rfl

theorem of_diagnosticAt (h : m.diagnosticAt k s = some d) : d.StandsAt s ∧ d.GraveAs m.level := by
  unfold diagnosticAt at h
  split at h
  · obtain rfl := Option.some.inj h
    exact ⟨s.standsAt_diagnostic _ _, s.graveAs_diagnostic _ _⟩
  · obtain ⟨label, -, rfl⟩ := Option.map_eq_some_iff.mp h
    exact ⟨s.standsAt_diagnostic _ _, s.graveAs_diagnostic _ _⟩

theorem isSome_diagnosticAt (m : CompilerMessage) (k : UInt32) (s : Span) :
    (m.diagnosticAt k s).isSome = (s.isPrimary || s.label.isSome) := by
  unfold diagnosticAt
  cases s.isPrimary <;> simp

/-- Every primary span has a diagnostic, and every other span that has a label. -/
theorem length_diagnosticAt (m : CompilerMessage) (k : UInt32) (ss : List Span) :
    (ss.filterMap (m.diagnosticAt k)).length =
      ss.countP (·.isPrimary) + ss.countP fun s => !s.isPrimary && s.label.isSome := by
  rw [List.length_filterMap_eq_countP]
  induction ss with
  | nil => rfl
  | cons s ss ih =>
      rw [List.countP_cons, List.countP_cons, List.countP_cons, ih, isSome_diagnosticAt]
      cases s.isPrimary <;> simp <;> omega

end CompilerMessage

/-! ## Every message -/

/-- **A message is split by its spans.**

A message without spans yields nothing. One with a single span that is no expansion yields one
diagnostic there, whether the span is primary or not. Any other message takes the next number, and
its diagnostics are what its spans contribute, in their order: one for each primary span and one for
each other span with a label. Every diagnostic stands at the span that it comes from and is as grave
as the level of the message says. So a message with a primary span never vanishes. -/
theorem message_is_split (n : Numbering) (m : CompilerMessage)
    (room : n.count.toNat < 2 ^ 32 - 1) :
    let ds := (n.ofEvent (.compilerMessage m)).1
    let after := (n.ofEvent (.compilerMessage m)).2
    let k := n.count.toNat + 1
    (m.spans = [] → ds = [] ∧ after = n) ∧
    (∀ s, m.spans = [s] → s.expansion.isNone → after = n ∧
      ∃ d, ds = [d] ∧ d.StandsAt s ∧ d.GraveAs m.level ∧ d.message = m.textAt s) ∧
    (2 ≤ m.spans.length ∨ (∃ s, m.spans = [s] ∧ s.expansion.isSome) → after.count.toNat = k ∧
      (∃ parts, ds = parts.flatten ∧ List.Forall₂ (fun s part =>
        m.Contributes k s part ∧ ∀ d ∈ part, d.StandsAt s ∧ d.GraveAs m.level) m.spans parts) ∧
      ds.length = m.spans.countP (·.isPrimary) +
        m.spans.countP fun s => !s.isPrimary && s.label.isSome) ∧
    ((∃ s ∈ m.spans, s.isPrimary) → ds ≠ []) := by
  intro ds after k
  have next : (n.count + 1).toNat = k := by
    rw [UInt32.toNat_add, UInt32.toNat_one]
    exact Nat.mod_eq_of_lt (by omega)
  -- Both paths in the form that is used below: what is published, and the number after it.
  have complex (h : m.isComplex = true) : ds = m.spans.filterMap (m.diagnosticAt (n.count + 1)) ∧
      after = ⟨n.count + 1⟩ :=
    Prod.mk.inj (n.ofEvent_complex h)
  have simple {s : Span} (one : m.spans = [s]) (plain : s.expansion = none) :
      ds = [s.diagnostic (.ofLevel m.level) (m.textAt s)] ∧ after = n :=
    Prod.mk.inj (n.ofEvent_simple one plain)
  refine ⟨fun none => ?_, fun s one plain => ?_, fun many => ?_, fun ⟨s, hs, primary⟩ => ?_⟩
  · simp [ds, after, Numbering.ofEvent, ToolEvent.message?, Numbering.ofMessage, none]
  · obtain ⟨found, same⟩ := simple one (Option.isNone_iff_eq_none.mp plain)
    exact ⟨same, _, found, s.standsAt_diagnostic _ _, s.graveAs_diagnostic _ _, rfl⟩
  · obtain ⟨found, counted⟩ := complex (CompilerMessage.isComplex_iff.mpr many)
    refine ⟨counted ▸ next, ⟨m.spans.map fun s => (m.diagnosticAt (n.count + 1) s).toList, ?_, ?_⟩,
      found ▸ m.length_diagnosticAt _ _⟩
    · rw [found, List.filterMap_eq_flatMap_toList, List.flatMap_def]
    · rw [List.forall₂_map_right_iff, List.forall₂_same]
      intro s _
      refine ⟨next ▸ m.contributes_diagnosticAt _ s, fun d hd => ?_⟩
      exact CompilerMessage.of_diagnosticAt (Option.mem_toList.mp hd)
  · by_cases h : m.isComplex = true
    · -- The number of diagnostics is at least that of primary spans.
      have counted := m.length_diagnosticAt (n.count + 1) m.spans
      have some_primary : 0 < m.spans.countP (·.isPrimary) := List.countP_pos_iff.mpr ⟨s, hs, primary⟩
      rw [(complex h).1]
      exact List.ne_nil_of_length_pos (by omega)
    · -- Only one span is left, which is the primary one and did not come out of a macro.
      have few := fun many => h (CompilerMessage.isComplex_iff.mpr many)
      obtain ⟨t, one⟩ : ∃ t, m.spans = [t] := by
        have := List.length_pos_of_mem hs
        exact List.length_eq_one_iff.mp (by by_contra; exact few (.inl (by omega)))
      have plain : t.expansion = none := by
        by_contra expanded
        exact few (.inr ⟨t, one, Option.isSome_iff_ne_none.mpr expanded⟩)
      rw [(simple one plain).1]
      exact List.cons_ne_nil _ _

/-- A message about four spans: a primary one out of a macro, a label elsewhere, a place that says
nothing, and a primary one without a position. -/
def scattered : CompilerMessage where
  level := "note"
  message := "moved"
  code := some "E0382"
  spans := [
    { fileName := "a.rs", lineStart := 3, columnStart := 1, lineEnd := 3, columnEnd := 9,
      isPrimary := true, label := some "here", expansion := some { span := {} } },
    { fileName := "b.rs", lineStart := 7, label := some "first" },
    { fileName := "c.rs" },
    { fileName := "a.rs", isPrimary := true }]
  children := [⟨"help", "clone it", []⟩]

/-- The last number that there is, for three diagnostics at four spans. -/
theorem message_is_split_scattered :
    let n : Numbering := ⟨4294967294⟩
    n.count.toNat < 2 ^ 32 - 1 ∧ 2 ≤ scattered.spans.length ∧
      (n.ofEvent (.compilerMessage scattered)).1.length = 3 ∧
      (n.ofEvent (.compilerMessage scattered)).2.count.toNat = 4294967295 ∧
      (n.ofEvent (.compilerMessage scattered)).1 ≠ [] := by
  intro n
  have room : n.count.toNat < 2 ^ 32 - 1 := by decide
  obtain ⟨-, -, complex, kept⟩ := message_is_split n scattered room
  obtain ⟨counted, -, length⟩ := complex (.inl (by decide))
  exact ⟨room, by decide, length, counted, kept ⟨_, List.mem_cons_self, rfl⟩⟩

end BuildRunner
