import BuildRunner.Path

set_option autoImplicit false

/-! # The order of paths

Components are ordered by their rank and then by their name, lists of components
lexicographically. So paths are linearly ordered up to spelling, and two spellings are equal in
this order exactly if they have the same components.
-/

namespace BuildRunner.Path

/-- The characters of a name; no other component has any. -/
def Component.text : Component → String
  | .name s => s
  | _ => ""

theorem Component.compare_eq_lex :
    Component.compare = compareLex (compareOn Component.rank) (compareOn Component.text) := by
  funext a b
  -- Ranks decide unless both are names; other components of one rank have the same text.
  cases a <;> cases b <;>
    simp [Component.compare, compareLex, compareOn, Component.rank, Component.text] <;> rfl

instance : Std.TransCmp Component.compare := by
  rw [Component.compare_eq_lex]
  infer_instance

instance : Std.LawfulEqCmp Component.compare where
  eq_of_compare {a b} h := by
    cases a <;> cases b <;> simp_all [Component.compare, Component.rank]

theorem compareComponents_eq_lex (as bs : List Component) :
    compareComponents as bs = List.compareLex Component.compare as bs := by
  induction as generalizing bs with
  | nil => cases bs <;> rfl
  | cons a as ih =>
      cases bs with
      | nil => rfl
      | cons b bs => rw [compareComponents, List.compareLex_cons_cons, ih]

theorem compare_eq_lex (p q : String) :
    compare p q = List.compareLex Component.compare (components p) (components q) :=
  compareComponents_eq_lex _ _

/-- Paths are linearly ordered up to spelling. -/
instance : Std.TransCmp Path.compare where
  eq_swap {p q} := by
    rw [compare_eq_lex, compare_eq_lex]
    exact Std.OrientedCmp.eq_swap
  isLE_trans {p q r} hpq hqr := by
    rw [compare_eq_lex] at hpq hqr ⊢
    exact Std.TransCmp.isLE_trans hpq hqr

/-- Two spellings are equal in the order exactly if they have the same components. -/
theorem compare_eq_iff {p q : String} : compare p q = .eq ↔ components p = components q := by
  rw [compare_eq_lex]
  exact Std.LawfulEqCmp.compare_eq_iff_eq

end BuildRunner.Path
