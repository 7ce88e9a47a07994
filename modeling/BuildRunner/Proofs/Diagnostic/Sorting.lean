import BuildRunner.Proofs.Diagnostic.Collected
import Mathlib.Data.List.Forall2

set_option autoImplicit false

/-! # A collection is a stable sort

The diagnostics of a collection, each filed under the path of its file, are those that were
published, in the order of their paths; diagnostics of one file stay in the order of publication. A
list that is in the order of paths is determined by its part `under` each path, up to spelling, so
it is enough to know these parts (`same_of_under`).
-/

namespace BuildRunner.Collected

open Std (TransCmp OrientedCmp)

/-! ## Filed diagnostics -/

abbrev Filed := String × Diagnostic

def Entry.filed (e : Entry) : Filed := (e.path, e.2)

def filed (c : Collected) : List Filed := c.files.flatMap fun f => f.2.map (f.1, ·)

/-- Whether the path of one does not come behind that of the other. -/
def Filed.le (a b : Filed) : Bool := (Path.compare a.1 b.1).isLE

/-- **The same diagnostic of the same file**, whatever the spellings of the path. -/
def Filed.Same (a b : Filed) : Prop := Path.compare a.1 b.1 = .eq ∧ a.2 = b.2

def under (p : String) (as : List Filed) : List Diagnostic :=
  (as.filter fun a => Path.compare p a.1 = .eq).map (·.2)

variable {c : Collected} {as bs : List Filed} {a b : Filed} {p : String}

theorem Filed.le_trans (a b c : Filed) (hab : a.le b = true) (hbc : b.le c = true) :
    a.le c = true :=
  TransCmp.isLE_trans hab hbc

theorem Filed.le_of_eq (h : Path.compare a.1 b.1 = .eq) : a.le b = true := by
  rw [le, h]
  rfl

theorem Filed.le_of_lt (h : Path.compare a.1 b.1 = .lt) : a.le b = true := by
  rw [le, h]
  rfl

theorem Filed.le_swap (a b : Filed) : b.le a = (Path.compare a.1 b.1).swap.isLE :=
  congrArg Ordering.isLE OrientedCmp.eq_swap

theorem Filed.le_total (a b : Filed) : (a.le b || b.le a) = true := by
  rw [le_swap a b, le]
  cases Path.compare a.1 b.1 <;> rfl

theorem Filed.eq_of_le (hab : a.le b = true) (hba : b.le a = true) :
    Path.compare a.1 b.1 = .eq := by
  rw [le_swap a b] at hba
  rw [le] at hab
  revert hab hba
  cases Path.compare a.1 b.1 <;> simp

@[simp] theorem under_nil (p : String) : under p [] = [] := rfl

theorem under_cons (p : String) (a : Filed) (as : List Filed) :
    under p (a :: as) = if Path.compare p a.1 = .eq then a.2 :: under p as else under p as := by
  unfold under
  rw [List.filter_cons]
  by_cases h : Path.compare p a.1 = .eq <;> simp [h]

@[simp] theorem under_append (p : String) (as bs : List Filed) :
    under p (as ++ bs) = under p as ++ under p bs := by
  simp [under]

theorem under_ne_nil_iff : under p as ≠ [] ↔ ∃ a ∈ as, Path.compare p a.1 = .eq := by
  simp [under]

/-- The first of a list in order comes before every path under which there is something. -/
theorem le_of_under (sorted : (b :: bs).Pairwise fun a b => a.le b = true)
    (h : under a.1 (b :: bs) ≠ []) : b.le a = true := by
  obtain ⟨x, hx, same⟩ := under_ne_nil_iff.mp h
  have first : b.le x = true := by
    rcases List.mem_cons.mp hx with rfl | hx
    · simpa using x.le_total x
    · exact (List.pairwise_cons.mp sorted).1 x hx
  exact Filed.le_trans b x a first (Filed.le_of_eq (OrientedCmp.eq_symm same))

/-- **A list in the order of paths is determined by its parts**, up to spelling. -/
theorem same_of_under (has : as.Pairwise fun a b => a.le b = true)
    (hbs : bs.Pairwise fun a b => a.le b = true) (h : ∀ p, under p as = under p bs) :
    List.Forall₂ Filed.Same as bs := by
  induction as generalizing bs with
  | nil =>
      cases bs with
      | nil => exact .nil
      | cons b bs =>
          have first := h b.1
          rw [under_cons, if_pos (Std.ReflCmp.compare_self)] at first
          cases first
  | cons a as ih =>
      have ownA : under a.1 (a :: as) ≠ [] := by
        rw [under_cons, if_pos Std.ReflCmp.compare_self]
        exact List.cons_ne_nil _ _
      cases bs with
      | nil => exact absurd (h a.1) ownA
      | cons b bs =>
          have ownB : under b.1 (b :: bs) ≠ [] := by
            rw [under_cons, if_pos Std.ReflCmp.compare_self]
            exact List.cons_ne_nil _ _
          -- Each list begins with a path that comes before all of its own, so both with the same.
          have path : Path.compare a.1 b.1 = .eq :=
            Filed.eq_of_le (le_of_under has (h b.1 ▸ ownB)) (le_of_under hbs (h a.1 ▸ ownA))
          have head := h a.1
          rw [under_cons, under_cons, if_pos Std.ReflCmp.compare_self, if_pos path] at head
          refine .cons ⟨path, (List.cons.inj head).1⟩ (ih has.of_cons hbs.of_cons fun p => ?_)
          have tail := h p
          rw [under_cons, under_cons, TransCmp.congr_right path] at tail
          split at tail
          · exact (List.cons.inj tail).2
          · exact tail

/-- Lists that are the same up to spelling are equal up to the components of the paths. -/
theorem map_components (h : List.Forall₂ Filed.Same as bs) :
    as.map (fun a => (Path.components a.1, a.2)) = bs.map fun b => (Path.components b.1, b.2) := by
  induction h with
  | nil => rfl
  | cons same _ ih =>
      rw [List.map_cons, List.map_cons, ih, Path.compare_eq_iff.mp same.1, same.2]

/-! ## Sorting by path -/

/-- **Sorting is stable**: what is under a path stays in order. -/
theorem under_mergeSort (p : String) (as : List Filed) :
    under p (as.mergeSort Filed.le) = under p as := by
  let here (a : Filed) : Bool := Path.compare p a.1 = .eq
  have tied : (as.filter here).Pairwise fun a b => a.le b = true := by
    refine List.pairwise_of_forall_mem_list fun a ha b hb => ?_
    have atA : Path.compare p a.1 = .eq := of_decide_eq_true (List.mem_filter.mp ha).2
    have atB : Path.compare p b.1 = .eq := of_decide_eq_true (List.mem_filter.mp hb).2
    exact Filed.le_of_eq (TransCmp.eq_trans (OrientedCmp.eq_symm atA) atB)
  -- Entries under one path are tied, so their list is a part of the sorted one, as long as its own.
  have kept := (List.sublist_mergeSort Filed.le_trans Filed.le_total tied
    List.filter_sublist).filter here
  simp only [List.filter_filter, Bool.and_self] at kept
  have all := ((List.mergeSort_perm as Filed.le).filter here).length_eq
  exact congrArg (List.map (·.2)) (kept.eq_of_length all.symm).symm

/-! ## What is collected -/

theorem sorted_gather (es : List Entry) : Sorted (gather es).files := by
  have h : ∀ c : Collected, Sorted c.files →
      Sorted (es.foldl (fun c e => c.publish e.1 e.2) c).files := by
    induction es with
    | nil => exact fun _ hc => hc
    | cons e es ih => exact fun c hc => ih _ (sorted_publish hc e)
  exact h .empty .nil

theorem pairwise_filed (hc : Sorted c.files) : c.filed.Pairwise fun a b => a.le b = true := by
  refine List.pairwise_flatMap.mpr ⟨fun f _ => ?_, hc.imp fun {f g} before a ha b hb => ?_⟩
  · exact List.pairwise_map.mpr
      (List.pairwise_of_forall fun _ _ => Filed.le_of_eq Std.ReflCmp.compare_self)
  · obtain ⟨-, -, rfl⟩ := List.mem_map.mp ha
    obtain ⟨-, -, rfl⟩ := List.mem_map.mp hb
    exact Filed.le_of_lt before

/-- What is filed under the path of one file. -/
theorem under_file (p q : String) (ds : List Diagnostic) :
    under p (ds.map (q, ·)) = if Path.compare p q = .eq then ds else [] := by
  induction ds with
  | nil => simp
  | cons d ds ih =>
      rw [List.map_cons, under_cons, ih]
      split <;> rfl

theorem under_filed (hc : Sorted c.files) (p : String) : under p c.filed = c.forFile p := by
  obtain ⟨fs⟩ := c
  induction fs with
  | nil => rfl
  | cons f fs ih =>
      obtain ⟨first, rest⟩ := List.pairwise_cons.mp hc
      have split : (⟨f :: fs⟩ : Collected).filed =
        f.2.map (f.1, ·) ++ (⟨fs⟩ : Collected).filed := rfl
      rw [split, under_append, under_file, ih rest, forFile_cons]
      by_cases h : Path.compare p f.1 = .eq
      · -- The path comes before all other files, so there is nothing more under it.
        have before : ∀ g ∈ fs, Path.compare p g.1 = .lt := fun g hg =>
          TransCmp.lt_of_eq_of_lt h (first g hg)
        rw [if_pos h, if_pos h, forFile_eq_nil before, List.append_nil]
      · rw [if_neg h, if_neg h, List.nil_append]

/-- **A collection is the stable sort** by path of what was published. -/
theorem filed_gather (es : List Entry) :
    List.Forall₂ Filed.Same (gather es).filed ((es.map Entry.filed).mergeSort Filed.le) := by
  have sorted := sorted_gather es
  refine same_of_under (pairwise_filed sorted)
    (List.pairwise_mergeSort Filed.le_trans Filed.le_total _) fun p => ?_
  rw [under_filed sorted, forFile_gather, under_mergeSort]
  rw [under, List.filter_map, List.map_map]
  rfl

/-! ## Counting -/

/-- **Every diagnostic has one of the four severities**, so their counts add up. -/
theorem count_sum (c : Collected) :
    c.count .error + c.count .warning + c.count .information + c.count .hint = c.size := by
  have counted : ∀ ds : List Diagnostic,
      ds.countP (·.severity = .error) + ds.countP (·.severity = .warning) +
        ds.countP (·.severity = .information) + ds.countP (·.severity = .hint) = ds.length := by
    intro ds
    induction ds with
    | nil => rfl
    | cons d ds ih =>
        simp only [List.countP_cons, List.length_cons]
        cases d.severity <;> simp <;> omega
  exact counted c.toList

/-- The last number of a summary is that of the notes and hints. -/
theorem others_eq (c : Collected) : c.others = c.count .information + c.count .hint := by
  have total := count_sum c
  unfold others
  omega

end BuildRunner.Collected
