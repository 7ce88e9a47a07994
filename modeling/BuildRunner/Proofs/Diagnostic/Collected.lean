import BuildRunner.Diagnostic.Collected
import BuildRunner.Proofs.Path
import BuildRunner.Sink.Basic

set_option autoImplicit false

/-! # What is collected

The files of a collection are strictly in the order of paths, so a path has one entry. What is
published under a path is at the end of its entry, and all other entries stay as they are:
`gather` collects a list of diagnostics, and every file has its part of the list, in order.
-/

namespace BuildRunner.Collected

open Std (TransCmp OrientedCmp ReflCmp)

/-- A diagnostic with the directory that it was published for. -/
abbrev Entry := String × Diagnostic

def Entry.path (e : Entry) : String := Path.join e.1 e.2.filePath

/-- **The files are in order**, each path once. -/
def Sorted (fs : List (String × List Diagnostic)) : Prop :=
  fs.Pairwise fun f g => Path.compare f.1 g.1 = .lt

variable {c : Collected} {fs : List (String × List Diagnostic)} {f : String × List Diagnostic}
  {p q : String} {d : Diagnostic} {es : List Entry}

/-! ## One diagnostic -/

/-- A path that comes before the first file comes before all of them. -/
theorem lt_of_lt_first (hs : Sorted (f :: fs)) (h : Path.compare p f.1 = .lt) :
    ∀ g ∈ f :: fs, Path.compare p g.1 = .lt := by
  intro g hg
  rcases List.mem_cons.mp hg with rfl | hg
  · exact h
  · exact TransCmp.lt_trans h ((List.pairwise_cons.mp hs).1 g hg)

theorem forFile_cons : (⟨f :: fs⟩ : Collected).forFile p =
    if Path.compare p f.1 = .eq then f.2 else (⟨fs⟩ : Collected).forFile p := by
  by_cases h : Path.compare p f.1 = .eq <;> simp [forFile, h]

/-- There is nothing under a path that comes before all files. -/
theorem forFile_eq_nil (h : ∀ f ∈ fs, Path.compare p f.1 = .lt) :
    (⟨fs⟩ : Collected).forFile p = [] := by
  induction fs with
  | nil => rfl
  | cons f rest ih =>
      rw [forFile_cons, h f List.mem_cons_self]
      exact ih fun g hg => h g (List.mem_cons_of_mem _ hg)

/-- **What stands in the files after one more diagnostic**: its path, if there was nothing under it,
and the paths that were there before, spelled as they were. -/
theorem mem_enter (hs : Sorted fs) (h : f ∈ enter q d fs) :
    (f.1 = q ∧ (⟨fs⟩ : Collected).forFile q = []) ∨ ∃ g ∈ fs, f.1 = g.1 := by
  induction fs with
  | nil => simp_all [enter, forFile]
  | cons g rest ih =>
      obtain ⟨r, ds⟩ := g
      rw [enter] at h
      split at h
      · rename_i hq
        rcases List.mem_cons.mp h with rfl | h
        · exact .inl ⟨rfl, forFile_eq_nil (lt_of_lt_first hs hq)⟩
        · exact .inr ⟨f, h, rfl⟩
      · rcases List.mem_cons.mp h with rfl | h
        · exact .inr ⟨_, List.mem_cons_self, rfl⟩
        · exact .inr ⟨f, List.mem_cons_of_mem _ h, rfl⟩
      · rename_i hq
        rcases List.mem_cons.mp h with rfl | h
        · exact .inr ⟨_, List.mem_cons_self, rfl⟩
        · rcases ih (List.pairwise_cons.mp hs).2 h with ⟨hfq, hnil⟩ | ⟨g, hg, hfg⟩
          · rw [forFile_cons, if_neg (by simp [hq])]
            exact .inl ⟨hfq, hnil⟩
          · exact .inr ⟨g, List.mem_cons_of_mem _ hg, hfg⟩

theorem sorted_enter (hs : Sorted fs) : Sorted (enter q d fs) := by
  induction fs with
  | nil => simp [enter, Sorted]
  | cons g rest ih =>
      obtain ⟨r, ds⟩ := g
      obtain ⟨hr, hrest⟩ := List.pairwise_cons.mp hs
      rw [enter]
      split
      · rename_i hq
        exact List.pairwise_cons.mpr ⟨lt_of_lt_first hs hq, hs⟩
      · exact List.pairwise_cons.mpr ⟨hr, hrest⟩
      · rename_i hq
        refine List.pairwise_cons.mpr ⟨fun g hg => ?_, ih hrest⟩
        rcases mem_enter hrest hg with ⟨hg, -⟩ | ⟨x, hx, hg⟩
        · exact hg ▸ OrientedCmp.lt_of_gt hq
        · exact hg ▸ hr x hx

/-- **A diagnostic goes to the end of its own entry**, and all other entries stay. -/
theorem forFile_enter (hs : Sorted fs) : (⟨enter q d fs⟩ : Collected).forFile p =
    (⟨fs⟩ : Collected).forFile p ++ if Path.compare p q = .eq then [d] else [] := by
  induction fs with
  | nil => rw [enter, forFile_cons]; simp [forFile]
  | cons g rest ih =>
      obtain ⟨r, ds⟩ := g
      obtain ⟨hr, hrest⟩ := List.pairwise_cons.mp hs
      rw [enter]
      split
      · rename_i hq
        rw [forFile_cons]
        by_cases hp : Path.compare p q = .eq
        · -- The path comes before all files, so it had no entry.
          have before := lt_of_lt_first hs (TransCmp.lt_of_eq_of_lt hp hq)
          simp [hp, forFile_eq_nil before]
        · simp [hp]
      · rename_i hq
        rw [forFile_cons, forFile_cons, TransCmp.congr_right hq]
        split <;> simp
      · rename_i hq
        rw [forFile_cons, forFile_cons, ih hrest]
        by_cases hp : Path.compare p r = .eq
        · have hpq : Path.compare p q = .lt :=
            TransCmp.lt_of_eq_of_lt hp (OrientedCmp.lt_of_gt hq)
          simp [hp, hpq]
        · simp [hp]

/-- Entering loses nothing and adds one diagnostic. -/
theorem perm_enter :
    ((enter q d fs).flatMap (·.2)).Perm (fs.flatMap (·.2) ++ [d]) := by
  induction fs with
  | nil => simp [enter]
  | cons g rest ih =>
      obtain ⟨r, ds⟩ := g
      rw [enter]
      split
      · simpa using (List.perm_append_singleton d (ds ++ rest.flatMap (·.2))).symm
      · simpa using (List.perm_append_singleton d (rest.flatMap (·.2))).symm.append_left ds
      · simpa using ih.append_left ds

theorem sorted_publish (hc : Sorted c.files) (e : Entry) : Sorted (c.publish e.1 e.2).files :=
  sorted_enter hc

theorem forFile_publish (hc : Sorted c.files) (e : Entry) (p : String) :
    (c.publish e.1 e.2).forFile p =
      c.forFile p ++ if Path.compare p e.path = .eq then [e.2] else [] :=
  forFile_enter hc

theorem perm_publish (c : Collected) (e : Entry) :
    (c.publish e.1 e.2).toList.Perm (c.toList ++ [e.2]) :=
  perm_enter

/-! ## A list of diagnostics -/

/-- **The collection of a list** of diagnostics, published in its order. -/
def gather (es : List Entry) : Collected := es.foldl (fun c e => c.publish e.1 e.2) .empty

theorem gather_append (es : List Entry) (e : Entry) :
    gather (es ++ [e]) = (gather es).publish e.1 e.2 := by
  simp [gather]

/-- **Every file has its part of the list**, in order. -/
theorem forFile_gather (es : List Entry) (p : String) :
    (gather es).forFile p = (es.filter fun e => Path.compare p e.path = .eq).map (·.2) := by
  have h : ∀ c : Collected, Sorted c.files →
      (es.foldl (fun c e => c.publish e.1 e.2) c).forFile p =
        c.forFile p ++ (es.filter fun e => Path.compare p e.path = .eq).map (·.2) := by
    induction es with
    | nil => simp
    | cons e es ih =>
        intro c hc
        rw [List.foldl_cons, ih _ (sorted_publish hc e), forFile_publish hc, List.filter_cons]
        split <;> simp_all
  exact h .empty .nil

/-- **Everything in the list is collected once.** -/
theorem perm_gather (es : List Entry) : (gather es).toList.Perm (es.map (·.2)) := by
  have h : ∀ c : Collected,
      (es.foldl (fun c e => c.publish e.1 e.2) c).toList.Perm (c.toList ++ es.map (·.2)) := by
    induction es with
    | nil => simp
    | cons e es ih =>
        intro c
        refine (ih _).trans ?_
        simpa using (perm_publish c e).append_right (es.map (·.2))
  exact h .empty

theorem size_gather (es : List Entry) : (gather es).size = es.length := by
  rw [size, (perm_gather es).length_eq, List.length_map]

end BuildRunner.Collected

namespace BuildRunner

def SinkCall.published : SinkCall → List Collected.Entry
  | .publish dir d => [(dir, d)]
  | _ => []

end BuildRunner
