import BuildRunner.Console.Sinks
import BuildRunner.Proofs.Diagnostic.Sorting
import Mathlib.Data.List.DropRight

set_option autoImplicit false

/-! # A collection is a list

The sink that collects diagnostics answers like the plain list of those that were published since
it was cleared. A file has its part of the list, the files are the paths of the list in order, each
with the spelling that came first, and all counts are counts of the list.
-/

namespace BuildRunner

open Collected (Entry Filed gather under)
open Std (ReflCmp OrientedCmp TransCmp)

def SinkCall.sinceClear (calls : List SinkCall) : List Entry :=
  (calls.rtakeWhile (· ≠ .clear)).flatMap SinkCall.published

namespace Collected

variable {c : Collected} {fs : List (String × List Diagnostic)} {f : String × List Diagnostic}
  {p : String} {es : List Entry}

/-! ## One file -/

/-- A file that is there has what is found under its path. -/
theorem forFile_of_mem (hs : Sorted fs) (h : f ∈ fs) : (⟨fs⟩ : Collected).forFile f.1 = f.2 := by
  induction fs with
  | nil => cases h
  | cons g rest ih =>
      obtain ⟨first, hrest⟩ := List.pairwise_cons.mp hs
      rw [forFile_cons]
      rcases List.mem_cons.mp h with rfl | h
      · rw [if_pos ReflCmp.compare_self]
      · have behind : Path.compare f.1 g.1 = .gt := OrientedCmp.gt_of_lt (first f h)
        rw [if_neg (by simp [behind]), ih hrest h]

/-- Where something is found, there is a file. -/
theorem exists_file (h : c.forFile p ≠ []) : ∃ f ∈ c.files, Path.compare p f.1 = .eq := by
  unfold forFile at h
  split at h
  · rename_i f found
    exact ⟨f, List.mem_of_find?_eq_some found, by simpa using List.find?_some found⟩
  · exact absurd rfl h

/-! ## The files of a list -/

theorem forFile_gather_filed (es : List Entry) (p : String) :
    (gather es).forFile p = under p (es.map Entry.filed) := by
  rw [forFile_gather, under, List.filter_map, List.map_map]
  rfl

/-- **A file is spelled** as its path was when it was published first. -/
theorem spelled_gather (es : List Entry) : ∀ f ∈ (gather es).files,
    ((es.map Entry.filed).find? fun a => Path.compare f.1 a.1 = .eq).map (·.1) = some f.1 := by
  induction es using List.reverseRecOn with
  | nil => exact fun f hf => nomatch hf
  | append_singleton es e ih =>
      intro f hf
      rw [gather_append] at hf
      rw [List.map_append, List.find?_append]
      rcases mem_enter (sorted_gather es) hf with ⟨new, nothing⟩ | ⟨g, hg, old⟩
      · have new : f.1 = e.path := new
        have nothing : under f.1 (es.map Entry.filed) = [] := by
          rw [← forFile_gather_filed, new]
          exact nothing
        -- There was nothing under the path, so its spelling is that of the new diagnostic.
        have unfound : (es.map Entry.filed).find? (fun a => Path.compare f.1 a.1 = .eq) = none :=
          List.find?_eq_none.mpr fun a ha same =>
            under_ne_nil_iff.mpr ⟨a, ha, of_decide_eq_true same⟩ nothing
        have own : Path.compare f.1 e.path = .eq := by
          rw [new]
          exact ReflCmp.compare_self
        rw [unfound]
        simpa [Entry.filed, own] using new.symm
      · have found := ih g hg
        rw [← old] at found
        obtain ⟨a, ha, spelled⟩ := Option.map_eq_some_iff.mp found
        rw [ha]
        exact congrArg some spelled

/-- Every path of a list has a file. -/
theorem exists_file_gather {a : Filed} (h : a ∈ es.map Entry.filed) :
    ∃ f ∈ (gather es).files, Path.compare a.1 f.1 = .eq := by
  refine exists_file ?_
  rw [forFile_gather_filed]
  exact under_ne_nil_iff.mpr ⟨a, h, ReflCmp.compare_self⟩

/-- **A file has its part of the list**, which is not empty. -/
theorem file_gather (h : f ∈ (gather es).files) :
    f.2 = under f.1 (es.map Entry.filed) ∧ f.2 ≠ [] := by
  have part : f.2 = under f.1 (es.map Entry.filed) := by
    rw [← forFile_gather_filed]
    exact (forFile_of_mem (sorted_gather es) h).symm
  obtain ⟨a, found, -⟩ := Option.map_eq_some_iff.mp (spelled_gather es f h)
  refine ⟨part, part ▸ under_ne_nil_iff.mpr ⟨a, List.mem_of_find?_eq_some found, ?_⟩⟩
  simpa using List.find?_some found

/-- The files together have **everything in the list once**, up to the spelling of paths. -/
theorem perm_filed_gather (es : List Entry) :
    ((gather es).filed.map fun a => (Path.components a.1, a.2)).Perm
      ((es.map Entry.filed).map fun a => (Path.components a.1, a.2)) := by
  rw [map_components (filed_gather es)]
  exact (List.mergeSort_perm _ Filed.le).map _

theorem count_gather (es : List Entry) (s : Severity) :
    (gather es).count s = (es.map Entry.filed).countP (·.2.severity = s) := by
  rw [count, (perm_gather es).countP_eq, List.countP_map, List.countP_map]
  rfl

end Collected

/-! ## Every history of calls -/

/-- **What is collected** is what was published since the last clear. -/
theorem Console.collected_eq_gather (calls : List SinkCall) :
    collected calls = gather (SinkCall.sinceClear calls) := by
  -- A clear undoes what was before it, so the induction takes calls from the back.
  induction calls using List.reverseRecOn with
  | nil => rfl
  | append_singleton calls call ih =>
      have last : collected (calls ++ [call]) =
          ((MemorySinks.ofCalls calls).apply call).collected := by
        simp [collected, MemorySinks.ofCalls]
      rw [last, SinkCall.sinceClear]
      cases call with
      | clear =>
          rw [List.rtakeWhile_concat_neg _ _ _ (by simp)]
          rfl
      | publish dir d =>
          rw [List.rtakeWhile_concat_pos _ _ _ (by simp), List.flatMap_append]
          calc (collected calls).publish dir d
              _ = (gather (SinkCall.sinceClear calls)).publish dir d := by rw [ih]
              _ = gather (SinkCall.sinceClear calls ++ [(dir, d)]) :=
                (Collected.gather_append _ (dir, d)).symm
      | text _ | notify _ =>
          rw [List.rtakeWhile_concat_pos _ _ _ (by simp), List.flatMap_append]
          exact ih.trans (congrArg gather (List.append_nil _).symm)

/-- **A sink that collects is a list.**

Let `L` be what was published since the last clear, each diagnostic under the path of its file; two
paths are the same if they have the same components. What is found under a path is its part of `L`,
in the order of publication. The files are strictly in the order of paths, each path of `L` has one,
which is spelled as that path was first, and has the part of `L` under it, which is not empty. So
the files together have every diagnostic of `L` once. All counts are those of `L`: each diagnostic
has one of the four severities, and the last number of a summary is that of the notes and hints,
which the subtraction never cuts off. -/
theorem collection_refines_list (calls : List SinkCall) :
    let c := Console.collected calls
    let L := (SinkCall.sinceClear calls).map Entry.filed
    let part (p : String) :=
      (L.filter fun a => Path.components a.1 = Path.components p).map (·.2)
    (∀ p, c.forFile p = part p) ∧
    (c.files.Pairwise fun f g => Path.compare f.1 g.1 = .lt) ∧
    (∀ f ∈ c.files, f.2 = part f.1 ∧ f.2 ≠ [] ∧
      (L.find? fun a => Path.components a.1 = Path.components f.1).map (·.1) = some f.1) ∧
    (∀ a ∈ L, ∃ f ∈ c.files, Path.components f.1 = Path.components a.1) ∧
    (c.filed.map fun a => (Path.components a.1, a.2)).Perm
      (L.map fun a => (Path.components a.1, a.2)) ∧
    c.size = L.length ∧
    (∀ s, c.count s = L.countP (·.2.severity = s)) ∧
    c.count .error + c.count .warning + c.count .information + c.count .hint = c.size ∧
    c.count .error + c.count .warning ≤ c.size ∧
    (Console.report c).getLast? = some (Console.summary (c.count .error) (c.count .warning)
      (c.count .information + c.count .hint)) := by
  intro c L part
  have gathered : c = gather (SinkCall.sinceClear calls) := Console.collected_eq_gather calls
  -- Paths are compared by their components.
  have same (p q : String) :
      (Path.compare p q = .eq) = (Path.components q = Path.components p) :=
    propext (Path.compare_eq_iff.trans eq_comm)
  have parted (p : String) : under p L = part p := by
    simp only [under, part, same]
  have total := Collected.count_sum c
  refine ⟨fun p => ?_, ?_, fun f hf => ?_, fun a ha => ?_, ?_, ?_, fun s => ?_, total, ?_, ?_⟩
  · rw [gathered, Collected.forFile_gather_filed]
    exact parted p
  · rw [gathered]
    exact Collected.sorted_gather _
  · rw [gathered] at hf
    obtain ⟨own, full⟩ := Collected.file_gather hf
    have spelled := Collected.spelled_gather _ f hf
    simp only [same] at spelled
    exact ⟨own.trans (parted f.1), full, spelled⟩
  · obtain ⟨f, hf, path⟩ := Collected.exists_file_gather ha
    exact ⟨f, gathered ▸ hf, (same _ _).mp path⟩
  · rw [gathered]
    exact Collected.perm_filed_gather _
  · rw [gathered, Collected.size_gather, List.length_map]
  · rw [gathered]
    exact Collected.count_gather _ s
  · omega
  · rw [Console.report, List.getLast?_concat, Collected.others_eq]

/-- Two spellings of one path, before and after another one, and a clear before all of them. -/
theorem collection_refines_list_respelled :
    let about file severity : Diagnostic := ⟨file, .ofOneBased 1 1 1 1, "m", severity⟩
    let calls : List SinkCall := [.publish "/w" (about "b.rs" .error), .clear,
      .publish "/w" (about "b//c.rs" .warning), .text "t", .publish "/w" (about "a.rs" .error),
      .publish "/w/" (about "b/./c.rs" .hint)]
    let c := Console.collected calls
    c.files.map (·.1) = ["/w/a.rs", "/w/b//c.rs"] ∧
      c.forFile "/w/b/c.rs/" = [about "b//c.rs" .warning, about "b/./c.rs" .hint] ∧ c.size = 3 := by
  intro about calls c
  have list := collection_refines_list calls
  exact ⟨by decide +kernel, (list.1 _).trans (by decide +kernel),
    list.2.2.2.2.2.1.trans (by decide +kernel)⟩

end BuildRunner
