import BuildRunner.Proofs.Diagnostic.Listed
import BuildRunner.Proofs.Path.Spelling

set_option autoImplicit false

/-! # One file, one entry

A diagnostic that is published goes into one entry, at its end, and all other entries stay as they are
(`Collected.Puts`). It is the entry whose path has the same components as that of the diagnostic
(`Collected.puts_iff`), and entries keep their spelling. So two diagnostics share an entry exactly if
their paths have the same components (`Console.sharesEntry_iff`), whatever was published before the
first and between the two.
-/

namespace BuildRunner

open Collected (Entry Sorted gather)
open Std (ReflCmp OrientedCmp TransCmp)

namespace Collected

variable {c c' c'' : Collected} {fs : List (String × List Diagnostic)}
  {f g : String × List Diagnostic} {e : Entry} {p q : String} {d : Diagnostic}

/-! ## The entry of a diagnostic -/

/-- The paths of the entries, as they are spelled. -/
def paths (c : Collected) : List String := c.files.map (·.1)

/-- **Publishing puts a diagnostic into the entry** spelled `p`: behind what is there, or into a new
entry. All other entries stay as they are. -/
inductive Puts (c : Collected) (e : Entry) (p : String) : Prop where
  | behind {front back : List (String × List Diagnostic)} {ds : List Diagnostic} :
      c.files = front ++ (p, ds) :: back →
      (c.publish e.1 e.2).files = front ++ (p, ds ++ [e.2]) :: back → Puts c e p
  | new {front back : List (String × List Diagnostic)} :
      c.files = front ++ back →
      (c.publish e.1 e.2).files = front ++ (p, [e.2]) :: back → Puts c e p

theorem enter_cases (q : String) (d : Diagnostic) (fs : List (String × List Diagnostic)) :
    (∃ front back p ds, fs = front ++ (p, ds) :: back ∧
      enter q d fs = front ++ (p, ds ++ [d]) :: back) ∨
    (∃ front back, fs = front ++ back ∧ enter q d fs = front ++ (q, [d]) :: back) := by
  induction fs with
  | nil => exact .inr ⟨[], [], rfl, rfl⟩
  | cons f rest ih =>
      obtain ⟨r, ds⟩ := f
      rw [enter]
      split
      · exact .inr ⟨[], _, rfl, rfl⟩
      · exact .inl ⟨[], rest, r, ds, rfl, rfl⟩
      · rcases ih with ⟨front, back, p, ps, before, after⟩ | ⟨front, back, before, after⟩
        · exact .inl ⟨(r, ds) :: front, back, p, ps, by rw [before]; rfl, by rw [after]; rfl⟩
        · exact .inr ⟨(r, ds) :: front, back, by rw [before]; rfl, by rw [after]; rfl⟩

/-- **Every diagnostic goes into an entry.** -/
theorem exists_puts (c : Collected) (e : Entry) : ∃ p, c.Puts e p := by
  rcases enter_cases e.path e.2 c.files with ⟨_, _, p, _, before, after⟩ | ⟨_, _, before, after⟩
  · exact ⟨p, .behind before after⟩
  · exact ⟨e.path, .new before after⟩

theorem Puts.mem (h : c.Puts e p) : p ∈ (c.publish e.1 e.2).paths := by
  cases h with
  | behind _ after | new _ after => simp [paths, after]

/-- No entry goes, and none is spelled anew. -/
theorem Puts.subset (h : c.Puts e p) : c.paths ⊆ (c.publish e.1 e.2).paths := by
  cases h with
  | behind before after => simp [paths, before, after]
  | new before after =>
      simp only [paths, before, after, List.map_append, List.map_cons]
      exact List.append_subset.mpr ⟨List.subset_append_left _ _, fun _ there =>
        List.mem_append_right _ (List.mem_cons_of_mem _ there)⟩

/-- What stands elsewhere has another path. -/
theorem other_of_sorted {front back : List (String × List Diagnostic)}
    (hs : Sorted (front ++ f :: back)) (hg : g ∈ front ++ back) : Path.compare f.1 g.1 ≠ .eq := by
  obtain ⟨-, later, across⟩ := List.pairwise_append.mp hs
  rcases List.mem_append.mp hg with earlier | behind
  · have lt := across g earlier f List.mem_cons_self
    simp [OrientedCmp.gt_of_lt lt]
  · have lt := (List.pairwise_cons.mp later).1 g behind
    simp [lt]

theorem eq_of_same (hs : Sorted fs) (hf : f ∈ fs) (hg : g ∈ fs)
    (same : Path.compare f.1 g.1 = .eq) : f = g := by
  obtain ⟨front, back, rfl⟩ := List.append_of_mem hf
  by_contra other
  have elsewhere : g ∈ front ++ back := by simpa [Ne.symm other] using hg
  exact other_of_sorted hs elsewhere same

/-- **A path has one spelling** among the entries. -/
theorem eq_of_mem_paths (hs : Sorted c.files) (hp : p ∈ c.paths) (hq : q ∈ c.paths)
    (same : Path.compare p q = .eq) : p = q := by
  obtain ⟨f, hf, rfl⟩ := List.mem_map.mp hp
  obtain ⟨g, hg, rfl⟩ := List.mem_map.mp hq
  rw [eq_of_same hs hf hg same]

/-- **The entry has the path of the diagnostic**, up to spelling. -/
theorem Puts.same (hs : Sorted c.files) (h : c.Puts e p) : Path.compare p e.path = .eq := by
  by_contra other
  -- Otherwise nothing changes under the path, but the entry has one diagnostic more.
  have kept := forFile_publish hs e p
  rw [if_neg other, List.append_nil] at kept
  have hs' := sorted_publish hs e
  cases h with
  | @behind front back ds before after =>
      have old : (p, ds) ∈ c.files := by simp [before]
      have longer : (p, ds ++ [e.2]) ∈ (c.publish e.1 e.2).files := by
        rw [after]
        simp
      have had := forFile_of_mem hs old
      have has := forFile_of_mem hs' longer
      have unchanged : ds ++ [e.2] = ds :=
        calc ds ++ [e.2] = (c.publish e.1 e.2).forFile p := has.symm
          _ = c.forFile p := kept
          _ = ds := had
      simp at unchanged
  | @new front back before after =>
      have one : (p, [e.2]) ∈ (c.publish e.1 e.2).files := by
        rw [after]
        simp
      have has := forFile_of_mem hs' one
      have found : c.forFile p = [e.2] := kept.symm.trans has
      -- So there was an entry with the path of the new one, and it is still there.
      obtain ⟨g, hg, same⟩ := exists_file (by rw [found]; exact List.cons_ne_nil _ _)
      rw [after] at hs'
      rw [before] at hg
      exact other_of_sorted hs' hg same

/-- **Into which entry a diagnostic goes.** -/
theorem puts_iff (hs : Sorted c.files) :
    c.Puts e p ↔ p ∈ (c.publish e.1 e.2).paths ∧ Path.compare p e.path = .eq := by
  constructor
  · exact fun h => ⟨h.mem, h.same hs⟩
  · rintro ⟨there, same⟩
    obtain ⟨q, h⟩ := exists_puts c e
    have equal : Path.compare p q = .eq := TransCmp.eq_trans same (OrientedCmp.eq_symm (h.same hs))
    rw [eq_of_mem_paths (sorted_publish hs e) there h.mem equal]
    exact h

/-! ## Growing -/

/-- **A collection grows**: its entries stay and keep their spelling, and what is found stays in front
of what is added. -/
structure Grows (c c' : Collected) : Prop where
  paths : c.paths ⊆ c'.paths
  found : ∀ q, c.forFile q <+: c'.forFile q

theorem Grows.refl (c : Collected) : Grows c c := ⟨List.Subset.refl _, fun _ => List.prefix_rfl⟩

theorem Grows.trans (h : Grows c c') (h' : Grows c' c'') : Grows c c'' :=
  ⟨fun _ there => h'.paths (h.paths there), fun q => (h.found q).trans (h'.found q)⟩

theorem grows_publish (hs : Sorted c.files) (e : Entry) : Grows c (c.publish e.1 e.2) := by
  obtain ⟨p, h⟩ := exists_puts c e
  exact ⟨h.subset, fun q => forFile_publish hs e q ▸ List.prefix_append _ _⟩

end Collected

namespace Console

variable {before between : List SinkCall} {e e' : Entry}

/-! ## Every history of calls -/

theorem sorted_collected (calls : List SinkCall) : Sorted (collected calls).files :=
  collected_eq_gather calls ▸ Collected.sorted_gather _

theorem collected_concat (calls : List SinkCall) (call : SinkCall) :
    collected (calls ++ [call]) = ((MemorySinks.ofCalls calls).apply call).collected := by
  simp [collected, MemorySinks.ofCalls]

theorem collected_publish (calls : List SinkCall) (e : Entry) :
    collected (calls ++ [.publish e.1 e.2]) = (collected calls).publish e.1 e.2 :=
  collected_concat calls _

/-- Only a clear takes anything away. -/
theorem grows_collected (kept : .clear ∉ between) (before : List SinkCall) :
    Collected.Grows (collected before) (collected (before ++ between)) := by
  -- Each call between goes over to those before, and is one step.
  induction between generalizing before with
  | nil =>
      rw [List.append_nil]
      exact .refl _
  | cons call between ih =>
      rw [List.mem_cons, not_or] at kept
      have step : Collected.Grows (collected before) (collected (before ++ [call])) := by
        rw [collected_concat]
        cases call with
        | clear => exact absurd rfl kept.1
        | publish dir d => exact Collected.grows_publish (sorted_collected before) (dir, d)
        | text _ | notify _ => exact .refl _
      have rest := ih kept.2 (before ++ [call])
      rw [List.append_assoc] at rest
      exact step.trans rest

/-- **Two diagnostics share an entry** if the first one is put into it after some calls, and the second
one after some more. -/
def SharesEntry (before between : List SinkCall) (e e' : Entry) : Prop :=
  ∃ p, (collected before).Puts e p ∧
    (collected (before ++ .publish e.1 e.2 :: between)).Puts e' p

theorem grows_between (kept : .clear ∉ between) (before : List SinkCall) (e : Entry) :
    Collected.Grows ((collected before).publish e.1 e.2)
      (collected (before ++ .publish e.1 e.2 :: between)) := by
  have grows := grows_collected kept (before ++ [.publish e.1 e.2])
  rwa [collected_publish, List.append_assoc] at grows

/-- **Diagnostics share an entry exactly if their paths have the same components.** -/
theorem sharesEntry_iff (kept : .clear ∉ between) :
    SharesEntry before between e e' ↔ Path.components e.path = Path.components e'.path := by
  rw [← Path.compare_eq_iff]
  constructor
  · rintro ⟨p, first, second⟩
    exact TransCmp.eq_trans (OrientedCmp.eq_symm (first.same (sorted_collected _)))
      (second.same (sorted_collected _))
  · intro same
    obtain ⟨p, first⟩ := (collected before).exists_puts e
    -- The entry of the first one is still there, and is that of the second one.
    have there := (grows_between kept before e).paths first.mem
    have grows := Collected.grows_publish (sorted_collected (before ++ .publish e.1 e.2 :: between)) e'
    exact ⟨p, first, (Collected.puts_iff (sorted_collected _)).mpr
      ⟨grows.paths there, TransCmp.eq_trans (first.same (sorted_collected _)) same⟩⟩

/-- **Both are found** under every spelling of their path. -/
theorem sublist_forFile (kept : .clear ∉ between)
    (same : Path.components e.path = Path.components e'.path) {q : String}
    (hq : Path.components q = Path.components e.path) :
    [e.2, e'.2].Sublist
      ((collected (before ++ .publish e.1 e.2 :: between ++ [.publish e'.1 e'.2])).forFile q) := by
  have first : Path.compare q e.path = .eq := Path.compare_eq_iff.mpr hq
  have second : Path.compare q e'.path = .eq := Path.compare_eq_iff.mpr (hq.trans same)
  have found := (grows_between kept before e).found q
  rw [Collected.forFile_publish (sorted_collected _), if_pos first] at found
  rw [collected_publish, Collected.forFile_publish (sorted_collected _), if_pos second]
  have one : [e.2].Sublist ((collected (before ++ .publish e.1 e.2 :: between)).forFile q) :=
    (List.sublist_append_right _ _).trans found.sublist
  exact one.append (List.Sublist.refl [e'.2])

end Console

/-- **One file has one entry.**

A relative name under an absolute directory is one file. It is the same file under any respelling, and
when the directory and the name are joined to an absolute path, whatever directory that is published
for. Only the empty name has no slash behind it: with one it is the root.

Two diagnostics share an entry exactly if their paths have the same components, and then both are
found under every spelling of that path. A step to the parent is a component of its own, and names
that differ in anything, such as in case, are different components. -/
theorem one_file_one_entry {before between : List SinkCall} (kept : .clear ∉ between) :
    let shares := Console.SharesEntry before between
    (∀ (w w' f f' : String) (d d' : Diagnostic),
      Path.isAbsolute w = true → Path.isAbsolute f = false → Path.Respelling f f' →
      d.filePath = f →
      (d'.filePath = Path.join w f' → shares (w, d) (w', d') ∧ shares (w', d') (w, d)) ∧
      (d'.filePath = f' → shares (w, d) (w, d') ∧ shares (w, d') (w, d))) ∧
    (∀ (w : String) (d d' : Diagnostic), Path.isAbsolute w = true →
      d.filePath = "" → d'.filePath = "" ++ "/" →
      (shares (w, d) (w, d') ↔ Path.components w = [.root])) ∧
    (∀ e e' : Entry, (shares e e' ↔ Path.components e.path = Path.components e'.path) ∧
      (shares e e' → ∀ q, Path.components q = Path.components e.path →
        [e.2, e'.2].Sublist ((Console.collected
          (before ++ .publish e.1 e.2 :: between ++ [.publish e'.1 e'.2])).forFile q))) ∧
    (∀ (w a b : String) (d d' : Diagnostic), Path.isAbsolute w = true → Path.IsName a →
      Path.isAbsolute b = false → d.filePath = a ++ "/../" ++ b → d'.filePath = b →
      ¬ shares (w, d) (w, d')) ∧
    (∀ (w : String) (d d' : Diagnostic), Path.isAbsolute w = true → Path.IsName d.filePath →
      Path.IsName d'.filePath → shares (w, d) (w, d') → d.filePath = d'.filePath) := by
  intro shares
  -- Everything is a question about components from here on.
  have iff (e e' : Entry) : shares e e' ↔ Path.components e.path = Path.components e'.path :=
    Console.sharesEntry_iff kept
  have both {e e' : Entry} (same : Path.components e.path = Path.components e'.path) :
      shares e e' ∧ shares e' e := ⟨(iff e e').mpr same, (iff e' e).mpr same.symm⟩
  refine ⟨fun w w' f f' d d' hw hf respelling file => ?_, fun w d d' hw none root => ?_,
    fun e e' => ⟨iff e e', fun shared q hq => ?_⟩, fun w a b d d' hw name hb up direct shared => ?_,
    fun w d d' hw name name' shared => ?_⟩
  · obtain ⟨relative, same⟩ := respelling.components_join hw hf
    constructor
    · intro absolute
      refine both ?_
      simp only [Collected.Entry.path, file, absolute]
      rw [Path.join_of_isAbsolute (Path.isAbsolute_join hw f'), same]
    · intro respelled
      refine both ?_
      simp only [Collected.Entry.path, file, respelled, same]
  · rw [iff]
    simp only [Collected.Entry.path, none, root]
    rw [Path.components_join hw (by decide), Path.join_of_isAbsolute (by decide)]
    simp only [Path.steps_empty, List.append_nil]
    exact Iff.rfl
  · exact Console.sublist_forFile kept ((iff e e').mp shared) hq
  · have same := (iff (w, d) (w, d')).mp shared
    simp only [Collected.Entry.path, up, direct] at same
    rw [Path.components_join_parent hw name, Path.components_join hw hb] at same
    -- The detour leaves two more components than the direct way.
    have lengths := congrArg List.length same
    simp only [List.length_append, List.length_cons] at lengths
    omega
  · have same := (iff (w, d) (w, d')).mp shared
    simp only [Collected.Entry.path] at same
    rw [Path.components_join hw name.isAbsolute, Path.components_join hw name'.isAbsolute, name.steps,
      name'.steps] at same
    simpa using same

/-- A file under its directory, and under its absolute path with three changes of its spelling. -/
theorem one_file_one_entry_respelled :
    let about file : Diagnostic := ⟨file, .ofOneBased 1 1 1 1, "m", .error⟩
    SinkCall.clear ∉ [.text "t"] ∧
      Console.SharesEntry [] [.text "t"] ("/w", about "src/a.rs") ("b", about "/w/./src//a.rs/") := by
  intro about
  have kept : SinkCall.clear ∉ [.text "t"] := by decide
  have respelling : Path.Respelling "src/a.rs" "./src//a.rs/" :=
    .tail (.tail (.single (.slash "src" "a.rs")) (.current "src//a.rs")) (.trailing (by decide))
  exact ⟨kept, ((one_file_one_entry kept).1 "/w" "b" _ _ (about "src/a.rs") (about "/w/./src//a.rs/")
    (by decide) (by decide) respelling rfl).1 (by decide) |>.1⟩

/-- **The empty name with a slash behind it** is another file than the empty name, so adding a slash
does not always keep the entry. -/
theorem slash_behind_no_name :
    let about file : Diagnostic := ⟨file, .ofOneBased 1 1 1 1, "m", .error⟩
    Path.isAbsolute "/w" = true ∧ Path.isAbsolute "" = false ∧
      ¬ Console.SharesEntry [] [] ("/w", about "") ("/w", about ("" ++ "/")) ∧
      Collected.paths (Console.collected [.publish "/w" (about ""), .publish "/w" (about "/")]) =
        ["/", "/w/"] := by
  intro about
  refine ⟨by decide, by decide, fun shared => ?_, by decide +kernel⟩
  exact absurd ((Console.sharesEntry_iff (by decide)).mp shared) (by decide +kernel)

end BuildRunner
