import BuildRunner.Path
import Mathlib.Logic.Relation

set_option autoImplicit false

/-! # Spellings of a path

A slash separates the steps of what is in front of it from those of what is behind it
(`steps_append`), wherever it stands. So the components of a file that is seen from a directory are
those of the directory and the steps of the file (`components_join`), and whatever changes no step,
such as one more slash or a dot between slashes, changes no component (`Respelled.steps_eq`).
-/

namespace BuildRunner.Path

variable {a b p w f f' x : String}

/-! ## Steps -/

/-- **The steps of a path**: its components but for a root and a dot at its start. -/
def steps (p : String) : List Component := (parts p).filterMap inner?

theorem splitBy_append (separator : Char) (current xs ys : List Char) :
    splitBy separator current (xs ++ separator :: ys) =
      splitBy separator current xs ++ splitBy separator [] ys := by
  induction xs generalizing current with
  | nil => simp [splitBy]
  | cons c cs ih =>
      rw [List.cons_append, splitBy, splitBy]
      split
      · rw [ih, List.cons_append]
      · exact ih _

theorem splitBy_of_notMem {separator : Char} {xs : List Char} (h : separator ∉ xs)
    (current : List Char) : splitBy separator current xs = [current ++ xs] := by
  induction xs generalizing current with
  | nil => simp [splitBy]
  | cons c cs ih =>
      rw [List.mem_cons, not_or] at h
      rw [splitBy, if_neg (Ne.symm h.1), ih h.2]
      simp

theorem parts_append (a b : String) : parts (a ++ "/" ++ b) = parts a ++ parts b := by
  have chars : (a ++ "/" ++ b).toList = a.toList ++ '/' :: b.toList := by simp
  rw [parts, chars, splitBy_append, List.map_append]
  rfl

theorem parts_of_notMem (h : '/' ∉ p.toList) : parts p = [p] := by
  simp [parts, splitBy_of_notMem h]

/-- **A slash separates steps.** -/
theorem steps_append (a b : String) : steps (a ++ "/" ++ b) = steps a ++ steps b := by
  rw [steps, parts_append, List.filterMap_append]
  rfl

@[simp] theorem steps_empty : steps "" = [] := by decide

@[simp] theorem steps_dot : steps "." = [] := by decide

@[simp] theorem steps_parent : steps ".." = [.parent] := by decide

/-- **A name**: no separator, and no part that stands for something else. -/
structure IsName (x : String) : Prop where
  whole : '/' ∉ x.toList
  ne_empty : x ≠ ""
  ne_current : x ≠ "."
  ne_parent : x ≠ ".."

theorem IsName.steps (h : IsName x) : steps x = [.name x] := by
  rw [Path.steps, parts_of_notMem h.whole]
  simp [inner?, h.ne_empty, h.ne_current, h.ne_parent]

theorem IsName.isAbsolute (h : IsName x) : isAbsolute x = false := by
  simp only [Path.isAbsolute, decide_eq_false_iff_not]
  exact fun first => h.whole (List.mem_of_mem_head? first)

/-! ## Files in a directory -/

theorem components_of_isAbsolute (h : isAbsolute p = true) : components p = .root :: steps p := by
  rw [components, if_pos h, steps]

theorem isAbsolute_append (h : isAbsolute a = true) (b : String) : isAbsolute (a ++ b) = true := by
  simp only [isAbsolute, decide_eq_true_eq] at h ⊢
  rw [String.toList_append, List.head?_append, h]
  rfl

theorem isAbsolute_append_of_ne (some : a ≠ "") (b : String) :
    isAbsolute (a ++ b) = isAbsolute a := by
  simp [isAbsolute, some]

/-- A file with an absolute path is the same from everywhere. -/
theorem join_of_isAbsolute (h : isAbsolute f = true) (w : String) : join w f = f := by
  rw [join, if_pos h]

theorem isAbsolute_join (hw : isAbsolute w = true) (f : String) : isAbsolute (join w f) = true := by
  unfold join
  split
  · assumption
  · split
    · exact isAbsolute_append hw f
    · rw [String.append_assoc]
      exact isAbsolute_append hw _

/-- A directory with a slash behind it has the same steps. -/
theorem steps_join (h : isAbsolute f = false) : steps (join w f) = steps w ++ steps f := by
  rw [join, if_neg (by simp [h])]
  split
  · rename_i closed
    rcases closed with rfl | last
    · simp
    · -- The slash that would be added stands there already.
      obtain ⟨cs, chars⟩ := List.getLast?_eq_some_iff.mp last
      obtain rfl : w = String.ofList cs ++ "/" := String.toList_inj.mp (by simp [chars])
      have bare : steps (String.ofList cs ++ "/") = steps (String.ofList cs) := by
        simpa using steps_append (String.ofList cs) ""
      rw [steps_append, bare]
  · exact steps_append w f

/-- **A file in a directory** has the components of the directory and its own steps. -/
theorem components_join (hw : isAbsolute w = true) (hf : isAbsolute f = false) :
    components (join w f) = components w ++ steps f := by
  rw [components_of_isAbsolute (isAbsolute_join hw f), components_of_isAbsolute hw, steps_join hf,
    List.cons_append]

/-- **A step to the parent is kept**, with the step before it. -/
theorem components_join_parent (hw : isAbsolute w = true) (ha : IsName a) (b : String) :
    components (join w (a ++ "/../" ++ b)) = components w ++ .name a :: .parent :: steps b := by
  have relative : isAbsolute (a ++ "/../" ++ b) = false := by
    rw [String.append_assoc, isAbsolute_append_of_ne ha.ne_empty, ha.isAbsolute]
  have split : a ++ "/../" ++ b = a ++ "/" ++ ".." ++ "/" ++ b := by simp [← String.toList_inj]
  rw [components_join hw relative, split, steps_append, steps_append, ha.steps, steps_parent]
  rfl

/-! ## Spelling a file in another way -/

/-- **One change of spelling** of a relative file name: a dot and a slash in front, a slash beside one
that is inside, a dot between slashes, or a slash at the end. There must be something in front of a
slash, since without it the name would start at the root. -/
inductive Respelled : String → String → Prop where
  | current (f : String) : Respelled f ("./" ++ f)
  | slash (a b : String) : Respelled (a ++ "/" ++ b) (a ++ "//" ++ b)
  | dot (a b : String) : Respelled (a ++ "/" ++ b) (a ++ "/./" ++ b)
  | trailing {f : String} : f ≠ "" → Respelled f (f ++ "/")

namespace Respelled

theorem steps_eq (h : Respelled f f') : steps f' = steps f := by
  cases h with
  | current =>
      have split : "./" ++ f = "." ++ "/" ++ f := rfl
      rw [split, steps_append, steps_dot, List.nil_append]
  | slash a b =>
      have split : a ++ "//" ++ b = a ++ "/" ++ "" ++ "/" ++ b := by simp [← String.toList_inj]
      rw [split, steps_append, steps_append, steps_append, steps_empty, List.append_nil]
  | dot a b =>
      have split : a ++ "/./" ++ b = a ++ "/" ++ "." ++ "/" ++ b := by simp [← String.toList_inj]
      rw [split, steps_append, steps_append, steps_append, steps_dot, List.append_nil]
  | trailing =>
      simpa using steps_append f ""

/-- A relative name stays relative. -/
theorem isAbsolute_eq (h : Respelled f f') (hf : isAbsolute f = false) : isAbsolute f' = false := by
  have inside {a b c : String} (h : isAbsolute (a ++ "/" ++ b) = false) :
      isAbsolute (a ++ c) = false := by
    have some : a ≠ "" := by
      rintro rfl
      simp [isAbsolute] at h
    rw [String.append_assoc] at h
    rw [isAbsolute_append_of_ne some, ← h, isAbsolute_append_of_ne some]
  cases h with
  | current => simp [isAbsolute]
  | slash a b => exact String.append_assoc ▸ inside hf
  | dot a b => exact String.append_assoc ▸ inside hf
  | trailing some => rwa [isAbsolute_append_of_ne some]

end Respelled

/-- **Any number of changes of spelling.** -/
def Respelling : String → String → Prop := Relation.ReflTransGen Respelled

/-- **A respelled file is the same file**, from every directory. -/
theorem Respelling.components_join (h : Respelling f f') (hw : isAbsolute w = true)
    (hf : isAbsolute f = false) :
    isAbsolute f' = false ∧ components (join w f') = components (join w f) := by
  have same : isAbsolute f' = false ∧ steps f' = steps f := by
    induction h with
    | refl => exact ⟨hf, rfl⟩
    | tail _ step ih => exact ⟨step.isAbsolute_eq ih.1, step.steps_eq.trans ih.2⟩
  exact ⟨same.1, by rw [Path.components_join hw same.1, Path.components_join hw hf, same.2]⟩

end BuildRunner.Path
