import BuildRunner.Text.Blank

set_option autoImplicit false

/-! # The words of a text

`Spaced` says what the words of a text are: runs without blanks that have a blank or an end of the
text on either side, with nothing but blanks between them. Every text has its words in one way, and
they are what `words` finds (`words_eq_iff`).
-/

namespace BuildRunner.Blank

variable {cs gap w rest current : List Char} {ws : List (List Char)}

def IsGap (cs : List Char) : Prop := ∀ c ∈ cs, isBlank c = true

/-- **A word**: some characters, and no blank among them. -/
structure IsWord (cs : List Char) : Prop where
  ne_nil : cs ≠ []
  solid : ∀ c ∈ cs, isBlank c = false

/-- **A word can end before** `cs`, which is nothing or starts with a blank. -/
def EndsWord (cs : List Char) : Prop := ∀ c ∈ cs.head?, isBlank c = true

instance (cs : List Char) : Decidable (IsGap cs) :=
  decidable_of_iff (cs.all isBlank = true) List.all_eq_true

instance (cs : List Char) : Decidable (IsWord cs) :=
  decidable_of_iff (cs ≠ [] ∧ cs.any isBlank = false)
    ⟨fun ⟨ne_nil, solid⟩ => ⟨ne_nil, by simpa using solid⟩,
      fun ⟨ne_nil, solid⟩ => ⟨ne_nil, by simpa using solid⟩⟩

/-- **A text and its words**, in order. -/
inductive Spaced : List Char → List (List Char) → Prop where
  | gap {g : List Char} : IsGap g → Spaced g []
  | word {g w rest : List Char} {ws : List (List Char)} : IsGap g → IsWord w → EndsWord rest →
      Spaced rest ws → Spaced (g ++ w ++ rest) (w :: ws)

theorem isGap_nil : IsGap [] := List.forall_mem_nil _

theorem IsGap.endsWord (h : IsGap cs) : EndsWord cs :=
  fun c hc => h c (List.mem_of_mem_head? hc)

theorem IsGap.endsWord_append (h : IsGap gap) (some : gap ≠ []) (cs : List Char) :
    EndsWord (gap ++ cs) := by
  cases gap with
  | nil => exact absurd rfl some
  | cons c gap =>
      intro d hd
      obtain rfl : c = d := Option.some.inj hd
      exact h c List.mem_cons_self

/-! ## Finding words -/

/-- Blanks in front of a text do not matter. -/
theorem wordsFrom_gap (h : IsGap gap) (cs : List Char) :
    wordsFrom [] (gap ++ cs) = wordsFrom [] cs := by
  induction gap with
  | nil => rfl
  | cons c gap ih =>
      obtain ⟨blank, others⟩ := List.forall_mem_cons.mp h
      rw [List.cons_append, wordsFrom, if_pos blank]
      exact ih others

theorem wordsFrom_solid (h : ∀ c ∈ w, isBlank c = false) (current cs : List Char) :
    wordsFrom current (w ++ cs) = wordsFrom (current ++ w) cs := by
  induction w generalizing current with
  | nil => simp
  | cons c w ih =>
      obtain ⟨solid, others⟩ := List.forall_mem_cons.mp h
      rw [List.cons_append, wordsFrom, if_neg (by simp [solid]), ih others]
      simp

/-- A word ends where a blank or the end of the text is. -/
theorem wordsFrom_end (ne_nil : current ≠ []) (h : EndsWord cs) :
    wordsFrom current cs = current :: wordsFrom [] cs := by
  have isEmpty : current.isEmpty = false := by simpa using ne_nil
  cases cs with
  | nil => simp [wordsFrom, isEmpty]
  | cons c cs =>
      have blank : isBlank c = true := h c rfl
      simp [wordsFrom, blank, isEmpty]

/-- **The first word is found.** -/
theorem wordsFrom_word (hg : IsGap gap) (hw : IsWord w) (h : EndsWord rest) :
    wordsFrom [] (gap ++ w ++ rest) = w :: wordsFrom [] rest := by
  rw [List.append_assoc, wordsFrom_gap hg, wordsFrom_solid hw.solid, List.nil_append,
    wordsFrom_end hw.ne_nil h]

/-- The words of a text are found. -/
theorem Spaced.wordsFrom (h : Spaced cs ws) : wordsFrom [] cs = ws := by
  induction h with
  | @gap g hg => simpa [Blank.wordsFrom] using wordsFrom_gap hg []
  | word hg hw ends _ ih => rw [wordsFrom_word hg hw ends, ih]

/-- A blank more in front leaves the words as they are. -/
theorem Spaced.cons {c : Char} (h : Spaced cs ws) (blank : isBlank c = true) :
    Spaced (c :: cs) ws := by
  cases h with
  | gap hg => exact .gap (List.forall_mem_cons.mpr ⟨blank, hg⟩)
  | word hg hw ends others =>
      exact .word (List.forall_mem_cons.mpr ⟨blank, hg⟩) hw ends others

/-- What is found are the words of the text. -/
theorem spaced_wordsFrom (solid : ∀ c ∈ current, isBlank c = false) (cs : List Char) :
    Spaced (current ++ cs) (wordsFrom current cs) := by
  -- What was read of a word is kept apart from the rest, and grows up to the next blank.
  induction cs generalizing current with
  | nil =>
      by_cases empty : current = []
      · subst empty
        exact .gap isGap_nil
      · rw [wordsFrom_end empty isGap_nil.endsWord]
        exact .word isGap_nil ⟨empty, solid⟩ isGap_nil.endsWord (.gap isGap_nil)
  | cons c cs ih =>
      by_cases blank : isBlank c = true
      · have others : Spaced (c :: cs) (wordsFrom [] (c :: cs)) := by
          have same : wordsFrom [] (c :: cs) = wordsFrom [] cs := by simp [wordsFrom, blank]
          exact same ▸ (ih (List.forall_mem_nil _)).cons blank
        have ends : EndsWord (c :: cs) := fun d hd => Option.some.inj hd ▸ blank
        by_cases empty : current = []
        · subst empty
          exact others
        · rw [wordsFrom_end empty ends]
          exact .word isGap_nil ⟨empty, solid⟩ ends others
      · have longer : ∀ d ∈ current ++ [c], isBlank d = false := by
          simpa [or_imp, forall_and] using ⟨solid, by simpa using blank⟩
        simpa [wordsFrom, blank] using ih longer

/-- **Every text has its words in one way**, and they are what is found. -/
theorem wordsFrom_eq_iff : wordsFrom [] cs = ws ↔ Spaced cs ws :=
  ⟨fun h => h ▸ spaced_wordsFrom (List.forall_mem_nil _) cs, Spaced.wordsFrom⟩

theorem words_eq_iff {s : String} {ws : List String} :
    words s = ws ↔ Spaced s.toList (ws.map String.toList) := by
  rw [← wordsFrom_eq_iff, words]
  constructor
  · rintro rfl
    simp
  · intro h
    simp [h]

/-! ## What words are -/

theorem Spaced.isWord (h : Spaced cs ws) : ∀ w ∈ ws, IsWord w := by
  induction h with
  | gap => nofun
  | word _ hw _ _ ih => exact List.forall_mem_cons.mpr ⟨hw, ih⟩

theorem spaced_nil_iff : Spaced cs [] ↔ IsGap cs :=
  ⟨fun | .gap h => h, .gap⟩

theorem Spaced.exists_first (h : Spaced cs (w :: ws)) :
    ∃ gap rest, cs = gap ++ w ++ rest ∧ IsGap gap ∧ IsWord w ∧ EndsWord rest := by
  cases h with
  | word hg hw ends _ => exact ⟨_, _, rfl, hg, hw, ends⟩

/-- A text without words is blank. -/
theorem words_eq_nil_iff {s : String} : words s = [] ↔ IsGap s.toList :=
  words_eq_iff.trans spaced_nil_iff

/-- **The first word** of a text stands behind blanks only. -/
theorem exists_words_eq_cons_iff {s w : String} : (∃ ws, words s = w :: ws) ↔
    ∃ before after, s = before ++ w ++ after ∧
      IsGap before.toList ∧ IsWord w.toList ∧ EndsWord after.toList := by
  constructor
  · rintro ⟨ws, h⟩
    obtain ⟨gap, rest, chars, hg, hw, ends⟩ := (words_eq_iff.mp h).exists_first
    refine ⟨String.ofList gap, String.ofList rest, String.toList_inj.mp ?_, ?_, hw, ?_⟩
    · simpa using chars
    · simpa using hg
    · simpa using ends
  · rintro ⟨before, after, rfl, hg, hw, ends⟩
    refine ⟨words after, ?_⟩
    rw [words, String.toList_append, String.toList_append, wordsFrom_word hg hw ends, List.map_cons,
      String.ofList_toList, words]

end BuildRunner.Blank
