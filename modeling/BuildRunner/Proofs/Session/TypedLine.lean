import BuildRunner.Proofs.Text.Words
import BuildRunner.Session.Typed

set_option autoImplicit false

/-! # Typed lines read back

A typed line says what its words are: the first one is the command, behind the mark if it is forced,
and the others are its arguments (`parse_eq_some_iff`). Only a line without words, or one whose first
word is the mark alone, says nothing (`parse_eq_none_iff`). So whatever blanks stand between the
words of a line, it reads back as the words with which it was written.
-/

namespace BuildRunner

open Blank (IsGap IsWord EndsWord Spaced)

namespace Typed

variable {line : String} {t : Typed} {force : Bool} {command : String} {args : List String}

/-- What stands directly before a command. -/
def mark (force : Bool) : String := if force then "!" else ""

def words (t : Typed) : List String := (mark t.force ++ t.command) :: t.args

theorem toList_forced (command : String) :
    (mark true ++ command).toList = '!' :: command.toList := by
  simp [mark]

theorem unforced (command : String) : mark false ++ command = command := by
  simp [mark]

/-- **A command that can be typed**: a word, which has no mark in front unless it is forced. -/
structure Typeable (force : Bool) (command : String) : Prop where
  word : IsWord command.toList
  unmarked : force = false → command.toList.head? ≠ some '!'

theorem Typeable.isWord (h : Typeable force command) : IsWord (mark force ++ command).toList := by
  cases force with
  | false => exact (unforced command).symm ▸ h.word
  | true =>
      have solid : Blank.isBlank '!' = false := by decide
      rw [toList_forced]
      exact ⟨nofun, List.forall_mem_cons.mpr ⟨solid, h.word.solid⟩⟩

/-- A line with the words of a command and its arguments says just these. -/
theorem parse_of_words (h : Typeable t.force t.command) (hw : Blank.words line = t.words) :
    parse line = some t := by
  obtain ⟨force, command, args⟩ := t
  -- There is something behind the mark, so the case of a mark alone is out.
  have some_chars : command.toList ≠ [] := h.word.ne_nil
  rw [parse, hw, words]
  cases force with
  | true =>
      simp only [toList_forced, String.ofList_toList]
  | false =>
      have unmarked := h.unmarked rfl
      simp only [unforced]
      split
      · rename_i alone
        exact absurd (by rw [alone]; rfl) unmarked
      · rename_i rest _ same
        exact absurd (by rw [same]; rfl) unmarked
      · rfl

/-- **A first word** is the mark alone or a command, with or without the mark in front. -/
theorem first_cases {first : String} (h : IsWord first.toList) :
    first = "!" ∨ ∃ force command, Typeable force command ∧ first = mark force ++ command := by
  by_cases marked : first.toList.head? = some '!'
  · obtain ⟨cs, chars⟩ := List.head?_eq_some_iff.mp marked
    by_cases alone : cs = []
    · exact .inl (String.toList_inj.mp (chars.trans (by rw [alone]; rfl)))
    · have solid : ∀ c ∈ cs, Blank.isBlank c = false := fun c hc =>
        h.solid c (chars ▸ List.mem_cons_of_mem _ hc)
      refine .inr ⟨true, String.ofList cs, ⟨by simpa using ⟨alone, solid⟩, nofun⟩, ?_⟩
      rw [← String.toList_inj, toList_forced, chars, String.toList_ofList]
  · exact .inr ⟨false, first, ⟨h, fun _ => marked⟩, (unforced first).symm⟩

/-- Every word of a line is one. -/
theorem isWord_of_mem {w : String} (h : w ∈ Blank.words line) : IsWord w.toList :=
  (Blank.words_eq_iff.mp rfl).isWord _ (List.mem_map_of_mem h)

theorem parse_of_mark (h : Blank.words line = "!" :: args) : parse line = none := by
  rw [parse, h]
  rfl

/-- **What a line says**, by its words. -/
theorem parse_cases (line : String) :
    (Blank.words line = [] ∧ parse line = none) ∨
    (∃ args, Blank.words line = "!" :: args ∧ parse line = none) ∨
    ∃ t, Typeable t.force t.command ∧ Blank.words line = t.words ∧ parse line = some t := by
  match found : Blank.words line with
  | [] => exact .inl ⟨rfl, by rw [parse, found]⟩
  | first :: args =>
      rcases first_cases (isWord_of_mem (found ▸ List.mem_cons_self)) with
        rfl | ⟨force, command, typeable, rfl⟩
      · exact .inr (.inl ⟨args, rfl, parse_of_mark found⟩)
      · exact .inr (.inr ⟨⟨force, command, args⟩, typeable, rfl, parse_of_words typeable found⟩)

/-- **A line says what its words are.** -/
theorem parse_eq_some_iff :
    parse line = some t ↔ Typeable t.force t.command ∧ Blank.words line = t.words := by
  refine ⟨fun read => ?_, fun ⟨typeable, found⟩ => parse_of_words typeable found⟩
  rcases parse_cases line with ⟨-, silent⟩ | ⟨-, -, silent⟩ | ⟨t', typeable, found, read'⟩
  · cases silent ▸ read
  · cases silent ▸ read
  · obtain rfl : t' = t := Option.some.inj (read' ▸ read)
    exact ⟨typeable, found⟩

/-- **A line says nothing** exactly if it has no words or its first word is the mark alone. -/
theorem parse_eq_none_iff :
    parse line = none ↔ Blank.words line = [] ∨ ∃ args, Blank.words line = "!" :: args := by
  constructor
  · intro silent
    rcases parse_cases line with ⟨found, -⟩ | ⟨args, found, -⟩ | ⟨t, -, -, read⟩
    · exact .inl found
    · exact .inr ⟨args, found⟩
    · cases silent ▸ read
  · rintro (found | ⟨args, found⟩)
    · rw [parse, found]
    · exact parse_of_mark found

/-! ## Writing -/

/-- **Words behind another one**, each with the blanks in front of it. -/
def behind (rest : List (String × String)) : String := String.join (rest.map fun r => r.1 ++ r.2)

/-- **Blanks and a word behind them**, which the blanks keep apart from what is in front. -/
structure Apart (r : String × String) : Prop where
  gap : IsGap r.1.toList
  some : r.1 ≠ ""
  word : IsWord r.2.toList

theorem spaced_behind {rest : List (String × String)} {after : String} (h : ∀ r ∈ rest, Apart r)
    (hafter : IsGap after.toList) :
    EndsWord (behind rest ++ after).toList ∧
      Spaced (behind rest ++ after).toList ((rest.map (·.2)).map String.toList) := by
  -- A word that is put in front must end there, so this is kept along with the words.
  induction rest with
  | nil => simpa [behind] using ⟨hafter.endsWord, .gap hafter⟩
  | cons r rest ih =>
      obtain ⟨apart, others⟩ := List.forall_mem_cons.mp h
      obtain ⟨ends, spaced⟩ := ih others
      have split : (behind (r :: rest) ++ after).toList =
          r.1.toList ++ r.2.toList ++ (behind rest ++ after).toList := by
        simp [behind]
      rw [split]
      refine ⟨?_, .word apart.gap apart.word ends spaced⟩
      rw [List.append_assoc]
      exact apart.gap.endsWord_append (by simpa using apart.some) _

/-- **The words of a written line** are those that were written. -/
theorem words_written {before after first : String} {rest : List (String × String)}
    (hbefore : IsGap before.toList) (hfirst : IsWord first.toList) (h : ∀ r ∈ rest, Apart r)
    (hafter : IsGap after.toList) :
    Blank.words (before ++ first ++ behind rest ++ after) = first :: rest.map (·.2) := by
  obtain ⟨ends, spaced⟩ := spaced_behind h hafter
  rw [Blank.words_eq_iff]
  have split : (before ++ first ++ behind rest ++ after).toList =
      before.toList ++ first.toList ++ (behind rest ++ after).toList := by
    simp
  rw [split]
  exact .word hbefore hfirst ends spaced

/-- **A written line says what was written.** -/
theorem parse_written {before after : String} {rest : List (String × String)}
    (typeable : Typeable force command) (h : ∀ r ∈ rest, Apart r)
    (hbefore : IsGap before.toList) (hafter : IsGap after.toList) :
    parse (before ++ (mark force ++ command) ++ behind rest ++ after) =
      some ⟨force, command, rest.map (·.2)⟩ :=
  parse_of_words typeable (words_written hbefore typeable.isWord h hafter)

/-- A typed line is rendered with one space in front of each argument. -/
theorem render_eq (t : Typed) :
    t.render = "" ++ (mark t.force ++ t.command) ++ behind (t.args.map (" ", ·)) ++ "" := by
  have joined (first : String) (args : List String) :
      String.intercalate " " (first :: args) = first ++ behind (args.map (" ", ·)) := by
    induction args generalizing first with
    | nil => simp [behind]
    | cons a args ih => simp [ih, behind, String.append_assoc]
  have marked : (if t.force then String.singleton forceMark else "") = mark t.force := by
    cases t.force <;> rfl
  rw [render, joined, marked]
  simp

end Typed

/-! ## Every line -/

/-- **Typed lines read back.**

A command that is a word, with any words as arguments, is read back from every line in which blanks
stand between the words, and perhaps in front of and behind them. The mark stands directly before the
command if it is forced; one that is not must not start with it.

In the other direction a line says nothing exactly if it is blank or its first word is the mark
alone. What any other line says is made of words, and is said again by its rendering. -/
theorem typed_lines_read_back :
    (∀ (force : Bool) (command : String) (rest : List (String × String)) (before after : String),
      IsWord command.toList → (force = false → command.toList.head? ≠ some '!') →
      (∀ r ∈ rest, Typed.Apart r) → IsGap before.toList → IsGap after.toList →
      Typed.parse (before ++ ((if force then "!" else "") ++ command) ++
        String.join (rest.map fun r => r.1 ++ r.2) ++ after) =
          some ⟨force, command, rest.map (·.2)⟩) ∧
    (∀ line, Typed.parse line = none ↔ IsGap line.toList ∨
      ∃ before after, line = before ++ "!" ++ after ∧ IsGap before.toList ∧ EndsWord after.toList) ∧
    (∀ line t, Typed.parse line = some t →
      IsWord t.command.toList ∧ (∀ a ∈ t.args, IsWord a.toList) ∧ Typed.parse t.render = some t) := by
  refine ⟨fun force command rest before after word unmarked apart hbefore hafter => ?_,
    fun line => ?_, fun line t read => ?_⟩
  · exact Typed.parse_written ⟨word, unmarked⟩ apart hbefore hafter
  · have mark : IsWord "!".toList := by decide
    rw [Typed.parse_eq_none_iff, Blank.words_eq_nil_iff, Blank.exists_words_eq_cons_iff]
    simp only [mark, true_and]
  · obtain ⟨typeable, found⟩ := Typed.parse_eq_some_iff.mp read
    have args : ∀ a ∈ t.args, IsWord a.toList := by
      intro a ha
      have there : a ∈ Blank.words line := found ▸ List.mem_cons_of_mem _ ha
      exact Typed.isWord_of_mem there
    refine ⟨typeable.word, args, ?_⟩
    have space : IsGap " ".toList := by decide
    have nothing : IsGap "".toList := by decide
    -- The rendering puts one space before each argument.
    have apart : ∀ r ∈ t.args.map (" ", ·), Typed.Apart r :=
      List.forall_mem_map.mpr fun a ha => ⟨space, by simp, args a ha⟩
    have kept : (t.args.map (" ", ·)).map (·.2) = t.args := by
      rw [List.map_map]
      exact List.map_id _
    rw [Typed.render_eq, Typed.parse_written typeable apart nothing nothing, kept]

/-- A forced command that starts with a mark itself, with blanks of several kinds around its words. -/
theorem typed_lines_read_back_marked :
    let rest := [("\u2003\t", "--"), ("\u00a0", "é!")]
    (∀ r ∈ rest, Typed.Apart r) ∧
      Typed.parse " \u2029!!test\u2003\t--\u00a0é!\n" = some ⟨true, "!test", ["--", "é!"]⟩ := by
  intro rest
  have apart : ∀ r ∈ rest, Typed.Apart r :=
    List.forall_mem_cons.mpr ⟨⟨by decide, by decide, by decide⟩,
      List.forall_mem_singleton.mpr ⟨by decide, by decide, by decide⟩⟩
  exact ⟨apart, typed_lines_read_back.1 true "!test" rest " \u2029" "\n" (by decide) nofun apart
    (by decide) (by decide)⟩

end BuildRunner
