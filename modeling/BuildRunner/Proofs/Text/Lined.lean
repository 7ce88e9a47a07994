import BuildRunner.Proofs.Text.Line
import BuildRunner.Proofs.Text.Utf8
import Mathlib.Logic.ExistsUnique

set_option autoImplicit false

/-! # The lines of a sequence

`Lined` says what the lines of a sequence are, of bytes or of characters alike, in the words in
which a person would say it: a line feed ends a piece, a piece is a line without its line feed and
without one return before that, and what no line feed ends is a line if the sequence ends cleanly.

What a reader makes of a stream is a function of its bytes and not of the chunks in which they
arrive (`ofChunks_eq`), and it is what `Lined` says (`lines_of_chunks`).
-/

namespace BuildRunner.Line

variable {α : Type} {mark ret : α} {ending : Ending} {xs l p r : List α} {ls : List (List α)}

/-! ## What lines are -/

/-- **The line of a piece**: one return at its end does not count. -/
inductive Trimmed (ret : α) : List α → List α → Prop where
  | dropped (l : List α) : Trimmed ret (l ++ [ret]) l
  | whole {l : List α} : l.getLast? ≠ some ret → Trimmed ret l l

def last (ending : Ending) (rest : List α) : List (List α) :=
  match ending, rest with
  | .clean, _ :: _ => [rest]
  | _, _ => []

/-- **The lines of a sequence** in which a mark ends them. -/
inductive Lined (mark ret : α) (ending : Ending) : List α → List (List α) → Prop where
  /-- What no mark ends is a line as it is, if there is anything and the sequence ends cleanly. -/
  | rest {r : List α} : mark ∉ r → Lined mark ret ending r (last ending r)
  /-- The first piece is a line without its mark, and the lines of the rest follow. -/
  | line {p l xs : List α} {ls : List (List α)} : mark ∉ p → Trimmed ret p l →
      Lined mark ret ending xs ls → Lined mark ret ending (p ++ mark :: xs) (l :: ls)

theorem mem_last (h : l ∈ last ending r) : l = r := by
  unfold last at h
  split at h
  · exact List.mem_singleton.mp h
  · cases h

theorem Trimmed.subset (h : Trimmed ret p l) : l ⊆ p := by
  cases h with
  | dropped => exact List.subset_append_left _ _
  | whole => exact List.Subset.refl _

/-- Every piece has its line. -/
theorem exists_trimmed [DecidableEq α] (ret : α) (p : List α) : ∃ l, Trimmed ret p l := by
  by_cases h : p.getLast? = some ret
  · obtain ⟨l, rfl⟩ := List.getLast?_eq_some_iff.mp h
    exact ⟨l, .dropped l⟩
  · exact ⟨p, .whole h⟩

theorem Trimmed.unique {l' : List α} (h : Trimmed ret p l) (h' : Trimmed ret p l') : l = l' := by
  generalize hq : p = q at h'
  cases h with
  | dropped =>
      cases h' with
      | dropped => exact List.append_cancel_right hq
      | whole other => exact absurd (hq ▸ List.getLast?_concat) other
  | whole other =>
      cases h' with
      | dropped => exact absurd (hq ▸ List.getLast?_concat) other
      | whole => exact hq

/-- The first mark of a sequence is in one place. -/
theorem first_unique {p' xs' : List α} (hp : mark ∉ p) (hp' : mark ∉ p')
    (h : p ++ mark :: xs = p' ++ mark :: xs') : p = p' ∧ xs = xs' := by
  induction p generalizing p' with
  | nil =>
      cases p' with
      | nil => exact ⟨rfl, (List.cons.inj h).2⟩
      | cons b p' => exact absurd ((List.cons.inj h).1 ▸ List.mem_cons_self) hp'
  | cons b p ih =>
      cases p' with
      | nil => exact absurd ((List.cons.inj h).1 ▸ List.mem_cons_self) hp
      | cons b' p' =>
          obtain ⟨rfl, tail⟩ := List.cons.inj h
          obtain ⟨rfl, rfl⟩ := ih (fun there => hp (List.mem_cons_of_mem _ there))
            (fun there => hp' (List.mem_cons_of_mem _ there)) tail
          exact ⟨rfl, rfl⟩

/-- Every sequence has lines. -/
theorem exists_lined [DecidableEq α] (mark ret : α) (ending : Ending) (xs : List α) :
    ∃ ls, Lined mark ret ending xs ls := by
  induction hn : xs.length using Nat.strongRecOn generalizing xs with
  | _ n ih =>
      -- What is behind the first mark is shorter; without a mark there is the rest only.
      by_cases h : mark ∈ xs
      · obtain ⟨p, rest, rfl, hp⟩ := List.eq_append_cons_of_mem h
        rw [List.length_append, List.length_cons] at hn
        obtain ⟨ls, hls⟩ := ih rest.length (by omega) rest rfl
        obtain ⟨l, hl⟩ := exists_trimmed ret p
        exact ⟨l :: ls, .line hp hl hls⟩
      · exact ⟨_, .rest h⟩

namespace Lined

/-- A sequence has its lines in one way only. -/
theorem unique {ls' : List (List α)} (h : Lined mark ret ending xs ls)
    (h' : Lined mark ret ending xs ls') : ls = ls' := by
  induction h generalizing ls' with
  | rest hr =>
      cases h' with
      | rest => rfl
      | line => exact absurd (List.mem_append_right _ List.mem_cons_self) hr
  | @line p l xs ls hp trimmed _ ih =>
      -- An appended list is no constructor, so it gets a name before the cases are taken.
      generalize hys : p ++ mark :: xs = ys at h'
      cases h' with
      | rest hr => exact absurd (hys ▸ List.mem_append_right _ List.mem_cons_self) hr
      | line hp' trimmed' rest' =>
          obtain ⟨rfl, rfl⟩ := first_unique hp hp' hys
          rw [trimmed.unique trimmed', ih rest']

/-- **No line holds a mark.** -/
theorem unmarked (h : Lined mark ret ending xs ls) (hl : l ∈ ls) : mark ∉ l := by
  induction h with
  | rest hr => exact mem_last hl ▸ hr
  | line hp trimmed _ ih =>
      rcases List.mem_cons.mp hl with rfl | hl
      · exact fun there => hp (trimmed.subset there)
      · exact ih hl

/-- **The number of lines** is that of the marks, and one more if something is behind the last one
and the sequence ends cleanly. -/
theorem length_eq [DecidableEq α] (h : Lined mark ret ending xs ls) : ls.length = xs.count mark +
    if ending = .clean ∧ xs ≠ [] ∧ xs.getLast? ≠ some mark then 1 else 0 := by
  induction h with
  | @rest r hr =>
      have other : r.getLast? ≠ some mark := fun same => hr (List.mem_of_getLast? same)
      rw [List.count_eq_zero.mpr hr]
      cases ending <;> cases r <;> simp_all [last]
  | @line p l xs ls hp _ _ ih =>
      rw [List.length_cons, ih, List.count_append, List.count_eq_zero.mpr hp, List.count_cons_self]
      cases xs with
      | nil => simp
      | cons x xs => simp [List.getLast?_append]; omega

end Lined

/-! ## Chunks -/

variable {bs : List UInt8} {chunks : List (List UInt8)} {r : Reader}

theorem pieces_of_notMem (h : Line.feed ∉ bs) : pieces bs = ([], bs) := by
  induction bs with
  | nil => rfl
  | cons b bs ih =>
      rw [List.mem_cons, not_or] at h
      rw [pieces_cons (Ne.symm h.1), ih h.2]

/-- There is no line feed in a rest. -/
theorem notMem_rest (bs : List UInt8) : Line.feed ∉ (pieces bs).2 := by
  induction bs with
  | nil => exact List.not_mem_nil
  | cons b bs ih =>
      by_cases hb : b = Line.feed
      · rw [hb, pieces_cons_feed]
        exact ih
      · rw [pieces_cons hb]
        split
        · rw [List.mem_cons, not_or]
          exact ⟨Ne.symm hb, ih⟩
        · exact ih

/-- **A reader between two chunks** has cut all that it was given. -/
theorem foldl_feed (h : Line.feed ∉ r.rest) (chunks : List (List UInt8)) :
    chunks.foldl Reader.feed r = ⟨r.ready ++ (pieces (r.rest ++ chunks.flatten)).1.map ofPiece,
      (pieces (r.rest ++ chunks.flatten)).2⟩ := by
  -- What the reader holds changes with every chunk, and there is never a line feed in its rest.
  induction chunks generalizing r with
  | nil => simp [pieces_of_notMem h]
  | cons chunk chunks ih =>
      have fed : r.feed chunk = ⟨r.ready ++ (pieces (r.rest ++ chunk)).1.map ofPiece,
          (pieces (r.rest ++ chunk)).2⟩ := rfl
      rw [List.foldl_cons, fed, ih (notMem_rest _), List.flatten_cons, ← List.append_assoc,
        pieces_append (r.rest ++ chunk)]
      simp

/-- **The chunks do not matter.** -/
theorem ofChunks_eq (ending : Ending) (chunks : List (List UInt8)) :
    ofChunks ending chunks = split ending chunks.flatten := by
  have fresh : Line.feed ∉ ({} : Reader).rest := List.not_mem_nil
  rw [ofChunks, foldl_feed fresh]
  rfl

/-! ## Bytes -/

theorem trimmed_dropReturn {p l : List UInt8} (h : Trimmed carriageReturn p l) :
    dropReturn p = l := by
  cases h with
  | dropped => simp [dropReturn]
  | whole other => exact if_neg other

theorem ofRest_eq (ending : Ending) (rest : List UInt8) :
    ofRest ending rest = (last ending rest).map Utf8.text := by
  cases ending <;> cases rest <;> rfl

theorem pieces_piece {p : List UInt8} (hp : Line.feed ∉ p) (bs : List UInt8) :
    pieces (p ++ Line.feed :: bs) = (p :: (pieces bs).1, (pieces bs).2) := by
  induction p with
  | nil => exact pieces_cons_feed bs
  | cons b p ih =>
      rw [List.mem_cons, not_or] at hp
      rw [List.cons_append, pieces_cons (Ne.symm hp.1), ih hp.2]

/-- **A stream is split into its lines**, which are decoded. -/
theorem Lined.split {ls : List (List UInt8)} (h : Lined Line.feed carriageReturn ending bs ls) :
    split ending bs = ls.map Utf8.text := by
  induction h with
  | rest hr =>
      rw [Line.split, pieces_of_notMem hr]
      exact ofRest_eq _ _
  | line hp trimmed _ ih =>
      rw [Line.split, pieces_piece hp, List.map_cons, ← ih, ← trimmed_dropReturn trimmed]
      rfl

/-! ## Writing -/

/-- A line as it is written: a return may stand before the line feed. -/
def written (text : String) (withReturn : Bool) : List UInt8 :=
  Utf8.encode text ++ (if withReturn then [carriageReturn] else []) ++ [Line.feed]

theorem ascii_return : Char.ofNat carriageReturn.toNat = '\r' := by decide

/-- A line feed is decoded of its byte only. -/
theorem notMem_decode (h : Line.feed ∉ bs) : '\n' ∉ Utf8.decode bs := by
  intro there
  obtain ⟨cs, ds, split⟩ := List.append_of_mem there
  obtain ⟨front, back, rfl, -, -⟩ :=
    (Utf8.decode_eq_append_iff (b := Line.feed) (by decide)).mp split
  exact h (List.mem_append_right _ List.mem_cons_self)

/-- The byte of a line feed is only in the encodings of texts with a line feed. -/
theorem notMem_encode {text : String} (h : '\n' ∉ text.toList) : Line.feed ∉ Utf8.encode text := by
  intro there
  obtain ⟨front, back, split⟩ := List.append_of_mem there
  have divided := (Utf8.decode_eq_append_iff (b := Line.feed) (by decide)).mpr
    ⟨front, back, split, rfl, rfl⟩
  rw [Utf8.decode_encode] at divided
  exact h (divided ▸ List.mem_append_right _ List.mem_cons_self)

theorem getLast?_encode {text : String} (h : text.toList.getLast? ≠ some '\r') :
    (Utf8.encode text).getLast? ≠ some carriageReturn := by
  intro ends
  obtain ⟨front, split⟩ := List.getLast?_eq_some_iff.mp ends
  have divided := (Utf8.decode_eq_append_iff (b := carriageReturn) (by decide)).mpr
    ⟨front, [], split, rfl, rfl⟩
  rw [Utf8.decode_encode] at divided
  exact h (by rw [divided]; simp [ascii_return, Utf8.decode, Utf8.decodeFrom])

/-- **What is written line by line** has these lines. -/
theorem lined_written (ending : Ending) {texts : List (String × Bool)}
    (h : ∀ t ∈ texts, '\n' ∉ t.1.toList ∧ t.1.toList.getLast? ≠ some '\r') :
    Lined Line.feed carriageReturn ending (texts.flatMap fun t => written t.1 t.2)
      (texts.map fun t => Utf8.encode t.1) := by
  induction texts with
  | nil =>
      have empty : last ending ([] : List UInt8) = [] := by cases ending <;> rfl
      have nothing : Lined Line.feed carriageReturn ending ([] : List UInt8) (last ending []) :=
        .rest List.not_mem_nil
      rwa [empty] at nothing
  | cons t texts ih =>
      obtain ⟨text, withReturn⟩ := t
      obtain ⟨plain, ends⟩ := h _ List.mem_cons_self
      have rest := ih fun t ht => h t (List.mem_cons_of_mem _ ht)
      rw [List.flatMap_cons, List.map_cons, written, List.append_assoc]
      refine .line ?_ ?_ rest
      · cases withReturn with
        | false => simpa using notMem_encode plain
        | true => simpa [carriageReturn, Line.feed] using notMem_encode plain
      · cases withReturn with
        | false => simpa using Trimmed.whole (getLast?_encode ends)
        | true => exact .dropped _

/-- **The lines of a stream that arrives in chunks.**

Whatever the chunks are, the lines are those of the bytes, cut before they are decoded; there is one
way to cut them. Their number is that of the line feeds, and one more if the stream ends cleanly
behind something that no line feed ends. No line holds a line feed. Lines that are written one after
another, each with a line feed or with a return and a line feed behind it, are read back, if none
holds a line feed or ends in a return. -/
theorem lines_of_chunks (ending : Ending) (chunks : List (List UInt8)) :
    let bs := chunks.flatten
    let lines := ofChunks ending chunks
    (∀ chunks', chunks'.flatten = bs → ofChunks ending chunks' = lines) ∧
    (∃! ls, Lined feed carriageReturn ending bs ls) ∧
    (∀ ls, Lined feed carriageReturn ending bs ls → lines = ls.map Utf8.text) ∧
    lines.length = bs.count feed +
      (if ending = .clean ∧ bs ≠ [] ∧ bs.getLast? ≠ some feed then 1 else 0) ∧
    (∀ line ∈ lines, '\n' ∉ line.toList) ∧
    (∀ texts : List (String × Bool),
      (∀ t ∈ texts, '\n' ∉ t.1.toList ∧ t.1.toList.getLast? ≠ some '\r') →
      bs = (texts.flatMap fun t => written t.1 t.2) → lines = texts.map (·.1)) := by
  intro bs lines
  have split : lines = Line.split ending bs := ofChunks_eq ending chunks
  obtain ⟨ls, lined⟩ := exists_lined feed carriageReturn ending bs
  have decoded : lines = ls.map Utf8.text := split.trans lined.split
  refine ⟨fun chunks' same => ?_, ⟨ls, lined, fun _ other => other.unique lined⟩,
    fun _ other => split.trans other.split, ?_, fun line hline => ?_, fun texts plain same => ?_⟩
  · rw [ofChunks_eq, same, split]
  · rw [decoded, List.length_map, lined.length_eq]
  · rw [decoded] at hline
    obtain ⟨l, hl, rfl⟩ := List.mem_map.mp hline
    rw [Utf8.text, String.toList_ofList]
    exact notMem_decode (lined.unmarked hl)
  · rw [split, same, (lined_written ending plain).split, List.map_map]
    exact List.map_congr_left fun t _ => Utf8.text_encode t.1

/-- The chunks cut a character and the two bytes that end a line. -/
theorem lines_of_chunks_cutApart :
    let chunks := [[0xC3], [0xA9, 13], [10, 10, 97, 13], [10]]
    let texts := [("é", true), ("", false), ("a", true)]
    chunks.flatten = (texts.flatMap fun t => written t.1 t.2) ∧
      ofChunks .clean chunks = texts.map (·.1) ∧ (ofChunks .clean chunks).length = 3 := by
  intro chunks texts
  have same : chunks.flatten = texts.flatMap fun t => written t.1 t.2 := by
    simp only [texts, written, Utf8.encode_eq]
    decide
  have all := lines_of_chunks .clean chunks
  exact ⟨same, all.2.2.2.2.2 texts (by decide) same, all.2.2.2.1.trans (by decide)⟩

end BuildRunner.Line
