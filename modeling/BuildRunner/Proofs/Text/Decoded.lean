import BuildRunner.Proofs.Text.Lined

set_option autoImplicit false

/-! # Lines and decoding

Bytes are cut into lines first and decoded then. It would be the same to decode all bytes first and
to cut the text, since line feeds and returns are ASCII: a broken character never takes one of them
with it, and none comes out of one.
-/

namespace BuildRunner.Line

variable {ending : Ending} {bs l p front : List UInt8} {ls : List (List UInt8)}

theorem decode_append_feed (front back : List UInt8) :
    Utf8.decode (front ++ feed :: back) = Utf8.decode front ++ '\n' :: Utf8.decode back :=
  (Utf8.decode_eq_append_iff (by decide)).mpr ⟨front, back, rfl, rfl, rfl⟩

/-- A return at the end is decoded of its byte only. -/
theorem getLast?_decode (h : l.getLast? ≠ some carriageReturn) :
    (Utf8.decode l).getLast? ≠ some '\r' := by
  intro ends
  obtain ⟨cs, split⟩ := List.getLast?_eq_some_iff.mp ends
  obtain ⟨front, back, rfl, -, nothing⟩ :=
    (Utf8.decode_eq_append_iff (b := carriageReturn) (by decide)).mp split
  rw [Utf8.decode_eq_nil_iff.mp nothing] at h
  exact h List.getLast?_concat

theorem Trimmed.decode (h : Trimmed carriageReturn p l) :
    Trimmed '\r' (Utf8.decode p) (Utf8.decode l) := by
  cases h with
  | dropped =>
      have ends : Utf8.decode (l ++ [carriageReturn]) = Utf8.decode l ++ ['\r'] :=
        (Utf8.decode_eq_append_iff (by decide)).mpr ⟨l, [], rfl, rfl, rfl⟩
      rw [ends]
      exact .dropped _
  | whole other => exact .whole (getLast?_decode other)

theorem last_decode (ending : Ending) (rest : List UInt8) :
    last ending (Utf8.decode rest) = (last ending rest).map Utf8.decode := by
  cases rest with
  | nil => cases ending <;> rfl
  | cons b bs =>
      cases h : Utf8.decode (b :: bs) with
      | nil => cases Utf8.decode_eq_nil_iff.mp h
      | cons c cs => cases ending <;> simp [last, h]

/-- **Decoding commutes with cutting.** -/
theorem Lined.decode (h : Lined feed carriageReturn ending bs ls) :
    Lined '\n' '\r' ending (Utf8.decode bs) (ls.map Utf8.decode) := by
  induction h with
  | rest hr =>
      rw [← last_decode]
      exact .rest (notMem_decode hr)
  | line hp trimmed _ ih =>
      rw [decode_append_feed, List.map_cons]
      exact .line (notMem_decode hp) trimmed.decode ih

/-- **A line feed divides a stream**: the lines before it and those behind it are split apart. -/
theorem split_append_feed (ending : Ending) (front back : List UInt8) :
    split ending (front ++ feed :: back) =
      split ending (front ++ [feed]) ++ split ending back := by
  have ended : (pieces (front ++ [feed])).2 = [] := by
    rw [pieces_append, pieces_piece (notMem_rest front)]
    rfl
  have nothing : ofRest ending [] = [] := by cases ending <;> rfl
  have cut (bs : List UInt8) :
      split ending bs = (pieces bs).1.map ofPiece ++ ofRest ending (pieces bs).2 := rfl
  rw [List.append_cons, cut, cut, cut, pieces_append, ended, nothing]
  simp

/-- **Decoding and splitting commute.**

The lines of a stream that ends cleanly are those of its text, that is of all its bytes decoded at
once, with one replacement for each broken sequence. A line feed stands in the text exactly where
its byte stands, and what is before it is decoded without what is behind it, and the other way
round; so are the lines on its two sides. -/
theorem decoding_commutes (chunks : List (List UInt8)) :
    Utf8.Reads chunks.flatten (Utf8.decode chunks.flatten) ∧
    (∃! ls, Lined '\n' '\r' .clean (Utf8.decode chunks.flatten) ls) ∧
    (∀ ls, Lined '\n' '\r' .clean (Utf8.decode chunks.flatten) ls →
      ofChunks .clean chunks = ls.map String.ofList) ∧
    (∀ cs ds, Utf8.decode chunks.flatten = cs ++ '\n' :: ds ↔
      ∃ front back, chunks.flatten = front ++ feed :: back ∧
        Utf8.decode front = cs ∧ Utf8.decode back = ds) ∧
    (∀ front back, chunks.flatten = front ++ feed :: back →
      ofChunks .clean chunks = split .clean (front ++ [feed]) ++ split .clean back) := by
  have whole : ofChunks .clean chunks = split .clean chunks.flatten := ofChunks_eq .clean chunks
  obtain ⟨ls, lined⟩ := exists_lined feed carriageReturn .clean chunks.flatten
  have one : ∀ ls', Lined '\n' '\r' .clean (Utf8.decode chunks.flatten) ls' →
      ls' = ls.map Utf8.decode :=
    fun _ other => other.unique lined.decode
  refine ⟨Utf8.reads_decode _, ⟨ls.map Utf8.decode, lined.decode, one⟩, fun ls' other => ?_,
    fun cs ds => Utf8.decode_eq_append_iff (b := feed) (by decide), fun front back same => ?_⟩
  · rw [whole, lined.split, one ls' other, List.map_map]
    rfl
  · rw [whole, same, split_append_feed]

/-- A character that is cut short by a line feed. -/
theorem decoding_commutes_cutShort :
    let chunks := [[0xE2], [0x82, 10, 97]]
    ofChunks .clean chunks = split .clean [0xE2, 0x82, 10] ++ split .clean [97] ∧
      ofChunks .clean chunks = ["\uFFFD", "a"] := by
  intro chunks
  exact ⟨(decoding_commutes chunks).2.2.2.2 [0xE2, 0x82] [97] rfl, by decide⟩

end BuildRunner.Line
