import BuildRunner.Text.Line

set_option autoImplicit false

/-! # Lines and the chunks in which they arrive

A stream is cut as a whole as it is cut in parts: what is behind the last line feed of the first
part is put before the second one. So the complete lines of what has been read are the first ones
of all that will be read.
-/

namespace BuildRunner.Line

theorem pieces_cons_feed (bs : List UInt8) :
    pieces (Line.feed :: bs) = ([] :: (pieces bs).1, (pieces bs).2) := by
  simp [pieces]

/-- A byte that ends no line belongs to the first piece, or to the rest if there is none. -/
theorem pieces_cons {b : UInt8} (hb : b ≠ Line.feed) (bs : List UInt8) :
    pieces (b :: bs) =
      match (pieces bs).1 with
      | [] => ([], b :: (pieces bs).2)
      | p :: ps => ((b :: p) :: ps, (pieces bs).2) :=
  if_neg hb

/-- **Cutting in parts**: the rest of the first part belongs to the second one. -/
theorem pieces_append (as bs : List UInt8) :
    pieces (as ++ bs) =
      ((pieces as).1 ++ (pieces ((pieces as).2 ++ bs)).1, (pieces ((pieces as).2 ++ bs)).2) := by
  induction as with
  | nil => rfl
  | cons a as ih =>
      by_cases ha : a = Line.feed
      · subst ha
        rw [List.cons_append, pieces_cons_feed, pieces_cons_feed, ih, List.cons_append]
      · rw [List.cons_append, pieces_cons ha, pieces_cons ha, ih]
        cases hp : (pieces as).1 with
        | cons p ps => simp
        | nil =>
            -- No line has ended yet, so the byte goes on to the second part.
            simp only [List.nil_append, List.cons_append]
            rw [pieces_cons ha]

/-- The lines of a stream that breaks down are those that are complete. -/
theorem split_broken (bs : List UInt8) : split .broken bs = (pieces bs).1.map ofPiece := by
  simp [split, ofRest]

/-- The complete lines of what was read come first in all that is written. -/
theorem prefix_split (as bs : List UInt8) : split .broken as <+: split .clean (as ++ bs) := by
  rw [split_broken, split, pieces_append]
  simp only [List.map_append, List.append_assoc]
  exact List.prefix_append _ _

end BuildRunner.Line
