import BuildRunner.Shell.Pattern

set_option autoImplicit false

/-! # Fields

An expanded word is a list of glyphs: characters that know whether they were quoted and whether
they come from an expansion. Glyphs from expansions are split into fields. Each expansion is
split on its own, which is why a seam stands where one begins.
-/

namespace BuildRunner.Shell

/-- A piece of an expanded word. -/
inductive Glyph where
  /-- A character of the script outside of quotes. -/
  | plain (c : Char)
  /-- A character in quotes. -/
  | quoted (c : Char)
  /-- A character that an expansion outside of quotes has yielded. -/
  | expanded (c : Char)
  /-- The mark of quotes: a field stands here, even if it is empty. -/
  | mark
  /-- The border between two arguments. -/
  | border
  /-- The beginning of an expansion. With `apart` it holds arguments in quotes, which only
  borders divide. -/
  | seam (apart : Bool)
deriving Repr, DecidableEq

namespace Glyph

def char? : Glyph → Option Char
  | .plain c | .quoted c | .expanded c => some c
  | .mark | .border | .seam _ => none

/-- Whether a glyph takes part in the text of a field. -/
def isPresent : Glyph → Bool
  | .seam _ => false
  | _ => true

/-- The text of glyphs; a border is a space. -/
def text (gs : List Glyph) : String :=
  String.ofList (gs.filterMap fun
    | .border => some ' '
    | g => g.char?)

def patternChars (gs : List Glyph) : List PatternChar :=
  gs.filterMap fun
    | .plain c | .expanded c => some (c, true)
    | .quoted c => some (c, false)
    | .mark | .border | .seam _ => none

def pattern (gs : List Glyph) : Pattern := .ofChars (patternChars gs)

end Glyph

/-! ## Splitting -/

structure Splitter where
  separators : List Char
  /-- The glyphs of the current field, the last one first. -/
  current : List Glyph := []
  /-- The fields that are complete, the last one first. -/
  fields : List (List Glyph) := []
  /-- Whether only borders divide. -/
  apart : Bool := false
  /-- Whether the expansion before was one that only borders divide. -/
  wasApart : Bool := false
  /-- Whether the field before was ended by a blank, so that blanks and one other separator still
  belong to its end. -/
  inGap : Bool := false
  /-- How many fields may still be begun, if there is a limit. Behind the last one of them
  separators belong to the current field. -/
  left : Option Nat := none
  /-- How many glyphs of the current field count, if the others may be left out. -/
  cut : Option Nat := none

namespace Splitter

def isBlank (c : Char) : Bool := c = ' ' || c = '\t' || c = '\n'

/-- The splitter that has completed the current field. -/
def complete (s : Splitter) : Splitter :=
  { s with fields := s.current.reverse :: s.fields, current := [] }

/-- The splitter with one more glyph in the current field. -/
def keep (s : Splitter) (g : Glyph) : Splitter := { s with current := g :: s.current }

/-- The splitter behind a separator, which is a blank or not. -/
def separate (s : Splitter) (g : Glyph) (blank : Bool) : Splitter :=
  let s := if s.wasApart ∨ s.apart then s else { s with inGap := blank }
  if s.current.isEmpty ∧ s.inGap then { s with inGap := false }
  else
    match s.left with
    | some (n + 2) => { s.complete with left := some (n + 1) }
    | some _ => { s with left := some 0, cut := some s.current.length }.keep g
    | none => s.complete

/-- The splitter behind one more character that may separate, when no more fields may begin. -/
def prolong (s : Splitter) (g : Glyph) (separator blank : Bool) : Splitter :=
  let s :=
    if separator ∧ blank then { s with cut := some (s.cut.getD s.current.length) }
    else { s with cut := if separator ∧ s.inGap then s.cut else none, inGap := false }
  s.keep g

/-- The splitter behind one more character that may separate. -/
def divide (s : Splitter) (g : Glyph) (separator blank : Bool) : Splitter :=
  if s.left = some 0 then s.prolong g separator blank
  else if s.inGap then
    if separator ∧ blank then s
    else if separator then { s with inGap := false }
    else { s with inGap := false }.keep g
  else if separator then s.separate g blank
  else s.keep g

def add (s : Splitter) (g : Glyph) : Splitter :=
  match g with
  | .seam apart => { s with apart := apart, wasApart := s.apart, inGap := false }
  | .border => s.divide g true true
  | .expanded c => s.divide g (!s.apart && s.separators.contains c) (isBlank c)
  | g => if g.isPresent then { s with inGap := false }.keep g else s

def finish (s : Splitter) : List (List Glyph) :=
  let s := match s.cut with
    | some n => { s with current := s.current.drop (s.current.length - n) }
    | none => s
  (if s.apart ∨ !s.current.isEmpty then s.complete else s).fields.reverse

end Splitter

def splitFields (separators : List Char) (gs : List Glyph) : List (List Glyph) :=
  (gs.foldl Splitter.add { separators := separators }).finish

end BuildRunner.Shell
