set_option autoImplicit false

/-! # Blank characters

The characters with the Unicode property White_Space, the text that is left when they are
dropped from the front, and the words between them.
-/

namespace BuildRunner.Blank

/-- The characters with the property White_Space. -/
def isBlank (c : Char) : Bool :=
  let n := c.toNat
  (0x9 ≤ n && n ≤ 0xD) || n = 0x20 || n = 0x85 || n = 0xA0 || n = 0x1680 ||
  (0x2000 ≤ n && n ≤ 0x200A) || n = 0x2028 || n = 0x2029 || n = 0x202F || n = 0x205F ||
  n = 0x3000

/-- The characters from the first one on that is not blank. -/
def trimStart (cs : List Char) : List Char := cs.dropWhile isBlank

/-- The words of `cs` when the characters of `current` belong to the word before them. -/
def wordsFrom (current : List Char) : List Char → List (List Char)
  | [] => if current.isEmpty then [] else [current]
  | c :: cs =>
    if isBlank c then
      if current.isEmpty then wordsFrom [] cs else current :: wordsFrom [] cs
    else wordsFrom (current ++ [c]) cs

/-- The maximal runs of characters that are not blank, in order. -/
def words (s : String) : List String := (wordsFrom [] s.toList).map String.ofList

end BuildRunner.Blank
