set_option autoImplicit false

/-! # Sets of narrow characters

The sets that patterns, regular expressions and transliterations name: ranges, and the classes
of the portable locale, to which only characters below 128 belong.
-/

namespace BuildRunner

inductive CharSet where
  | range (least greatest : Char)
  | alphanumeric
  | letter
  | blank
  | control
  | digit
  | graphic
  | lower
  | printable
  | punctuation
  | space
  | upper
  | hexadecimal
deriving Repr, DecidableEq

namespace CharSet

def isSpace (c : Char) : Bool := c = ' ' || (9 ≤ c.toNat && c.toNat ≤ 13)

def isGraphic (c : Char) : Bool := 33 ≤ c.toNat && c.toNat ≤ 126

/-- Whether a character is a digit of base sixteen. -/
def isHexadecimal (c : Char) : Bool :=
  c.isDigit || ('a' ≤ c && c ≤ 'f') || ('A' ≤ c && c ≤ 'F')

def contains (s : CharSet) (c : Char) : Bool :=
  match s with
  | .range a b => a ≤ c && c ≤ b
  | .alphanumeric => c.isAlphanum
  | .letter => c.isAlpha
  | .blank => c = ' ' || c = '\t'
  | .control => c.toNat < 32 || c.toNat = 127
  | .digit => c.isDigit
  | .graphic => isGraphic c
  | .lower => c.isLower
  | .printable => c = ' ' || isGraphic c
  | .punctuation => isGraphic c && !c.isAlphanum
  | .space => isSpace c
  | .upper => c.isUpper
  | .hexadecimal => isHexadecimal c

def names : List (String × CharSet) :=
  [("alnum", alphanumeric), ("alpha", letter), ("blank", blank), ("cntrl", control),
   ("digit", digit), ("graph", graphic), ("lower", lower), ("print", printable),
   ("punct", punctuation), ("space", space), ("upper", upper), ("xdigit", hexadecimal)]

def named? (name : String) : Option CharSet := names.lookup name

/-- The narrow characters of a set, in order. -/
def members (s : CharSet) : List Char :=
  ((List.range 256).map Char.ofNat).filter s.contains

end CharSet
end BuildRunner
