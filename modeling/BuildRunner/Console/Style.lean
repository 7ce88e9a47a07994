set_option autoImplicit false

/-! # Styles of terminal text

Escape sequences that make a piece of text bold, dim or coloured and undo that after it.
-/

namespace BuildRunner.Console

inductive Colour where
  | red
  | green
  | yellow
  | blue
deriving Repr, DecidableEq

def Colour.number : Colour → String
  | .red => "31"
  | .green => "32"
  | .yellow => "33"
  | .blue => "34"

/-- The sequence that selects a rendition. -/
def select (number : String) : String := "\x1b[" ++ number ++ "m"

/-- Text in a colour; afterwards the terminal's own colour is selected again. -/
def coloured (c : Colour) (s : String) : String := select c.number ++ s ++ select "39"

def bold (s : String) : String := select "1" ++ s ++ select "0"

def dim (s : String) : String := select "2" ++ s ++ select "0"

end BuildRunner.Console
