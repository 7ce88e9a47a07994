import BuildRunner.Number.Power
import BuildRunner.Text.CharSet

set_option autoImplicit false

/-! # Numbers in scripts

A number is digits, with a sign and blanks around it where a text as a whole has to be a number.
Numbers have 64 bits with sign.
-/

namespace BuildRunner.Shell.Numeral

def digits (base : Nat) (cs : List Char) : Nat :=
  cs.foldl (fun n c =>
    n * base + (if c.isDigit then c.toNat - 48 else if c.isLower then c.toNat - 87 else c.toNat - 55)) 0

def isOctal (c : Char) : Bool := '0' ≤ c && c ≤ '7'

/-- The text behind the mark of base sixteen, if the mark and a digit stand at the front. -/
def hexAt? (cs : List Char) : Option (List Char) :=
  match cs with
  | '0' :: 'x' :: rest | '0' :: 'X' :: rest => if rest.head?.any CharSet.isHexadecimal then some rest else none
  | _ => none

/-- The number at the front, which starts with a digit, and the text behind it: of base sixteen
behind its mark, of base eight behind a zero. -/
def anyAt (cs : List Char) : Nat × List Char :=
  match hexAt? cs with
  | some rest => (digits 16 (rest.takeWhile CharSet.isHexadecimal), rest.dropWhile CharSet.isHexadecimal)
  | none =>
    if cs.head? = some '0' then (digits 8 (cs.takeWhile isOctal), cs.dropWhile isOctal)
    else (digits 10 (cs.takeWhile Char.isDigit), cs.dropWhile Char.isDigit)

/-- The decimal number at the front and the text behind it. -/
def decimalAt (cs : List Char) : Nat × List Char :=
  (digits 10 (cs.takeWhile Char.isDigit), cs.dropWhile Char.isDigit)

def greatest : Nat := twoTo 63 - 1

/-- The number at the front, with its sign, and the text behind it, if blanks, a sign and digits
stand there. `read` reads the digits. -/
def signedAt? (read : List Char → Nat × List Char) (cs : List Char) : Option (Int × List Char) :=
  let cs := cs.dropWhile CharSet.isSpace
  let (negative, body) := match cs with
    | '-' :: rest => (true, rest)
    | '+' :: rest => (false, rest)
    | _ => (false, cs)
  if body.head?.any Char.isDigit then
    let (n, rest) := read body
    some (if negative then -(n : Int) else n, rest)
  else none

/-- The number that is all of a text but for blanks around it. -/
def whole? (read : List Char → Nat × List Char) (s : String) : Option Int :=
  match signedAt? read s.toList with
  | some (n, rest) =>
    if (rest.dropWhile CharSet.isSpace).isEmpty ∧ -(greatest : Int) - 1 ≤ n ∧ n ≤ greatest then some n
    else none
  | none => none

def integer? (s : String) : Option Int := whole? decimalAt s

def anyInteger? (s : String) : Option Int := whole? anyAt s

/-- The number that a text stands for, if it is not negative and has at most 31 bits. -/
def count? (s : String) : Option Nat :=
  match integer? s with
  | some n => if 0 ≤ n ∧ n < 2147483648 then some n.toNat else none
  | none => none

def fault (s : String) : String := "Illegal number: " ++ s

def count (s : String) : Except String Nat :=
  match count? s with
  | some n => .ok n
  | none => .error (fault s)

end BuildRunner.Shell.Numeral
