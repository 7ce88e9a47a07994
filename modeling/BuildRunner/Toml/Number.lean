import BuildRunner.Number.Binary64
import BuildRunner.Number.Power
import BuildRunner.Toml.Moment

set_option autoImplicit false

/-! # The numbers of a TOML text

An integer has to fit into 64 bits with its sign. A number with a fraction or an exponent is a
floating-point number, which may not be positive and too large to be finite. Digits may be
separated by single underscores.
-/

namespace BuildRunner.Toml

/-- Digits of a class with single underscores between them; the underscores are left out. -/
def grouped (isDigit : Char → Bool) : List Char → Option (List Char)
  | [] => none
  | [d] => if isDigit d then some [d] else none
  | d :: '_' :: cs => if isDigit d then (grouped isDigit cs).map (d :: ·) else none
  | d :: cs => if isDigit d then (grouped isDigit cs).map (d :: ·) else none

def signOf : List Char → Bool × List Char
  | '+' :: cs => (false, cs)
  | '-' :: cs => (true, cs)
  | cs => (false, cs)

/-- Decimal digits without a superfluous zero in front. -/
def wholeDigits (cs : List Char) : Option (List Char) :=
  match grouped Char.isDigit cs with
  | some ('0' :: _ :: _) => none
  | found => found

/-! ## Integers -/

def hexValue (c : Char) : Option Nat :=
  if c.isDigit then some (c.toNat - 48)
  else if 'a' ≤ c ∧ c ≤ 'f' then some (c.toNat - 87)
  else if 'A' ≤ c ∧ c ≤ 'F' then some (c.toNat - 55)
  else none

def isDigitOf (base : Nat) (c : Char) : Bool := (hexValue c).any (· < base)

def valueOf (base : Nat) (ds : List Char) : Nat :=
  ds.foldl (fun n d => n * base + (hexValue d).getD 0) 0

/-- An integer that fits into 64 bits with its sign. -/
def fitted (negative : Bool) (n : Nat) : Option Int :=
  if negative then (if n ≤ twoTo 63 then some (-(n : Int)) else none)
  else (if n < twoTo 63 then some n else none)

def basedInteger (base : Nat) (cs : List Char) : Option Int := do
  fitted false (valueOf base (← grouped (isDigitOf base) cs))

def integer? (cs : List Char) : Option Int :=
  match cs with
  | '0' :: 'x' :: ds => basedInteger 16 ds
  | '0' :: 'o' :: ds => basedInteger 8 ds
  | '0' :: 'b' :: ds => basedInteger 2 ds
  | _ => do
    let (negative, rest) := signOf cs
    fitted negative (valueOf 10 (← wholeDigits rest))

/-! ## Floating-point numbers -/

/-- Whether `n * 10 ^ e` is small enough to be finite. -/
def isFinite (n : Nat) (e : Int) : Bool :=
  let size : Int := (toString n).length + e
  if n = 0 ∨ size < 300 then true
  else if 320 < size then false
  else if 0 ≤ e then (Binary64.ofNat (n * tenTo e.toNat)).isSome
  else (Binary64.ofRatio n (tenTo (-e).toNat)).isSome

def exponent? (cs : List Char) : Option Int := do
  let (negative, rest) := signOf cs
  let n : Int := valueOf 10 (← grouped Char.isDigit rest)
  return if negative then -n else n

/-- The exponent of a number whose text behind the digits is `cs`. -/
def exponentPart : List Char → Option Int
  | [] => some 0
  | c :: cs => if c = 'e' ∨ c = 'E' then exponent? cs else none

def isDigitOrUnderscore (c : Char) : Bool := c.isDigit || c = '_'

/-- Whether `cs` stands for a floating-point number without its sign, which is negative if
`negative` holds. -/
def isMagnitude (negative : Bool) (cs : List Char) : Option Bool := do
  let whole ← wholeDigits (cs.takeWhile isDigitOrUnderscore)
  match cs.dropWhile isDigitOrUnderscore with
  | [] => none
  | '.' :: rest =>
    let fraction ← grouped Char.isDigit (rest.takeWhile isDigitOrUnderscore)
    let e ← exponentPart (rest.dropWhile isDigitOrUnderscore)
    return negative || isFinite (valueOf 10 (whole ++ fraction)) (e - fraction.length)
  | rest =>
    let e ← exponentPart rest
    return negative || isFinite (valueOf 10 whole) e

def isFloat (cs : List Char) : Bool :=
  let (negative, rest) := signOf cs
  rest = "inf".toList || rest = "nan".toList || (isMagnitude negative rest).getD false

end BuildRunner.Toml
