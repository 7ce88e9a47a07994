import BuildRunner.Number.Rounded
import BuildRunner.Shell.Numeral

set_option autoImplicit false

/-! # Real numbers as arguments

Numbers with a fraction and an exponent, decimal or of base sixteen, are read as the nearest value
of binary64.
-/

namespace BuildRunner.Shell

inductive RealNumber where
  | finite (negative : Bool) (magnitude : Binary64)
  | infinite (negative : Bool)
  | undefined (negative : Bool)
deriving Repr, DecidableEq

namespace RealNumber

structure Found where
  value : RealNumber
  /-- Whether the number is too large, or too small to be held exactly. -/
  outOfRange : Bool := false
  rest : List Char

/-- The power that an exponent means, and the text behind it. A letter without digits is none. -/
def exponentAt (letter : Char) (cs : List Char) : Int × List Char :=
  match cs with
  | c :: rest =>
    let (negative, body) := match rest with
      | '-' :: rest => (true, rest)
      | '+' :: rest => (false, rest)
      | rest => (false, rest)
    let ds := body.takeWhile Char.isDigit
    if c.toLower ≠ letter ∨ ds.isEmpty then (0, cs)
    else
      let n : Int := min 1000000 (Numeral.digits 10 ds)
      (if negative then -n else n, body.drop ds.length)
  | [] => (0, cs)

/-- The nearest value to `m` times a power of `base`, and whether it is out of range. `digits` is
how many digits `m` has. -/
def scaled (negative : Bool) (base : Nat → Nat) (m digits : Nat) (e : Int) : RealNumber × Bool :=
  if m = 0 then (.finite negative ⟨0, 0⟩, false)
  else if 1100 < e + digits then (.infinite negative, true)
  else if e + digits < -1200 then (.finite negative ⟨0, 0⟩, true)
  else
    let (num, den) := if 0 ≤ e then (m * base e.toNat, 1) else (m, base (-e).toNat)
    match Binary64.ofRatio num den with
    | none => (.infinite negative, true)
    | some x =>
      let (a, b) := x.ratio
      let isSmall : Bool := x.mantissa < twoTo 52 && x.exponent = Binary64.leastExponent
      (.finite negative x, x.mantissa = 0 || (isSmall && a * den ≠ num * b))

/-- The number at the front of a text that starts with a digit or a point. -/
def magnitudeAt? (negative : Bool) (cs : List Char) : Option Found :=
  let wide := match cs with
    | '0' :: 'x' :: rest | '0' :: 'X' :: rest =>
      if (rest.head?).any CharSet.isHexadecimal ∨
          (rest.head? = some '.' ∧ (rest[1]?).any CharSet.isHexadecimal) then some rest else none
    | _ => none
  let isDigit := if wide.isSome then CharSet.isHexadecimal else Char.isDigit
  let cs := wide.getD cs
  let whole := cs.takeWhile isDigit
  let rest := cs.drop whole.length
  let fraction := match rest with
    | '.' :: rest => rest.takeWhile isDigit
    | _ => []
  let rest := match rest with
    | '.' :: rest => rest.drop fraction.length
    | rest => rest
  let ds := whole ++ fraction
  if ds.isEmpty then none
  else
    let (e, rest) := exponentAt (if wide.isSome then 'p' else 'e') rest
    let significant := (ds.dropWhile (· = '0')).length
    let (value, outOfRange) :=
      if wide.isSome then
        scaled negative twoTo (Numeral.digits 16 ds) (4 * significant) (e - 4 * fraction.length)
      else scaled negative tenTo (Numeral.digits 10 ds) significant (e - fraction.length)
    some ⟨value, outOfRange, rest⟩

/-- The number at the front of a text, behind blanks and a sign. -/
def at? (s : String) : Option Found :=
  let cs := s.toList.dropWhile CharSet.isSpace
  let (negative, cs) := match cs with
    | '-' :: rest => (true, rest)
    | '+' :: rest => (false, rest)
    | cs => (false, cs)
  let named := fun (name : String) => (cs.take name.length).map Char.toLower = name.toList
  if named "infinity" then some ⟨.infinite negative, false, cs.drop 8⟩
  else if named "inf" then some ⟨.infinite negative, false, cs.drop 3⟩
  else if named "nan" then some ⟨.undefined negative, false, cs.drop 3⟩
  else magnitudeAt? negative cs

def ofNat (n : Nat) : RealNumber := (scaled false tenTo n 0 0).1

def isNegative : RealNumber → Bool
  | .finite n _ | .infinite n | .undefined n => n

/-- The text of a number without its sign, in the notation that a letter names, and whether zeros
may be put in front of it. -/
def text (kind : Char) (pointed : Bool) (precision : Option Nat) (x : RealNumber) : List Char × Bool :=
  match x with
  | .infinite _ => ("inf".toList, false)
  | .undefined _ => ("nan".toList, false)
  | .finite _ x =>
    let (num, den) := x.ratio
    let p := precision.getD 6
    (match kind with
      | 'e' => Rounded.scientific pointed p num den
      | 'f' => Rounded.fixed pointed p num den
      | 'g' => Rounded.general pointed p num den
      | _ => Rounded.sixteen pointed precision x, true)

end RealNumber
end BuildRunner.Shell
