import BuildRunner.Number.Binary64

set_option autoImplicit false

/-! # Rounded texts of numbers

Texts of magnitudes with a given number of decimals, rounded from the exact value; of two equally
near texts the one with the even last digit is taken.
-/

namespace BuildRunner.Rounded

/-- The decimal digits of a number, at least `least` of them. -/
def digits (least n : Nat) : List Char :=
  let ds := Nat.toDigits 10 n
  List.replicate (least - ds.length) '0' ++ ds

/-- Digits with a point in front of the last `places` of them; without decimals there is a point
only if `pointed` says so. -/
def withPoint (pointed : Bool) (places : Nat) (ds : List Char) : List Char :=
  let whole := ds.take (ds.length - places)
  let rest := ds.drop (ds.length - places)
  whole ++ (if pointed ∨ !rest.isEmpty then ['.'] else []) ++ rest

/-- The text of `num / den` with a number of decimals. -/
def fixed (pointed : Bool) (places num den : Nat) : List Char :=
  withPoint pointed places (digits (places + 1) (roundDiv (num * tenTo places) den))

/-- The exponent of the greatest power of ten that is at most `num / den`. -/
def exponentOf (num den : Nat) : Int :=
  if num = 0 then 0
  else
    let guess : Int := ((Nat.toDigits 10 num).length : Int) - (Nat.toDigits 10 den).length
    let reaches : Bool := if 0 ≤ guess then den * tenTo guess.toNat ≤ num
      else den ≤ num * tenTo (-guess).toNat
    if reaches then guess else guess - 1

/-- `num / den` as an integer of `places + 1` digits, rounded, and the exponent of its first
digit. -/
def mantissaOf (places num den : Nat) : Nat × Int :=
  let e := exponentOf num den
  let scale : Int := places - e
  let m := if 0 ≤ scale then roundDiv (num * tenTo scale.toNat) den
    else roundDiv num (den * tenTo (-scale).toNat)
  if m = tenTo (places + 1) then (tenTo places, e + 1) else (m, e)

/-- An exponent with its sign and at least two digits. -/
def exponentText (e : Int) : List Char := (if e < 0 then '-' else '+') :: digits 2 e.natAbs

/-- The text of `num / den` as a number with one digit in front of its point and an exponent. -/
def scientific (pointed : Bool) (places num den : Nat) : List Char :=
  let (m, e) := mantissaOf places num den
  withPoint pointed places (digits (places + 1) m) ++ 'e' :: exponentText e

/-- A number with a point, without the zeros at its end. -/
def withoutZeros (cs : List Char) : List Char :=
  if cs.contains '.' then
    let rest := cs.reverse.dropWhile (· = '0')
    (if rest.head? = some '.' then rest.drop 1 else rest).reverse
  else cs

/-- The text of `num / den` with a number of digits, with an exponent only if that is far from
zero. Zeros at the end are left out unless `pointed` says otherwise. -/
def general (pointed : Bool) (precision num den : Nat) : List Char :=
  let p := max precision 1
  let (m, e) := mantissaOf (p - 1) num den
  let trim := fun (cs : List Char) => if pointed then cs else withoutZeros cs
  if -4 ≤ e ∧ e < p then trim (fixed pointed (p - 1 - e).toNat num den)
  else trim (withPoint pointed (p - 1) (digits p m)) ++ 'e' :: exponentText e

/-- The text of a value of binary64 in base sixteen, with as many digits behind the point as are
needed or wanted. -/
def sixteen (pointed : Bool) (places : Option Nat) (x : Binary64) : List Char :=
  let (whole, e) : Nat × Int :=
    if x.mantissa = 0 then (0, 0)
    else
      let shift := 52 - x.mantissa.log2
      let e : Int := x.exponent - shift + 52
      -- Below the least exponent there is no leading one.
      if e < -1022 then (x.mantissa * twoTo (x.exponent + 1074).toNat, -1022)
      else (x.mantissa * twoTo shift, e)
  let hex := fun (least n : Nat) =>
    let ds := if n = 0 then [] else Nat.toDigits 16 n
    List.replicate (least - ds.length) '0' ++ ds
  let (first, rest) : Nat × List Char := match places with
    | none => (whole / twoTo 52, withoutEnd (hex 13 (whole % twoTo 52)))
    | some p =>
      if 13 ≤ p then
        (whole / twoTo 52, hex 13 (whole % twoTo 52) ++ List.replicate (p - 13) '0')
      else
        let m := roundDiv whole (twoTo (52 - 4 * p))
        (m / twoTo (4 * p), hex p (m % twoTo (4 * p)))
  '0' :: 'x' :: (Nat.toDigits 10 first ++ (if pointed ∨ !rest.isEmpty then ['.'] else []) ++ rest ++
    'p' :: (if e < 0 then '-' else '+') :: Nat.toDigits 10 e.natAbs)
where
  /-- Digits without the zeros at their end. -/
  withoutEnd (ds : List Char) : List Char := (ds.reverse.dropWhile (· = '0')).reverse

end BuildRunner.Rounded
