import BuildRunner.Number.Binary64
import BuildRunner.Number.Power

set_option autoImplicit false

/-! # Shortest decimals

The decimal with the fewest digits that is nearer to a given binary64 number than to any
other, and its written form. A magnitude `m * 2 ^ e` owns the interval half way to its two
neighbours, with its ends when `m` is even. For one digit, two digits and so on, the two
points of the decimal grid around the number are tried; the first grid with a point in the
interval wins, and of two points the nearer.
-/

namespace BuildRunner.Shortest

/-- A decimal `digits * 10 ^ exponent`. -/
structure Decimal where
  digits : Nat
  exponent : Int
deriving Repr, DecidableEq

/-- The numbers that are read as a given magnitude, as quotients with one denominator. -/
structure Interval where
  low : Nat
  value : Nat
  high : Nat
  den : Nat
  /-- Whether the ends belong to it. -/
  closed : Bool

/-- The interval of a magnitude. Below a power of two the neighbours are twice as near. -/
def Interval.of (x : Binary64) : Interval :=
  let (m, e) := if x.mantissa = twoTo 53 then (twoTo 52, x.exponent + 1) else (x.mantissa, x.exponent)
  let below := if m = twoTo 52 ∧ Binary64.leastExponent < e then 1 else 2
  let scale := if 0 ≤ e then twoTo e.toNat else 1
  let den := if 0 ≤ e then 4 else 4 * twoTo (-e).toNat
  ⟨(4 * m - below) * scale, 4 * m * scale, (4 * m + 2) * scale, den, m % 2 = 0⟩

def Interval.contains (i : Interval) (num den : Nat) : Bool :=
  let a := i.low * den
  let b := num * i.den
  let c := i.high * den
  (a < b && b < c) || (i.closed && (a = b || b = c))

def Decimal.ratio (d : Decimal) : Nat × Nat :=
  if 0 ≤ d.exponent then (d.digits * tenTo d.exponent.toNat, 1)
  else (d.digits, tenTo (-d.exponent).toNat)

/-- The number of decimal digits of `n`. -/
def digitCount (n : Nat) : Nat := (Nat.toDigits 10 n).length

/-- The least `k` of at most `fuel` with `den ≤ num * 10 ^ k`. -/
def leadingZeros (num den : Nat) : Nat → Nat
  | 0 => 0
  | fuel + 1 => if den ≤ num then 0 else leadingZeros (num * 10) den fuel + 1

/-- The exponent of the first digit of `num / den`. -/
def magnitude (num den : Nat) : Int :=
  if den ≤ num then (digitCount (num / den) : Int) - 1
  else -(leadingZeros num den 400 : Int)

/-- The nearer of the points of a grid around `num / den` that lie in the interval. -/
def onGrid (i : Interval) (exponent : Int) : Option Decimal :=
  let (num, den) :=
    if 0 ≤ exponent then (i.value, i.den * tenTo exponent.toNat)
    else (i.value * tenTo (-exponent).toNat, i.den)
  let q := num / den
  let r := num % den
  let hit (n : Nat) : Bool :=
    let (a, b) := Decimal.ratio ⟨n, exponent⟩
    i.contains a b
  match hit q, hit (q + 1) with
  | true, true =>
    some ⟨if 2 * r < den ∨ (2 * r = den ∧ q % 2 = 0) then q else q + 1, exponent⟩
  | true, false => some ⟨q, exponent⟩
  | false, true => some ⟨q + 1, exponent⟩
  | false, false => none

/-- The decimal of fewest digits, tried from `17 - fuel` digits on. -/
def search (i : Interval) (top : Int) : Nat → Decimal
  | 0 => ⟨i.value / i.den, 0⟩
  | fuel + 1 =>
    match onGrid i (top - (17 - (fuel + 1) : Nat)) with
    | some d => d
    | none => search i top fuel

/-- A decimal whose last digit is not zero, with at most `fuel` zeros dropped. -/
def dropZeros (d : Decimal) : Nat → Decimal
  | 0 => d
  | fuel + 1 =>
    if d.digits ≠ 0 ∧ d.digits % 10 = 0 then dropZeros ⟨d.digits / 10, d.exponent + 1⟩ fuel else d

def decimal (x : Binary64) : Decimal :=
  if x.mantissa = 0 then ⟨0, 0⟩
  else
    let i := Interval.of x
    dropZeros (search i (magnitude i.value i.den) 17) 20

def zeros (n : Nat) : String := String.ofList (List.replicate n '0')

/-- The written form of a magnitude: with a point from 1e-5 up to 1e16, else with an exponent
that has a sign, and always marked as no integer by one of the two. -/
def magnitudeText (x : Binary64) : String :=
  if x.mantissa = 0 then "0.0"
  else
    let d := decimal x
    let cs := Nat.toDigits 10 d.digits
    let n : Int := cs.length
    let point : Int := n + d.exponent
    if 0 ≤ d.exponent ∧ point ≤ 16 then String.ofList cs ++ zeros d.exponent.toNat ++ ".0"
    else if 0 < point ∧ point ≤ 16 then
      String.ofList (cs.take point.toNat) ++ "." ++ String.ofList (cs.drop point.toNat)
    else if -5 < point ∧ point ≤ 0 then "0." ++ zeros (-point).toNat ++ String.ofList cs
    else
      let tail := if cs.length = 1 then "" else "." ++ String.ofList (cs.drop 1)
      String.ofList (cs.take 1) ++ tail ++ (if 0 < point then "e+" else "e") ++ toString (point - 1)

def text (negative : Bool) (x : Binary64) : String :=
  (if negative then "-" else "") ++ magnitudeText x

end BuildRunner.Shortest
