import BuildRunner.Number.Power

set_option autoImplicit false

/-! # Numbers of 64-bit floating point

The finite magnitudes of binary64, each as `mantissa * 2 ^ exponent`, and rounding of an
exact quotient to the nearest of them, a tie to the even mantissa. All arithmetic is done on
natural numbers: an operation of floating point is the exact operation followed by one
rounding.
-/

namespace BuildRunner

/-- The natural number nearest to `num / den`; of two equally near ones the even one. -/
def roundDiv (num den : Nat) : Nat :=
  let q := num / den
  let r := num % den
  if 2 * r < den then q
  else if den < 2 * r then q + 1
  else if q % 2 = 0 then q
  else q + 1

/-- A magnitude of binary64. -/
structure Binary64 where
  mantissa : Nat
  exponent : Int
deriving Repr, DecidableEq

namespace Binary64

def ratio (x : Binary64) : Nat × Nat :=
  if 0 ≤ x.exponent then (x.mantissa * twoTo x.exponent.toNat, 1)
  else (x.mantissa, twoTo (-x.exponent).toNat)

/-- The least exponent: every value is a multiple of `2 ^ -1074`. -/
def leastExponent : Int := -1074

/-- The mantissa nearest to `num / den` in units of `2 ^ e`. -/
def mantissaAt (num den : Nat) (e : Int) : Nat :=
  if 0 ≤ e then roundDiv num (den * twoTo e.toNat)
  else roundDiv (num * twoTo (-e).toNat) den

/-- The exponent at which the mantissa of `num / den` has 53 bits, or the least one. -/
def exponentFor (num den : Nat) : Int :=
  let guess : Int := (num.log2 : Int) - (den.log2 : Int) - 53
  let guess := if mantissaAt num den guess < twoTo 53 then guess else guess + 1
  max guess leastExponent

/-- The value nearest to `num / den`, or `none` if that is too large to be finite. -/
def ofRatio (num den : Nat) : Option Binary64 :=
  if num = 0 then some ⟨0, 0⟩
  else
    let e := exponentFor num den
    let m := mantissaAt num den e
    let x : Binary64 := ⟨m, e⟩
    if x.ratio.1 < twoTo 1024 * x.ratio.2 then some x else none

/-- The value nearest to a natural number. -/
def ofNat (n : Nat) : Option Binary64 := ofRatio n 1

def add (x y : Binary64) : Option Binary64 :=
  let (a, b) := x.ratio
  let (c, d) := y.ratio
  ofRatio (a * d + c * b) (b * d)

def mul (x y : Binary64) : Option Binary64 :=
  let (a, b) := x.ratio
  let (c, d) := y.ratio
  ofRatio (a * c) (b * d)

def div (x y : Binary64) : Option Binary64 :=
  let (a, b) := x.ratio
  let (c, d) := y.ratio
  ofRatio (a * d) (b * c)

end Binary64
end BuildRunner
