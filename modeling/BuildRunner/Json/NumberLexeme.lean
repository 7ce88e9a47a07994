import BuildRunner.Json.Place
import BuildRunner.Json.Value
import BuildRunner.Number.Power

set_option autoImplicit false

/-! # The numbers of a JSON text

A number is scanned into its sign, its integer digits, its fraction digits and its exponent;
then its value is computed. An integer is kept exactly while it fits into 64 bits. Any other
number collects its leading digits as far as they fit into 64 bits, counts the decimal
exponent of the rest, and scales by a power of ten in floating point. A value too large to
be finite is a fault of its own, which a reader that passes over the number does not meet.
-/

namespace BuildRunner.Json

def digitValue (c : Char) : Nat := c.toNat - 48

/-- The written parts of a number. -/
structure Numeral where
  negative : Bool
  whole : List Char
  /-- The digits behind the point, if there is one. -/
  fraction : Option (List Char)
  /-- The sign and digits of the exponent, if there is one. -/
  exponent : Option (Bool × List Char)
deriving Repr, DecidableEq

/-! ## Scanning -/

/-- The place behind `n` bytes of one line. -/
def Place.shift (p : Place) (n : Nat) : Place := ⟨p.line, p.column + n⟩

/-- The fault of a text in which a digit was wanted and is only looked for. -/
def digitWanted (p : Place) : List Char → Fault
  | [] => ⟨.endInValue, p⟩
  | c :: _ => ⟨.invalidNumber, p.inside c⟩

/-- The integer digits at the front: a single zero, or digits that start with none. -/
def scanWhole (p : Place) (cs : List Char) : Except Fault (List Char) :=
  match cs with
  | '0' :: c :: _ => if c.isDigit then .error ⟨.invalidNumber, (p.shift 1).inside c⟩ else .ok ['0']
  | c :: _ => if c.isDigit then .ok (cs.takeWhile Char.isDigit) else .error (digitWanted p cs)
  | [] => .error (digitWanted p cs)

/-- The fraction at the front, if a point stands there. -/
def scanFraction (p : Place) (cs : List Char) : Except Fault (Option (List Char)) :=
  match cs with
  | '.' :: rest =>
    match rest.takeWhile Char.isDigit with
    | [] => .error (digitWanted (p.shift 1) rest)
    | ds => .ok (some ds)
  | _ => .ok none

/-- The sign at the front of an exponent: whether it is negative, and how long it is. -/
def exponentSign : List Char → Bool × Nat
  | '+' :: _ => (false, 1)
  | '-' :: _ => (true, 1)
  | _ => (false, 0)

/-- The exponent at the front, if its letter stands there. -/
def scanExponent (p : Place) (cs : List Char) : Except Fault (Option (Bool × List Char)) :=
  match cs with
  | e :: rest =>
    if e = 'e' ∨ e = 'E' then
      let (negative, n) := exponentSign rest
      let tail := rest.drop n
      match tail.takeWhile Char.isDigit with
      | [] => .error (digitWanted (p.shift (1 + n)) tail)
      | ds => .ok (some (negative, ds))
    else .ok none
  | [] => .ok none

def fractionLength : Option (List Char) → Nat
  | none => 0
  | some ds => ds.length + 1

/-- The numeral at the front of `cs`, and the number of characters it takes. -/
def scanNumeral (p : Place) (cs : List Char) : Except Fault (Numeral × Nat) := do
  let negative := cs.head? = some '-'
  let a := if negative then 1 else 0
  let whole ← scanWhole (p.shift a) (cs.drop a)
  let b := a + whole.length
  let fraction ← scanFraction (p.shift b) (cs.drop b)
  let c := b + fractionLength fraction
  let exponent ← scanExponent (p.shift c) (cs.drop c)
  let d :=
    match exponent with
    | none => c
    | some (_, ds) => c + 1 + (exponentSign (cs.drop (c + 1))).2 + ds.length
  return (⟨negative, whole, fraction, exponent⟩, d)

/-! ## Value -/

/-- The bound of the integers that are kept exactly. -/
def wordBound : Nat := twoTo 64

/-- The value of digits appended to `n` as far as it stays below the bound, and the digits
that are left over. -/
def absorb (n : Nat) : List Char → Nat × List Char
  | [] => (n, [])
  | d :: ds =>
    if n * 10 + digitValue d < wordBound then absorb (n * 10 + digitValue d) ds else (n, d :: ds)

/-- `10 ^ n` as a floating-point number, for `n` up to 308. -/
def powerOfTen (n : Nat) : Option Binary64 := Binary64.ofNat (tenTo n)

/-- `x * 10 ^ e` for an `e` from 0 to 308. -/
def scaleUp (x : Binary64) (e : Nat) : Option Binary64 := do x.mul (← powerOfTen e)

/-- `x / 10 ^ e`, 308 powers at a time. -/
def scaleDown (x : Binary64) (e : Nat) : Nat → Option Binary64
  | 0 => some x
  | fuel + 1 =>
    if e ≤ 308 then do x.div (← powerOfTen e)
    -- Zero stays zero, however often it is divided.
    else if x.mantissa = 0 then some x
    else do
      let y ← x.div (← powerOfTen 308)
      scaleDown y (e - 308) fuel

/-- `n * 10 ^ e` in floating point, or `none` if it is too large. -/
def scale (n : Nat) (e : Int) : Option Binary64 := do
  let x ← Binary64.ofNat n
  if 0 ≤ e then
    if e ≤ 308 then scaleUp x e.toNat
    -- Only zero survives an exponent above the table of powers.
    else if n = 0 then some x
    else none
  else scaleDown x (-e).toNat 8

/-- The greatest exponent that is counted exactly. -/
def exponentBound : Nat := twoTo 31

/-- The value of the digits of an exponent, or the number of digits that are too many. -/
def exponentValue (n count : Nat) : List Char → Nat ⊕ Nat
  | [] => .inl n
  | d :: ds =>
    let m := n * 10 + digitValue d
    if m < exponentBound then exponentValue m (count + 1) ds else .inr (count + 1)

/-- A numeral as a floating-point number. The fault is the number of characters after which
it is found to be too large, counted from the first digit of the exponent or, if `none`,
at the end of the numeral. -/
def Numeral.magnitude (x : Numeral) : Except (Option Nat) Binary64 :=
  let (n, left) := absorb 0 x.whole
  let fraction := x.fraction.getD []
  let (m, unread) := absorb n fraction
  -- Digits of the integer that are left out count up; digits of the fraction that are read, down.
  let e : Int := (left.length : Int) - ((fraction.length - unread.length : Nat) : Int)
  let finish (e : Int) : Except (Option Nat) Binary64 :=
    match scale m e with
    | some y => .ok y
    | none => .error none
  match x.exponent with
  | none => finish e
  | some (negative, ds) =>
    match exponentValue 0 0 ds with
    | .inl k => finish (if negative then e - k else e + k)
    -- Too large an exponent: zero stays zero, and a negative one leaves nothing of the number.
    | .inr count => if m ≠ 0 ∧ !negative then .error (some count) else .ok ⟨0, 0⟩

/-- The value of a numeral whose digits are too many for 64 bits, or with a point or an
exponent. -/
def Numeral.float (x : Numeral) : Except (Option Nat) Number :=
  x.magnitude.map (.float x.negative)

def Numeral.value (x : Numeral) : Except (Option Nat) Number :=
  match x.fraction, x.exponent, absorb 0 x.whole with
  | none, none, (n, []) =>
    if !x.negative then .ok (.natural n)
    -- A zero with a sign is no integer.
    else if n = 0 then .ok (.float true ⟨0, 0⟩)
    else if n ≤ twoTo 63 then .ok (.negative n)
    else x.float
  | _, _, _ => x.float

/-- The value of the numeral at the front of a text of which it takes `n` characters. -/
def Numeral.valueAt (x : Numeral) (p : Place) (n : Nat) : Except Fault Number :=
  match x.value with
  | .ok v => .ok v
  | .error none => .error ⟨.numberOutOfRange, p.shift n⟩
  | .error (some k) =>
    let digits := match x.exponent with
      | some (_, ds) => ds.length
      | none => 0
    .error ⟨.numberOutOfRange, p.shift (n - digits + k)⟩

end BuildRunner.Json
