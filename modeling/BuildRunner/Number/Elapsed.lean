import BuildRunner.Number.Binary64

set_option autoImplicit false

/-! # Elapsed time

A duration is written in seconds with three decimals. The seconds are first a binary64
number, the rounded sum of the whole seconds and of the rounded fraction; the exact value of
that number is then rounded to thousandths, a tie to the even one.
-/

namespace BuildRunner

/-- A duration in nanoseconds. -/
structure Elapsed where
  nanoseconds : Nat
deriving Repr, DecidableEq

namespace Elapsed

def perSecond : Nat := 1000000000

def ofMillis (n : Nat) : Elapsed := ⟨n * 1000000⟩

def ofMicros (n : Nat) : Elapsed := ⟨n * 1000⟩

/-- The seconds of a duration as a binary64 number. -/
def seconds (t : Elapsed) : Option Binary64 := do
  let whole ← Binary64.ofNat (t.nanoseconds / perSecond)
  let part ← Binary64.ofRatio (t.nanoseconds % perSecond) perSecond
  whole.add part

/-- `n` with zeros in front up to three digits. -/
def threeDigits (n : Nat) : String :=
  let s := toString n
  String.ofList (List.replicate (3 - s.length) '0') ++ s

def ofThousandths (n : Nat) : String :=
  toString (n / 1000) ++ "." ++ threeDigits (n % 1000) ++ "s"

def text (t : Elapsed) : String :=
  match t.seconds with
  | some x =>
    let (num, den) := x.ratio
    ofThousandths (roundDiv (num * 1000) den)
  | none => "infs"

end Elapsed
end BuildRunner
