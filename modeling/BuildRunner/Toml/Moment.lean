import BuildRunner.Number.Power

set_option autoImplicit false

/-! # Dates and times

A date, a time of day, or both, and then perhaps a distance from universal time. A date has to
exist in the calendar. Parts of a second are kept to nine digits, further digits are dropped.
-/

namespace BuildRunner.Toml

structure Date where
  year : Nat
  month : Nat
  day : Nat
deriving Repr, DecidableEq

structure Time where
  hour : Nat
  minute : Nat
  second : Nat
  nanosecond : Nat
deriving Repr, DecidableEq

/-- A distance from universal time. -/
inductive Offset where
  | universal
  /-- Minutes, to the east if they are positive. -/
  | minutes (n : Int)
deriving Repr, DecidableEq

/-- A moment, as far as it is given. -/
inductive Moment where
  | date (d : Date)
  | time (t : Time)
  | both (d : Date) (t : Time) (offset : Option Offset)
deriving Repr, DecidableEq

/-! ## Digits -/

def digitsValue (ds : List Char) : Nat := ds.foldl (fun n d => n * 10 + (d.toNat - 48)) 0

/-- The number written with exactly `n` digits at the front. -/
def fixedDigits (n : Nat) (cs : List Char) : Option (Nat × List Char) :=
  let ds := cs.take n
  if ds.length = n ∧ ds.all Char.isDigit then some (digitsValue ds, cs.drop n) else none

/-- The number of `n` digits at the front, if it does not exceed `most`. -/
def boundedDigits (n most : Nat) (cs : List Char) : Option (Nat × List Char) := do
  let (v, rest) ← fixedDigits n cs
  if v ≤ most then some (v, rest) else none

/-- The text behind one of the characters `wanted`. -/
def skipOne (wanted : List Char) : List Char → Option (List Char)
  | c :: cs => if wanted.contains c then some cs else none
  | [] => none

/-! ## Reading -/

/-- Whether a year has a 29th of February. -/
def isLeapYear (year : Nat) : Bool := year % 4 = 0 && (year % 100 ≠ 0 || year % 400 = 0)

def daysOfMonth (year month : Nat) : Nat :=
  if month = 2 then (if isLeapYear year then 29 else 28)
  else if month = 4 ∨ month = 6 ∨ month = 9 ∨ month = 11 then 30
  else 31

def readDate (cs : List Char) : Option (Date × List Char) := do
  let (year, cs) ← fixedDigits 4 cs
  let cs ← skipOne ['-'] cs
  let (month, cs) ← boundedDigits 2 12 cs
  let cs ← skipOne ['-'] cs
  let (day, cs) ← boundedDigits 2 31 cs
  if 1 ≤ month ∧ 1 ≤ day ∧ day ≤ daysOfMonth year month then some (⟨year, month, day⟩, cs) else none

/-- The digits of a part of a second as nanoseconds. -/
def nanoseconds (ds : List Char) : Nat :=
  let kept := ds.take 9
  digitsValue kept * tenTo (9 - kept.length)

/-- The part of a second at the front, if a point stands there. -/
def readFraction (cs : List Char) : Option (Nat × List Char) :=
  match cs with
  | '.' :: rest =>
    match rest.takeWhile Char.isDigit with
    | [] => none
    | ds => some (nanoseconds ds, rest.dropWhile Char.isDigit)
  | _ => some (0, cs)

def readTime (cs : List Char) : Option (Time × List Char) := do
  let (hour, cs) ← boundedDigits 2 23 cs
  let cs ← skipOne [':'] cs
  let (minute, cs) ← boundedDigits 2 59 cs
  let cs ← skipOne [':'] cs
  let (second, cs) ← boundedDigits 2 60 cs
  let (nanosecond, cs) ← readFraction cs
  return (⟨hour, minute, second, nanosecond⟩, cs)

/-- A distance from universal time that is the whole of `cs`. -/
def readOffset (cs : List Char) : Option Offset :=
  match cs with
  | ['Z'] | ['z'] => some .universal
  | s :: rest =>
    if s = '+' ∨ s = '-' then do
      let (hours, rest) ← boundedDigits 2 23 rest
      let rest ← skipOne [':'] rest
      let (minutes, rest) ← boundedDigits 2 59 rest
      let n : Int := hours * 60 + minutes
      if rest.isEmpty then some (.minutes (if s = '-' then -n else n)) else none
    else none
  | [] => none

/-- A time of day and what follows it, when `d` stands before it. -/
def Moment.ofDateAndTime (d : Date) (cs : List Char) : Option Moment := do
  let (t, rest) ← readTime cs
  match rest with
  | [] => some (.both d t none)
  | _ => (readOffset rest).map fun o => .both d t (some o)

def Moment.ofChars? (cs : List Char) : Option Moment :=
  match readDate cs with
  | some (d, []) => some (.date d)
  | some (d, c :: rest) =>
    if c = 'T' ∨ c = 't' ∨ c = ' ' then Moment.ofDateAndTime d rest else none
  | none =>
    match readTime cs with
    | some (t, []) => some (.time t)
    | _ => none

/-! ## Writing -/

/-- `n` with zeros in front up to `width` digits. -/
def padded (width n : Nat) : String :=
  let s := toString n
  String.ofList (List.replicate (width - s.length) '0') ++ s

def Date.text (d : Date) : String := padded 4 d.year ++ "-" ++ padded 2 d.month ++ "-" ++ padded 2 d.day

/-- The digits of a part of a second, without zeros at the end. -/
def fractionText (n : Nat) : String :=
  if n = 0 then ""
  else "." ++ String.ofList ((padded 9 n).toList.reverse.dropWhile (· = '0')).reverse

def Time.text (t : Time) : String :=
  padded 2 t.hour ++ ":" ++ padded 2 t.minute ++ ":" ++ padded 2 t.second ++ fractionText t.nanosecond

def Offset.text : Offset → String
  | .universal => "Z"
  | .minutes n =>
    (if n < 0 then "-" else "+") ++ padded 2 (n.natAbs / 60) ++ ":" ++ padded 2 (n.natAbs % 60)

def Moment.text : Moment → String
  | .date d => d.text
  | .time t => t.text
  | .both d t offset => d.text ++ "T" ++ t.text ++ (offset.map Offset.text).getD ""

end BuildRunner.Toml
