import BuildRunner.Host.Utility.Options
import BuildRunner.Host.Utility.Quoted
import BuildRunner.Number.Power
import BuildRunner.Text.CharSet

set_option autoImplicit false

/-! # Durations of sleep

The utility that does nothing for a while. A duration is a number, decimal or of base sixteen, and
a letter for its unit; several durations are added.
-/

namespace BuildRunner.Host.Sleep

/-- The microseconds of one unit. -/
def unit? (cs : List Char) : Option Nat :=
  match cs with
  | [] | ['s'] => some 1000000
  | ['m'] => some 60000000
  | ['h'] => some 3600000000
  | ['d'] => some 86400000000
  | _ => none

def digitValue (c : Char) : Nat :=
  if c.isDigit then c.toNat - 48 else if c.isLower then c.toNat - 87 else c.toNat - 55

def digits (base : Nat) (cs : List Char) : Nat := cs.foldl (fun n c => n * base + digitValue c) 0

/-- The longest duration in microseconds; longer ones count as endless. -/
def limit : Nat := tenTo 24

/-- The microseconds of `value` units, scaled by a power whose exponent is given. -/
def scaled (value : Nat) (power : Nat → Nat) (exponent : Int) (unit : Nat) : Nat :=
  if value = 0 then 0
  else if 0 ≤ exponent then
    if 100 < exponent then limit else min limit (value * power exponent.toNat * unit)
  else if exponent < -400 then 0
  else value * unit / power (-exponent).toNat

/-- The exponent at the front, and the text behind it. A letter without digits is none. -/
def exponentAt (letters : List Char) (cs : List Char) : Int × List Char :=
  match cs with
  | c :: rest =>
    if letters.contains c then
      let (negative, rest) := match rest with
        | '-' :: rest => (true, rest)
        | '+' :: rest => (false, rest)
        | rest => (false, rest)
      let ds := rest.takeWhile Char.isDigit
      if ds.isEmpty then (0, cs)
      else
        let n : Int := min 100000 (digits 10 ds)
        (if negative then -n else n, rest.drop ds.length)
    else (0, cs)
  | [] => (0, cs)

/-- The microseconds of a number that is not negative, and of its unit. -/
def magnitude? (cs : List Char) : Option Nat :=
  let named := fun (name : String) => (cs.take name.length).map Char.toLower = name.toList
  if named "infinity" then (unit? (cs.drop 8)).map fun _ => limit
  else if named "inf" then (unit? (cs.drop 3)).map fun _ => limit
  else
    let isWide := named "0x"
    let isDigit := if isWide then CharSet.isHexadecimal else Char.isDigit
    let base := if isWide then 16 else 10
    let number := if isWide then cs.drop 2 else cs
    let whole := number.takeWhile isDigit
    let rest := number.drop whole.length
    let fraction := match rest with
      | '.' :: rest => rest.takeWhile isDigit
      | _ => []
    let rest := match rest with
      | '.' :: rest => rest.drop fraction.length
      | rest => rest
    if whole.isEmpty ∧ fraction.isEmpty then none
    else
      let value := digits base (whole ++ fraction)
      let (e, rest) := exponentAt (if isWide then ['p', 'P'] else ['e', 'E']) rest
      (unit? rest).map fun unit =>
        if isWide then scaled value twoTo (e - 4 * fraction.length) unit
        else scaled value tenTo (e - fraction.length) unit

def duration? (arg : String) : Option Nat :=
  match arg.toList.dropWhile CharSet.isSpace with
  | '+' :: cs => magnitude? cs
  | '-' :: cs => (magnitude? cs).filter (· = 0)
  | cs => magnitude? cs

/-- The options: there are none but the words that every utility knows. -/
def options : OptionTable where letters := []

/-- The microseconds that arguments stand for together, or the message that is written. -/
def ofArgs (name : String) (args : List String) : Except String Nat :=
  let (given, operands) := options.read args
  match given.head? with
  | some (.fault m) => .error (name ++ ": " ++ m ++ "\n" ++ hint name)
  | _ =>
    if operands.isEmpty then .error (name ++ ": missing operand\n" ++ hint name)
    else
      match operands.filter fun a => (duration? a).isNone with
      | [] => .ok ((operands.filterMap duration?).foldl (· + ·) 0)
      | bad => .error (String.join (bad.map fun a =>
          name ++ ": invalid time interval " ++ Quoted.always a ++ "\n") ++ hint name)

end BuildRunner.Host.Sleep
