import BuildRunner.Number.Shortest
import BuildRunner.Text.Quoted

set_option autoImplicit false

/-! # JSON values

A JSON text as a tree. Objects keep the order of their keys and repeated keys, and numbers
keep their kind: a number written without fraction and exponent is an integer as long as it
fits into 64 bits, every other number, minus zero included, is a floating-point number.
-/

namespace BuildRunner

inductive Json.Number where
  /-- An integer from 0 to 2^64 - 1. -/
  | natural (n : Nat)
  /-- The integer `-n`, for `n` from 1 to 2^63. -/
  | negative (n : Nat)
  /-- A floating-point number, by sign and magnitude. -/
  | float (isNegative : Bool) (magnitude : Binary64)
deriving Repr, DecidableEq

inductive Json where
  | null
  | bool (b : Bool)
  | number (n : Json.Number)
  | string (s : String)
  | array (items : List Json)
  | object (members : List (String × Json))
deriving Repr

namespace Json

/-- What a value is called where another kind of value was wanted. -/
def describe : Json → String
  | .null => "null"
  | .bool b => "boolean `" ++ (if b then "true" else "false") ++ "`"
  | .number (.natural n) => "integer `" ++ toString n ++ "`"
  | .number (.negative n) => "integer `-" ++ toString n ++ "`"
  | .number (.float s x) => "floating point `" ++ Shortest.text s x ++ "`"
  | .string s => "string " ++ Quoted.quote s
  | .array _ => "sequence"
  | .object _ => "map"

def word (n : UInt32) : Json := .number (.natural n.toNat)

mutual

/-- The number of arrays and objects around the innermost value, that value included. -/
def depth : Json → Nat
  | .array items => depthItems items + 1
  | .object members => depthMembers members + 1
  | _ => 0
termination_by structural j => j

def depthItems : List Json → Nat
  | [] => 0
  | j :: js => max (depth j) (depthItems js)
termination_by structural js => js

def depthMembers : List (String × Json) → Nat
  | [] => 0
  | (_, j) :: ms => max (depth j) (depthMembers ms)
termination_by structural ms => ms

end

end Json
end BuildRunner
