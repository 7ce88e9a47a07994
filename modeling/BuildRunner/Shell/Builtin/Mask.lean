import BuildRunner.Shell.Numeral

set_option autoImplicit false

/-! # Permissions that new files do not get

A mask is written in base eight, or as clauses that change the permissions which it leaves: who
is meant, an operation, and what is permitted.
-/

namespace BuildRunner.Shell.Mask

def everything : Nat := 511

def personOf? (c : Char) : Option Nat :=
  [('u', 448), ('g', 56), ('o', 7), ('a', everything)].lookup c

def without (a b : Nat) : Nat := a - (a &&& b)

/-- Permissions of one person for everybody. -/
def forAll (n : Nat) : Nat := n % 8 * 73

/-- The permissions that a letter stands for when the clauses began with `before`. -/
def permissionOf? (before : Nat) (c : Char) : Option Nat :=
  [('r', 292), ('w', 146), ('x', 73), ('s', 0), ('t', 0), ('u', forAll (before / 64)),
    ('g', forAll (before / 8)), ('o', forAll before),
    ('X', if before &&& 73 = 0 then 0 else 73)].lookup c

/-- What letters in front of a text stand for, taken together, and what is behind them. -/
def taken (value : Char → Option Nat) : List Char → Nat × List Char
  | [] => (0, [])
  | c :: cs =>
    match value c with
    | some n =>
      let (m, rest) := taken value cs
      (n ||| m, rest)
    | none => (0, c :: cs)

def change (mode who : Nat) (op : Char) (permissions : Nat) : Nat :=
  let meant := who &&& permissions
  if op = '-' then without mode meant
  else if op = '=' then without mode who ||| meant
  else mode ||| meant

/-- What the rest of clauses makes of permissions, from an operation or a comma on. -/
def clausesFrom (before : Nat) : Nat → Nat → List Char → Nat → Option Nat
  | 0, _, _, _ => none
  | fuel + 1, who, cs, mode =>
    match cs with
    | [] => some mode
    | ',' :: cs =>
      let (who, rest) := taken personOf? cs
      clausesFrom before fuel who rest mode
    | op :: cs =>
      if !"+-=".toList.contains op then none
      else
        let (permissions, rest) := taken (permissionOf? before) cs
        let meant := if who = 0 then everything else who
        clausesFrom before fuel who rest (change mode meant op permissions)

def clauses (cs : List Char) (mode : Nat) : Option Nat :=
  clausesFrom mode (cs.length + 2) 0 (',' :: cs) mode

/-- The mask that a text stands for when `mask` is the present one, or what is wrong with it. -/
def read (mask : Nat) (text : String) : Except String Nat :=
  let cs := text.toList
  if cs.head?.any Char.isDigit then
    if cs.all Numeral.isOctal then .ok (Numeral.digits 8 cs % 512) else .error (Numeral.fault text)
  else
    match clauses cs (without everything mask) with
    | some mode => .ok (without everything mode)
    | none => .error ("Illegal mode: " ++ text)

/-- A mask in base eight with four digits. -/
def octal (mask : Nat) : String :=
  String.join ([512, 64, 8, 1].map fun d => toString (mask / d % 8))

/-- The permissions that a mask leaves, as clauses. -/
def symbolic (mask : Nat) : String :=
  let part := fun (who : String) (factor : Nat) =>
    let n := 7 - mask / factor % 8
    who ++ "=" ++ (if n / 4 = 1 then "r" else "") ++ (if n / 2 % 2 = 1 then "w" else "") ++
      (if n % 2 = 1 then "x" else "")
  part "u" 64 ++ "," ++ part "g" 8 ++ "," ++ part "o" 1

end BuildRunner.Shell.Mask
