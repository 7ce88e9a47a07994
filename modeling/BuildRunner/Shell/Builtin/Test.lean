import BuildRunner.Shell.Numeral

set_option autoImplicit false

/-! # The command that tests

Conditions on texts, numbers and files, with negation, conjunction and disjunction. Words are
read from left to right; where few words are given their number says how they are read. Every
reader returns the words from the last one it has used on.
-/

namespace BuildRunner.Shell.Test

structure View where
  /-- Whether a file has a property, by the letter that names it. -/
  has : Char → String → Bool
  /-- Whether a comparison of two files holds, by the operator that names it. -/
  compare : String → String → String → Bool

/-! ## Operators -/

/-- The value of a number, which may have a sign and blanks around it. -/
def integer (s : String) : Except String Int :=
  match Numeral.integer? s with
  | some n => .ok n
  | none => .error (Numeral.fault s)

def comparison? (op : String) : Option (Int → Int → Bool) :=
  if op = "-eq" then some fun a b => a = b
  else if op = "-ne" then some fun a b => a ≠ b
  else if op = "-lt" then some fun a b => a < b
  else if op = "-le" then some fun a b => a ≤ b
  else if op = "-gt" then some fun a b => b < a
  else if op = "-ge" then some fun a b => b ≤ a
  else none

def fileComparisons : List String := ["-nt", "-ot", "-ef"]

def isBinary (op : String) : Bool :=
  op = "=" || op = "!=" || op = "<" || op = ">" || (comparison? op).isSome ||
    fileComparisons.contains op

def binary (files : View) (a op b : String) : Except String Bool :=
  if op = "=" then .ok (a = b)
  else if op = "!=" then .ok (a ≠ b)
  else if op = "<" then .ok (a < b)
  else if op = ">" then .ok (b < a)
  else
    match comparison? op with
    | some f => do return f (← integer a) (← integer b)
    | none => .ok (files.compare op a b)

def isUnary (op : String) : Bool :=
  match op.toList with
  | ['-', c] => "rwxefdcbpugkstznhLOGS".toList.contains c
  | _ => false

def unary (files : View) (op a : String) : Except String Bool :=
  match op.toList with
  | ['-', 'n'] => .ok (a ≠ "")
  | ['-', 'z'] => .ok (a = "")
  | ['-', 't'] => (integer a).map fun _ => false
  | ['-', c] => .ok (files.has c a)
  | _ => .ok false

/-- What a word is where a condition is expected. -/
inductive Role where
  | operand
  | unary
  | binary
  | negation
  | conjunction
  | disjunction
  | opening
  | closing
  | nothing
deriving Repr, DecidableEq

/-- Whether the name of a test of one operand is an operand itself, by the words behind it. -/
def isOperandBefore (rest : List String) : Bool :=
  match rest with
  | [] => true
  | [_] => false
  | op :: _ => isBinary op

def roleAt (ws : List String) : Role :=
  match ws with
  | [] => .nothing
  | w :: rest =>
    if isUnary w then (if isOperandBefore rest then .operand else .unary)
    else if isBinary w then .binary
    else if w = "!" then .negation
    else if w = "-a" then .conjunction
    else if w = "-o" then .disjunction
    else if w = "(" ∧ !rest.isEmpty then .opening
    else if w = ")" then .closing
    else .operand

/-! ## Conditions -/

/-- A result and the words from the last one that was used on. -/
abbrev Tested := Except String (Bool × List String)

mutual

/-- Conditions of which one has to hold; `role` is that of the first word. -/
def disjunction (files : View) (fuel : Nat) (role : Role) (ws : List String) : Tested :=
  match fuel with
  | 0 => .error "too long"
  | fuel + 1 => do
    let (a, ws) ← conjunction files fuel role ws
    if roleAt (ws.drop 1) = .disjunction then
      let (b, ws) ← disjunction files fuel (roleAt (ws.drop 2)) (ws.drop 2)
      return (a || b, ws)
    else return (a, ws)
termination_by structural fuel

/-- Conditions that all have to hold. -/
def conjunction (files : View) (fuel : Nat) (role : Role) (ws : List String) : Tested :=
  match fuel with
  | 0 => .error "too long"
  | fuel + 1 => do
    let (a, ws) ← negation files fuel role ws
    if roleAt (ws.drop 1) = .conjunction then
      let (b, ws) ← conjunction files fuel (roleAt (ws.drop 2)) (ws.drop 2)
      return (a && b, ws)
    else return (a, ws)
termination_by structural fuel

/-- A condition that may be negated. -/
def negation (files : View) (fuel : Nat) (role : Role) (ws : List String) : Tested :=
  match fuel with
  | 0 => .error "too long"
  | fuel + 1 =>
    if role = .negation then do
      let rest := ws.drop 1
      let (a, ws) ← negation files fuel (roleAt rest) (if rest.isEmpty then ws else rest)
      return (!a, ws)
    else primary files fuel role ws
termination_by structural fuel

/-- A condition without connectives. -/
def primary (files : View) (fuel : Nat) (role : Role) (ws : List String) : Tested :=
  match fuel, ws with
  | 0, _ => .error "too long"
  | _ + 1, [] => .ok (false, [])
  | fuel + 1, a :: rest =>
    match role with
    | .nothing => .ok (false, ws)
    | .opening =>
      if roleAt rest = .closing then .ok (false, rest)
      else do
        let (r, ws) ← disjunction files fuel (roleAt rest) rest
        if roleAt (ws.drop 1) = .closing then return (r, ws.drop 1)
        else throw "closing paren expected"
    | .unary =>
      match rest with
      | b :: _ => return (← unary files a b, rest)
      | [] => .error (a ++ ": argument expected")
    | _ =>
      match rest with
      | op :: more =>
        if isBinary op then
          match more with
          | b :: _ => (binary files a op b).map fun r => (r, more)
          | [] => .error (op ++ ": argument expected")
        else .ok (a ≠ "", ws)
      | [] => .ok (a ≠ "", ws)
termination_by structural fuel

end

/-- Whether the condition that words write holds; `role` is that of the first word. -/
def condition (files : View) (role : Role) (ws : List String) : Except String Bool := do
  match ← disjunction files (4 * ws.length + 4) role ws with
  | (_, w :: _ :: _) => throw ((if w = "" then "" else w ++ ": ") ++ "unexpected operator")
  | (r, _) => return r

/-- Whether the condition that words write holds, or fails to hold if `negated` says so. -/
def holdsFrom (files : View) (negated : Bool) (ws : List String) : Except String Bool :=
  match ws with
  | [] => .ok negated
  | w :: rest =>
    let few := ws.length = 3 || ws.length = 4
    if ws.length = 3 ∧ (rest.head?).any isBinary then
      (condition files .operand ws).map (· != negated)
    else if few ∧ w = "(" ∧ rest.getLast? = some ")" then
      (condition files (roleAt rest.dropLast) rest.dropLast).map (· != negated)
    else if few ∧ w = "!" then holdsFrom files true rest
    else (condition files (roleAt ws) ws).map (· != negated)

def holds (files : View) (ws : List String) : Except String Bool := holdsFrom files false ws

end BuildRunner.Shell.Test
