import BuildRunner.Shell.Memory

set_option autoImplicit false

/-! # Arithmetic

Expressions over integers of 64 bits with sign, which wrap around. A variable stands for the
number that is its value, and for zero if it has none.
-/

namespace BuildRunner.Shell.Arithmetic

inductive Expr where
  | number (n : Int)
  | variable (name : String)
  | unary (op : String) (e : Expr)
  | binary (op : String) (a b : Expr)
  | conditional (test yes no : Expr)
  /-- Gives a variable the value, combined with its old one by the operator if there is one. -/
  | assign (name op : String) (e : Expr)
deriving Repr

/-- An integer in 64 bits. -/
def wrap (n : Int) : Int := n.bmod (twoTo 64)

/-! ## Reading -/

def skip (cs : List Char) : List Char := cs.dropWhile fun c => c = ' ' || c = '\t' || c = '\n'

/-- The binary operators with how tightly they bind, longest first. -/
def operators : List (String × Nat) :=
  [("<<", 8), (">>", 8), ("<=", 7), (">=", 7), ("==", 6), ("!=", 6), ("&&", 2), ("||", 1),
   ("*", 10), ("/", 10), ("%", 10), ("+", 9), ("-", 9), ("<", 7), (">", 7), ("&", 5), ("^", 4),
   ("|", 3)]

def operatorAt? (cs : List Char) : Option (String × Nat) :=
  operators.find? fun o => o.1.toList.isPrefixOf cs

/-- The operator that an assignment at the front combines with, and the text behind it. -/
def assignmentAt? (cs : List Char) : Option (String × List Char) :=
  match cs with
  | '=' :: '=' :: _ => none
  | '=' :: rest => some ("", rest)
  | _ =>
    (["<<", ">>", "+", "-", "*", "/", "%", "&", "^", "|"].find? fun o =>
      (o.toList ++ ['=']).isPrefixOf cs).map fun o => (o, cs.drop (o.length + 1))

/-- An expression and the text behind it, or what is missing. -/
abbrev Parsed := Except String (Expr × List Char)

/-- What stands for a missing operand. -/
def noPrimary : String := "expecting primary"

mutual

def expression (fuel : Nat) (cs : List Char) : Parsed :=
  match fuel with
  | 0 => .error noPrimary
  | fuel + 1 =>
    let cs := skip cs
    let name := cs.takeWhile isNameChar
    let behind := skip (cs.dropWhile isNameChar)
    match (if isName name then assignmentAt? behind else none) with
    | some (op, rest) =>
      (expression fuel rest).map fun (e, rest) => (.assign (String.ofList name) op e, rest)
    | none => choice fuel cs
termination_by structural fuel

/-- The expression at the front, which does not assign. -/
def choice (fuel : Nat) (cs : List Char) : Parsed :=
  match fuel with
  | 0 => .error noPrimary
  | fuel + 1 => do
    let (test, rest) ← operand fuel cs
    let (test, rest) ← binaries fuel 1 test rest
    match skip rest with
    | '?' :: rest =>
      let (yes, rest) ← expression fuel rest
      match skip rest with
      | ':' :: rest =>
        let (no, rest) ← choice fuel rest
        return (.conditional test yes no, rest)
      | _ => throw "expecting ':'"
    | rest => return (test, rest)
termination_by structural fuel

/-- `a` and the binary operators behind it that bind at least as tightly as `least`. -/
def binaries (fuel least : Nat) (a : Expr) (cs : List Char) : Parsed :=
  match fuel with
  | 0 => .error noPrimary
  | fuel + 1 =>
    let cs := skip cs
    match operatorAt? cs with
    | none => .ok (a, cs)
    | some (op, level) =>
      if level < least then .ok (a, cs)
      else do
        let (b, rest) ← operand fuel (cs.drop op.length)
        let (b, rest) ← binaries fuel (level + 1) b rest
        binaries fuel least (.binary op a b) rest
termination_by structural fuel

def operand (fuel : Nat) (cs : List Char) : Parsed :=
  match fuel with
  | 0 => .error noPrimary
  | fuel + 1 =>
    match skip cs with
    | [] => .error noPrimary
    | c :: rest =>
      if c = '-' ∨ c = '+' ∨ c = '!' ∨ c = '~' then
        (operand fuel rest).map fun (e, rest) => (.unary (String.singleton c) e, rest)
      else if c = '(' then do
        let (e, rest) ← expression fuel rest
        match skip rest with
        | ')' :: rest => return (e, rest)
        | _ => throw "expecting ')'"
      else if c.isDigit then
        let (n, rest) := Numeral.anyAt (c :: rest)
        return (.number (min n Numeral.greatest : Nat), rest)
      else if isNameStart c then
        let cs := c :: rest
        return (.variable (String.ofList (cs.takeWhile isNameChar)), cs.dropWhile isNameChar)
      else throw noPrimary
termination_by structural fuel

end

def parse (cs : List Char) : Except String Expr := do
  let (e, rest) ← expression (4 * cs.length + 4) cs
  if (skip rest).isEmpty then return e else throw "expecting EOF"

/-! ## Evaluation -/

/-- One for what holds, and zero for what does not. -/
def truth (b : Bool) : Int := if b then 1 else 0

/-- The result of a binary operator, unless it divides by zero. -/
def apply (op : String) (a b : Int) : Except String Int :=
  if op = "+" then .ok (wrap (a + b))
  else if op = "-" then .ok (wrap (a - b))
  else if op = "*" then .ok (wrap (a * b))
  else if op = "/" ∨ op = "%" then
    if b = 0 then .error "division by zero"
    else .ok (wrap (if op = "/" then a.tdiv b else a.tmod b))
  else if op = "<<" then .ok (wrap (a * twoTo (b % 64).toNat))
  else if op = ">>" then .ok (a.fdiv (twoTo (b % 64).toNat))
  else if op = "<" then .ok (truth (a < b))
  else if op = "<=" then .ok (truth (a ≤ b))
  else if op = ">" then .ok (truth (b < a))
  else if op = ">=" then .ok (truth (b ≤ a))
  else if op = "==" then .ok (truth (a = b))
  else if op = "!=" then .ok (truth (a ≠ b))
  else
    let x := a.toInt64
    let y := b.toInt64
    if op = "&" then .ok (x &&& y).toInt
    else if op = "|" then .ok (x ||| y).toInt
    else .ok (x ^^^ y).toInt

/-- The number that a text stands for as the value of a variable, unless it is none. -/
def numberOf? (s : String) : Option Int :=
  if (s.toList.dropWhile CharSet.isSpace).isEmpty then some 0 else Numeral.anyInteger? s

def valueOf (m : Memory) (name : String) : Except String Int :=
  match m.get? name with
  | none => .ok 0
  | some s =>
    match numberOf? s with
    | some n => .ok (wrap n)
    | none => .error ("Illegal number: " ++ s)

def evaluate (m : Memory) : Expr → Except String (Int × Memory)
  | .number n => .ok (wrap n, m)
  | .variable name => do return (← valueOf m name, m)
  | .unary op e => do
    let (n, m) ← evaluate m e
    return (if op = "-" then wrap (-n) else if op = "!" then truth (n = 0)
      else if op = "~" then -n - 1 else n, m)
  | .binary op a b => do
    let (x, m) ← evaluate m a
    if op = "&&" then
      if x = 0 then return (0, m)
      else
        let (y, m) ← evaluate m b
        return (truth (y ≠ 0), m)
    else if op = "||" then
      if x ≠ 0 then return (1, m)
      else
        let (y, m) ← evaluate m b
        return (truth (y ≠ 0), m)
    else
      let (y, m) ← evaluate m b
      return (← apply op x y, m)
  | .conditional test yes no => do
    let (n, m) ← evaluate m test
    if n ≠ 0 then evaluate m yes else evaluate m no
  | .assign name op e => do
    let (n, m) ← evaluate m e
    let n ← if op = "" then pure n else apply op (← valueOf m name) n
    return (n, ← m.assign name (toString n))

/-- The value of the expression that a text stands for, and the memory after it. -/
def valueOfText (m : Memory) (s : String) : Except String (Int × Memory) :=
  let about := fun reason => "arithmetic expression: " ++ reason ++ ": \"" ++ s ++ "\""
  match parse s.toList with
  | .error reason => .error (about reason)
  | .ok e =>
    match evaluate m e with
    | .ok r => .ok r
    | .error reason => .error (if reason = "division by zero" then about reason else reason)

end BuildRunner.Shell.Arithmetic
