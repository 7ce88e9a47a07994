import BuildRunner.Host.Utility.Regex.Basic

set_option autoImplicit false

/-! # The notations of regular expressions

The basic notation, in which a backslash makes braces, parentheses and some signs active, and
the extended notation, in which it makes them ordinary. Both know sets in brackets, repetitions
with bounds, references to groups and the conditions on words.
-/

namespace BuildRunner.Host.Regex

/-! ## Refusals -/

inductive Fault where
  | backslash
  | bracket
  | className
  | collation
  | rangeEnd
  | opening
  | closing
  | brace
  | bounds
  | size
  | operand
  | reference
deriving Repr, DecidableEq

def Fault.message : Fault → String
  | .backslash => "Trailing backslash"
  | .bracket => "Unmatched [, [^, [:, [., or [="
  | .className => "Invalid character class name"
  | .collation => "Invalid collation character"
  | .rangeEnd => "Invalid range end"
  | .opening => "Unmatched ( or \\("
  | .closing => "Unmatched ) or \\)"
  | .brace => "Unmatched \\\x7b"
  | .bounds => "Invalid content of \\\x7b\\\x7d"
  | .size => "Regular expression too big"
  | .operand => "Invalid preceding regular expression"
  | .reference => "Invalid back reference"

/-! ## Sets in brackets -/

inductive Element where
  | char (c : Char)
  | set (s : CharSet)
deriving Repr

/-- The text up to a mark and a closing bracket, and the text behind both. -/
def upToMark (mark : Char) : List Char → Option (List Char × List Char)
  | [] => none
  | [_] => none
  | c :: d :: cs =>
    if c = mark ∧ d = ']' then some ([], cs)
    else (upToMark mark (d :: cs)).map fun (a, b) => (c :: a, b)

/-- The element at the front, which is not empty. -/
def elementAt (cs : List Char) : Except Fault (Element × List Char) :=
  match cs with
  | '[' :: ':' :: rest =>
    match upToMark ':' rest with
    | none => .error .bracket
    | some (name, rest) =>
      match CharSet.named? (String.ofList name) with
      | some s => .ok (.set s, rest)
      | none => .error .className
  | '[' :: '=' :: rest | '[' :: '.' :: rest =>
    let mark := (cs.drop 1).headD '='
    match upToMark mark rest with
    | none => .error .bracket
    | some ([c], rest) => .ok (.char c, rest)
    | some (_, _) => .error .collation
  | c :: rest => .ok (.char c, rest)
  | [] => .error .bracket

/-- The sets between brackets up to the closing one, and the text behind it. `first` says whether
a bracket here is a member. -/
def setsAt (first : Bool) : Nat → List Char → Except Fault (List CharSet × List Char)
  | 0, _ => .error .bracket
  | fuel + 1, cs =>
    match cs with
    | [] => .error .bracket
    | c :: rest =>
      if c = ']' ∧ !first then .ok ([], rest)
      else if c = '-' ∧ !first ∧ rest.head? ≠ some ']' ∧ rest.head? ≠ some '-' then
        .error .rangeEnd
      else do
        let (e, rest) ← elementAt cs
        let isRange : Bool := match rest with
          | '-' :: d :: _ => d != ']'
          | _ => false
        if isRange then
          let (last, rest) ← elementAt (rest.drop 1)
          match e, last with
          | .char a, .char b =>
            if b < a then throw .rangeEnd
            else
              let (ss, rest) ← setsAt false fuel rest
              return (.range a b :: ss, rest)
          | _, _ => throw .rangeEnd
        else
          let (ss, rest) ← setsAt false fuel rest
          return ((match e with
            | .char c => .range c c
            | .set s => s) :: ss, rest)

/-- The set in brackets from behind the opening one on, and the text behind it. -/
def bracketAt (cs : List Char) : Except Fault (Regex × List Char) :=
  let (negated, cs) := match cs with
    | '^' :: rest => (true, rest)
    | cs => (false, cs)
  (setsAt true (cs.length + 1) cs).map fun (ss, rest) => (.oneOf negated ss, rest)

/-! ## Tokens -/

inductive Token where
  | finish
  | char (c : Char)
  | anyChar
  | bracket
  | anchor (a : Anchor)
  /-- Word characters or spaces, or all but them. -/
  | class (negated : Bool) (sets : List CharSet)
  | opening
  | closing
  | choice
  | star
  | plus
  | optional
  | bounds
  | endOfBounds
  | reference (n : Nat)
  | lonelyBackslash
deriving Repr

/-- Where in an expression a token stands. -/
structure Context where
  extended : Bool
  /-- Whether an expression begins here. -/
  atStart : Bool
deriving Repr

def wordSets : List CharSet := [.alphanumeric, .range '_' '_']

def escapedToken (extended : Bool) (c : Char) : Token :=
  let active := fun (t : Token) => if extended then .char c else t
  match c with
  | '(' => active .opening
  | ')' => active .closing
  | '|' => active .choice
  | '+' => active .plus
  | '?' => active .optional
  | '\x7b' => active .bounds
  | '\x7d' => active .endOfBounds
  | '<' => .anchor .wordStart
  | '>' => .anchor .wordEnd
  | 'b' => .anchor .wordEdge
  | 'B' => .anchor .noWordEdge
  | '\x60' => .anchor .textStart
  | '\'' => .anchor .textEnd
  | 'w' => .class false wordSets
  | 'W' => .class true wordSets
  | 's' => .class false [.space]
  | 'S' => .class true [.space]
  | c => if '1' ≤ c ∧ c ≤ '9' then .reference (c.toNat - 48) else .char c

/-- Whether an expression may end before `cs`. -/
def endsBefore (extended : Bool) (cs : List Char) : Bool :=
  match cs with
  | [] => true
  | '\\' :: c :: _ => !extended && (c = ')' || c = '|')
  | _ => false

def tokenAt (x : Context) (cs : List Char) : Token × List Char :=
  let active := fun (t : Token) (c : Char) => if x.extended then t else .char c
  match cs with
  | [] => (.finish, [])
  | '\\' :: c :: rest => (escapedToken x.extended c, rest)
  | ['\\'] => (.lonelyBackslash, [])
  | '[' :: rest => (.bracket, rest)
  | '.' :: rest => (.anyChar, rest)
  | '*' :: rest => (.star, rest)
  | '^' :: rest => (if x.extended || x.atStart then .anchor .lineStart else .char '^', rest)
  | '$' :: rest =>
    (if x.extended || endsBefore x.extended rest then .anchor .lineEnd else .char '$', rest)
  | '(' :: rest => (active .opening '(', rest)
  | ')' :: rest => (active .closing ')', rest)
  | '|' :: rest => (active .choice '|', rest)
  | '+' :: rest => (active .plus '+', rest)
  | '?' :: rest => (active .optional '?', rest)
  | '\x7b' :: rest => (active .bounds '\x7b', rest)
  | '\x7d' :: rest => (active .endOfBounds '\x7d', rest)
  | c :: rest => (.char c, rest)

/-! ## Bounds -/

def greatestBound : Nat := 32767

inductive BoundEnd where
  | comma
  | brace
  | nothing
deriving Repr, DecidableEq

/-- The number at the front, if there are digits, and what ends it; nothing if something else
stands there. -/
def boundAt (extended : Bool) (n : Option Nat) :
    Nat → List Char → Option (Option Nat) × BoundEnd × List Char
  | 0, cs => (none, .nothing, cs)
  | fuel + 1, cs =>
    match tokenAt ⟨extended, false⟩ cs with
    | (.finish, rest) => (none, .nothing, rest)
    | (.endOfBounds, rest) => (some n, .brace, rest)
    | (.char ',', rest) => (some n, .comma, rest)
    | (.char c, rest) =>
      if c.isDigit then
        boundAt extended (some (min (greatestBound + 1) (n.getD 0 * 10 + (c.toNat - 48)))) fuel rest
      else
        let (_, e, rest) := boundAt extended n fuel rest
        (none, e, rest)
    | (_, rest) =>
      let (_, e, rest) := boundAt extended n fuel rest
      (none, e, rest)

/-- The bounds from behind the opening brace on: least and greatest number of repetitions. -/
def boundsAt (extended : Bool) (cs : List Char) :
    Except Fault (Nat × Option Nat × List Char) :=
  let missing := fun (e : BoundEnd) => if e = .nothing then Fault.brace else .bounds
  match boundAt extended none (cs.length + 1) cs with
  | (none, e, _) => .error (missing e)
  | (some none, .brace, _) => .error .bounds
  | (some (some n), .brace, rest) =>
    if greatestBound < n then .error .size else .ok (n, some n, rest)
  | (some least, .comma, rest) =>
    let least := least.getD 0
    match boundAt extended none (rest.length + 1) rest with
    | (none, e, _) => .error (missing e)
    | (some _, .comma, _) | (some _, .nothing, _) => .error .bounds
    | (some none, .brace, rest) =>
      if greatestBound < least then .error .size else .ok (least, none, rest)
    | (some (some most), .brace, rest) =>
      if most < least then .error .bounds
      else if greatestBound < most then .error .size
      else .ok (least, some most, rest)
  | (some _, .nothing, _) => .error .bounds

/-- `n` times an expression, and then `rest`. -/
def times (r rest : Regex) : Nat → Regex
  | 0 => rest
  | n + 1 => .both r (times r rest n)

/-- At most `n` times an expression. -/
def atMost (r : Regex) : Nat → Regex
  | 0 => .empty
  | n + 1 => .either (.both r (atMost r n)) .empty

def repeated (r : Regex) (least : Nat) (most : Option Nat) : Regex :=
  times r (match most with
    | none => .many r
    | some m => atMost r (m - least)) least

/-! ## Expressions -/

/-- What has been read: an expression, the text behind it, the number of groups, and the groups
that are complete. -/
structure Parsed where
  regex : Regex
  rest : List Char
  groups : Nat
  complete : List Nat

mutual

/-- The choices at the front; `depth` groups are open, `next` have been begun. -/
def choices (fuel : Nat) (extended : Bool) (depth groups : Nat) (complete : List Nat)
    (cs : List Char) : Except Fault Parsed :=
  match fuel with
  | 0 => .error .size
  | fuel + 1 => do
    let p ← branch fuel extended true depth groups complete cs
    match tokenAt ⟨extended, false⟩ p.rest with
    | (.choice, rest) =>
      let q ← choices fuel extended depth p.groups p.complete rest
      return { q with regex := .either p.regex q.regex }
    | _ => return p
termination_by structural fuel

/-- The pieces at the front up to a choice, the end of a group or the end. -/
def branch (fuel : Nat) (extended atStart : Bool) (depth groups : Nat) (complete : List Nat)
    (cs : List Char) : Except Fault Parsed :=
  match fuel with
  | 0 => .error .size
  | fuel + 1 =>
    let stop : Except Fault Parsed := .ok ⟨.empty, cs, groups, complete⟩
    match (tokenAt ⟨extended, atStart⟩ cs).1 with
    | .finish | .choice => stop
    | t => do
      let closes := match t with
        | .closing => true
        | _ => false
      if closes && 0 < depth then stop
      else
        let p ← piece fuel extended atStart depth groups complete cs
        let q ← branch fuel extended false depth p.groups p.complete p.rest
        return { q with regex := .both p.regex q.regex }
termination_by structural fuel

def piece (fuel : Nat) (extended atStart : Bool) (depth groups : Nat) (complete : List Nat)
    (cs : List Char) : Except Fault Parsed :=
  match fuel with
  | 0 => .error .size
  | fuel + 1 =>
    let simple := fun (r : Regex) (rest : List Char) =>
      repetitions fuel extended ⟨r, rest, groups, complete⟩
    match tokenAt ⟨extended, atStart⟩ cs with
    | (.anchor a, rest) => .ok ⟨.anchor a, rest, groups, complete⟩
    | (.char c, rest) => simple (.exactly c) rest
    | (.anyChar, rest) => simple .anyChar rest
    | (.class negated sets, rest) => simple (.oneOf negated sets) rest
    | (.bracket, rest) => do
      let (r, rest) ← bracketAt rest
      simple r rest
    | (.reference n, rest) =>
      -- Only a group that is closed can be referred to.
      if complete.contains n then simple (.again n) rest else .error .reference
    | (.opening, rest) => do
      let n := groups + 1
      let p ← choices fuel extended (depth + 1) n complete rest
      match tokenAt ⟨extended, false⟩ p.rest with
      | (.closing, rest) =>
        repetitions fuel extended ⟨.group n p.regex, rest, p.groups, n :: p.complete⟩
      | _ => throw .opening
    | (.closing, _) => .error .closing
    | (.star, rest) => if extended then .error .operand else simple (.exactly '*') rest
    | (.plus, rest) => if extended then .error .operand else simple (.exactly '+') rest
    | (.optional, rest) => if extended then .error .operand else simple (.exactly '?') rest
    | (.bounds, _) => .error .operand
    | (.endOfBounds, rest) => simple (.exactly '\x7d') rest
    | (.lonelyBackslash, _) => .error .backslash
    | (.finish, rest) | (.choice, rest) => .ok ⟨.empty, rest, groups, complete⟩
termination_by structural fuel

/-- What has been read with the repetitions behind it. In the basic notation a star and bounds
cannot follow one. -/
def repetitions (fuel : Nat) (extended : Bool) (p : Parsed) : Except Fault Parsed :=
  match fuel with
  | 0 => .error .size
  | fuel + 1 =>
    let go := fun (r : Regex) (rest : List Char) =>
      let clash := !extended && match (tokenAt ⟨extended, false⟩ rest).1 with
        | .star | .bounds => true
        | _ => false
      if clash then .error .operand
      else repetitions fuel extended { p with regex := r, rest := rest }
    match tokenAt ⟨extended, false⟩ p.rest with
    | (.star, rest) => go (.many p.regex) rest
    | (.plus, rest) => go (.both p.regex (.many p.regex)) rest
    | (.optional, rest) => go (.either p.regex .empty) rest
    | (.bounds, rest) => do
      let (least, most, rest) ← boundsAt extended rest
      go (repeated p.regex least most) rest
    | _ => .ok p
termination_by structural fuel

end

/-- The expression that a text writes, and the number of its groups. -/
def ofChars (extended : Bool) (cs : List Char) : Except Fault (Regex × Nat) :=
  (choices (4 * cs.length + 8) extended 0 0 [] cs).map fun p => (p.regex, p.groups)

/-- Whether a text has brackets that were meant to be a class: they begin and end with a colon. -/
def hasBareClass : List Char → Bool
  | [] => false
  | '\\' :: _ :: cs => hasBareClass cs
  | '[' :: ':' :: cs =>
    let inside := cs.takeWhile (· ≠ ']')
    (inside.getLast? = some ':' && !inside.contains '[' && !inside.contains '-'
      && inside.length < cs.length) || hasBareClass (':' :: cs)
  | _ :: cs => hasBareClass cs

end BuildRunner.Host.Regex
