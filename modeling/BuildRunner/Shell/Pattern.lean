import BuildRunner.Text.CharSet

set_option autoImplicit false

/-! # Patterns

Patterns of file names, of choices and of removals. A character of a pattern is active unless it
was quoted; among active characters a star stands for any text, a question mark for any
character, and brackets for one character of a set.
-/

namespace BuildRunner.Shell

inductive Atom where
  | exactly (c : Char)
  | anyChar
  | anyText
  | oneOf (negated : Bool) (sets : List CharSet)
deriving Repr, DecidableEq

abbrev Pattern := List Atom

/-- A character of a pattern, and whether it is active. -/
abbrev PatternChar := Char × Bool

/-- The characters of a pattern in which an active backslash makes the next one inactive. -/
def withoutEscapes : List PatternChar → List PatternChar
  | ('\\', true) :: (c, _) :: rest => (c, false) :: withoutEscapes rest
  | ('\\', true) :: [] => [('\\', false)]
  | x :: rest => x :: withoutEscapes rest
  | [] => []

/-- The class from behind its opening bracket on, and what follows its closing one. -/
def classAt? (cs : List PatternChar) : Option (CharSet × List PatternChar) :=
  match cs with
  | (':', true) :: rest =>
    let name := rest.takeWhile fun x => x.2 && x.1.isAlpha
    match CharSet.named? (String.ofList (name.map (·.1))), rest.drop name.length with
    | some s, (':', true) :: (']', true) :: behind => some (s, behind)
    | _, _ => none
  | _ => none

/-- The sets between brackets from behind the opening one on, and what follows the closing one.
`first` says whether a bracket here is a member. -/
def setsFrom (first : Bool) : Nat → List PatternChar → Option (List CharSet × List PatternChar)
  | 0, _ => none
  | _, [] => none
  | fuel + 1, x :: rest =>
    let more := fun (s : CharSet) (rest : List PatternChar) =>
      (setsFrom false fuel rest).map fun (ss, r) => (s :: ss, r)
    if x = (']', true) ∧ !first then some ([], rest)
    else
      match (if x = ('[', true) then classAt? rest else none) with
      | some (s, rest) => more s rest
      | none =>
        match rest with
        | ('-', true) :: y :: behind =>
          if y = (']', true) then more (.range x.1 x.1) rest else more (.range x.1 y.1) behind
        | _ => more (.range x.1 x.1) rest

/-- The atom between brackets from behind the opening one on, and what follows. -/
def bracketAt (cs : List PatternChar) : Option (Atom × List PatternChar) :=
  let negated := cs.head? = some ('!', true)
  let cs := if negated then cs.drop 1 else cs
  (setsFrom true (cs.length + 1) cs).map fun (ss, rest) => (.oneOf negated ss, rest)

/-- The pattern that characters stand for. -/
def patternFrom : Nat → List PatternChar → Pattern
  | 0, _ | _, [] => []
  | fuel + 1, (c, active) :: rest =>
    if !active then .exactly c :: patternFrom fuel rest
    else if c = '*' then .anyText :: patternFrom fuel rest
    else if c = '?' then .anyChar :: patternFrom fuel rest
    else if c = '[' then
      match bracketAt rest with
      | some (a, rest) => a :: patternFrom fuel rest
      | none => .exactly c :: patternFrom fuel rest
    else .exactly c :: patternFrom fuel rest

def Pattern.ofChars (cs : List PatternChar) : Pattern :=
  patternFrom (cs.length + 1) (withoutEscapes cs)

def Pattern.isActive (p : Pattern) : Bool :=
  p.any fun
    | .exactly _ => false
    | _ => true

/-- Whether a predicate holds of some end of a text. -/
def anyEnd (f : List Char → Bool) : List Char → Bool
  | [] => f []
  | c :: cs => f (c :: cs) || anyEnd f cs

def Pattern.accepts : Pattern → List Char → Bool
  | [], cs => cs.isEmpty
  | .anyText :: p, cs => anyEnd (Pattern.accepts p) cs
  | .exactly d :: p, c :: cs => c = d && Pattern.accepts p cs
  | .anyChar :: p, _ :: cs => Pattern.accepts p cs
  | .oneOf negated ss :: p, c :: cs => (ss.any (·.contains c) != negated) && Pattern.accepts p cs
  | _ :: _, [] => false

end BuildRunner.Shell
