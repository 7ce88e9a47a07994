import BuildRunner.Text.CharSet

set_option autoImplicit false

/-! # Regular expressions

Regular expressions and what they match. Of all matches the leftmost counts, and of those the
longest. How the match is divided among the parts of the expression follows preferences: the
left side of a choice comes first, and a repetition takes as much as it can. `ends` lists where
a match may end, in the order of preference; `captures` divides a match whose end is known.

An expression with references to its own groups cannot be treated like this, because where it
matches depends on what the groups hold. For such an expression `runs` lists the matches together
with their groups.
-/

namespace BuildRunner.Host

/-- A condition on a place between two characters. -/
inductive Anchor where
  | lineStart
  | lineEnd
  | textStart
  | textEnd
  | wordStart
  | wordEnd
  /-- The start or the end of a word. -/
  | wordEdge
  | noWordEdge
deriving Repr, DecidableEq

inductive Regex where
  | empty
  | exactly (c : Char)
  | anyChar
  | oneOf (negated : Bool) (sets : List CharSet)
  | anchor (a : Anchor)
  | both (a b : Regex)
  | either (a b : Regex)
  | many (a : Regex)
  /-- A part that is remembered by its number. -/
  | group (n : Nat) (a : Regex)
  /-- The text of a group. -/
  | again (n : Nat)
deriving Repr

namespace Regex

/-- What an expression is matched against. -/
structure Subject where
  line : Array Char
  /-- Whether upper and lower case are the same. -/
  anyCase : Bool := false
  /-- Whether line feeds separate lines, which a dot and a negated set do not cross. -/
  manyLines : Bool := false

/-- The groups that have been found: their numbers and where they start and end. -/
abbrev Groups := List (Nat × Nat × Nat)

/-! ## Places and characters -/

def isWordChar (c : Char) : Bool := c.isAlphanum || c = '_'

def wordBefore (x : Subject) (i : Nat) : Bool :=
  match i with
  | 0 => false
  | n + 1 => (x.line[n]?).any isWordChar

def wordAfter (x : Subject) (i : Nat) : Bool := (x.line[i]?).any isWordChar

def Anchor.holds (a : Anchor) (x : Subject) (i : Nat) : Bool :=
  match a with
  | .textStart => i = 0
  | .textEnd => i = x.line.size
  | .lineStart =>
    i = 0 || (x.manyLines && match i with
      | 0 => false
      | n + 1 => x.line[n]? = some '\n')
  | .lineEnd => i = x.line.size || (x.manyLines && x.line[i]? = some '\n')
  | .wordStart => !wordBefore x i && wordAfter x i
  | .wordEnd => wordBefore x i && !wordAfter x i
  | .wordEdge => wordBefore x i != wordAfter x i
  | .noWordEdge => wordBefore x i == wordAfter x i

/-- Whether two characters are the same for a subject. -/
def same (x : Subject) (c d : Char) : Bool := c = d || (x.anyCase && c.toLower = d.toLower)

/-- Whether sets contain a character, as a subject sees it. -/
def anySet (x : Subject) (sets : List CharSet) (c : Char) : Bool :=
  sets.any fun s => s.contains c || (x.anyCase && (s.contains c.toLower || s.contains c.toUpper))

def accepts (x : Subject) (r : Regex) (c : Char) : Bool :=
  match r with
  | .exactly d => same x c d
  | .anyChar => !(x.manyLines && c = '\n')
  | .oneOf negated sets =>
    (anySet x sets c != negated) && !(negated && x.manyLines && c = '\n')
  | _ => false

def isSingle : Regex → Bool
  | .exactly _ | .anyChar | .oneOf .. => true
  | _ => false

/-! ## Ends of matches -/

/-- `xs` and the members of `ys` that are not in it. -/
def merge (xs ys : List Nat) : List Nat := xs ++ ys.filter fun y => !xs.contains y

/-- The number of characters from a place on for which an expression for one character stands,
up to `fuel`. -/
def runLength (x : Subject) (r : Regex) (i : Nat) : Nat → Nat
  | 0 => 0
  | fuel + 1 => if (x.line[i]?).any (accepts x r) then runLength x r (i + 1) fuel + 1 else 0

/-- The places that repeated steps lead to from `i`, the farthest first, and the places that have
been visited, to which there is no second visit. -/
def reachable (step : Nat → List Nat) : Nat → List Nat → Nat → List Nat × List Nat
  | 0, visited, _ => ([], visited)
  | fuel + 1, visited, i =>
    let (found, visited) := (step i).foldl (fun (found, visited) k =>
      if k ≤ i ∨ visited.contains k then (found, visited)
      else
        let (more, visited) := reachable step fuel visited k
        (found ++ more, visited)) ([], i :: visited)
    (found ++ [i], visited)

/-- Where a match of an expression without references that starts at `i` may end, in the order of
preference. -/
def ends (x : Subject) : Regex → Nat → List Nat
  | .empty, i => [i]
  | .exactly c, i => if (x.line[i]?).any (accepts x (.exactly c)) then [i + 1] else []
  | .anyChar, i => if (x.line[i]?).any (accepts x .anyChar) then [i + 1] else []
  | .oneOf n s, i => if (x.line[i]?).any (accepts x (.oneOf n s)) then [i + 1] else []
  | .anchor a, i => if Anchor.holds a x i then [i] else []
  | .both a b, i => (ends x a i).foldl (fun found k => merge found (ends x b k)) []
  | .either a b, i => merge (ends x a i) (ends x b i)
  | .many a, i =>
    if a.isSingle then
      ((List.range (runLength x a i x.line.size + 1)).map fun n => i + n).reverse
    else (reachable (ends x a) (x.line.size + 1) [] i).1
  | .group _ a, i => ends x a i
  | .again _, _ => []

def repeatCaptures (step : Nat → List Nat) (inside : Nat → Nat → Groups → Groups) :
    Nat → Nat → Nat → Groups → Groups
  | 0, _, _, g => g
  | fuel + 1, i, j, g =>
    if j ≤ i then g
    else
      let leadsOn := fun k =>
        i < k && ((reachable step (fuel + 1) [] k).1).contains j
      match (step i).find? leadsOn with
      | some k => repeatCaptures step inside fuel k j (inside i k g)
      | none => g

def captures (x : Subject) : Regex → Nat → Nat → Groups → Groups
  | .both a b, i, j, g =>
    match (ends x a i).find? fun k => (ends x b k).contains j with
    | some k => captures x b k j (captures x a i k g)
    | none => g
  | .either a b, i, j, g =>
    if (ends x a i).contains j then captures x a i j g else captures x b i j g
  | .many a, i, j, g =>
    if a.isSingle then g
    else repeatCaptures (ends x a) (captures x a) (x.line.size + 1) i j g
  | .group n a, i, j, g => (n, i, j) :: (captures x a i j g).filter (·.1 ≠ n)
  | _, _, _, g => g

/-! ## References -/

def hasReference : Regex → Bool
  | .again _ => true
  | .both a b | .either a b => a.hasReference || b.hasReference
  | .many a | .group _ a => a.hasReference
  | _ => false

/-- A place and the groups that have been found on the way. -/
abbrev Run := Nat × Groups

def mergeRuns (xs ys : List Run) : List Run := xs ++ ys.filter fun y => !xs.contains y

/-- The runs that repeated steps lead to, those with most steps first. -/
def repeatRuns (step : Run → List Run) : Nat → Run → List Run
  | 0, _ => []
  | fuel + 1, s =>
    ((step s).foldl (fun found t =>
      if t.1 ≤ s.1 then found else mergeRuns found (repeatRuns step fuel t)) []) ++ [s]

/-- The runs of an expression from a place and its groups on, in the order of preference. -/
def runs (x : Subject) : Regex → Run → List Run
  | .both a b, s => (runs x a s).foldl (fun found t => mergeRuns found (runs x b t)) []
  | .either a b, s => mergeRuns (runs x a s) (runs x b s)
  | .many a, s => repeatRuns (runs x a) (x.line.size + 1) s
  | .group n a, s =>
    (runs x a s).map fun (j, g) => (j, (n, s.1, j) :: g.filter (·.1 ≠ n))
  | .again n, (i, g) =>
    match g.lookup n with
    | none => []
    | some (start, finish) =>
      let length := finish - start
      let fits := i + length ≤ x.line.size && (List.range length).all fun k =>
        match x.line[start + k]?, x.line[i + k]? with
        | some c, some d => same x c d
        | _, _ => false
      if fits then [(i + length, g)] else []
  | r, (i, g) => (ends x r i).map fun j => (j, g)

/-! ## Matches -/

/-- A match: where it starts and ends, and its groups. -/
structure Found where
  start : Nat
  finish : Nat
  groups : Groups

def farthest (places : List Nat) : Option Nat := places.max?

/-- The longest match that starts at a place. -/
def matchAt (r : Regex) (x : Subject) (i : Nat) : Option Found :=
  if r.hasReference then
    let found := runs x r (i, [])
    match farthest (found.map (·.1)) with
    | none => none
    | some j => (found.find? fun s => s.1 = j).map fun s => ⟨i, j, s.2⟩
  else (farthest (ends x r i)).map fun j => ⟨i, j, captures x r i j []⟩

/-- The leftmost match that starts at `i` or behind it, within `fuel` places. -/
def findFrom (r : Regex) (x : Subject) (i : Nat) : Nat → Option Found
  | 0 => none
  | fuel + 1 =>
    match matchAt r x i with
    | some f => some f
    | none => findFrom r x (i + 1) fuel

def find (r : Regex) (x : Subject) (i : Nat) : Option Found :=
  findFrom r x i (x.line.size + 1 - i)

end Regex
end BuildRunner.Host
