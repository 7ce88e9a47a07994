import BuildRunner.Host.Utility.Sed.Script

set_option autoImplicit false

/-! # Substitution in a line

The matches of a regular expression in a line, and the line in which some of them have been
replaced. An empty match directly behind another match does not count.
-/

namespace BuildRunner.Host.Sed

open Regex (Subject Found)

def Casing.apply (k : Casing) (cs : List Char) : List Char :=
  match k with
  | .same => cs
  | .upper => cs.map Char.toUpper
  | .lower => cs.map Char.toLower

def Fashion.apply (f : Fashion) (cs : List Char) : List Char :=
  if f.first = .same then f.all.apply cs
  else f.first.apply (cs.take 1) ++ f.all.apply (cs.drop 1)

/-- Part of a line. -/
def part (x : Subject) (start finish : Nat) : List Char := (x.line.extract start finish).toList

/-- The text of a group of a match; the group zero is all of it. -/
def groupText (x : Subject) (f : Found) (n : Nat) : List Char :=
  if n = 0 then part x f.start f.finish
  else
    match f.groups.lookup n with
    | some (start, finish) => part x start finish
    | none => []

/-- The text of pieces. `pending` is the case of a first letter that found no letter before. -/
def pieceText (x : Subject) (f : Found) (pending : Casing) : List Piece → List Char
  | [] => []
  | p :: ps =>
    let fashion := if p.fashion.first = .same then { p.fashion with first := pending } else p.fashion
    let front := fashion.apply p.text
    let fashion := if p.text.isEmpty then fashion else { fashion with first := .same }
    match p.group with
    | none => front ++ pieceText x f .same ps
    | some n =>
      let text := groupText x f n
      if text.isEmpty then
        front ++ pieceText x f (if p.fashion.first = .same then .same else fashion.first) ps
      else front ++ fashion.apply text ++ pieceText x f .same ps

/-- The rest of a line after replacement from a place on, and whether anything was replaced.
`count` matches stand before, and `previous` is where the last one ends. -/
def replaceFrom (s : Substitution) (r : Regex) (x : Subject) :
    Nat → Nat → Nat → Option Nat → List Char × Bool
  | 0, place, _, _ => (part x place x.line.size, false)
  | fuel + 1, place, count, previous =>
    match r.find x place with
    | none => (part x place x.line.size, false)
    | some f =>
      let before := part x place f.start
      let isEmpty := f.start = f.finish
      -- An empty find right behind the last one is passed over.
      let ignored := isEmpty && previous = some f.start
      let count := if ignored then count else count + 1
      let chosen := max s.first 1
      let replaced := !ignored && (count = chosen || (s.all && chosen ≤ count))
      let new := if replaced then pieceText x f .same s.pieces else part x f.start f.finish
      if replaced ∧ !s.all then (before ++ new ++ part x f.finish x.line.size, true)
      else
        let (next, skipped) := if isEmpty then (f.finish + 1, part x f.finish (f.finish + 1))
          else (f.finish, [])
        if x.line.size < next then (before ++ new, replaced)
        else
          let (rest, more) := replaceFrom s r x fuel next count (some f.finish)
          (before ++ new ++ skipped ++ rest, replaced || more)

/-- A line after a substitution by an expression, and whether anything was replaced. -/
def Substitution.run (s : Substitution) (e : Expression) (line : List Char) : List Char × Bool :=
  let x : Subject := ⟨line.toArray, e.anyCase, e.manyLines⟩
  replaceFrom s e.regex x (line.length + 2) 0 0 none

def Expression.matchesIn (e : Expression) (line : List Char) : Bool :=
  (e.regex.find ⟨line.toArray, e.anyCase, e.manyLines⟩ 0).isSome

end BuildRunner.Host.Sed
