import BuildRunner.Host.Bytes
import BuildRunner.Host.Files
import BuildRunner.Shell.Expansion

set_option autoImplicit false

/-! # Files that a pattern stands for

A pattern of a path is taken apart at its slashes. A part without anything active in it is taken
as it is; another one stands for the names in a directory. A name with a dot in front is only
found by a part with a dot in front.
-/

namespace BuildRunner.Host.Matching

open Shell (Pattern PatternChar)

/-- Whether a bracket is closed behind a character of its set and before the next slash. -/
def closes : List PatternChar → Bool
  | [] | [_] => false
  | x :: y :: rest => if x.1 = '/' then false else y = (']', true) || closes (y :: rest)

/-- Whether an active bracket whose rest is `cs` belongs to a set. -/
def opensSet (cs : List PatternChar) : Bool :=
  closes (if cs.head? = some ('!', true) then cs.drop 1 else cs)

/-- The next part of a pattern that has anything active in it. -/
structure Section where
  /-- What stands in front of it, up to a slash. -/
  front : List PatternChar
  part : List PatternChar
  /-- What stands behind the slash that ends it. -/
  rest : Option (List PatternChar)

/-- The next part of a pattern with anything active in it, when `front` and the beginning `part`
of a part have been read. -/
def sectionFrom (front part : List PatternChar) (isActive : Bool) :
    List PatternChar → Option Section
  | [] => if isActive then some ⟨front, part, none⟩ else none
  | x :: rest =>
    if x.1 = '/' then
      if isActive then some ⟨front, part, some rest⟩
      else sectionFrom (front ++ part ++ [x]) [] false rest
    else
      let active := x = ('*', true) || x = ('?', true) || (x = ('[', true) && opensSet rest)
      sectionFrom front (part ++ [x]) (isActive || active) rest

/-- The text of a part that is taken as it is. -/
def plain (cs : List PatternChar) : String := String.ofList (cs.map (·.1))

/-- The names in the directory at a path, as narrow texts. -/
def namesAt (fs : Files) (dir : Option Place) (path : String) : List String :=
  match fs.locate dir (widen (if path = "" then "." else path)) with
  | .error _ => []
  | .ok p => if fs.isDirectory p then "." :: ".." :: (fs.names p).map narrowText else []

/-- The paths that the rest of a pattern stands for behind a path. -/
def pathsFrom (fs : Files) (dir : Option Place) : Nat → String → List PatternChar → List String
  | 0, _, _ => []
  | fuel + 1, path, cs =>
    match sectionFrom [] [] false cs with
    | none =>
      let whole := path ++ plain cs
      if path ≠ "" ∧ ((fs.find dir (widen whole)).toOption).isSome then [whole] else []
    | some s =>
      let path := path ++ plain s.front
      let pattern := Pattern.ofChars s.part
      let hidden := s.part.head?.any (·.1 = '.')
      let found := (namesAt fs dir path).filter fun name =>
        (hidden || !name.startsWith ".") && pattern.accepts name.toList
      match s.rest with
      | none => found.map (path ++ ·)
      | some rest => found.flatMap fun name => pathsFrom fs dir fuel (path ++ name ++ "/") rest

/-- The paths that a pattern stands for, in order. -/
def paths (fs : Files) (dir : Option Place) : Shell.Matching := fun cs =>
  (pathsFrom fs dir (cs.length + 1) "" (Shell.withoutEscapes cs)).mergeSort fun a b => a ≤ b

end BuildRunner.Host.Matching
