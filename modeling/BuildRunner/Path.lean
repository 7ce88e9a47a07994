set_option autoImplicit false

/-! # Paths

A path is a text, kept as it was spelled. Two spellings name the same place when they have the same
`components`: repeated slashes, a slash at the end and dots inside do not count, while a
leading dot, `..` and case do. Paths are ordered by their components, so a directory comes
directly before what is in it.
-/

namespace BuildRunner.Path

/-- One step of a path. -/
inductive Component where
  | root
  | current
  | parent
  | name (s : String)
deriving Repr, DecidableEq

/-- The rank of a kind of component; names come last. -/
def Component.rank : Component → Nat
  | .root => 0
  | .current => 1
  | .parent => 2
  | .name _ => 3

/-- Components are ordered by kind, names among themselves by their characters. -/
def Component.compare : Component → Component → Ordering
  | .name a, .name b => Ord.compare a b
  | a, b => Ord.compare a.rank b.rank

/-- The parts of `cs` between separators, when the characters of `current` stand before them. -/
def splitBy (separator : Char) (current : List Char) : List Char → List (List Char)
  | [] => [current]
  | c :: cs =>
    if c = separator then current :: splitBy separator [] cs
    else splitBy separator (current ++ [c]) cs

def parts (p : String) : List String := (splitBy '/' [] p.toList).map String.ofList

/-- A part after the first one: nothing and a dot do not count. -/
def inner? (part : String) : Option Component :=
  if part = "" ∨ part = "." then none
  else if part = ".." then some .parent
  else some (.name part)

def isAbsolute (p : String) : Bool := p.toList.head? = some '/'

def components (p : String) : List Component :=
  if isAbsolute p then .root :: (parts p).filterMap inner?
  else
    match parts p with
    | "." :: rest => .current :: rest.filterMap inner?
    | all => all.filterMap inner?

/-- The order of lists of components: the first difference decides, and a shorter one comes
before its extensions. -/
def compareComponents : List Component → List Component → Ordering
  | [], [] => .eq
  | [], _ :: _ => .lt
  | _ :: _, [] => .gt
  | a :: as, b :: bs => (a.compare b).then (compareComponents as bs)

def compare (p q : String) : Ordering := compareComponents (components p) (components q)

/-- `file` as seen from `dir`: an absolute file stands for itself, any other is appended
after one slash. -/
def join (dir file : String) : String :=
  if isAbsolute file then file
  else if dir = "" ∨ dir.toList.getLast? = some '/' then dir ++ file
  else dir ++ "/" ++ file

end BuildRunner.Path
