import BuildRunner.Path

set_option autoImplicit false

/-! # Directories as a shell names them

A shell keeps the path of its working directory as a text and works out the path of another
directory from it, part by part, before it looks at any file.
-/

namespace BuildRunner.Shell.Directory

/-- Whether a path names its directory itself, so that it is not searched. -/
def isDirect (path : String) : Bool :=
  match path.toList with
  | '/' :: _ | ['.'] | '.' :: '/' :: _ | ['.', '.'] | '.' :: '.' :: '/' :: _ => true
  | _ => false

def parts (path : String) : List String :=
  ((Path.splitBy '/' [] path.toList).map String.ofList).filter (· ≠ "")

/-- The parts of a path behind other ones: two dots lead up. -/
def follow (base : List String) (names : List String) : List String :=
  names.foldl (fun base s =>
    if s = "." then base else if s = ".." then base.dropLast else base ++ [s]) base

/-- Whether a path starts with two slashes and not more, which are kept. -/
def isDouble (path : String) : Bool :=
  match path.toList with
  | '/' :: '/' :: '/' :: _ => false
  | '/' :: '/' :: _ => true
  | _ => false

/-- The path of the directory that a path names as seen from the one with the path `current`. -/
def path (current target : String) : String :=
  let absolute := target.startsWith "/"
  let base := if absolute then [] else parts current
  (if isDouble (if absolute then target else current) then "//" else "/") ++
    String.intercalate "/" (follow base (parts target))

/-- The paths at which a directory is searched, and whether the one that is found is shown. -/
def candidates (searched : Option String) (target : String) : List (String × Bool) :=
  match searched with
  | none => [(target, false)]
  | some list =>
    if isDirect target then [(target, false)]
    else (Path.splitBy ':' [] list.toList).map fun d =>
      if d.isEmpty then (target, false) else (String.ofList d ++ "/" ++ target, true)

end BuildRunner.Shell.Directory
