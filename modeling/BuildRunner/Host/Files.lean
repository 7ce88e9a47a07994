import BuildRunner.Path

set_option autoImplicit false

/-! # Files of a host

A tree of directories and files, kept as the absolute paths that exist. Every path but the root
is inside a directory that exists as well.
-/

namespace BuildRunner.Host

/-- The programs that a host provides besides those in files. -/
inductive Utility where
  | shell
  | cat
  | sleep
  | sed
  | wordCount
  | transliterate
  /-- A command that a shell also knows, with its name there. -/
  | builtin (name : String)
deriving Repr, DecidableEq

/-- What a path leads to. -/
inductive Entry where
  | directory
  | file (content : List UInt8) (executable : Bool)
  | utility (u : Utility)
  /-- The file that is always empty. -/
  | null
deriving Repr

/-- Why a path cannot be used. -/
inductive FileError where
  | notFound
  | accessDenied
  | notDirectory
  | isDirectory
  /-- A file that cannot be executed as it is. -/
  | badFormat
  | badDescriptor
  | fileExists
deriving Repr, DecidableEq

def FileError.text : FileError → String
  | .notFound => "No such file or directory"
  | .accessDenied => "Permission denied"
  | .notDirectory => "Not a directory"
  | .isDirectory => "Is a directory"
  | .badFormat => "Exec format error"
  | .badDescriptor => "Bad file descriptor"
  | .fileExists => "File exists"

def FileError.number : FileError → Nat
  | .notFound => 2
  | .accessDenied => 13
  | .notDirectory => 20
  | .isDirectory => 21
  | .badFormat => 8
  | .badDescriptor => 9
  | .fileExists => 17

def FileError.message (e : FileError) : String :=
  e.text ++ " (os error " ++ toString e.number ++ ")"

/-- A place in the tree: the names from the root down to it. -/
abbrev Place := List String

def Place.path (p : Place) : String := "/" ++ String.intercalate "/" p

/-- The place that a path names as seen from a place, whatever stands there. -/
def Place.follow (p : Place) (path : String) : Place :=
  (Path.components path).foldl (fun p c =>
    match c with
    | .root => []
    | .current => p
    | .parent => p.dropLast
    | .name s => p ++ [s]) p

/-- What a file holds. A file is known by its number, so that it can be read and written by those
who have opened it after its place was given to another one. -/
structure FileBody where
  content : List UInt8 := []
  executable : Bool := false
  /-- When the content was changed last; nothing for a file on which nobody has worked. -/
  changed : Nat := 0
deriving Repr, Inhabited

/-- What stands at a place. -/
inductive Slot where
  | directory
  /-- The file with a number. -/
  | file (number : Nat)
  | utility (u : Utility)
  | null
deriving Repr, DecidableEq

structure Files where
  slots : List (Place × Slot) := []
  bodies : Array FileBody := #[]
  /-- The time at which files are changed. -/
  now : Nat := 1

namespace Files

def slot? (fs : Files) (p : Place) : Option Slot :=
  if p.isEmpty then some .directory else fs.slots.lookup p

/-- The file with a number; one that was never made is empty. -/
def body (fs : Files) (number : Nat) : FileBody := fs.bodies[number]?.getD {}

def entryOf (fs : Files) : Slot → Entry
  | .directory => .directory
  | .file n => .file (fs.body n).content (fs.body n).executable
  | .utility u => .utility u
  | .null => .null

def at? (fs : Files) (p : Place) : Option Entry := (fs.slot? p).map fs.entryOf

def isDirectory (fs : Files) (p : Place) : Bool :=
  match fs.slot? p with
  | some .directory => true
  | _ => false

/-- Whether only their owners can remove the files in a directory. -/
def isShared (p : Place) : Bool := p = ["tmp"]

/-- The place that components lead to from a place. The last component may be missing; all
others have to be directories. -/
def walk (fs : Files) (base : Place) : List Path.Component → Except FileError Place
  | [] => .ok base
  | c :: cs =>
    match fs.slot? base with
    | some .directory =>
      match c with
      | .root => walk fs [] cs
      | .current => walk fs base cs
      | .parent => walk fs base.dropLast cs
      | .name s => walk fs (base ++ [s]) cs
    | some _ => .error .notDirectory
    | none => .error .notFound

def wantsDirectory (path : String) : Bool :=
  let cs := path.toList.reverse
  cs.head? = some '/' || "./".toList.isPrefixOf cs || "../".toList.isPrefixOf cs

/-- The place of a path as seen from a directory, which may be gone. -/
def locate (fs : Files) (dir : Option Place) (path : String) : Except FileError Place :=
  if path = "" then .error .notFound
  else
    let start := if Path.isAbsolute path then some [] else dir
    match start with
    | none => .error .notFound
    | some start => do
      let p ← fs.walk start (Path.components path)
      if wantsDirectory path then
        match fs.slot? p with
        | some .directory => .ok p
        | some _ => .error .notDirectory
        | none => .error .notFound
      else .ok p

def isDirectoryAt (fs : Files) (dir : Option Place) (path : String) : Bool :=
  match fs.locate dir path with
  | .ok p => fs.isDirectory p
  | .error _ => false

def findSlot (fs : Files) (dir : Option Place) (path : String) : Except FileError Slot := do
  match fs.slot? (← fs.locate dir path) with
  | some s => .ok s
  | none => .error .notFound

def find (fs : Files) (dir : Option Place) (path : String) : Except FileError Entry := do
  return fs.entryOf (← fs.findSlot dir path)

def putSlot (fs : Files) (p : Place) (x : Slot) : Files :=
  if (fs.slots.lookup p).isSome then
    { fs with slots := fs.slots.map fun y => if y.1 = p then (p, x) else y }
  else { fs with slots := fs.slots ++ [(p, x)] }

/-- Makes a new file, which has no place yet: its number. -/
def newFile (fs : Files) (b : FileBody) : Nat × Files :=
  (fs.bodies.size, { fs with bodies := fs.bodies.push b })

/-- Puts something at a place; a file is a new one. -/
def put (fs : Files) (p : Place) (e : Entry) : Files :=
  match e with
  | .directory => fs.putSlot p .directory
  | .utility u => fs.putSlot p (.utility u)
  | .null => fs.putSlot p .null
  | .file content executable =>
    let (n, fs) := fs.newFile { content := content, executable := executable }
    fs.putSlot p (.file n)

/-- The places above a place, from the top. -/
def above (p : Place) : List Place := (List.range p.length).filterMap fun n =>
  if n = 0 then none else some (p.take n)

/-- Puts something at a place and makes the directories above it. -/
def install (fs : Files) (p : Place) (e : Entry) : Files :=
  let fs := (above p).foldl (fun fs q => if (fs.slot? q).isSome then fs else fs.put q .directory) fs
  fs.put p e

def modify (fs : Files) (number : Nat) (change : List UInt8 → List UInt8) : Files :=
  { fs with bodies := fs.bodies.modify number fun b =>
    { b with content := change b.content, changed := fs.now } }

/-- Replaces the content of the file at a place, which keeps its other properties; a file that is
missing is made. -/
def overwrite (fs : Files) (p : Place) (bytes : List UInt8) (executable : Bool) : Files :=
  match fs.slot? p with
  | some (.file n) =>
    { fs with bodies := fs.bodies.modify n fun b => ⟨bytes, b.executable || executable, fs.now⟩ }
  | _ => fs.install p (.file bytes executable)

def writeAt (fs : Files) (number position : Nat) (bytes : List UInt8) : Files :=
  fs.modify number fun old =>
    let gap := List.replicate (position - old.length) 0
    old.take position ++ gap ++ bytes ++ old.drop (position + bytes.length)

def names (fs : Files) (p : Place) : List String :=
  let inside := fs.slots.filterMap fun (q, _) =>
    if q.length = p.length + 1 ∧ q.take p.length = p then q.getLast? else none
  inside.mergeSort fun a b => a ≤ b

def content (fs : Files) (dir : Option Place) (path : String) : Except FileError (List UInt8) := do
  match ← fs.find dir path with
  | .file bytes _ => .ok bytes
  | .directory => .error .isDirectory
  | .null | .utility _ => .ok []

/-- What a path leads to that is opened for writing; a missing file is made. -/
def create (fs : Files) (dir : Option Place) (path : String) : Except FileError (Slot × Files) := do
  let p ← fs.locate dir path
  match fs.slot? p with
  | some .directory => .error .isDirectory
  | some (.utility _) => .error .accessDenied
  | some s => .ok (s, fs)
  | none =>
    match fs.slot? p.dropLast with
    | some .directory =>
      let (n, fs) := fs.newFile { changed := fs.now }
      .ok (.file n, fs.putSlot p (.file n))
    | some _ => .error .notDirectory
    | none => .error .notFound

/-- The two bytes at the start of a file that names its interpreter. -/
def scriptMark : List UInt8 := [35, 33]

/-- What a file that starts with `bytes` is made as. -/
def isScript (bytes : List UInt8) : Bool := scriptMark.isPrefixOf bytes

/-- An ordinary file; one that names its interpreter may be executed. -/
def ordinary (bytes : List UInt8) : Entry := .file bytes (isScript bytes)

/-- The files at another time. -/
def atTime (fs : Files) (moment : Nat) : Files := { fs with now := moment + 1 }

/-- The commands of a shell that are programs as well. -/
def builtinPrograms : List String := ["echo", "printf", "true", "false", "test", "[", "pwd", "kill"]

/-- The files of a host on which nobody has worked. -/
def initial : Files :=
  let programs : List (String × Utility) :=
    [("sh", .shell), ("dash", .shell), ("cat", .cat), ("sleep", .sleep), ("sed", .sed),
     ("wc", .wordCount), ("tr", .transliterate)] ++ builtinPrograms.map fun n => (n, .builtin n)
  let programsIn := fun (fs : Files) (dir : Place) =>
    programs.foldl (fun fs (n, u) => fs.install (dir ++ [n]) (.utility u)) fs
  let fs := programsIn (programsIn {} ["bin"]) ["usr", "bin"]
  let fs := (["root", "tmp"] : List String).foldl (fun fs n => fs.install [n] .directory) fs
  fs.install ["dev", "null"] .null

end Files
end BuildRunner.Host
