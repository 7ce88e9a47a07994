import BuildRunner.Host.Builtin.Variable

set_option autoImplicit false

/-! # What names of commands stand for

A name stands for a word of the grammar, an alias, a function, a command of the shell or a
program. Programs are searched in the directories of a path; a shell remembers those it has found
as long as the path stays the same.
-/

namespace BuildRunner.Host

/-- The commands of a shell that are not special. -/
def plainBuiltins : List String :=
  ["[", "alias", "bg", "cd", "chdir", "command", "echo", "false", "fg", "getopts", "hash", "jobs",
   "kill", "printf", "pwd", "read", "test", "true", "type", "ulimit", "umask", "unalias", "wait"]

/-- Whether a command of a shell is special: its assignments stay, and its errors end the
shell. -/
def isSpecialBuiltin (name : String) : Bool := Shell.specialBuiltins.contains name

def isBuiltin (name : String) : Bool := isSpecialBuiltin name || plainBuiltins.contains name

/-- Whether arguments of a command that look like assignments are expanded like assignments. -/
def takesAssignments (name : String) : Bool :=
  ["alias", "export", "local", "readonly"].contains name

def standardPath : String := "/usr/local/sbin:/usr/local/bin:/usr/sbin:/usr/bin:/sbin:/bin"

/-- How many rows the table of programs has. -/
def programRows : Nat := 31

def startingReason : FileError → String
  | .notFound | .notDirectory => "not found"
  | e => e.text

namespace Actor

def searchPath (a : Actor) : String := (a.memory.get? "PATH").getD ""

def found (a : Actor) : List (String × String) :=
  if a.shell.located.1 = a.searchPath then a.shell.located.2 else []

def withFound (a : Actor) (xs : List (String × String)) : Actor :=
  { a with shell := { a.shell with located := (a.searchPath, xs) } }

/-- The path of the program with a name, which has no slash. What is found is remembered. -/
def locate (a : Actor) (name : String) : Except FileError (String × Actor) :=
  match a.found.lookup name with
  | some path => .ok (path, a)
  | none =>
    match a.host.search a.self.directory a.searchPath name with
    | .ok path => .ok (path, a.withFound (a.found ++ [(name, path)]))
    | .error e => .error e

/-- Looks for a program whose name is plain, before it is needed. -/
def locateSoon (a : Actor) (name : String) : Actor :=
  if Shell.isName name.toList ∧ !isBuiltin name ∧ (a.shell.functions.lookup name).isNone then
    match a.locate name with
    | .ok (_, a) => a
    | .error _ => a
  else a

/-- What a name stands for, in words or by a text that leads to it, and the status. -/
def description (a : Actor) (standard verbose : Bool) (name : String) : String × Nat × Actor :=
  let tell := fun (a : Actor) (words brief : String) =>
    ((if verbose then name ++ " is " ++ words else brief) ++ "\n", 0, a)
  let missing := (if verbose then name ++ ": not found\n" else "", 127, a)
  if Shell.reservedWords.contains name then tell a "a shell keyword" name
  else
    match a.shell.aliases.lookup name with
    | some value =>
      if verbose then tell a ("an alias for " ++ value) "" else ("alias " ++ aliasLine (name, value), 0, a)
    | none =>
      if (a.shell.functions.lookup name).isSome then tell a "a shell function" name
      else if isSpecialBuiltin name then tell a "a special shell builtin" name
      else if isBuiltin name then tell a "a shell builtin" name
      else if name.toList.contains '/' then
        match a.host.files.find a.self.directory (widen name) with
        | .ok _ => tell a name name
        | .error _ => missing
      else if standard then
        match a.host.search a.self.directory standardPath name with
        | .ok path => tell a path path
        | .error _ => missing
      else
        match a.found.lookup name with
        | some path => tell a ("a tracked alias for " ++ path) path
        | none =>
          match a.locate name with
          | .ok (path, a) => tell a path path
          | .error _ => missing

def describeAll (a : Actor) (names : List String) : Actor :=
  let (text, status, a) := names.foldl (fun (text, status, (a : Actor)) name =>
    let (s, n, a) := a.description false true name
    (text ++ s, max status n, a)) ("", 0, a)
  a.say text status

def describe (a : Actor) (args : List String) : Actor :=
  a.withFlags { plain := "pvV" } args fun flags =>
    match flags.left with
    | [] => a.done 0
    | name :: _ =>
      if flags.has 'v' ∨ flags.has 'V' then
        let (text, status, a) := a.description (flags.has 'p') (flags.has 'V') name
        a.say text status
      else a.done 0

/-- Shows, forgets or finds programs. -/
def remembered (a : Actor) (args : List String) : Actor :=
  a.withFlags { plain := "r" } args fun flags =>
    if flags.has 'r' then (a.withFound []).done 0
    else if flags.left.isEmpty then
      a.say (String.join ((byRow programRows a.found).map fun x => x.2 ++ "\n")) 0
    else
      flags.left.foldl (fun (a : Actor) name =>
        let forgotten := a.withFound (a.found.filter fun x => x.1 ≠ name)
        if isBuiltin name ∨ (a.shell.functions.lookup name).isSome ∨ name.toList.contains '/' then a
        else
          match forgotten.locate name with
          | .ok (_, a) => a
          | .error e => (forgotten.complain (name ++ ": " ++ startingReason e)).done 1) (a.done 0)

end Actor
end BuildRunner.Host
