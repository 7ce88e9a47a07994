set_option autoImplicit false

/-! # The command line

Arguments are read from left to right, first at the level of the whole program and then, behind
the name of a subcommand, at the level of that subcommand. Some options may be given at either
level; the inner one wins.

The subcommands that pass arguments on take everything from their first argument on as it
stands, options and dashes included. Before it, what looks like an option is one if the
subcommand knows it, and otherwise is the first argument itself. A double dash ends the options
and is dropped.
-/

namespace BuildRunner.CommandLine

/-! ## What can be asked for -/

/-- What the program is asked to do. -/
inductive Work where
  /-- Run a subcommand of the tool once. -/
  | task (command : String) (args : List String)
  /-- Check the package once, or only its library. -/
  | check (library : Bool)
  /-- Read commands from the standard input. -/
  | interactive
deriving Repr, DecidableEq

/-- A command line that asks for work. -/
structure Asked where
  /-- The directory to work in, if it is not the current one. -/
  directory : Option String := none
  /-- The file with the settings, if they are not searched. -/
  config : Option String := none
  work : Work
deriving Repr, DecidableEq

/-- Why a command line asks for no work. -/
inductive Stop where
  | help
  | version
  /-- It is not well formed. -/
  | refused
deriving Repr, DecidableEq

def versionText : String := "cargo-lens 0.1.0"

def usageText : String := "Usage: cargo-lens [OPTIONS] <COMMAND>"

/-! ## The grammar -/

inductive Flag where
  | verbose
  | directory
  | config
  | library
  | help
  | version
deriving Repr, DecidableEq

def Flag.hasValue : Flag → Bool
  | .directory | .config => true
  | _ => false

/-- What a level takes besides options. -/
inductive Place where
  /-- One argument, which does not look like an option. -/
  | one
  /-- All arguments from the first one on, whatever they look like. -/
  | rest
deriving Repr, DecidableEq

/-- One level of the grammar. -/
structure Level where
  /-- The options with a single letter. -/
  letters : List (Char × Flag)
  /-- The options with a name. -/
  names : List (String × Flag)
  /-- What it takes besides options, in order. -/
  places : List Place := []
deriving Repr

def subcommands : List String :=
  ["build", "check", "clippy", "run", "test", "exec", "interactive", "help"]

def program : Level where
  letters := [('v', .verbose), ('C', .directory), ('h', .help), ('V', .version)]
  names := [("verbose", .verbose), ("dir", .directory), ("config", .config), ("help", .help),
    ("version", .version)]

def subcommand (name : String) : Level where
  letters := [('C', .directory), ('h', .help)]
  names := [("dir", .directory), ("config", .config), ("help", .help)] ++
    if name = "check" then [("lib", .library)] else []
  places :=
    if name = "exec" then [.one, .rest]
    else if name = "check" ∨ name = "interactive" then []
    else [.rest]

/-! ## Reading one level -/

/-- What has been read at a level. -/
structure Draft where
  directory : Option String := none
  config : Option String := none
  library : Bool := false
  /-- The option that was read last, with its value if that has been read. It is looked at when
  something follows. -/
  pending : Option (Flag × Option String) := none
  /-- What was read besides options, in order. -/
  arguments : List String := []
deriving Repr

namespace Draft

/-- Sets an option with a value; it may be given once, and its value is not empty. -/
def set (d : Draft) (f : Flag) (value : String) : Except Stop Draft :=
  if value = "" then .error .refused
  else
    match f, d.directory, d.config with
    | .directory, none, _ => .ok { d with directory := some value }
    | .config, _, none => .ok { d with config := some value }
    | _, _, _ => .error .refused

/-- Looks at the option that was read last. -/
def resolve (d : Draft) : Except Stop Draft :=
  match d.pending with
  | none => .ok d
  | some (_, none) => .error .refused
  | some (f, some value) => { d with pending := none }.set f value

/-- Reads an option without a value. -/
def raise (d : Draft) (f : Flag) : Except Stop Draft := do
  let d ← d.resolve
  match f with
  | .help => throw .help
  | .version => throw .version
  | .library => if d.library then throw .refused else return { d with library := true }
  | _ => return d

/-- Reads an option with a value that is attached to it, or that is still to come. -/
def expect (d : Draft) (f : Flag) (attached : Option String) : Except Stop Draft := do
  let d ← d.resolve
  match attached with
  | some value => d.set f value
  | none => return { d with pending := some (f, none) }

def isExpecting (d : Draft) : Bool :=
  match d.pending with
  | some (_, none) => true
  | _ => false

/-- Takes an argument as the value of the option that was read last. -/
def supply (d : Draft) (value : String) : Draft :=
  { d with pending := d.pending.map fun p => (p.1, some value) }

end Draft

/-- What comes of an argument that looks like an option. -/
inductive Reading where
  /-- It was one. -/
  | read (d : Draft)
  /-- It is taken as an argument after all. -/
  | argument

/-- The value in front of which an equals sign may stand. -/
def attachedValue (cs : List Char) : Option String :=
  match cs with
  | [] => none
  | '=' :: rest => some (String.ofList rest)
  | cs => some (String.ofList cs)

/-- Reads options of a single letter each, of which the last one may have a value. -/
def readLetters (level : Level) (d : Draft) : List Char → Except Stop Draft
  | [] => .ok d
  | c :: cs =>
    match level.letters.lookup c with
    | none => .error .refused
    | some f =>
      if f.hasValue then d.expect f (attachedValue cs)
      else do readLetters level (← d.raise f) cs

def splitName (cs : List Char) : String × Option String :=
  let name := String.ofList (cs.takeWhile (· ≠ '='))
  match cs.dropWhile (· ≠ '=') with
  | [] => (name, none)
  | _ :: value => (name, some (String.ofList value))

def readName (level : Level) (next : Option Place) (d : Draft) (cs : List Char) :
    Except Stop Reading :=
  let (name, value) := splitName cs
  match level.names.lookup name with
  | some f =>
    if f.hasValue then (d.expect f value).map .read
    else if value.isSome then .error .refused
    else (d.raise f).map .read
  | none => if next = some .rest then .ok .argument else .error .refused

def readOption (level : Level) (next : Option Place) (d : Draft) (arg : String) :
    Except Stop Reading :=
  match arg.toList with
  | '-' :: '-' :: cs => readName level next d cs
  | '-' :: c :: cs =>
    if next = some .rest ∧ (c :: cs).any fun x => (level.letters.lookup x).isNone then .ok .argument
    else (readLetters level d (c :: cs)).map .read
  | _ => .ok .argument

/-- Takes an argument at the next place. -/
def place (places : List Place) (d : Draft) (arg : String) : Except Stop (Draft × List Place) := do
  match places with
  | [] => throw .refused
  | p :: ps =>
    let d ← d.resolve
    return ({ d with arguments := d.arguments ++ [arg] }, if p = .rest then places else ps)

def placeAll (places : List Place) (d : Draft) : List String → Except Stop Draft
  | [] => .ok d
  | arg :: args => do
    let (d, places) ← place places d arg
    placeAll places d args

/-- What is read at a level: the draft, and the subcommand that was named with the arguments
behind it. -/
abbrev LevelResult := Except Stop (Draft × Option (String × List String))

def readLevel (level : Level) (named : List String) (places : List Place) (d : Draft) :
    List String → LevelResult
  | [] => .ok (d, none)
  | arg :: args => do
    if named.contains arg ∧ !d.isExpecting then return (d, some (arg, args))
    else if arg = "--" then return (← placeAll places d args, none)
    else
      match ← readOption level places.head? d arg with
      | .read d => readLevel level named places d args
      | .argument =>
        if d.isExpecting then readLevel level named places (d.supply arg) args
        else
          let (d, left) ← place places d arg
          if places.head? = some .rest then return (← placeAll left d args, none)
          else readLevel level named left d args

/-! ## Reading all of it -/

/-- What comes of the names behind `help`: each has to be a subcommand of the one before. -/
def helpFor : List String → Stop
  | [] => .help
  | [name] => if subcommands.contains name then .help else .refused
  | _ => .refused

def workOf (name : String) (d : Draft) : Except Stop Work :=
  if name = "check" then .ok (.check d.library)
  else if name = "interactive" then .ok .interactive
  else if name = "exec" then
    match d.arguments with
    | [] => .error .refused
    | command :: args => .ok (.task command args)
  else .ok (.task name d.arguments)

def parse (args : List String) : Except Stop Asked := do
  let (outer, found) ← readLevel program subcommands [] {} args
  match found with
  | none => throw .refused
  | some (name, rest) =>
    if name = "help" then throw (helpFor rest)
    else
      let level := subcommand name
      let (inner, _) ← readLevel level [] level.places {} rest
      let inner ← inner.resolve
      let work ← workOf name inner
      let outer ← outer.resolve
      return {
        directory := inner.directory.or outer.directory
        config := inner.config.or outer.config
        work := work }

end BuildRunner.CommandLine
