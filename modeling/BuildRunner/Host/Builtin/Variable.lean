import BuildRunner.Host.Actor
import BuildRunner.Host.Start
import BuildRunner.Shell.Builtin.Flags
import BuildRunner.Shell.Builtin.Getopts
import BuildRunner.Shell.Quotation

set_option autoImplicit false

/-! # Commands on variables

The commands of a shell that change variables, arguments, switches and aliases, or list them.
Names are handled one after another, so that the first error leaves the names before it changed.
-/

namespace BuildRunner.Host

open Shell (Flags Memory Variable quoted)

def assigned (arg : String) : String × Option String :=
  let cs := arg.toList
  match cs.dropWhile (· ≠ '=') with
  | _ :: value => (String.ofList (cs.takeWhile (· ≠ '=')), some (String.ofList value))
  | [] => (arg, none)

/-- The variables that satisfy a predicate, as a script can write them. -/
def variableListing (m : Memory) (front : String) (shown : Variable → Bool) : String :=
  let chosen := (m.bindings.filter fun v => shown v.2).mergeSort fun v w => v.1 ≤ w.1
  String.join (chosen.map fun (n, v) =>
    front ++ n ++ (match v.value with
      | some s => "=" ++ quoted s
      | none => "") ++ "\n")

/-- The number of the row of a table with `size` rows in which a name stands. -/
def rowOf (size : Nat) (name : String) : Nat :=
  let codes := name.toList.map Char.toNat
  codes.foldl (· + ·) (codes.headD 0 * 16) % size

/-- Names with something in the order of the rows in which they stand. -/
def byRow {α : Type} (size : Nat) (xs : List (String × α)) : List (String × α) :=
  xs.mergeSort fun x y => rowOf size x.1 ≤ rowOf size y.1

def aliasRows : Nat := 39

/-- An alias as a script can write it. -/
def aliasLine (x : String × String) : String := x.1 ++ "=" ++ quoted x.2 ++ "\n"

namespace Actor

/-- Changes the memory, or reports why that cannot be done. -/
def attempt (a : Actor) (change : Memory → Except String Memory) (next : Actor → Actor) : Actor :=
  match change a.memory with
  | .ok m => next (a.withMemory m)
  | .error reason => a.refuse reason

/-- Goes on with the options of a command, or reports what is wrong with them. -/
def withFlags (a : Actor) (known : Flags.Known) (args : List String) (next : Flags → Actor) :
    Actor :=
  match Flags.read known args with
  | .ok flags => next flags
  | .error reason => a.refuse reason

/-! ## Marks -/

def markAll (a : Actor) (change : Memory → String → Memory) : List String → Actor
  | [] => a.done 0
  | arg :: rest =>
    let (name, value) := assigned arg
    let assign := fun (m : Memory) =>
      match value with
      | some v => m.assign name v
      | none =>
        if Shell.isName name.toList then .ok m else .error (name ++ ": bad variable name")
    a.attempt assign fun a => (a.withMemory (change a.memory name)).markAll change rest

/-- Marks variables, or lists those that are marked. -/
def mark (a : Actor) (name : String) (isMarked : Variable → Bool)
    (change : Memory → String → Memory) (args : List String) : Actor :=
  a.withFlags { plain := "p" } args fun flags =>
    if flags.has 'p' ∨ flags.left.isEmpty then
      a.say (variableListing a.memory (name ++ " ") isMarked) 0
    else a.markAll change flags.left

def unsetVariables (a : Actor) : List String → Actor
  | [] => a.done 0
  | arg :: rest => a.attempt (·.forget (assigned arg).1) fun a => a.unsetVariables rest

def unset (a : Actor) (args : List String) : Actor :=
  a.withFlags { plain := "vf" } args fun flags =>
    if (flags.given.getLast?.map (·.1)) = some 'f' then
      let kept := a.shell.functions.filter fun f => !flags.left.contains f.1
      { a with shell := { a.shell with functions := kept } }.done 0
    else a.unsetVariables flags.left

/-! ## Local variables -/

/-- Remembers something for the end of the command to which variables are local, if there is
one. -/
def remember (k : Kept) : List Frame → Option (List Frame)
  | [] => none
  | .restore saved :: rest =>
    if saved.isScope then some (.restore { saved with kept := k :: saved.kept } :: rest)
    else (remember k rest).map (.restore saved :: ·)
  | f :: rest => (remember k rest).map (f :: ·)

/-- Makes variables local. A name that is none is refused at once without a value, and at the end
of the function with one. -/
def localise (a : Actor) : List String → Actor
  | [] => if a.shell.stack.any isScope then a.done 0 else a.refuse "not in a function"
  | arg :: rest =>
    let (name, value) := assigned arg
    let kept : Kept :=
      if arg = "-" then .switches a.memory.switches else .variable name (a.memory.find? name)
    match remember kept a.shell.stack with
    | none => a.refuse "not in a function"
    | some stack =>
      let a := a.withStack stack
      if arg = "-" then a.localise rest
      else
        let assign := fun (m : Memory) =>
          match value with
          | some v => if Shell.isName name.toList then m.assign name v else .ok m
          | none =>
            if Shell.isName name.toList then .ok m else .error (name ++ ": bad variable name")
        a.attempt assign fun a => a.localise rest

/-! ## Switches and arguments -/

def withArguments (a : Actor) (args : List String) : Actor :=
  a.withParameters ⟨args, 1, none⟩

def setSwitches (a : Actor) (args : List String) : Actor :=
  if args.isEmpty then a.say (variableListing a.memory "" fun v => v.value.isSome) 0
  else
    let read := ShellArgs.read { switches := a.memory.switches } false (args.length + 1) args
    let wanted := read.switches
    let a := a.withMemory { a.memory with switches := wanted.set .monitor false }
    match read.fault with
    | some reason => a.refuse reason
    | none =>
      let a := if wanted.has .monitor then
          a.complain "can't access tty; job control turned off"
        else a
      let a := if read.left.isEmpty ∧ !read.endsBare then a else a.withArguments read.left
      a.say read.listing 0

def shift (a : Actor) (args : List String) : Actor :=
  match Shell.Numeral.count (args.headD "1") with
  | .error reason => a.refuse reason
  | .ok n =>
    if n > a.memory.arguments.length then a.refuse "can't shift that many"
    else (a.withArguments (a.memory.arguments.drop n)).done 0

def nextOption (a : Actor) (args : List String) : Actor :=
  match args with
  | options :: name :: given =>
    let searched := if given.isEmpty then a.memory.arguments else given
    let isOut := a.memory.optionIndex > searched.length + 1
    let found := Shell.Getopts.next options searched (if isOut then 1 else a.memory.optionIndex)
      (if isOut then none else a.memory.optionOffset)
    let a := (found.complaint.map fun text => (a.write 2 text).1).getD a
    a.attempt (found.store name) fun a => a.done (if found.isOver then 1 else 0)
  | _ => a.refuse "Usage: getopts optstring var [arg...]"

/-! ## Aliases -/

def withAliases (a : Actor) (xs : List (String × String)) : Actor :=
  { a with shell := { a.shell with aliases := xs } }

/-- Adds an alias, which takes the place of an older one. -/
def putAlias (a : Actor) (name value : String) : Actor :=
  let old := a.shell.aliases
  a.withAliases (if (old.lookup name).isSome then
      old.map fun x => if x.1 = name then (name, value) else x
    else old ++ [(name, value)])

def defineAlias (a : Actor) (args : List String) : Actor :=
  if args.isEmpty then a.say (String.join ((byRow aliasRows a.shell.aliases).map aliasLine)) 0
  else
    let (a, shown, status) := args.foldl (fun (a, shown, status) arg =>
      let cs := arg.toList
      let name := cs.take 1 ++ (cs.drop 1).takeWhile (· ≠ '=')
      match cs.drop name.length with
      | _ :: value => (a.putAlias (String.ofList name) (String.ofList value), shown, status)
      | [] =>
        match a.shell.aliases.lookup arg with
        | some value => (a, shown ++ aliasLine (arg, value), status)
        | none => ((a.write 2 ("alias: " ++ arg ++ " not found\n")).1, shown, 1)) (a, "", 0)
    a.say shown status

def unalias (a : Actor) (args : List String) : Actor :=
  a.withFlags { plain := "a" } args fun flags =>
    if flags.has 'a' then (a.withAliases []).done 0
    else
      flags.left.foldl (fun a name =>
        if (a.shell.aliases.lookup name).isSome then
          a.withAliases (a.shell.aliases.filter fun x => x.1 ≠ name)
        else (a.write 2 ("unalias: " ++ name ++ " not found\n")).1.done 1) (a.done 0)

/-! ## Input -/

def readLine (a : Actor) (args : List String) : Actor :=
  a.withFlags { plain := "r", valued := "p" } args fun flags =>
    if flags.left.isEmpty then a.refuse "arg count"
    else a.push [.readLine flags.left (flags.has 'r') []]

end Actor
end BuildRunner.Host
