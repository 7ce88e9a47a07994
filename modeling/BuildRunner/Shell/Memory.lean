import BuildRunner.Config.Basic
import BuildRunner.Shell.Numeral
import BuildRunner.Shell.Syntax

set_option autoImplicit false

/-! # The memory of a shell

Variables, arguments and the other parameters of a shell.
-/

namespace BuildRunner.Shell

/-! ## Switches -/

inductive Switch where
  /-- Exit when a command fails. -/
  | exitOnFailure
  /-- Leave patterns of file names alone. -/
  | keepPatterns
  | ignoreEnd
  | interactive
  | monitor
  | readOnly
  | fromInput
  /-- Write commands before they are run. -/
  | trace
  /-- Write lines as they are read. -/
  | verbose
  | vi
  | emacs
  /-- Do not overwrite files. -/
  | protectFiles
  /-- Give all variables to programs. -/
  | exportAll
  | notify
  /-- Refuse variables that have no value. -/
  | refuseUnset
  | privileged
  | noLog
  | debug
deriving Repr, DecidableEq

/-- The switches with their letters and names, in the order in which they are listed. -/
def Switch.table : List (Switch × Option Char × String) :=
  [(exitOnFailure, some 'e', "errexit"), (keepPatterns, some 'f', "noglob"),
   (ignoreEnd, some 'I', "ignoreeof"), (interactive, some 'i', "interactive"),
   (monitor, some 'm', "monitor"), (readOnly, some 'n', "noexec"), (fromInput, some 's', "stdin"),
   (trace, some 'x', "xtrace"), (verbose, some 'v', "verbose"), (vi, some 'V', "vi"),
   (emacs, some 'E', "emacs"), (protectFiles, some 'C', "noclobber"),
   (exportAll, some 'a', "allexport"), (notify, some 'b', "notify"),
   (refuseUnset, some 'u', "nounset"), (privileged, some 'p', "privileged"),
   (noLog, none, "nolog"), (debug, none, "debug")]

def Switch.ofLetter? (c : Char) : Option Switch :=
  (table.find? fun x => x.2.1 = some c).map (·.1)

def Switch.named? (name : String) : Option Switch := (table.find? fun x => x.2.2 = name).map (·.1)

/-- The switches that are on. -/
structure Switches where
  on : List Switch := []
deriving Repr, DecidableEq

def Switches.has (s : Switches) (x : Switch) : Bool := s.on.contains x

def Switches.set (s : Switches) (x : Switch) (on : Bool) : Switches :=
  ⟨(if on then [x] else []) ++ s.on.filter (· ≠ x)⟩

def Switches.letters (s : Switches) : String :=
  String.ofList ((Switch.table.reverse.filter fun x => s.has x.1).filterMap (·.2.1))

/-! ## Variables -/

structure Variable where
  value : Option String
  /-- Whether programs get it. -/
  exported : Bool := false
  readOnly : Bool := false
deriving Repr, DecidableEq

structure Memory where
  bindings : List (String × Variable) := []
  /-- The arguments, without the name of the script. -/
  arguments : List String := []
  /-- The name of the script. -/
  name : String := "sh"
  /-- The status of the last command. -/
  status : Nat := 0
  /-- The number of the process of the whole script. -/
  root : Nat := 0
  /-- The number of the last process in the background. -/
  lastJob : Option Nat := none
  switches : Switches := {}
  /-- The number of the argument at which the search for options goes on. -/
  optionIndex : Nat := 1
  /-- The place inside of the argument before, if that has more options. -/
  optionOffset : Option Nat := none
deriving Repr

namespace Memory

def find? (m : Memory) (name : String) : Option Variable := m.bindings.lookup name

def has (m : Memory) (x : Switch) : Bool := m.switches.has x

def put (m : Memory) (name : String) (v : Variable) : Memory :=
  if (m.find? name).isSome then
    { m with bindings := m.bindings.map fun x => if x.1 = name then (name, v) else x }
  else { m with bindings := m.bindings ++ [(name, v)] }

def set (m : Memory) (name value : String) : Memory :=
  let all := m.has .exportAll
  match m.find? name with
  | some v => m.put name { v with value := some value, exported := v.exported || all }
  | none => m.put name { value := some value, exported := all }

/-- Marks a variable as one that programs get. -/
def share (m : Memory) (name : String) : Memory :=
  match m.find? name with
  | some v => m.put name { v with exported := true }
  | none => m.put name { value := none, exported := true }

/-- Marks a variable as one that cannot be changed. -/
def protect (m : Memory) (name : String) : Memory :=
  match m.find? name with
  | some v => m.put name { v with readOnly := true }
  | none => m.put name { value := none, readOnly := true }

/-- The variables that every shell has; without a value they stay as they are otherwise. -/
def lasting : List String := ["ATTY", "IFS", "MAIL", "MAILPATH", "PATH", "PS1", "PS2", "PS4"]

def unset (m : Memory) (name : String) : Memory :=
  match m.find? name with
  | none => m
  | some v =>
    if lasting.contains name then m.put name { v with value := none }
    else { m with bindings := m.bindings.filter fun x => x.1 ≠ name }

def isProtected (m : Memory) (name : String) : Bool := (m.find? name).any (·.readOnly)

/-- Gives a variable a value as a script does, or says why that cannot be done. A number given to
the index of options is where the search for options goes on. -/
def assign (m : Memory) (name value : String) : Except String Memory :=
  if !isName name.toList then .error (name ++ ": bad variable name")
  else if m.isProtected name then .error (name ++ ": is read only")
  else if name = "OPTIND" then
    return { m.set name value with optionIndex := max (← Numeral.count value) 1, optionOffset := none }
  else .ok (m.set name value)

/-- Removes a variable as a script does, or says why that cannot be done. -/
def forget (m : Memory) (name : String) : Except String Memory :=
  if !isName name.toList then .error (name ++ ": bad variable name")
  else if m.isProtected name then .error (name ++ ": is read only")
  else if name = "OPTIND" then .error (Numeral.fault "")
  else .ok (m.unset name)

def get? (m : Memory) (name : String) : Option String := (m.find? name).bind (·.value)

def environment (m : Memory) : Environment :=
  m.bindings.filterMap fun (name, v) =>
    if v.exported then v.value.map fun value => (name, value) else none

/-- The value of a parameter that stands for one text. -/
def parameter? (m : Memory) (name : String) : Option String :=
  if name = "#" then some (toString m.arguments.length)
  else if name = "?" then some (toString m.status)
  else if name = "$" then some (toString m.root)
  else if name = "!" then m.lastJob.map toString
  else if name = "-" then some m.switches.letters
  else if name.toList.all Char.isDigit ∧ name ≠ "" then
    match Numeral.digits 10 name.toList with
    | 0 => some m.name
    | n + 1 => m.arguments[n]?
  else m.get? name

/-- The characters at which fields are split. -/
def separators (m : Memory) : List Char :=
  match m.get? "IFS" with
  | some s => s.toList
  | none => [' ', '\t', '\n']

/-- What stands between arguments that are joined into one text. -/
def joint (m : Memory) : String :=
  match m.get? "IFS" with
  | none => " "
  | some s => String.ofList (s.toList.take 1)

end Memory
end BuildRunner.Shell
