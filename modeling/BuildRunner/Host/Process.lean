import BuildRunner.Host.Files
import BuildRunner.Host.Jobs
import BuildRunner.Host.Utility.Cat
import BuildRunner.Host.Utility.Sed.Call
import BuildRunner.Host.Utility.Transliterate
import BuildRunner.Host.Utility.WordCount
import BuildRunner.Shell.Grammar
import BuildRunner.Shell.Memory

set_option autoImplicit false

/-! # Processes of a host

What a process is: its place among the others, its descriptors, and the program it runs. A
program is held as what is left to do, so that a process can stand still in the middle of it.
-/

namespace BuildRunner.Host

open Shell (Access Command Document Memory Redirection Source Switches Variable Word)

/-- What an open descriptor leads to. -/
inductive Description where
  | null
  | reader (pipe : Nat)
  | writer (pipe : Nat)
  /-- The file with a number, at a position. -/
  | file (number position : Nat) (access : Access)
  | directory
deriving Repr

/-- The descriptors of a process: a number and the description it stands for. -/
abbrev Descriptors := List (Nat × Nat)

/-- Descriptors that were changed, and where that is kept which they led to before, if they led to
anything. -/
abbrev Displaced := List (Nat × Option Nat)

/-! ## Shells -/

structure Mode where
  /-- Whether the shell has nothing else to do afterwards. -/
  last : Bool := false
  /-- Whether somebody looks at the command's failure. -/
  tested : Bool := false
deriving Repr, DecidableEq

/-- Something that a shell remembers in order to give it back. -/
inductive Kept where
  | variable (name : String) (value : Option Variable)
  | switches (s : Switches)
deriving Repr

/-- What a shell gives back when a command is over. -/
structure Saved where
  displaced : Displaced := []
  /-- The variables that were changed for the command, the last one first. -/
  kept : List Kept := []
  /-- Whether variables can be made local to the command. -/
  isScope : Bool := false
  /-- The name in front of messages. -/
  command : Option String := none

/-- The parameters of a shell that belong to the function it runs. -/
structure Parameters where
  arguments : List String
  optionIndex : Nat
  optionOffset : Option Nat

/-- A redirection whose target is known. -/
inductive Target where
  | file (descriptor : Nat) (access : Access) (path : String)
  /-- Another name for a descriptor, or none for nothing. -/
  | duplicate (descriptor : Nat) (source : Option Nat)
  /-- The document with a number. -/
  | document (descriptor number : Nat)
deriving Repr

/-- Redirections on their way: those whose targets are not known, and those that have not been
performed. -/
structure Openings where
  left : List Redirection
  targets : List Target := []

/-- A simple command on its way: what of it has not been expanded, and what it has become. -/
structure Call where
  line : Nat
  mode : Mode
  words : List Word
  fields : List String := []
  openings : Openings
  given : List (String × Word)
  /-- The assignments that have been made. -/
  made : List (String × String) := []
  saved : Saved := {}
  /-- Whether the command has been written for a person who traces the shell. -/
  isTraced : Bool := false

inductive Enclosure where
  /-- A command in this shell. -/
  | here (saved : Saved)
  /-- A command in a child. -/
  | child
  /-- A command in a child that nobody waits for. -/
  | background
  /-- A command in the child itself. -/
  | inside
deriving Inhabited

/-- What words are expanded for. -/
inductive Purpose where
  | call (c : Call)
  | enclosed (line : Nat) (mode : Mode) (o : Openings) (e : Enclosure) (body : Command)
  /-- The words of a loop: those that are left, and the fields of the others. -/
  | items (name : String) (words : List Word) (fields : List String) (body : Command)
      (tested : Bool)
  | subject (w : Word) (arms : List (List Word × Command)) (mode : Mode)
  /-- The arm for a text. -/
  | arms (text : String) (arms : List (List Word × Command)) (mode : Mode)

inductive Origin where
  /-- An argument of the shell. -/
  | argument
  | text
  | file
  /-- The standard input, as far as it has arrived. -/
  | input (ended : Bool)
deriving Repr, DecidableEq

/-- One thing that is left to do for a shell. -/
inductive Frame where
  /-- The rest of a script. `ran` says whether any of it has been run. -/
  | script (source : Source) (origin : Origin) (ran tested : Bool)
  | run (c : Command) (mode : Mode)
  /-- Nothing, for as many steps. -/
  | delay (steps : Nat)
  /-- Words are expanded, with the outputs of the scripts in the next one as far as known. -/
  | expand (p : Purpose) (outputs : List String)
  /-- The output of a script is being read, newest part first. -/
  | collect (p : Purpose) (outputs : List String) (descriptor child : Nat)
      (parts : List (List UInt8))
  /-- Run if the command before it has succeeded, or failed. -/
  | onStatus (success : Bool) (c : Command) (mode : Mode)
  | invert
  /-- The end of a command: exit if it has failed, unless somebody looks at its failure. -/
  | verify (tested : Bool)
  | branch (yes no : Command) (mode : Mode)
  /-- The test of a loop has been run; the loop's status so far. -/
  | loopTest (stopsOn : Bool) (test body : Command) (tested : Bool) (result : Nat)
  /-- The body of a loop has been run. -/
  | loopBody (stopsOn : Bool) (test body : Command) (tested : Bool)
  | each (name : String) (words : List String) (body : Command) (tested : Bool)
  | restore (saved : Saved)
  /-- The end of a function: the parameters of its caller. -/
  | call (caller : Parameters)
  /-- The end of a script that was read into this shell. -/
  | sourced
  /-- The place at which an error of what is above ends. -/
  | catching
  /-- Children that are waited for; the last one's status counts. -/
  | await (children : List Nat)
  /-- Jobs that a script waits for, by their names. A signal interrupts the waiting unless it is
  over after a few more steps. -/
  | wait (names : List String) (status patience : Nat)
  /-- All jobs that a script waits for. -/
  | waitAll (patience : Nat)
  /-- A line is being read into variables; `raw` says whether backslashes stand for
  themselves. -/
  | readLine (names : List String) (raw : Bool) (line : List Char)
  /-- The end of a trap's action: the status before it. -/
  | trapped (status : Nat)
  /-- The end of the action that is run on exit. -/
  | leave (status : Nat)

structure Interpreter where
  memory : Memory
  functions : List (String × Command) := []
  aliases : List (String × String) := []
  /-- The documents of the scripts by number. -/
  documents : List (Nat × Document) := []
  nextDocument : Nat := 0
  /-- Actions by number of signal; zero stands for the exit. -/
  traps : List (Nat × String) := []
  /-- Signals that have arrived and whose actions have not been run, the latest one last. -/
  pending : List Signal := []
  /-- Signals that were ignored when the shell started. -/
  hardIgnored : List Signal := []
  jobs : Jobs := {}
  /-- The search path, and the programs that were found in it. -/
  located : String × List (String × String) := ("", [])
  /-- The path of the working directory as the shell names it. -/
  directory : String := "/"
  /-- The line of the command that was run last. -/
  line : Nat := 1
  /-- The name in front of messages. -/
  command : Option String := none
  /-- The status of the last script whose output was used. -/
  substituted : Nat := 0
  /-- How many loops there are around what the shell does, besides those on its stack. -/
  loops : Nat := 0
  /-- How many functions there are around what the shell does, besides those on its stack. -/
  calls : Nat := 0
  /-- Whether the text in front of traced commands is being expanded. -/
  isTracing : Bool := false
  stack : List Frame := []

/-! ## Programs -/

inductive Program where
  | shell (s : Interpreter)
  | sleep (moment : Nat)
  | cat (c : Cat)
  | count (c : WordCount)
  | transliterate (t : Transliterate)
  | edit (e : Sed.Editor)
  /-- An editor whose script is being read, newest part first. -/
  | gather (name : String) (args : List String) (parts : List (List UInt8))
  /-- Writes texts and exits. -/
  | report (output error : List UInt8) (status : Nat)

structure Process where
  id : Nat
  group : Nat
  parent : Nat
  /-- The directory it works in, unless that is gone. -/
  directory : Option Place
  descriptors : Descriptors
  ignored : List Signal := []
  environment : Environment := []
  /-- The permissions that new files do not get. -/
  mask : Nat := 18
  /-- The limits that were set, by their letters. -/
  limits : List (Char × String) := []
  program : Program
  ending : Option Ending := none

/-- A pipe: what has been written and not read, newest part first. -/
structure Pipe where
  parts : List (List UInt8) := []
  /-- Whether somebody outside of the host reads from it. -/
  readOutside : Bool := false

structure Machine where
  /-- Microseconds since the beginning. -/
  clock : Nat := 0
  files : Files
  pipes : Array Pipe := #[]
  descriptions : Array Description := #[]
  processes : List Process := []
  /-- The number of the next process. -/
  nextId : Nat := 100

end BuildRunner.Host
