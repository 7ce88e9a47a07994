import BuildRunner.Host.Utility.Regex.Notation

set_option autoImplicit false

/-! # Scripts for editing streams of lines

A script is a list of commands, each of which may be restricted to some lines. Blocks and labels
are positions in the list.
-/

namespace BuildRunner.Host.Sed

open Regex (Subject)

/-! ## Lines -/

/-- A regular expression with the way it looks at lines. -/
structure Expression where
  regex : Regex
  anyCase : Bool := false
  manyLines : Bool := false
deriving Repr

/-- A regular expression as a script gives it; an empty one stands for the last one that was
used. -/
abbrev Matcher := Option Expression

/-- A choice of lines. -/
inductive Address where
  | line (n : Nat)
  /-- A line and those that follow it at a distance. -/
  | every (first distance : Nat)
  | last
  | matching (m : Matcher)
deriving Repr

inductive Reach where
  | line (n : Nat)
  | every (first distance : Nat)
  | last
  | matching (m : Matcher)
  /-- As many lines behind the first one. -/
  | more (n : Nat)
  /-- The next line whose number is a multiple. -/
  | multiple (n : Nat)
deriving Repr

/-- The lines that a command is for. -/
structure Scope where
  first : Option Address := none
  reach : Option Reach := none
  negated : Bool := false
deriving Repr

/-! ## Replacements -/

/-- How the letters of a text are changed. -/
inductive Casing where
  | same
  | upper
  | lower
deriving Repr, DecidableEq

/-- How a text is changed: its letters, and its first letter. -/
structure Fashion where
  all : Casing := .same
  first : Casing := .same
deriving Repr, DecidableEq

/-- A piece of a replacement: a text, then perhaps the text of a group. -/
structure Piece where
  text : List Char
  group : Option Nat
  fashion : Fashion
deriving Repr

structure Substitution where
  matcher : Matcher
  pieces : List Piece
  /-- The number of the first match that is replaced; zero stands for the first one as well. -/
  first : Nat := 0
  /-- Whether the matches behind it are replaced as well. -/
  all : Bool := false
  /-- Whether the line is printed if there was a match. -/
  print : Bool := false
  /-- The file to which the line is written if there was a match. -/
  file : Option String := none
deriving Repr

/-! ## Commands -/

inductive Condition where
  | always
  | ifReplaced
  | unlessReplaced
deriving Repr, DecidableEq

inductive Action where
  /-- The commands up to the end of the block are left out where the scope does not hold. -/
  | block (behind : Nat)
  | nothing
  | substitute (s : Substitution)
  | exchange (old new : List Char)
  | delete
  | deleteLine
  | print
  | printLine
  | number
  | fileName
  | next
  | appendNext
  | hold
  | appendHold
  | get
  | appendGet
  | swap
  | empty
  | list (width : Option Nat)
  | insert (text : List Char)
  | append (text : List Char)
  | change (text : List Char)
  | readFile (name : String)
  | readLine (name : String)
  | write (name : String)
  | writeLine (name : String)
  /-- Goes on at a position; without one, at the end of the script. -/
  | jump (c : Condition) (target : Option Nat)
  | quit (silent : Bool) (status : Nat)
deriving Repr

structure Command where
  scope : Scope
  action : Action
deriving Repr

structure Script where
  commands : Array Command
  /-- Whether its first line says that only explicit lines are printed. -/
  silent : Bool := false
deriving Repr

def Script.outputs (s : Script) : List String :=
  s.commands.toList.filterMap fun c =>
    match c.action with
    | .write name | .writeLine name => some name
    | .substitute s => s.file
    | _ => none

/-- Why a script cannot be used: what is said and the status of the program. -/
structure Fault where
  message : String
  status : Nat := 1
deriving Repr

end BuildRunner.Host.Sed
