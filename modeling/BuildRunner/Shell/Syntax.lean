set_option autoImplicit false

/-! # Shell commands

What a script is made of. A text inside the shell is a list of bytes, each held as the
character with its number, so that lengths and patterns count bytes.
-/

namespace BuildRunner.Shell

/-- What is done with the value of a parameter. `orNull` says whether an empty value counts as
none, `longest` whether as much as possible is removed. -/
inductive Use where
  | plain
  | length
  | orElse (orNull : Bool)
  | orAssign (orNull : Bool)
  | orFail (orNull : Bool)
  | instead (orNull : Bool)
  | dropEnd (longest : Bool)
  | dropStart (longest : Bool)
  /-- Something that is not known. -/
  | unknown
deriving Repr, DecidableEq

inductive Access where
  | read
  | write
  /-- Writing, also where existing files are protected. -/
  | overwrite
  | append
  | both
deriving Repr, DecidableEq

mutual

inductive Part where
  /-- Characters of the script that are not quoted, unless the word itself stands in quotes. -/
  | text (s : String)
  /-- Characters that stand for themselves. -/
  | literal (s : String)
  /-- What stands between quotes. -/
  | quotes (inside : List Part)
  | parameter (name : String) (use : Use) (operand : List Part)
  | arithmetic (expression : List Part)
  /-- The output of a script. -/
  | output (script : Command)

inductive Redirection where
  | file (descriptor : Nat) (access : Access) (target : List Part)
  /-- Another name for the descriptor that the target names, or none for a dash. -/
  | duplicate (descriptor : Nat) (target : List Part)
  /-- The document with a number. -/
  | document (descriptor number : Nat)

/-- A command. The numbers of lines serve messages. -/
inductive Command where
  | simple (line : Nat) (assignments : List (String × List Part)) (words : List (List Part))
      (redirections : List Redirection)
  | pipeline (stages : List Command)
  | negation (c : Command)
  /-- The second is run if the first succeeds. -/
  | both (a b : Command)
  /-- The second is run if the first fails. -/
  | either (a b : Command)
  | sequence (a b : Command)
  | background (c : Command) (redirections : List Redirection)
  | subshell (line : Nat) (c : Command) (redirections : List Redirection)
  | redirected (line : Nat) (c : Command) (redirections : List Redirection)
  | conditional (test yes no : Command)
  /-- The body is run as long as the test's success differs from `stopsOn`. -/
  | loop (stopsOn : Bool) (test body : Command)
  /-- The body is run for each word. -/
  | each (line : Nat) (name : String) (words : List (List Part)) (body : Command)
  | choice (line : Nat) (subject : List Part) (arms : List (List (List Part) × Command))
  | definition (name : String) (body : Command)
  | nothing

end

instance : Inhabited Command := ⟨.nothing⟩

/-- A word before expansion. -/
abbrev Word := List Part

/-- A document that stands in a script: its text, and whether it is expanded. -/
structure Document where
  body : Word
  isExpanded : Bool

/-- The text of a word without quotes and expansions. -/
def Word.plain? : Word → Option String
  | [] => some ""
  | .text s :: rest => (Word.plain? rest).map (s ++ ·)
  | _ => none

/-! ## Names -/

def isNameStart (c : Char) : Bool := c.isAlpha || c = '_'

def isNameChar (c : Char) : Bool := c.isAlphanum || c = '_'

def isName (cs : List Char) : Bool :=
  match cs with
  | [] => false
  | c :: rest => isNameStart c && rest.all isNameChar

def Word.assignment? (w : Word) : Option (String × Word) :=
  match w with
  | .text s :: rest =>
    let cs := s.toList
    let name := cs.takeWhile isNameChar
    match cs.drop name.length with
    | '=' :: value =>
      if isName name then
        some (String.ofList name,
          (if value.isEmpty then [] else [.text (String.ofList value)]) ++ rest)
      else none
    | _ => none
  | _ => none

/-- The text between quotes as it was written, without the quotes. -/
def Word.unquoted : Word → String
  | [] => ""
  | .text s :: rest | .literal s :: rest => s ++ Word.unquoted rest
  | .quotes inside :: rest => Word.unquoted inside ++ Word.unquoted rest
  | _ :: rest => Word.unquoted rest

end BuildRunner.Shell
