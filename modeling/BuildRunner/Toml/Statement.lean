import BuildRunner.Toml.Quotation
import BuildRunner.Toml.Table

set_option autoImplicit false

/-! # The statements of a TOML text

A text is a list of headers and assignments, each on a line of its own, with comments and empty
lines between them. Values may be nested in arrays and in tables between braces, and keys may
have several parts, but neither without limit.
-/

namespace BuildRunner.Toml

inductive Statement where
  /-- A header of one table. -/
  | header (path : List String)
  /-- A header shared by tables. -/
  | sharedHeader (path : List String)
  | assignment (path : List String) (v : Toml)

/-! ## Blanks -/

def skipSpaces (cs : List Char) : List Char := cs.dropWhile isSpace

/-- The text behind a comment, if one stands at the front. -/
def skipComment : List Char → List Char
  | '#' :: cs => cs.dropWhile isPlain
  | cs => cs

/-- The rest of a line that holds nothing more than a comment. -/
def endOfLine (cs : List Char) : Option (List Char) :=
  match skipComment (skipSpaces cs) with
  | [] => some []
  | '\n' :: rest => some rest
  | _ => none

/-- The text behind spaces, comments and line feeds, where a comment has to end with its line. -/
def skipLines : Nat → List Char → Option (List Char)
  | 0, cs => some cs
  | fuel + 1, cs =>
    match skipSpaces cs with
    | '\n' :: rest => skipLines fuel rest
    | '#' :: rest =>
      match rest.dropWhile isPlain with
      | '\n' :: rest => skipLines fuel rest
      | _ => none
    | rest => some rest

/-- The text behind all spaces, comments and line feeds. -/
def skipBlanks (cs : List Char) : Option (List Char) := skipLines (cs.length + 1) cs

def skipChar (c : Char) : List Char → Option (List Char)
  | d :: cs => if d = c then some cs else none
  | [] => none

/-! ## Keys -/

/-- No key has so many parts, and no value is nested so deeply. -/
def depthLimit : Nat := 80

/-- Whether a character may stand in a key without quotes. -/
def isBare (c : Char) : Bool := c.isAlphanum || c = '_' || c = '-'

def keyPart (cs : List Char) : Option (String × List Char) :=
  match cs with
  | '"' :: _ | '\'' :: _ => quotedOnLine? cs
  | _ =>
    match cs.takeWhile isBare with
    | [] => none
    | found => some (String.ofList found, cs.dropWhile isBare)

/-- The parts of a key, at most `most` of them, with the spaces around them. -/
def keyParts (most : Nat) (cs : List Char) : Option (List String × List Char) :=
  match most with
  | 0 => none
  | most + 1 => do
    let (part, rest) ← keyPart (skipSpaces cs)
    match skipSpaces rest with
    | '.' :: rest =>
      let (parts, rest) ← keyParts most rest
      return (part :: parts, rest)
    | rest => return ([part], rest)

def key (cs : List Char) : Option (List String × List Char) := keyParts (depthLimit - 1) cs

/-! ## Values -/

/-- Whether a character may stand in a number, a moment or a word. -/
def isWordChar (c : Char) : Bool :=
  c.isAlphanum || c = '_' || c = '-' || c = '+' || c = '.' || c = ':'

def word? (cs : List Char) : Option Toml :=
  if cs = "true".toList then some (.boolean true)
  else if cs = "false".toList then some (.boolean false)
  else
    match Moment.ofChars? cs with
    | some m => some (.moment m)
    | none =>
      if isFloat cs then some (.float (String.ofList cs))
      else (integer? cs).map .integer

/-- A value without quotes and brackets. A date may be followed by a space and a time. -/
def wordValue (cs : List Char) : Option (Toml × List Char) :=
  let found := cs.takeWhile isWordChar
  let rest := cs.dropWhile isWordChar
  match readDate found, rest with
  | some (_, []), ' ' :: more =>
    match more.takeWhile isWordChar with
    | [] => (word? found).map fun v => (v, rest)
    | time => (word? (found ++ ' ' :: time)).map fun v => (v, more.dropWhile isWordChar)
  | _, _ => (word? found).map fun v => (v, rest)

/-- The items of an array from behind its bracket or a comma on, and the text behind the array. -/
def arrayItems (item : List Char → Option (Toml × List Char)) : Nat → List Char → Option (List Toml × List Char)
  | 0, _ => none
  | fuel + 1, cs => do
    match ← skipBlanks cs with
    | ']' :: rest => return ([], rest)
    | cs =>
      let (v, rest) ← item cs
      match ← skipBlanks rest with
      | ']' :: rest => return ([v], rest)
      | ',' :: rest =>
        let (vs, rest) ← arrayItems item fuel rest
        return (v :: vs, rest)
      | _ => none

/-- The assignments between braces from one of them on, and the text behind the brace. -/
def inlineAssignments (item : List Char → Option (Toml × List Char)) :
    Nat → List Char → Option (List (List String × Toml) × List Char)
  | 0, _ => none
  | fuel + 1, cs => do
    let (path, rest) ← key cs
    let rest ← skipChar '=' rest
    let (v, rest) ← item (skipSpaces rest)
    match skipSpaces rest with
    | '\x7d' :: rest => return ([(path, v)], rest)
    | ',' :: rest =>
      let (more, rest) ← inlineAssignments item fuel rest
      return ((path, v) :: more, rest)
    | _ => none

/-- A value that may hold others, nested at most `depth` deep. -/
def value (depth : Nat) (cs : List Char) : Option (Toml × List Char) :=
  match cs with
  | '"' :: _ | '\'' :: _ => (quoted? cs).map fun (s, rest) => (.string s, rest)
  | '[' :: rest =>
    match depth with
    | 0 => none
    | depth + 1 => (arrayItems (value depth) (rest.length + 1) rest).map fun (vs, rest) =>
        (.array vs, rest)
  | '\x7b' :: rest =>
    match depth with
    | 0 => none
    | depth + 1 =>
      match skipSpaces rest with
      | '\x7d' :: rest => some (.table [], rest)
      | rest => do
        let (assignments, rest) ← inlineAssignments (value depth) (rest.length + 1) rest
        return (← tableOf? assignments, rest)
  | _ => wordValue cs

/-! ## Lines -/

/-- The path of a header up to its closing brackets. -/
def headerPath (closing : List Char) (cs : List Char) : Option (List String × List Char) := do
  let (path, rest) ← key cs
  let rest ← closing.foldlM (fun rest c => skipChar c rest) rest
  return (path, ← endOfLine rest)

/-- The statement at the front, and the text behind its line. -/
def statement (cs : List Char) : Option (Statement × List Char) :=
  match cs with
  | '[' :: '[' :: rest =>
    (headerPath [']', ']'] rest).map fun (path, rest) => (.sharedHeader path, rest)
  | '[' :: rest => (headerPath [']'] rest).map fun (path, rest) => (.header path, rest)
  | _ => do
    let (path, rest) ← key cs
    let rest ← skipChar '=' rest
    let (v, rest) ← value (depthLimit - 1) (skipSpaces rest)
    return (.assignment path v, ← endOfLine rest)

/-- The statements of a text of at most `fuel` lines. -/
def statementsFrom : Nat → List Char → Option (List Statement)
  | 0, _ => none
  | fuel + 1, cs =>
    match skipSpaces cs with
    | [] => some []
    | '\n' :: rest => statementsFrom fuel rest
    | '#' :: rest => (endOfLine ('#' :: rest)).bind (statementsFrom fuel)
    | cs => do
      let (s, rest) ← statement cs
      return s :: (← statementsFrom fuel rest)

def statements (cs : List Char) : Option (List Statement) := statementsFrom (cs.length + 1) cs

end BuildRunner.Toml
