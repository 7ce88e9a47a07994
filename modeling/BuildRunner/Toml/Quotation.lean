import BuildRunner.Toml.Number

set_option autoImplicit false

/-! # The quoted strings of a TOML text

Strings stand between quotes, where a backslash starts an escape, or between apostrophes, where
it does not. Either sign written three times allows line feeds; then one or two of the signs
may also stand inside, even directly before the end. Control characters other than the tab do
not stand in strings.

Line ends are single line feeds here: `Document` replaces the other kind before anything else.
-/

namespace BuildRunner.Toml

/-- Whether a character may stand in strings and comments. -/
def isPlain (c : Char) : Bool := c = '\t' || (0x20 ≤ c.toNat && c.toNat ≠ 0x7F)

/-- Whether a character is a space or a tab. -/
def isSpace (c : Char) : Bool := c = ' ' || c = '\t'

/-- Where a reader of a string with escapes stands. -/
inductive Mode where
  /-- Behind so many quotes. -/
  | text (quotes : Nat)
  /-- Behind a backslash. -/
  | escape
  /-- Among the digits of a character's number, of which `left` are missing. -/
  | digits (left value : Nat)
  /-- Behind a backslash and spaces, before the line feed that has to follow. -/
  | lineEnd
  /-- Behind a backslash at the end of a line, where spaces and line feeds are passed over. -/
  | folded
deriving Repr, DecidableEq

/-- The character that stands for itself behind a backslash or is named by a letter there. -/
def escaped? : Char → Option Char
  | 'b' => some (Char.ofNat 8)
  | 't' => some '\t'
  | 'n' => some '\n'
  | 'f' => some (Char.ofNat 12)
  | 'r' => some '\r'
  | '"' => some '"'
  | '\\' => some '\\'
  | _ => none

/-- The character with a number, if there is one. -/
def scalar? (n : Nat) : Option Char := if n.isValidChar then some (Char.ofNat n) else none

/-- What a reader finds in one character: the text it adds and where it stands then. -/
def escapeStep (folding : Bool) (c : Char) : Option (List Char × Mode) :=
  if c = 'u' then some ([], .digits 4 0)
  else if c = 'U' then some ([], .digits 8 0)
  else if folding && c = '\n' then some ([], .folded)
  else if folding && isSpace c then some ([], .lineEnd)
  else (escaped? c).map fun e => ([e], .text 0)

/-- One more digit of a character's number. -/
def digitStep (left value : Nat) (c : Char) : Option (List Char × Mode) := do
  let v := value * 16 + (← hexValue c)
  match left with
  | 0 => none
  | 1 => (scalar? v).map fun x => ([x], .text 0)
  | n + 1 => some ([], .digits n v)

/-- A character that is no quote, outside of escapes. -/
def textStep (lines : Bool) (c : Char) : Option (List Char × Mode) :=
  if c = '\\' then some ([], .escape)
  else if isPlain c || (lines && c = '\n') then some ([c], .text 0)
  else none

/-- The string between quotes from `cs` on, and the text behind it. -/
def basicFrom (mode : Mode) : List Char → Option (List Char × List Char)
  | [] => none
  | c :: cs =>
    let go := fun (step : Option (List Char × Mode)) => do
      let (added, mode) ← step
      let (found, rest) ← basicFrom mode cs
      return (added ++ found, rest)
    match mode with
    | .text _ => if c = '"' then some ([], cs) else go (textStep false c)
    | .escape => go (escapeStep false c)
    | .digits left value => go (digitStep left value c)
    | _ => none

def quotes (sign : Char) (n : Nat) : List Char := List.replicate n sign

/-- The string between three quotes from `cs` on, and the text behind it. -/
def basicLinesFrom (mode : Mode) (cs : List Char) : Option (List Char × List Char) :=
  match cs with
  | [] =>
    match mode with
    | .text n => if 3 ≤ n then some (quotes '"' (n - 3), []) else none
    | _ => none
  | c :: rest =>
    let go := fun (before : List Char) (step : Option (List Char × Mode)) => do
      let (added, mode) ← step
      let (found, rest) ← basicLinesFrom mode rest
      return (before ++ added ++ found, rest)
    match mode with
    | .text n =>
      -- Up to two quotes may stand before the three that close.
      if c = '"' ∧ n < 5 then go [] (some ([], .text (n + 1)))
      else if 3 ≤ n then some (quotes '"' (n - 3), cs)
      else go (quotes '"' n) (textStep true c)
    | .escape => go [] (escapeStep true c)
    | .digits left value => go [] (digitStep left value c)
    | .lineEnd =>
      if isSpace c then go [] (some ([], .lineEnd))
      else if c = '\n' then go [] (some ([], .folded))
      else none
    | .folded =>
      if isSpace c ∨ c = '\n' then go [] (some ([], .folded))
      else if c = '"' then go [] (some ([], .text 1))
      else go [] (textStep true c)

/-- The string between apostrophes from `cs` on, and the text behind it. -/
def literalFrom : List Char → Option (List Char × List Char)
  | [] => none
  | c :: cs =>
    if c = '\'' then some ([], cs)
    else if isPlain c then (literalFrom cs).map fun (found, rest) => (c :: found, rest)
    else none

/-- The string between three apostrophes from `cs` on, of which `n` have just been read, and the
text behind it. -/
def literalLinesFrom (n : Nat) (cs : List Char) : Option (List Char × List Char) :=
  match cs with
  | [] => if 3 ≤ n then some (quotes '\'' (n - 3), []) else none
  | c :: rest =>
    if c = '\'' ∧ n < 5 then literalLinesFrom (n + 1) rest
    else if 3 ≤ n then some (quotes '\'' (n - 3), cs)
    else if isPlain c ∨ c = '\n' then
      (literalLinesFrom 0 rest).map fun (found, rest) => (quotes '\'' n ++ c :: found, rest)
    else none

/-- The text without a line feed directly at its start. -/
def skipLineFeed : List Char → List Char
  | '\n' :: cs => cs
  | cs => cs

/-- The string at the front, if a quote or an apostrophe stands there, and the text behind it. -/
def quoted? (cs : List Char) : Option (String × List Char) :=
  let found :=
    match cs with
    | '"' :: '"' :: '"' :: rest => basicLinesFrom (.text 0) (skipLineFeed rest)
    | '"' :: rest => basicFrom (.text 0) rest
    | '\'' :: '\'' :: '\'' :: rest => literalLinesFrom 0 (skipLineFeed rest)
    | '\'' :: rest => literalFrom rest
    | _ => none
  found.map fun (s, rest) => (String.ofList s, rest)

/-- The string on one line at the front, and the text behind it. -/
def quotedOnLine? (cs : List Char) : Option (String × List Char) :=
  let found :=
    match cs with
    | '"' :: rest => basicFrom (.text 0) rest
    | '\'' :: rest => literalFrom rest
    | _ => none
  found.map fun (s, rest) => (String.ofList s, rest)

end BuildRunner.Toml
