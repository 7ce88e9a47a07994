import BuildRunner.Json.StringLexeme
import BuildRunner.Json.NumberLexeme

set_option autoImplicit false

/-! # The lexemes of a JSON text

A text is cut into lexemes, each with the places before and behind it. The list ends with
the text or at the first character that starts no lexeme; then its last entry is `broken`
and says what a reader that wants a value finds wrong there. A string or number that is
well formed but has no value keeps its fault as its value.
-/

namespace BuildRunner.Json

inductive LexemeKind where
  | openBrace
  | closeBrace
  | openBracket
  | closeBracket
  | comma
  | colon
  | null
  | bool (b : Bool)
  | string (s : Except Fault String)
  | number (n : Except Fault Number)
  | broken (first : Char) (fault : Fault)

structure Lexeme where
  kind : LexemeKind
  start : Place
  stop : Place

/-- Whether a character may stand between lexemes. -/
def isSpace (c : Char) : Bool := c = ' ' || c = '\n' || c = '\t' || c = '\r'

/-- The fault of a text that starts with the first letter of a word but not with the rest
of it, `p` being the place behind that letter. -/
def wordFault (p : Place) : List Char → List Char → Fault
  | [], _ => ⟨.expectedWord, p⟩
  | _ :: _, [] => ⟨.endInValue, p⟩
  | w :: ws, c :: cs => if w = c then wordFault (p.after c) ws cs else ⟨.expectedWord, p.inside c⟩

abbrev Cut (n : Nat) := Lexeme × { rest : List Char // rest.length < n }

def cutChar (kind : LexemeKind) (p : Place) (c : Char) (cs : List Char) : Cut (cs.length + 1) :=
  (⟨kind, p, p.after c⟩, ⟨cs, Nat.lt_succ_self cs.length⟩)

/-- The entry that ends the list at a text that is no lexeme. -/
def cutBroken (p : Place) (c : Char) (fault : Fault) (n : Nat) : Cut (n + 1) :=
  (⟨.broken c fault, p, p⟩, ⟨[], by simp⟩)

/-- The lexeme of a word whose first letter is `c` and whose other letters are `word`. -/
def cutWord (kind : LexemeKind) (word : List Char) (p : Place) (c : Char) (cs : List Char) :
    Cut (cs.length + 1) :=
  if word.isPrefixOf cs then
    (⟨kind, p, p.shift (1 + word.length)⟩,
      ⟨cs.drop word.length, by simp only [List.length_drop]; omega⟩)
  else cutBroken p c (wordFault (p.after c) word cs) cs.length

/-- The lexeme of a string, `cs` being the text behind its first quote. -/
def cutString (p : Place) (cs : List Char) : Cut (cs.length + 1) :=
  let inner := p.shift 1
  match close inner cs with
  | some (q, rest) =>
    (⟨.string ((read inner cs).map String.ofList), p, q⟩, ⟨rest.val, Nat.lt_succ_of_lt rest.2⟩)
  | none =>
    match read inner cs with
    | .error fault => cutBroken p '"' fault cs.length
    | .ok _ => cutBroken p '"' ⟨.endInString, inner⟩ cs.length

def cutNumber (p : Place) (c : Char) (cs : List Char) : Cut (cs.length + 1) :=
  match scanNumeral p (c :: cs) with
  | .error fault => cutBroken p c fault cs.length
  | .ok (x, n) =>
    (⟨.number (x.valueAt p n), p, p.shift n⟩,
      ⟨cs.drop (n - 1), by simp only [List.length_drop]; omega⟩)

/-- The lexeme that starts with `c`. -/
def cut (p : Place) (c : Char) (cs : List Char) : Cut (cs.length + 1) :=
  match c with
  | '{' => cutChar .openBrace p c cs
  | '}' => cutChar .closeBrace p c cs
  | '[' => cutChar .openBracket p c cs
  | ']' => cutChar .closeBracket p c cs
  | ',' => cutChar .comma p c cs
  | ':' => cutChar .colon p c cs
  | 'n' => cutWord .null ['u', 'l', 'l'] p c cs
  | 't' => cutWord (.bool true) ['r', 'u', 'e'] p c cs
  | 'f' => cutWord (.bool false) ['a', 'l', 's', 'e'] p c cs
  | '"' => cutString p cs
  | c =>
    if c = '-' ∨ c.isDigit then cutNumber p c cs
    else cutBroken p c ⟨.expectedValue, p.inside c⟩ cs.length

def lexemesFrom (p : Place) (cs : List Char) : List Lexeme × Place :=
  match cs with
  | [] => ([], p)
  | c :: cs =>
    if isSpace c then lexemesFrom (p.after c) cs
    else
      let (x, rest) := cut p c cs
      match x.kind with
      | .broken _ _ => ([x], p)
      | _ =>
        let (xs, q) := lexemesFrom x.stop rest.val
        (x :: xs, q)
termination_by cs.length
decreasing_by
  · simp
  · exact rest.2

/-- The lexemes of a text and the place at its end. -/
def lexemes (text : String) : List Lexeme × Place := lexemesFrom .start text.toList

end BuildRunner.Json
