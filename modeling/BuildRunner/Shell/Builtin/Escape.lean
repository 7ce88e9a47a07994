import BuildRunner.Shell.Numeral

set_option autoImplicit false

/-! # Escapes in output

The escapes that the commands which print texts understand. An octal number has up to three
digits; in arguments a zero may stand in front of them, and an escape may stop all output.
-/

namespace BuildRunner.Shell.Escape

open Numeral (isOctal)

def octal (ds : List Char) : Char :=
  Char.ofNat (Numeral.digits 8 ds % 256)

/-- The character that a letter behind a backslash names. -/
def named? : Char → Option Char
  | 'a' => some (Char.ofNat 7)
  | 'b' => some (Char.ofNat 8)
  | 'e' => some (Char.ofNat 27)
  | 'f' => some (Char.ofNat 12)
  | 'n' => some '\n'
  | 'r' => some '\r'
  | 't' => some '\t'
  | 'v' => some (Char.ofNat 11)
  | '\\' => some '\\'
  | _ => none

inductive Found where
  /-- A character, and how many characters it takes. -/
  | char (c : Char) (length : Nat)
  /-- The end of all output. -/
  | stop
  /-- Nothing: the backslash stands for itself. -/
  | none
deriving Repr

/-- The escape behind a backslash; `zero` says whether a zero may stand before octal digits, as
in an argument. -/
def behind (zero : Bool) (cs : List Char) : Found :=
  match cs with
  | [] => .none
  | c :: rest =>
    if c = 'c' ∧ zero then .stop
    else if c = '0' ∧ zero then
      let ds := (rest.take 3).takeWhile isOctal
      .char (octal ds) (ds.length + 1)
    else if isOctal c then
      let ds := (cs.take 3).takeWhile isOctal
      .char (octal ds) ds.length
    else
      match named? c with
      | some d => .char d 1
      | none => .none

/-- A text with its escapes undone, and whether it stops all output. `skip` characters have
been dealt with. -/
def undoFrom (zero : Bool) (skip : Nat) : List Char → List Char × Bool
  | [] => ([], false)
  | c :: cs =>
    match skip with
    | n + 1 => undoFrom zero n cs
    | 0 =>
      let keep := fun (x : Char) (n : Nat) =>
        let (rest, stopped) := undoFrom zero n cs
        (x :: rest, stopped)
      if c = '\\' then
        match behind zero cs with
        | .char d n => keep d n
        | .stop => ([], true)
        | .none => keep c 0
      else keep c 0

/-- A text with its escapes undone, and whether it stops all output. -/
def undo (zero : Bool) (s : String) : String × Bool :=
  let (cs, stopped) := undoFrom zero 0 s.toList
  (String.ofList cs, stopped)

end BuildRunner.Shell.Escape
