import BuildRunner.Text.Blank

set_option autoImplicit false

/-! # Typed lines

A line that a person types is a command and its arguments, with blanks between them. An
exclamation mark directly before the command makes a running task give way.
-/

namespace BuildRunner

structure Typed where
  force : Bool
  command : String
  args : List String
deriving Repr, DecidableEq

namespace Typed

/-- The mark of a forced command. -/
def forceMark : Char := '!'

/-- What a line says; nothing if it has no command. -/
def parse (line : String) : Option Typed :=
  match Blank.words line with
  | [] => none
  | first :: args =>
    match first.toList with
    | '!' :: [] => none
    | '!' :: command => some ⟨true, String.ofList command, args⟩
    | _ => some ⟨false, first, args⟩

/-- A line that says the same, with single spaces. -/
def render (t : Typed) : String :=
  String.intercalate " " (((if t.force then String.singleton forceMark else "") ++ t.command) :: t.args)

end Typed
end BuildRunner
