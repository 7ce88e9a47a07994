import BuildRunner.Shell.Builtin.Escape
import BuildRunner.Text.CharSet

set_option autoImplicit false

/-! # The utility that prints its arguments

Unlike the command of a shell it knows escapes only on demand.
-/

namespace BuildRunner.Host.Echo

/-- The letters of an argument that holds nothing but options. -/
def letters? (arg : String) : Option (List Char) :=
  match arg.toList with
  | '-' :: c :: cs => if (c :: cs).all ("neE".toList.contains ·) then some (c :: cs) else none
  | _ => none

/-- The letters of the options at the front, and the other arguments. -/
def options : List String → List Char × List String
  | [] => ([], [])
  | arg :: rest =>
    match letters? arg with
    | some cs =>
      let (more, operands) := options rest
      (cs ++ more, operands)
    | none => ([], arg :: rest)

/-- A text with its escapes undone, and whether one of them ends the output. -/
def undo : Nat → List Char → List Char × Bool
  | 0, _ | _, [] => ([], false)
  | fuel + 1, '\\' :: 'x' :: cs =>
    let ds := (cs.take 2).takeWhile CharSet.isHexadecimal
    let (c, rest) := if ds.isEmpty then (['\\', 'x'], cs)
      else ([Char.ofNat (Shell.Numeral.digits 16 ds)], cs.drop ds.length)
    let (more, stopped) := undo fuel rest
    (c ++ more, stopped)
  | fuel + 1, '\\' :: cs =>
    match Shell.Escape.behind true cs with
    | .stop => ([], true)
    | .char c n =>
      let (more, stopped) := undo fuel (cs.drop n)
      (c :: more, stopped)
    | .none =>
      let (more, stopped) := undo fuel cs
      ('\\' :: more, stopped)
  | fuel + 1, c :: cs =>
    let (more, stopped) := undo fuel cs
    (c :: more, stopped)

def output (args : List String) : String :=
  let (letters, operands) := options args
  let text := String.intercalate " " operands
  let escapes := (letters.reverse.find? fun c => c = 'e' || c = 'E') = some 'e'
  let (shown, stopped) :=
    if escapes then undo (text.length + 1) text.toList else (text.toList, false)
  String.ofList shown ++ (if stopped ∨ letters.contains 'n' then "" else "\n")

end BuildRunner.Host.Echo
