import BuildRunner.Shell.Builtin.Escape

set_option autoImplicit false

/-! # The command that prints its arguments -/

namespace BuildRunner.Shell.Echo

/-- The arguments with spaces between them; an escape may stop the output. -/
def body : List String → String × Bool
  | [] => ("", false)
  | a :: rest =>
    match Escape.undo true a with
    | (s, true) => (s, true)
    | (s, false) =>
      match rest with
      | [] => (s, false)
      | _ =>
        let (t, stopped) := body rest
        (s ++ " " ++ t, stopped)

/-- What is printed: the arguments and a line feed, which a first argument `-n` takes away. -/
def output (args : List String) : String :=
  match args with
  | "-n" :: rest => (body rest).1
  | _ =>
    match body args with
    | (s, true) => s
    | (s, false) => s ++ "\n"

end BuildRunner.Shell.Echo
