import BuildRunner.Host.Utility.Options
import BuildRunner.Host.Utility.Sed.Editor
import BuildRunner.Host.Utility.Sed.Reader

set_option autoImplicit false

/-! # Calls of an editor

The arguments of an editor are taken in their order: an option that changes how expressions are
read counts for the texts of the script behind it. Without a text among the options the first
operand is the script.
-/

namespace BuildRunner.Host.Sed

/-- A call whose options are being read. -/
structure Call where
  setting : Setting
  draft : Draft := {}
  /-- How many texts of the script are arguments. -/
  arguments : Nat := 0
  /-- Whether the script may not touch files. -/
  confined : Bool := false

namespace Call

def options : OptionTable where
  letters := [('b', .never), ('s', .never), ('n', .never), ('r', .never), ('z', .never),
    ('u', .never), ('E', .never), ('e', .always), ('f', .always), ('l', .always), ('i', .optional)]
  words := [("binary", .never, 'b'), ("regexp-extended", .never, 'r'), ("debug", .never, 'D'),
    ("in-place", .optional, 'i'), ("expression", .always, 'e'), ("file", .always, 'f'),
    ("line-length", .always, 'l'), ("null-data", .never, 'z'), ("zero-terminated", .never, 'z'),
    ("quiet", .never, 'n'), ("posix", .never, 'p'), ("silent", .never, 'n'),
    ("sandbox", .never, 'S'), ("separate", .never, 's'), ("unbuffered", .never, 'u'),
    ("follow-symlinks", .never, 'F')]

def usage : String :=
  "Usage: sed [OPTION]... \x7bscript-only-if-no-other-script\x7d [input-file]..."

def withSource (c : Call) (s : Source) : Except Fault Call := do
  return { c with draft := ← c.draft.read ⟨c.setting.extended, c.confined⟩ s }

/-- A call with one more text of the script that is an argument. -/
def withArgument (c : Call) (text : String) : Except Fault Call :=
  { c with arguments := c.arguments + 1 }.withSource ⟨.argument (c.arguments + 1), text.toList⟩

def leadingNumber (s : String) : Nat := (numberAt (s.toList.dropWhile CharSet.isSpace)).1

def withOption (files : Readable) (c : Call) (g : Given) : Except Fault Call :=
  let set := fun (s : Setting) => Except.ok { c with setting := s }
  let s := c.setting
  match g with
  | .option 'n' _ => set { s with silent := true }
  | .option 'r' _ | .option 'E' _ => set { s with extended := true }
  | .option 's' _ => set { s with separate := true }
  | .option 'z' _ => set { s with delimiter := Char.ofNat 0 }
  | .option 'u' _ => set { s with unbuffered := true }
  | .option 'i' suffix => set { s with separate := true, inPlace := some (suffix.getD "") }
  | .option 'l' (some n) => set { s with width := leadingNumber n }
  | .option 'S' _ => .ok { c with confined := true }
  | .option 'e' (some text) => c.withArgument text
  | .option 'f' (some name) =>
    match files name with
    | .ok text => c.withSource ⟨.file name, text.toList⟩
    | .error .isDirectory => c.withSource ⟨.file name, []⟩
    | .error e => .error ⟨"couldn't open file " ++ name ++ ": " ++ e.text, 4⟩
  | .fault m => .error ⟨m ++ "\n" ++ usage, 1⟩
  | _ => .ok c

/-- Whether a call reads a part of its script from the standard input. -/
def readsScript (args : List String) : Bool :=
  (options.read args).1.any fun
    | .option 'f' (some name) => name = "-" || name = "/dev/stdin"
    | _ => false

def editor (name : String) (files : Readable) (canWrite : String → Except FileError Unit)
    (args : List String) : Except Fault Editor := do
  let (given, operands) := options.read args
  let c ← given.foldlM (withOption files) { setting := { name := name } }
  let (c, operands) ←
    if c.draft.sources = 0 then
      match operands with
      | [] => throw ⟨usage, 1⟩
      | text :: operands => pure (← c.withArgument text, operands)
    else pure (c, operands)
  let script ← c.draft.finish
  for output in script.outputs do
    match canWrite output with
    | .ok () => pure ()
    | .error e => throw ⟨"couldn't open file " ++ output ++ ": " ++ e.text, 4⟩
  if c.setting.inPlace.isSome ∧ operands.isEmpty then throw ⟨"no input files", 4⟩
  return Editor.start c.setting script operands

/-- What a call does, or the message that it writes and its status. -/
def ofArgs (name : String) (files : Readable) (canWrite : String → Except FileError Unit)
    (args : List String) : Except (String × Nat) Editor :=
  (editor name files canWrite args).mapError fun f =>
    (if f.message.startsWith "Usage" then f.message else name ++ ": " ++ f.message, f.status)

end Call
end BuildRunner.Host.Sed
