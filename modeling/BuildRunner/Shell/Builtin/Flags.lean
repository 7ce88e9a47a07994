set_option autoImplicit false

/-! # Options of commands

The options in front of the arguments of a command: letters behind a dash, some of which have a
value. Two dashes end them.
-/

namespace BuildRunner.Shell

/-- The options of a command, in order with their values, and the arguments behind them. -/
structure Flags where
  given : List (Char × String) := []
  left : List String := []
deriving Repr

namespace Flags

/-- The options that a command knows: those without a value and those with one. -/
structure Known where
  plain : String := ""
  valued : String := ""

def has (f : Flags) (c : Char) : Bool := f.given.any (·.1 = c)

/-- The options in one argument, of which `rest` are the arguments behind it. -/
def letters (known : Known) : List Char → List String → Except String Flags
  | [], rest => .ok ⟨[], rest⟩
  | c :: cs, rest =>
    if known.valued.toList.contains c then
      match cs, rest with
      | [], [] => .error ("No arg for -" ++ String.singleton c ++ " option")
      | [], v :: rest => .ok ⟨[(c, v)], rest⟩
      | cs, rest => .ok ⟨[(c, String.ofList cs)], rest⟩
    else if known.plain.toList.contains c then
      (letters known cs rest).map fun f => ⟨(c, "") :: f.given, f.left⟩
    else .error ("Illegal option -" ++ String.singleton c)

def from? (known : Known) : Nat → List String → Except String Flags
  | 0, args => .ok ⟨[], args⟩
  | fuel + 1, args =>
    match args with
    | [] => .ok ⟨[], []⟩
    | arg :: rest =>
      match arg.toList with
      | ['-', '-'] => .ok ⟨[], rest⟩
      | '-' :: c :: cs => do
        let first ← letters known (c :: cs) rest
        let others ← from? known fuel first.left
        return ⟨first.given ++ others.given, others.left⟩
      | _ => .ok ⟨[], arg :: rest⟩

def read (known : Known) (args : List String) : Except String Flags :=
  from? known (args.length + 1) args

end Flags
end BuildRunner.Shell
