import BuildRunner.Shell.Memory

set_option autoImplicit false

/-! # The command getopts

A script looks for the options among its arguments one after another. A shell remembers the
argument at which the search goes on, and the place in the argument before if that holds more
options.
-/

namespace BuildRunner.Shell.Getopts

structure Finding where
  /-- The option, or a question mark or a colon. -/
  letter : Char
  /-- The value of the option; nothing if its variable is removed. -/
  value : Option String
  /-- What is written about the option. -/
  complaint : Option String := none
  /-- The argument at which the search goes on, counted from one. -/
  index : Nat
  /-- The place in the argument before at which it goes on. -/
  offset : Option Nat
  /-- Whether there are no more options. -/
  isOver : Bool := false
deriving Repr

/-- Whether a letter is among the options of a search, and whether it has a value. -/
def known? (letter : Char) : List Char → Option Bool
  | [] => none
  | c :: rest =>
    if c = letter then some (rest.head? = some ':')
    else
      match rest with
      | ':' :: rest => known? letter rest
      | rest => known? letter rest

/-- The option at the front of what is left of an argument. `index` is that of the argument
behind it. -/
def optionAt (options : String) (args : List String) (argument : String) (index : Nat)
    (letter : Char) (rest : List Char) : Finding :=
  let quiet := options.startsWith ":"
  let onward := if rest.isEmpty then some argument.length else some (argument.length - rest.length)
  match known? letter options.toList with
  | none =>
    if quiet then ⟨'?', some (String.singleton letter), none, index, onward, false⟩
    else ⟨'?', none, some ("Illegal option -" ++ String.singleton letter ++ "\n"), index, onward, false⟩
  | some false => ⟨letter, some "", none, index, onward, false⟩
  | some true =>
    if !rest.isEmpty then ⟨letter, some (String.ofList rest), none, index, none, false⟩
    else
      match args[index - 1]? with
      | some value => ⟨letter, some value, none, index + 1, none, false⟩
      | none =>
        if quiet then ⟨':', some (String.singleton letter), none, index, none, false⟩
        else
          ⟨'?', none, some ("No arg for -" ++ String.singleton letter ++ " option\n"), index, none,
            false⟩

/-- The next option among arguments. -/
def next (options : String) (args : List String) (index : Nat) (offset : Option Nat) : Finding :=
  let current := if index ≤ 1 then none
    else
      match offset, args[index - 2]? with
      | some n, some a => if n < a.length then some (a, a.toList.drop n) else none
      | _, _ => none
  match current with
  | some (a, c :: rest) => optionAt options args a index c rest
  | _ =>
    match args[index - 1]? with
    | none => ⟨'?', none, none, index, none, true⟩
    | some a =>
      match a.toList with
      | ['-', '-'] => ⟨'?', none, none, index + 1, none, true⟩
      | '-' :: c :: rest => optionAt options args a (index + 1) c rest
      | _ => ⟨'?', none, none, index, none, true⟩

/-- The memory after a finding, or why a variable cannot be changed. -/
def Finding.store (f : Finding) (name : String) (m : Memory) : Except String Memory := do
  let m ←
    if f.isOver then pure m
    else
      match f.value with
      | some v => m.assign "OPTARG" v
      | none => pure (m.unset "OPTARG")
  let m := m.set "OPTIND" (toString f.index)
  let m := { m with optionIndex := f.index, optionOffset := f.offset }
  m.assign name (String.singleton f.letter)

end BuildRunner.Shell.Getopts
