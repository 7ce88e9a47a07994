set_option autoImplicit false

/-! # Options of utilities

The arguments of a utility are options and operands. An option is a letter, of which several may
stand in one argument, or a word behind two dashes, which may be shortened as long as it stays
clear what is meant. The argument of two dashes ends the options.
-/

namespace BuildRunner.Host

inductive Valued where
  | never
  | optional
  | always
deriving Repr, DecidableEq

/-- The options that a utility knows. An option is named by its letter; a word without a letter
is named by a letter that nobody can write. -/
structure OptionTable where
  letters : List (Char × Valued)
  words : List (String × Valued × Char) := []
  /-- Whether the first operand ends the options. -/
  inOrder : Bool := false

/-- An option with its value, or an operand. -/
inductive Given where
  | option (letter : Char) (value : Option String)
  | operand (text : String)
  /-- Something that is not an option, with the reason. -/
  | fault (message : String)
deriving Repr, DecidableEq

namespace OptionTable

/-- The options in the letters of one argument, of which `rest` are the arguments behind it, and
the arguments behind the options. -/
def readLetters (t : OptionTable) (rest : List String) : List Char → List Given × List String
  | [] => ([], rest)
  | c :: cs =>
    let more := fun (g : Given) =>
      let (gs, rest) := readLetters t rest cs
      (g :: gs, rest)
    match (if c = ':' then none else t.letters.lookup c) with
    | none => more (.fault ("invalid option -- '" ++ String.singleton c ++ "'"))
    | some .never => more (.option c none)
    | some .optional => ([.option c (if cs.isEmpty then none else some (String.ofList cs))], rest)
    | some .always =>
      if !cs.isEmpty then ([.option c (some (String.ofList cs))], rest)
      else
        match rest with
        | value :: rest => ([.option c (some value)], rest)
        | [] => ([.fault ("option requires an argument -- '" ++ String.singleton c ++ "'")], [])

/-- The words that an argument may stand for. -/
def candidates (t : OptionTable) (name : String) : List (String × Valued × Char) :=
  match t.words.filter (·.1 = name) with
  | [] => t.words.filter (·.1.startsWith name)
  | exact => exact

/-- The option that a word stands for, when `rest` are the arguments behind it, and the arguments
behind the option. -/
def readWord (t : OptionTable) (rest : List String) (word : String) : Given × List String :=
  let cs := word.toList
  let name := String.ofList (cs.takeWhile (· ≠ '='))
  let value := match cs.dropWhile (· ≠ '=') with
    | [] => none
    | _ :: value => some (String.ofList value)
  let found := t.candidates name
  -- A shortened name may stand for several that mean the same.
  let same := match found with
    | [] => true
    | x :: xs => xs.all (·.2 = x.2)
  match found with
  | [] => (.fault ("unrecognized option '--" ++ word ++ "'"), rest)
  | (full, valued, letter) :: _ =>
    if !same then
      (.fault ("option '--" ++ word ++ "' is ambiguous; possibilities:" ++
        String.join (found.map fun x => " '--" ++ x.1 ++ "'")), rest)
    else
      match valued, value with
      | .never, some _ => (.fault ("option '--" ++ full ++ "' doesn't allow an argument"), rest)
      | .always, none =>
        match rest with
        | value :: rest => (.option letter (some value), rest)
        | [] => (.fault ("option '--" ++ full ++ "' requires an argument"), [])
      | _, value => (.option letter value, rest)

/-- What arguments give, but for `fuel` being used up: options come before operands. -/
def readFrom (t : OptionTable) : Nat → List String → List Given × List String
  | 0, args => ([], args)
  | _, [] => ([], [])
  | fuel + 1, arg :: rest =>
    match arg.toList with
    | ['-', '-'] => ([], rest)
    | '-' :: '-' :: word =>
      let (g, rest) := t.readWord rest (String.ofList word)
      let (gs, operands) := t.readFrom fuel rest
      (g :: gs, operands)
    | '-' :: c :: cs =>
      let (found, rest) := t.readLetters rest (c :: cs)
      let (gs, operands) := t.readFrom fuel rest
      (found ++ gs, operands)
    | _ =>
      if t.inOrder then ([], arg :: rest)
      else
        let (gs, operands) := t.readFrom fuel rest
        (gs, arg :: operands)

/-- The options that arguments give, in order, and the operands. -/
def read (t : OptionTable) (args : List String) : List Given × List String :=
  t.readFrom (args.length + 1) args

end OptionTable

/-- Where a person finds help about a program. -/
def hint (name : String) : String := "Try '" ++ name ++ " --help' for more information."

end BuildRunner.Host
