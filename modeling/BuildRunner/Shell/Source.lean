import BuildRunner.Shell.Syntax

set_option autoImplicit false

/-! # Scripts as they are read

A script is read from the front, one character after another. A backslash in front of a line end
joins two lines. An alias is read by putting its text in front of the rest, and while its text is
being read it does not stand for anything itself.
-/

namespace BuildRunner.Shell

/-- Why a script cannot be read, and on which line. -/
structure Refusal where
  line : Nat
  reason : String
  /-- Whether the end of the script had been seen. -/
  atEnd : Bool := false
deriving Repr, DecidableEq

/-- An operator that opens a redirection. -/
inductive Opening where
  | file (access : Access)
  | duplicate
  /-- A document, from whose lines tabs at the front may be removed. -/
  | document (strip : Bool)
deriving Repr, DecidableEq

inductive Token where
  /-- A word, and whether any of it was quoted. -/
  | word (w : Word) (quoted : Bool)
  | redirection (descriptor : Nat) (o : Opening)
  /-- A word that is part of the grammar. -/
  | reserved (s : String)
  | operator (s : String)
  | newline
  | ending

instance : Inhabited Token := ⟨.ending⟩

/-- The line that ends a document, and whether tabs in front of its lines are removed. -/
structure Mark where
  text : List Char
  strip : Bool := false
deriving Repr

/-- A document whose text has not been read yet. -/
structure Expected where
  number : Nat
  mark : Mark
  isExpanded : Bool
deriving Repr

structure Source where
  rest : List Char
  line : Nat := 1
  aliases : List (String × String) := []
  /-- The aliases whose texts are being read: how long the rest is behind them, and whether they
  end with a blank. -/
  expanding : List (String × Nat × Bool) := []
  /-- The documents whose texts follow on the next lines. -/
  expected : List Expected := []
  /-- The documents that have been read. -/
  documents : List (Nat × Document) := []
  nextDocument : Nat := 0
  /-- The last token, and whether it is to be taken again. -/
  last : Token := .ending
  isPushed : Bool := false
  /-- Whether the next word may be an alias because one that ends with a blank stands before. -/
  aliasFollows : Bool := false
  /-- The line that ends the document that is being read. -/
  document : Option Mark := none
  /-- Whether the end of the script has been seen. -/
  sawEnd : Bool := false

instance : Inhabited Source := ⟨{ rest := [] }⟩

abbrev Reading := StateT Source (Except Refusal)

namespace Reading

def blame {α : Type} (reason : String) : Reading α := fun s =>
  .error ⟨s.line, "Syntax error: " ++ reason, s.sawEnd⟩

/-! ## Characters -/

/-- The next character as it stands; nothing at the end. -/
def peek : Reading (Option Char) := fun s =>
  match s.rest with
  | [] => .ok (none, { s with sawEnd := true })
  | c :: _ => .ok (some c, s)

/-- Takes the next character as it stands. -/
def take : Reading (Option Char) := fun s =>
  match s.rest with
  | [] => .ok (none, { s with sawEnd := true })
  | c :: rest => .ok (some c, { s with rest := rest, line := if c = '\n' then s.line + 1 else s.line })

/-- The source behind the pairs of a backslash and a line end at the front. -/
def joined : List Char → Nat → List Char × Nat
  | '\\' :: '\n' :: rest, line => joined rest (line + 1)
  | rest, line => (rest, line)

def join : Reading Unit := fun s =>
  let (rest, line) := joined s.rest s.line
  .ok ((), { s with rest := rest, line := line })

/-- The next character behind joined lines. -/
def look : Reading (Option Char) := do join; peek

def next : Reading (Option Char) := do join; take

/-- Takes the next character behind joined lines if it is `c`. -/
def accept (c : Char) : Reading Bool := do
  if (← look) = some c then
    let _ ← take
    return true
  else return false

/-- Takes characters behind joined lines as long as they satisfy `p`. -/
def span (p : Char → Bool) : Nat → Reading (List Char)
  | 0 => return []
  | fuel + 1 => do
    match ← look with
    | some c =>
      if p c then
        let _ ← take
        return c :: (← span p fuel)
      else return []
    | none => return []

/-- Takes characters as long as they satisfy `p`, which line ends do not. -/
def takeRun (p : Char → Bool) : Reading (List Char) := fun s =>
  let cs := s.rest.takeWhile p
  .ok (cs, { s with rest := s.rest.drop cs.length })

def size : Reading Nat := return (← get).rest.length

/-! ## Aliases -/

/-- Puts the text of an alias in front of the rest. -/
def expand (name value : String) : Reading Unit := modify fun s =>
  let blank := match value.toList.getLast? with
    | some c => c = ' ' || c = '\t'
    | none => false
  { s with
    rest := value.toList ++ s.rest
    expanding := (name, s.rest.length, blank) :: s.expanding }

/-- Leaves the aliases whose texts have been read. Whether one that ends with a blank was among
them is remembered. -/
def leaveAliases : Reading Unit := modify fun s =>
  let n := s.rest.length
  if s.expanding.any fun x => x.2.2 && n ≤ x.2.1 then
    { s with
      aliasFollows := true
      expanding := s.expanding.map fun x => if n ≤ x.2.1 then (x.1, x.2.1, false) else x }
  else s

/-- The text of the alias with a name, unless it is being read. -/
def alias? (name : String) : Reading (Option String) := do
  let s ← get
  let n := s.rest.length
  if s.expanding.any fun x => x.1 = name && x.2.1 ≤ n then return none
  else return s.aliases.lookup name

/-- Forgets the aliases behind whose texts something has been read. -/
def forgetAliases : Reading Unit := modify fun s =>
  let n := s.rest.length
  { s with expanding := s.expanding.filter fun x => x.2.1 ≤ n }

end Reading
end BuildRunner.Shell
