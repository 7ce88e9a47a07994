import BuildRunner.Host.Utility.Sed.Script

set_option autoImplicit false

/-! # Reading scripts

The commands of a script come from several texts, each given as an argument or as a file. A block
may end in a later text than it begins, and a text that a command prints may begin with the next
one. Labels are looked up when everything has been read.
-/

namespace BuildRunner.Host.Sed

/-! ## Sources -/

inductive Origin where
  /-- An argument, by its number among those that hold scripts. -/
  | argument (n : Nat)
  | file (name : String)
deriving Repr, DecidableEq

structure Source where
  origin : Origin
  text : List Char
deriving Repr

/-- What is wrong at a place, of which `read` characters and `lines` line feeds stand before. -/
def Origin.report (o : Origin) (read lines : Nat) (reason : String) : String :=
  match o with
  | .argument n =>
    "-e expression #" ++ toString n ++ ", char " ++ toString read ++ ": " ++ reason
  | .file name => "file " ++ name ++ " line " ++ toString (lines + 1) ++ ": " ++ reason

/-- What is wrong in a source where `rest` is left. -/
def Source.fault (s : Source) (rest : List Char) (reason : String) : Fault :=
  let before := s.text.take (s.text.length - rest.length)
  ⟨s.origin.report before.length (before.count '\n') reason, 1⟩

/-! ## Small pieces -/

/-- What was read, and the text behind it; or what is wrong, and the text behind the place where
it is noticed. -/
abbrev Reading (α : Type) := Except (String × List Char) (α × List Char)

def skipBlanks (cs : List Char) : List Char := cs.dropWhile fun c => c = ' ' || c = '\t'

/-- The text behind spaces and semicolons. -/
def skipSeparators (cs : List Char) : List Char :=
  cs.dropWhile fun c => c = ';' || CharSet.isSpace c

/-- The number at the front, and the text behind it. Without digits it is zero. -/
def numberAt (cs : List Char) : Nat × List Char :=
  ((cs.takeWhile Char.isDigit).foldl (fun n c => n * 10 + (c.toNat - 48)) 0,
    cs.dropWhile Char.isDigit)

def behindNext (cs : List Char) : List Char := cs.drop 1

/-- The end of a command at the front. -/
def ending {α : Type} (a : α) (cs : List Char) : Reading α :=
  match skipBlanks cs with
  | [] => .ok (a, [])
  | c :: rest =>
    if c = '\x7d' ∨ c = '#' then .ok (a, c :: rest)
    else if c = ';' ∨ c = '\n' then .ok (a, rest)
    else .error ("extra characters after command", rest)

/-- The name of a file: the rest of the line. -/
def fileNameAt (cs : List Char) : Reading String :=
  let cs := skipBlanks cs
  let name := cs.takeWhile (· ≠ '\n')
  if name.isEmpty then .error ("missing filename in r/R/w/W commands", behindNext cs)
  else .ok (String.ofList name, cs.drop (name.length + 1))

/-- A label: the text up to a space, a semicolon or a closing brace. -/
def labelAt (cs : List Char) : String × List Char :=
  let cs := skipBlanks cs
  let goesOn := fun c => c ≠ ';' && c ≠ '\x7d' && !CharSet.isSpace c
  (String.ofList (cs.takeWhile goesOn), cs.dropWhile goesOn)

/-! ## Delimited texts -/

/-- Where in a set in brackets a character stands. -/
inductive InBrackets where
  | outside
  /-- Behind the opening bracket, and perhaps a caret. -/
  | atStart
  | inside
  /-- Inside of a name between a bracket and a mark, which end with the mark and a bracket. -/
  | named (mark : Char)
deriving DecidableEq

def InBrackets.behindMember (c : Char) (next : Option Char) : InBrackets :=
  match next with
  | some m => if c = '[' ∧ (m = ':' ∨ m = '.' ∨ m = '=') then .named m else .inside
  | none => .inside

/-- The place of the character behind `c`. -/
def InBrackets.after (b : InBrackets) (c : Char) (next : Option Char) : InBrackets :=
  match b with
  | .outside => if c = '[' then .atStart else .outside
  | .atStart =>
    if c = '^' then .atStart else if c = ']' then .inside else behindMember c next
  | .inside => if c = ']' then .outside else behindMember c next
  | .named m => if c = m ∧ next = some ']' then .inside else .named m

/-- The text of a regular expression up to the delimiter, and the text behind it. -/
def expressionText (delimiter : Char) (b : InBrackets) : List Char → Option (List Char × List Char)
  | [] => none
  | '\\' :: c :: cs =>
    if c = 'n' ∧ c ≠ delimiter then
      (expressionText delimiter (b.after '\n' cs.head?) cs).map fun (t, rest) => ('\n' :: t, rest)
    else if b ≠ .outside then
      let b := (b.after '\\' (some c)).after c cs.head?
      if c = '\n' then none
      else (expressionText delimiter b cs).map fun (t, rest) => ('\\' :: c :: t, rest)
    else
      let kept := if c = delimiter ∨ c = '\n' then [c] else ['\\', c]
      (expressionText delimiter .outside cs).map fun (t, rest) => (kept ++ t, rest)
  | c :: cs =>
    if c = '\n' then none
    else if c = delimiter ∧ b = .outside then some ([], cs)
    else (expressionText delimiter (b.after c cs.head?) cs).map fun (t, rest) => (c :: t, rest)

/-- The text up to the delimiter where there are no sets in brackets, and the text behind it. A
delimiter behind a backslash stands for itself, and an ampersand keeps its backslash. -/
def plainText (delimiter : Char) : List Char → Option (List Char × List Char)
  | [] => none
  | '\\' :: c :: cs =>
    let kept := if c = '\n' ∨ (c = delimiter ∧ c ≠ '&') then [c] else ['\\', c]
    (plainText delimiter cs).map fun (t, rest) => (kept ++ t, rest)
  | c :: cs =>
    if c = '\n' then none
    else if c = delimiter then some ([], cs)
    else (plainText delimiter cs).map fun (t, rest) => (c :: t, rest)

/-- Where a delimited text that does not end is noticed to be wrong: at the line end, or at the
end of the script. -/
def noticedAt : List Char → List Char
  | [] => []
  | '\\' :: _ :: cs => noticedAt cs
  | c :: cs => if c = '\n' then c :: cs else noticedAt cs

/-! ## Escapes -/

def digitValue (c : Char) : Nat :=
  if c.isDigit then c.toNat - 48 else if c.isLower then c.toNat - 87 else c.toNat - 55

/-- The character that at most `most` digits of a base name, and how many there are. -/
def coded (base most : Nat) (cs : List Char) : Option (Char × Nat) :=
  let isDigitOf := fun (c : Char) => CharSet.isHexadecimal c && digitValue c < base
  let ds := (cs.take most).takeWhile isDigitOf
  if ds.isEmpty then none
  else some (Char.ofNat ((ds.foldl (fun n c => n * base + digitValue c) 0) % 256), ds.length)

/-- The character that stands for a letter behind a backslash, with the number of characters
behind the letter that belong to it. -/
def escaped? (c : Char) (cs : List Char) : Option (Char × Nat) :=
  match c with
  | 'a' => some (Char.ofNat 7, 0)
  | 'f' => some (Char.ofNat 12, 0)
  | 'r' => some ('\r', 0)
  | 't' => some ('\t', 0)
  | 'v' => some (Char.ofNat 11, 0)
  | 'd' => coded 10 3 cs
  | 'o' => coded 8 3 cs
  | 'x' => coded 16 2 cs
  | 'c' =>
    match cs with
    | '\\' :: _ :: _ => some (Char.ofNat 28, 2)
    | d :: _ =>
      let n := d.toUpper.toNat
      some (Char.ofNat (if n < 64 then n + 64 else if n < 128 then n - 64 else n), 1)
    | [] => none
  | _ => none

/-- A text in which escapes for characters are replaced; `skip` characters have been dealt with.
`guarded` says which characters get a backslash so that they stand for themselves. -/
def decoded (guarded : Char → Bool) (skip : Nat) : List Char → List Char
  | [] => []
  | c :: cs =>
    match skip with
    | n + 1 => decoded guarded n cs
    | 0 =>
      if c = '\\' then
        match cs with
        | [] => ['\\']
        | d :: rest =>
          match escaped? d rest with
          | some (e, n) =>
            (if guarded e then ['\\', e] else [e]) ++ decoded guarded (n + 1) cs
          | none => if d = 'c' then '\\' :: decoded guarded 1 cs else '\\' :: d :: decoded guarded 1 cs
      else c :: decoded guarded 0 cs

/-- A text without its backslashes, in which one with an `n` is a line feed. -/
def unescaped : List Char → List Char
  | [] => []
  | '\\' :: c :: cs => (if c = 'n' then '\n' else c) :: unescaped cs
  | c :: cs => c :: unescaped cs

/-! ## Addresses -/

/-- The flags behind a regular expression that restricts a command. -/
def addressFlags (e : Expression) : Nat → List Char → Expression × List Char
  | 0, cs => (e, cs)
  | fuel + 1, cs =>
    match skipBlanks cs with
    | 'I' :: rest => addressFlags { e with anyCase := true } fuel rest
    | 'M' :: rest => addressFlags { e with manyLines := true } fuel rest
    | cs => (e, cs)

/-- The expression that a text with its flags writes. `least` is the number of groups that it has
to have. -/
def matcherOf (extended : Bool) (text : List Char) (flags : Expression) (least : Nat) :
    Except Fault Matcher :=
  if text.isEmpty then
    if flags.anyCase ∨ flags.manyLines then .error ⟨"cannot specify modifiers on empty regexp", 1⟩
    else .ok none
  else
    let cs := decoded (fun _ => false) 0 text
    match Regex.ofChars extended cs with
    | .error f => .error ⟨f.message, 1⟩
    | .ok (r, groups) =>
      if groups < least then
        .error ⟨"invalid reference \\" ++ toString least ++ " on \x60s' command's RHS", 1⟩
      else if Regex.hasBareClass cs then
        .error ⟨"character class syntax is [[:space:]], not [:space:]", 4⟩
      else .ok (some { flags with regex := r })

/-- What is wrong with a script: at a place, or without one. -/
inductive Trouble where
  | at (reason : String) (rest : List Char)
  | plain (f : Fault)

/-- A fault of an expression, placed unless the expression says that it is graver. -/
def placed {α : Type} (r : Except Fault α) (rest : List Char) : Except Trouble α :=
  match r with
  | .ok a => .ok a
  | .error f => .error (if f.status = 1 then .at f.message rest else .plain f)

def atPlace {α : Type} (r : Reading α) : Except Trouble (α × List Char) :=
  match r with
  | .ok a => .ok a
  | .error (reason, rest) => .error (.at reason rest)

/-- An address, as the first or the second of a command. -/
inductive Place where
  | first (a : Address)
  | onlySecond (r : Reach)

def addressAt (extended : Bool) (cs : List Char) : Except Trouble (Option (Place × List Char)) :=
  let pattern := fun (delimiter : Char) (rest : List Char) =>
    match expressionText delimiter .outside rest with
    | none => Except.error (Trouble.at "unterminated address regex" (noticedAt rest))
    | some (text, rest) => do
      let (flags, rest) := addressFlags { regex := .empty } (rest.length + 1) rest
      let m ← placed (matcherOf extended text flags 0) rest
      return some (Place.first (.matching m), rest)
  match cs with
  | '$' :: rest => .ok (some (.first .last, rest))
  | '/' :: rest => pattern '/' rest
  | '\\' :: d :: rest => pattern d rest
  | ['\\'] => .error (.at "unterminated address regex" [])
  | '+' :: rest =>
    let (n, rest) := numberAt (skipBlanks rest)
    .ok (some (.onlySecond (.more n), rest))
  | '~' :: rest =>
    let (n, rest) := numberAt (skipBlanks rest)
    .ok (some (.onlySecond (.multiple n), rest))
  | c :: _ =>
    if c.isDigit then
      let (n, rest) := numberAt cs
      match skipBlanks rest with
      | '~' :: rest =>
        let (m, rest) := numberAt (skipBlanks rest)
        .ok (some (.first (if m = 0 then .line n else .every n m), rest))
      | rest => .ok (some (.first (.line n), rest))
    else .ok none
  | [] => .ok none

/-- The end of a range that an address stands for. -/
def Place.reach : Place → Reach
  | .onlySecond r => r
  | .first (.line n) => .line n
  | .first (.every n m) => .every n m
  | .first .last => .last
  | .first (.matching m) => .matching m

def scopeAt (extended : Bool) (cs : List Char) : Except Trouble (Scope × List Char) := do
  match ← addressAt extended cs with
  | none => return ({}, cs)
  | some (.onlySecond _, rest) =>
    throw (.at "invalid usage of +N or ~N as first address" rest)
  | some (.first a, rest) =>
    let rest := skipBlanks rest
    let (reach, rest) ← match rest with
      | ',' :: rest =>
        let rest := skipBlanks rest
        match ← addressAt extended rest with
        | none => throw (.at "unexpected \x60,'" (behindNext rest))
        | some (p, rest) => pure (some p.reach, skipBlanks rest)
      | rest => pure (none, rest)
    let isZero := match a with
      | .line 0 => true
      | _ => false
    let allowsZero := match reach with
      | some (.matching _) => true
      | _ => false
    if isZero && !allowsZero then throw (.at "invalid usage of line address 0" (behindNext rest))
    else return (⟨some a, reach, false⟩, rest)

/-! ## Replacements -/

/-- A replacement that is being read: its pieces, the last one first, the fashion of the next
piece and the one that comes back after it. -/
structure ReplacementDraft where
  pieces : List Piece := []
  fashion : Fashion := {}
  lasting : Fashion := {}

def ReplacementDraft.add (d : ReplacementDraft) (text : List Char) (group : Option Nat) :
    ReplacementDraft :=
  { d with pieces := ⟨text, group, d.fashion⟩ :: d.pieces, fashion := d.lasting }

/-- The pieces of a replacement from `cs` on, with `text` read before. -/
def piecesFrom (d : ReplacementDraft) (text : List Char) : List Char → List Piece
  | [] => (d.add text none).pieces.reverse
  | '\\' :: c :: cs =>
    let turn := fun (f : Fashion) => piecesFrom { d.add text none with fashion := f, lasting := f } [] cs
    let once := fun (first : Casing) =>
      let e := d.add text none
      piecesFrom { e with fashion := { e.fashion with first := first } } [] cs
    if c.isDigit then piecesFrom (d.add text (some (c.toNat - 48))) [] cs
    else if c = 'L' then turn { all := .lower }
    else if c = 'U' then turn { all := .upper }
    else if c = 'E' then turn {}
    else if c = 'l' then once .lower
    else if c = 'u' then once .upper
    else piecesFrom (d.add text none) [if c = 'n' then '\n' else c] cs
  | c :: cs =>
    if c = '&' then piecesFrom (d.add text (some 0)) [] cs else piecesFrom d (text ++ [c]) cs

/-- The flags of a substitution at the front, up to the end of the command. -/
def substitutionFlags (s : Substitution) (e : Expression) :
    Nat → List Char → Reading (Substitution × Expression)
  | 0, cs => .ok ((s, e), cs)
  | fuel + 1, cs =>
    match cs with
    | [] => .ok ((s, e), [])
    | c :: rest =>
      if c = '\n' ∨ c = ';' then .ok ((s, e), rest)
      else if c = '\x7d' ∨ c = '#' then .ok ((s, e), cs)
      else if c = '\r' ∧ rest.head? = some '\n' then .ok ((s, e), behindNext rest)
      else if c = ' ' ∨ c = '\t' then substitutionFlags s e fuel rest
      else if c = 'i' ∨ c = 'I' then substitutionFlags s { e with anyCase := true } fuel rest
      else if c = 'm' ∨ c = 'M' then substitutionFlags s { e with manyLines := true } fuel rest
      else if c = 'p' then
        if s.print then .error ("multiple \x60p' options to \x60s' command", rest)
        else substitutionFlags { s with print := true } e fuel rest
      else if c = 'g' then
        if s.all then .error ("multiple \x60g' options to \x60s' command", rest)
        else substitutionFlags { s with all := true } e fuel rest
      else if c = 'w' then
        (fileNameAt rest).map fun (name, rest) => (({ s with file := some name }, e), rest)
      else if c.isDigit then
        let (n, behind) := numberAt cs
        if s.first ≠ 0 then .error ("multiple number options to \x60s' command", rest)
        else if n = 0 then .error ("number option to \x60s' command may not be zero", behind)
        else substitutionFlags { s with first := n } e fuel behind
      else .error ("unknown option to \x60s'", rest)

def substitutionAt (extended : Bool) (cs : List Char) :
    Except Trouble (Action × List Char) :=
  let unterminated := fun (rest : List Char) =>
    Except.error (Trouble.at "unterminated \x60s' command" rest)
  match cs with
  | [] => unterminated []
  | delimiter :: cs =>
    match expressionText delimiter .outside cs with
    | none => unterminated (noticedAt cs)
    | some (text, cs) =>
      match plainText delimiter cs with
      | none => unterminated (noticedAt cs)
      | some (new, cs) => do
        let pieces := piecesFrom {} [] (decoded (fun c => c = '&' || c = '\\') 0 new)
        let ((s, e), rest) ← atPlace
          (substitutionFlags ⟨none, pieces, 0, false, false, none⟩ { regex := .empty }
            (cs.length + 1) cs)
        let greatest := pieces.foldl (fun n p => max n (p.group.getD 0)) 0
        let m ← placed (matcherOf extended text e greatest) rest
        return (.substitute { s with matcher := m }, rest)

/-- The exchange of characters behind its letter. -/
def exchangeAt (cs : List Char) : Except Trouble (Action × List Char) :=
  let unterminated := fun (rest : List Char) =>
    Except.error (Trouble.at "unterminated \x60y' command" rest)
  match cs with
  | [] => unterminated []
  | delimiter :: cs =>
    match plainText delimiter cs with
    | none => unterminated (noticedAt cs)
    | some (old, cs) =>
      match plainText delimiter cs with
      | none => unterminated (noticedAt cs)
      | some (new, cs) =>
        let old := unescaped (decoded (· = '\\') 0 old)
        let new := unescaped (decoded (· = '\\') 0 new)
        if old.length = new.length then atPlace (ending (.exchange old new) cs)
        else .error (.at "strings for \x60y' command are different lengths" cs)

/-! ## Texts to be printed -/

/-- A text that a command prints, up to the end of its last line. A line end behind a backslash
does not end it. A text whose source ends behind a backslash keeps its other backslashes. -/
def printedText (body : List Char) : List Char → List Char × List Char
  | [] => (unescaped (decoded (· = '\\') 0 body.reverse) ++ ['\n'], [])
  | ['\\'] => (decoded (fun _ => false) 0 body.reverse ++ ['\n'], [])
  | '\\' :: c :: cs => printedText (c :: '\\' :: body) cs
  | c :: cs =>
    if c = '\n' then (unescaped (decoded (· = '\\') 0 body.reverse) ++ ['\n'], cs)
    else printedText (c :: body) cs

/-- The text behind a command that prints one; nothing if it begins with the next source. -/
def textAt (cs : List Char) : Reading (Option (List Char)) :=
  let found := fun (cs : List Char) =>
    let (text, rest) := printedText [] cs
    Except.ok (some text, rest)
  match skipBlanks cs with
  | [] => .error ("expected \\ after \x60a', \x60c' or \x60i'", [])
  | ['\\'] => .ok (none, [])
  | '\\' :: '\n' :: rest => found rest
  | '\\' :: rest => found rest
  | '\n' :: rest => .error ("expected \\ after \x60a', \x60c' or \x60i'", rest)
  | cs => found cs

/-! ## Scripts -/

/-- A script that is being read. -/
structure Draft where
  commands : Array Command := #[]
  /-- The blocks that are open: their positions, and where they begin, the last one first. -/
  blocks : List (Nat × Origin × Nat) := []
  labels : List (String × Nat) := []
  /-- The jumps to labels: their positions. -/
  jumps : List (Nat × String) := []
  /-- Whether the text of the last command begins with the next source. -/
  wantsText : Bool := false
  silent : Bool := false
  sources : Nat := 0

def Draft.add (d : Draft) (s : Scope) (a : Action) : Draft :=
  { d with commands := d.commands.push ⟨s, a⟩ }

def Draft.amend (d : Draft) (i : Nat) (change : Action → Action) : Draft :=
  match d.commands[i]? with
  | some c => { d with commands := d.commands.setIfInBounds i { c with action := change c.action } }
  | none => d

def withText (text : List Char) : Action → Action
  | .insert _ => .insert text
  | .append _ => .append text
  | .change _ => .change text
  | a => a

/-- The version that scripts may ask for at most, as numbers. -/
def version : Nat × Nat := (4, 9)

def isKnownVersion (wanted : String) : Bool :=
  wanted = "" || match (wanted.splitOn ".").map String.toNat? with
    | some a :: some b :: _ => a < version.1 || (a = version.1 && b ≤ version.2)
    | [some a] => a ≤ version.1
    | _ => false

/-- The actions that are a letter alone. -/
def plainActions : List (Char × Action) :=
  [('=', .number), ('d', .delete), ('D', .deleteLine), ('F', .fileName), ('g', .get),
   ('G', .appendGet), ('h', .hold), ('H', .appendHold), ('n', .next), ('N', .appendNext),
   ('p', .print), ('P', .printLine), ('z', .empty), ('x', .swap)]

/-- How the texts of a script are read. -/
structure Manner where
  /-- Whether expressions are extended ones. -/
  extended : Bool := false
  /-- Whether commands that touch files are refused. -/
  confined : Bool := false

def forbidden : String := "e/r/w commands disabled in sandbox mode"

def touchesFiles : Action → Bool
  | .readFile _ | .readLine _ | .write _ | .writeLine _ => true
  | .substitute s => s.file.isSome
  | _ => false

/-- The rest of a script in a source behind the scope of a command. -/
def commandAt (m : Manner) (s : Source) (d : Draft) (scope : Scope) (cs : List Char) :
    Except Trouble (Draft × List Char) :=
  let single := fun (a : Action) (rest : List Char) => do
    let (a, rest) ← atPlace (ending a rest)
    return (d.add scope a, rest)
  let printing := fun (a : Action) (rest : List Char) => do
    let (text, rest) ← atPlace (textAt rest)
    match text with
    | some t => return (d.add scope (withText t a), rest)
    | none => return ({ d.add scope a with wantsText := true }, rest)
  let jumping := fun (c : Condition) (rest : List Char) =>
    let (label, rest) := labelAt rest
    let e := d.add scope (.jump c none)
    Except.ok (if label = "" then e
      else { e with jumps := (d.commands.size, label) :: e.jumps }, rest)
  let named := fun (a : String → Action) (rest : List Char) =>
    if m.confined then Except.error (Trouble.at forbidden rest)
    else do
      let (name, rest) ← atPlace (fileNameAt rest)
      return (d.add scope (a name), rest)
  let counted := fun (a : Option Nat → Action) (rest : List Char) =>
    let cs := skipBlanks rest
    if (cs.head?).any Char.isDigit then
      let (n, rest) := numberAt cs
      single (a (some n)) rest
    else single (a none) rest
  let oneAddress := fun (rest : List Char) (go : Except Trouble (Draft × List Char)) =>
    if scope.reach.isSome then .error (.at "command only uses one address" rest) else go
  match cs with
  | [] => .error (.at "missing command" [])
  | c :: rest =>
    match c with
    | '#' =>
      if scope.first.isSome then .error (.at "comments don't accept any addresses" rest)
      else
        let behind := (rest.dropWhile (· ≠ '\n')).drop 1
        let marks := d.sources = 1 && s.text.length = cs.length &&
          (rest = ['n'] || ['n', '\n'].isPrefixOf rest)
        .ok ({ d with silent := d.silent || marks }, behind)
    | 'v' =>
      let (wanted, rest) := labelAt rest
      if isKnownVersion wanted then .ok (d, rest)
      else .error (.at "expected newer version of sed" rest)
    | '\x7b' =>
      let read := s.text.length - rest.length
      let lines := (s.text.take read).count '\n'
      let e := d.add { scope with negated := !scope.negated } (.block 0)
      .ok ({ e with blocks := (d.commands.size, s.origin, lines) :: d.blocks }, rest)
    | '\x7d' =>
      match d.blocks with
      | [] => .error (.at "unexpected \x60\x7d'" rest)
      | (i, _, _) :: blocks =>
        if scope.first.isSome then
          .error (.at "\x7d doesn't want any addresses" rest)
        else do
          let (_, rest) ← atPlace (ending () rest)
          let e := (d.add scope .nothing).amend i fun _ => .block (d.commands.size + 1)
          return ({ e with blocks := blocks }, rest)
    | ':' =>
      if scope.first.isSome then .error (.at ": doesn't want any addresses" rest)
      else
        let (label, behind) := labelAt rest
        if label = "" then .error (.at "\":\" lacks a label" rest)
        else .ok ({ d.add scope .nothing with labels := (label, d.commands.size) :: d.labels },
          behind)
    | 's' => do
      let (a, behind) ← substitutionAt m.extended rest
      if m.confined ∧ touchesFiles a then .error (.at forbidden behind)
      else return (d.add scope a, behind)
    | 'y' => do
      let (a, rest) ← exchangeAt rest
      return (d.add scope a, rest)
    | 'a' => printing (.append []) rest
    | 'i' => printing (.insert []) rest
    | 'c' => printing (.change []) rest
    | 'b' => jumping .always rest
    | 't' => jumping .ifReplaced rest
    | 'T' => jumping .unlessReplaced rest
    | 'q' => oneAddress rest (counted (fun n => .quit false (n.getD 0)) rest)
    | 'Q' => oneAddress rest (counted (fun n => .quit true (n.getD 0)) rest)
    | 'l' => counted .list rest
    | 'r' => named .readFile rest
    | 'R' => named .readLine rest
    | 'w' => named .write rest
    | 'W' => named .writeLine rest
    | c =>
      match plainActions.lookup c with
      | some a => single a rest
      | none => .error (.at ("unknown command: \x60" ++ String.singleton c ++ "'") rest)

def commandsFrom (m : Manner) (s : Source) : Nat → Draft → List Char → Except Trouble Draft
  | 0, d, _ => .ok d
  | fuel + 1, d, cs =>
    match skipSeparators cs with
    | [] => .ok d
    | cs => do
      let (scope, rest) ← scopeAt m.extended cs
      let (scope, rest) ← match skipBlanks rest with
        | '!' :: rest =>
          match skipBlanks rest with
          | '!' :: rest => throw (.at "multiple \x60!'s" rest)
          | rest => pure ({ scope with negated := true }, rest)
        | rest => pure (scope, rest)
      let (d, rest) ← commandAt m s d scope rest
      commandsFrom m s fuel d rest

def Draft.read (m : Manner) (d : Draft) (s : Source) : Except Fault Draft :=
  let d := { d with sources := d.sources + 1 }
  let (d, cs) :=
    if d.wantsText then
      let (text, rest) := printedText [] s.text
      ({ d.amend (d.commands.size - 1) (withText text) with wantsText := false }, rest)
    else (d, s.text)
  match commandsFrom m s (cs.length + 1) d cs with
  | .ok d => .ok d
  | .error (.at reason rest) => .error (s.fault rest reason)
  | .error (.plain f) => .error f

def Draft.finish (d : Draft) : Except Fault Script := do
  match d.blocks.getLast? with
  | some (_, .argument n, _) =>
    throw ⟨(Origin.argument n).report 0 0 "unmatched \x60\x7b'", 1⟩
  | some (_, o, lines) => throw ⟨o.report 0 lines "unmatched \x60\x7b'", 1⟩
  | none =>
    let d ← d.jumps.reverse.foldlM (fun (d : Draft) (i, label) =>
      match d.labels.reverse.lookup label with
      | some target => pure (d.amend i fun
        | .jump c _ => .jump c (some target)
        | a => a)
      | none => throw ⟨"can't find label for jump to \x60" ++ label ++ "'", 4⟩) d
    return ⟨d.commands, d.silent⟩

end BuildRunner.Host.Sed
