set_option autoImplicit false

/-! # Quoted names in messages

Utilities write names so that their ends can be seen. A name in a sentence always stands in
quotes; a name in front of a colon only if a shell would not read it back as it stands.
-/

namespace BuildRunner.Host.Quoted

/-- The letters of the escapes that stand for control characters. -/
def controlLetters : List (Char × Char) :=
  [(Char.ofNat 7, 'a'), (Char.ofNat 8, 'b'), (Char.ofNat 12, 'f'), ('\n', 'n'), ('\r', 'r'),
   ('\t', 't'), (Char.ofNat 11, 'v')]

def isShown (c : Char) : Bool := 32 ≤ c.toNat && c.toNat ≤ 126

def octal (c : Char) : List Char :=
  let ds := Nat.toDigits 8 c.toNat
  List.replicate (3 - ds.length) '0' ++ ds

def escaped (c : Char) : List Char :=
  match controlLetters.lookup c with
  | some d => ['\\', d]
  | none => '\\' :: octal c

/-- A name in quotes. -/
def always (name : String) : String :=
  String.ofList ('\'' :: (name.toList.flatMap fun c =>
    if c = '\'' ∨ c = '\\' then ['\\', c] else if isShown c then [c] else escaped c) ++ ['\''])

/-- Whether a character at a place would be read differently by a shell. -/
def isSpecial (first alone : Bool) (c : Char) : Bool :=
  " !\"$&()*;<=>[^\x60|?\\':".toList.contains c || (first && (c = '#' || c = '~')) ||
    (alone && (c = '\x7b' || c = '\x7d'))

def needsQuotes (name : String) : Bool :=
  match name.toList with
  | [] => true
  | c :: cs => isSpecial true cs.isEmpty c || cs.any (isSpecial false false) ||
      !isShown c || cs.any fun c => !isShown c

/-- Pieces of a name, each with whether all of its characters can be shown. -/
def pieces : List Char → List (Bool × List Char)
  | [] => []
  | c :: cs =>
    match pieces cs with
    | (shown, ds) :: rest =>
      if shown = isShown c then (shown, c :: ds) :: rest else (isShown c, [c]) :: (shown, ds) :: rest
    | [] => [(isShown c, [c])]

/-- Whether a character at a place is the same for a shell between double quotes. -/
def isTame (first : Bool) (c : Char) : Bool :=
  c.isAlphanum || "%+,-./:]_ '".toList.contains c || (first && (c = '#' || c = '~'))

/-- Whether a name is the same for a shell between double quotes. -/
def areTame : List Char → Bool
  | [] => true
  | c :: cs => isTame true c && cs.all (isTame false)

/-- A name as a shell reads it back. -/
def ifNeeded (name : String) : String :=
  let cs := name.toList
  if !needsQuotes name then name
  else if cs.contains '\'' ∧ areTame cs then "\"" ++ name ++ "\""
  else
    let quoted := (pieces cs).flatMap fun (shown, ds) =>
      if shown then
        '\'' :: (ds.flatMap fun c => if c = '\'' then "'\\''".toList else [c]) ++ ['\'']
      else "$'".toList ++ ds.flatMap escaped ++ ['\'']
    String.ofList (if (cs.head?).all isShown ∧ !cs.isEmpty then quoted else "''".toList ++ quoted)

end BuildRunner.Host.Quoted
