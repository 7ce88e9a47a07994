import BuildRunner.Host.Utility.Effect
import BuildRunner.Host.Utility.Options
import BuildRunner.Host.Utility.Quoted
import BuildRunner.Text.CharSet

set_option autoImplicit false

/-! # Transliterating and deleting characters

The utility that replaces characters by others, deletes them, or reduces runs of them to one. The
characters are given by two lists, which are written with ranges, classes and repetitions.
-/

namespace BuildRunner.Host

/-! ## Lists of characters -/

inductive ListPart where
  | char (c : Char)
  | range (least greatest : Char)
  | class (s : CharSet)
  /-- The characters that count as the same as one: that one. -/
  | same (c : Char)
  | repeated (c : Char) (times : Nat)
  /-- As often as the other list is long enough for. -/
  | filling (c : Char)
deriving Repr, DecidableEq

namespace ListPart

def members : ListPart → List Char
  | .char c | .same c => [c]
  | .range a b => (CharSet.range a b).members
  | .class s => s.members
  | .repeated c n => List.replicate n c
  | .filling _ => []

def isClass : ListPart → Bool
  | .class _ => true
  | _ => false

/-- The class of letters of one case, if the part is one. -/
def case? : ListPart → Option CharSet
  | .class .upper => some .upper
  | .class .lower => some .lower
  | _ => none

end ListPart

namespace ListReader

/-- A character of a written list, and whether it was escaped. -/
abbrev Mark := Char × Bool

/-- The character behind a backslash, how many characters it takes, and what there is to warn
of. -/
def escapeAt (cs : List Char) : Char × Nat × Option String :=
  let value := fun (ds : List Char) => ds.foldl (fun n c => n * 8 + (c.toNat - 48)) 0
  let isOctal := fun (c : Char) => '0' ≤ c && c ≤ '7'
  match cs with
  | [] => ('\\', 0, some "warning: an unescaped backslash at end of string is not portable")
  | c :: _ =>
    let ds := (cs.take 3).takeWhile isOctal
    if !ds.isEmpty then
      if value ds < 256 then (Char.ofNat (value ds), ds.length, none)
      else
        let two := String.ofList (ds.take 2)
        let last := String.ofList (ds.drop 2)
        (Char.ofNat (value (ds.take 2)), 2,
          some ("warning: the ambiguous octal escape \\" ++ two ++ last ++
            " is being\n\tinterpreted as the 2-byte sequence \\0" ++ two ++ ", " ++ last))
    else
      match (Quoted.controlLetters.find? fun x => x.2 = c) with
      | some (d, _) => (d, 1, none)
      | none => (c, 1, none)

/-- The characters of a written list, and what there is to warn of. -/
def marksFrom : Nat → List Char → List Mark × List String
  | 0, _ | _, [] => ([], [])
  | fuel + 1, c :: cs =>
    if c = '\\' then
      let (d, taken, warning) := escapeAt cs
      let (ms, ws) := marksFrom fuel (cs.drop taken)
      ((d, !cs.isEmpty) :: ms, warning.toList ++ ws)
    else
      let (ms, ws) := marksFrom fuel cs
      ((c, false) :: ms, ws)

/-- Characters as a message shows them. -/
def visible (cs : List Char) : String :=
  String.ofList (cs.flatMap fun c =>
    if c = '\\' then ['\\', '\\'] else if Quoted.isShown c then [c] else Quoted.escaped c)

/-- A character as a message shows it as the end of a range. -/
def visibleEnd (c : Char) : String :=
  if Quoted.isShown c then String.singleton c else String.ofList ('\\' :: Quoted.octal c)

/-- What stands before the first mark `c` that a bracket follows, and what stands behind them. -/
def upToClosing (c : Char) : List Mark → Option (List Mark × List Mark)
  | (d, e) :: (b, f) :: rest =>
    if d = c ∧ !e ∧ b = ']' ∧ !f then some ([], rest)
    else (upToClosing c ((b, f) :: rest)).map fun (a, r) => ((d, e) :: a, r)
  | _ => none

/-- Whether a star, digits and a bracket stand at the front. -/
def isRepetition (ms : List Mark) : Bool :=
  match ms with
  | ('*', false) :: rest =>
    (rest.dropWhile fun m => m.1.isDigit).head? = some (']', false)
  | _ => false

/-- The number of times that digits write: octal ones behind a zero. -/
def times? (ds : List Char) : Option Nat :=
  let base := if ds.head? = some '0' then 8 else 10
  if ds.all fun c => c.isDigit && c.toNat - 48 < base then
    let n := ds.foldl (fun n c => n * base + (c.toNat - 48)) 0
    if n < 18446744073709551615 then some n else none
  else none

/-- The repetition from behind the opening bracket on, if there is one there. -/
def repetitionAt (ms : List Mark) : Option (Except String (ListPart × List Mark)) :=
  match ms with
  | (c, _) :: ('*', false) :: rest =>
    let digits := rest.takeWhile fun m => !m.2 && m.1 ≠ ']'
    match rest.drop digits.length with
    | (']', false) :: behind =>
      if digits.isEmpty then some (.ok (.filling c, behind))
      else
        match times? (digits.map (·.1)) with
        | some 0 => some (.ok (.filling c, behind))
        | some n => some (.ok (.repeated c n, behind))
        | none => some (.error ("invalid repeat count " ++
            Quoted.always (visible (digits.map (·.1))) ++ " in [c*n] construct"))
    | _ => none
  | _ => none

/-- The class or the equivalence from behind the opening bracket on, if there is one there. -/
def namedAt (ms : List Mark) : Option (Except String (ListPart × List Mark)) :=
  match ms with
  | (c, false) :: rest =>
    if c ≠ ':' ∧ c ≠ '=' then none
    else
      match upToClosing c rest with
      | none => none
      | some (inside, behind) =>
        let name := inside.map (·.1)
        if name.isEmpty then
          some (.error (if c = ':' then "missing character class name '[::]'"
            else "missing equivalence class character '[==]'"))
        else if c = ':' then
          match CharSet.named? (String.ofList name) with
          | some s => some (.ok (.class s, behind))
          | none =>
            if isRepetition rest then none
            else some (.error ("invalid character class " ++ Quoted.always (visible name)))
        else
          match name with
          | [d] => some (.ok (.same d, behind))
          | _ =>
            if isRepetition rest then none
            else some (.error (visible name ++
              ": equivalence class operand must be a single character"))
  | _ => none

def partsFrom : Nat → List Mark → Except String (List ListPart)
  | 0, _ | _, [] => .ok []
  | fuel + 1, (c, escaped) :: rest => do
    let special := if c = '[' ∧ !escaped ∧ 2 ≤ rest.length then
        (match namedAt rest with
          | some r => some r
          | none => repetitionAt rest)
      else none
    match special with
    | some r =>
      let (p, rest) ← r
      return p :: (← partsFrom fuel rest)
    | none =>
      match rest with
      | ('-', false) :: (d, _) :: behind =>
        if d < c then
          throw ("range-endpoints of '" ++ visibleEnd c ++ "-" ++ visibleEnd d ++
            "' are in reverse collating sequence order")
        else return .range c d :: (← partsFrom fuel behind)
      | _ => return .char c :: (← partsFrom fuel rest)

def read (s : String) : List String × Except String (List ListPart) :=
  let (ms, warnings) := marksFrom (s.length + 1) s.toList
  (warnings, partsFrom (ms.length + 1) ms)

end ListReader

/-! ## What is done to characters -/

/-- A wish for what is done to characters. -/
structure Wish where
  complement : Bool := false
  delete : Bool := false
  squeeze : Bool := false
  /-- Whether the first list is cut to the length of the second one. -/
  truncate : Bool := false
deriving Repr, DecidableEq

structure Transliterate where
  name : String := "tr"
  /-- What a character becomes, by its number. -/
  table : Array Char
  deleted : Char → Bool := fun _ => false
  squeezed : Char → Bool := fun _ => false
  /-- The last character that was written. -/
  last : Option Char := none
  /-- What is written before anything is read. -/
  warnings : String := ""
  /-- Whether the input has ended. -/
  finished : Bool := false
  status : Nat := 0

namespace Transliterate

def members (ps : List ListPart) : List Char := ps.flatMap ListPart.members

def everything : List Char := (List.range 256).map Char.ofNat

/-- The characters that a list chooses. -/
def chosen (complement : Bool) (ps : List ListPart) : List Char :=
  let cs := members ps
  if complement then everything.filter fun c => !cs.contains c else cs

/-- A character of a list with its place in the part that it belongs to. -/
structure Item where
  char : Char
  part : ListPart
  /-- Whether it is the first one of its part. -/
  isFirst : Bool
  /-- How many characters of the part stand behind it. -/
  behind : Nat

def itemsOf (p : ListPart) : List Item :=
  let cs := p.members
  (cs.zipIdx).map fun (c, i) => ⟨c, p, i = 0, cs.length - i - 1⟩

/-- The pairs of characters that two lists assign to each other, or nothing if the classes of
upper and lower case do not stand at the same places. -/
def pairsFrom : Nat → List Item → List Item → Option (List (Char × Char))
  | 0, _, _ => some []
  | fuel + 1, as, b :: bs =>
    let case := b.part.case?
    if b.isFirst ∧ case.isSome ∧ (as.head?.all fun a => !a.isFirst || a.part.case?.isNone) then none
    else
      match as with
      | [] => some []
      | a :: as =>
        match case with
        | none => (pairsFrom fuel as bs).map ((a.char, b.char) :: ·)
        | some k =>
          let own := match a.part.case?, k with
            | some .lower, .upper => CharSet.lower.members.zip CharSet.upper.members
            | some .upper, .lower => CharSet.upper.members.zip CharSet.lower.members
            | _, _ => [(a.char, b.char)]
          (pairsFrom fuel (as.drop a.behind) (bs.drop b.behind)).map (own ++ ·)
  | _, _, [] => some []

/-- A list of parts with the open repetition made as long as it has to be. -/
def filled (wanted : Nat) (ps : List ListPart) : List ListPart :=
  let n := (members ps).length
  ps.map fun
    | .filling c => .repeated c (wanted - n)
    | p => p

/-- The last character of a list of which more is wanted; a class cannot be prolonged. -/
def lastOf (ps : List ListPart) : Option Char :=
  match ps.getLast? with
  | some (.char c) | some (.range _ c) | some (.repeated c _) | some (.same c) => some c
  | _ => none

def isForeign : ListPart → Bool
  | .class .upper | .class .lower => false
  | .class _ => true
  | _ => false

/-- Whether a part is an equivalence. -/
def isSame : ListPart → Bool
  | .same _ => true
  | _ => false

/-- Whether a part is an open repetition. -/
def isFilling : ListPart → Bool
  | .filling _ => true
  | _ => false

/-- The table of assignments, of which later ones count. -/
def tableOf (pairs : List (Char × Char)) : Array Char :=
  pairs.foldl (fun t (a, b) => t.setIfInBounds a.toNat b) everything.toArray

/-- The second list as it is used, and the table of what characters become. -/
def translation (w : Wish) (first second : List ListPart) :
    Except String (List ListPart × Array Char) := do
  let wanted := (chosen w.complement first).length
  let second := if (members second).length ≤ wanted then filled wanted second else second
  if second.any isSame then
    throw "[=c=] expressions may not appear in string2 when translating"
  if second.any isForeign then
    throw ("when translating, the only character classes that may appear in\n" ++
      "string2 are 'upper' and 'lower'")
  let pairs := fun (second : List ListPart) =>
    pairsFrom (wanted + 1) (first.flatMap itemsOf) (second.flatMap itemsOf)
  if !w.complement ∧ second.any ListPart.isClass ∧ (pairs second).isNone then
    throw "misaligned [:upper:] and/or [:lower:] construct"
  let length := (members second).length
  let second ←
    if w.truncate ∨ wanted ≤ length then pure second
    else if length = 0 then throw "when not truncating set1, string2 must be non-empty"
    else
      match lastOf second with
      | some c => pure (second ++ [.repeated c (wanted - length)])
      | none => throw ("when translating with string1 longer than string2,\n" ++
          "the latter string must not end with a character class")
  let targets := members second
  if w.complement ∧ first.any ListPart.isClass ∧
      !(targets.length = wanted ∧ targets.all (some · = targets.head?)) then
    throw ("when translating with complemented character classes,\n" ++
      "string2 must map all characters in the domain to one")
  if w.complement then return (second, tableOf ((chosen true first).zip targets))
  else return (second, tableOf ((pairs second).getD []))

def ofLists (w : Wish) (first : List ListPart) (second : Option (List ListPart)) :
    Except String Transliterate := do
  if first.any isFilling then
    throw "the [c*] repeat construct may not appear in string1"
  let isMember := fun (cs : List Char) =>
    let marks := everything.toArray.map fun c => cs.contains c
    fun (c : Char) => marks[c.toNat]?.getD false
  let same : Array Char := everything.toArray
  match second with
  | none =>
    let own := isMember (chosen w.complement first)
    return if w.delete then { table := same, deleted := own } else { table := same, squeezed := own }
  | some second =>
    if 1 < (second.filter isFilling).length then
      throw "only one [c*] repeat construct may appear in string2"
    if w.delete then
      if second.any isFilling then
        throw "the [c*] construct may appear in string2 only when translating"
      return { table := same
               deleted := isMember (chosen w.complement first)
               squeezed := isMember (members second) }
    let (second, table) ← translation w first second
    return if w.squeeze then { table := table, squeezed := isMember (members second) }
      else { table := table }

/-! ## Arguments -/

def options : OptionTable where
  letters := [('A', .never), ('c', .never), ('C', .never), ('d', .never), ('s', .never),
    ('t', .never)]
  words := [("complement", .never, 'c'), ("delete", .never, 'd'), ("squeeze-repeats", .never, 's'),
    ("truncate-set1", .never, 't')]
  inOrder := true

def withOption (w : Wish) (g : Given) : Except String Wish :=
  match g with
  | .option 'c' _ | .option 'C' _ => .ok { w with complement := true }
  | .option 'd' _ => .ok { w with delete := true }
  | .option 's' _ => .ok { w with squeeze := true }
  | .option 't' _ => .ok { w with truncate := true }
  | .fault m => .error m
  | _ => .ok w

def countFault? (w : Wish) (operands : List String) : Option String :=
  let least := if w.delete = w.squeeze then 2 else 1
  let most := if w.delete ∧ !w.squeeze then 1 else 2
  if operands.length < least then
    match operands.getLast? with
    | none => some "missing operand"
    | some s => some ("missing operand after " ++ Quoted.always s ++ "\n" ++
        (if w.squeeze then
          "Two strings must be given when both deleting and squeezing repeats."
        else "Two strings must be given when translating."))
  else
    match operands.drop most with
    | [] => none
    | s :: _ => some ("extra operand " ++ Quoted.always s ++
        (if operands.length = 2 then
          "\nOnly one string may be given when deleting without squeezing repeats."
        else ""))

/-- What a call with arguments does or the message that it writes, and the warnings before. -/
def ofArgs (name : String) (args : List String) : List String × Except String Transliterate :=
  let (given, operands) := options.read args
  let message := fun (m : String) => name ++ ": " ++ m
  match given.foldlM withOption {} with
  | .error m => ([], .error (message m ++ "\n" ++ hint name))
  | .ok w =>
    match countFault? w operands, operands with
    | some m, _ => ([], .error (message m ++ "\n" ++ hint name))
    | none, [] => ([], .error (message "missing operand"))
    | none, one :: more =>
      let (warnings, first) := ListReader.read one
      let (later, second) := match first, more with
        | .ok _, two :: _ => (fun (r : List String × Except String (List ListPart)) =>
            (r.1, r.2.map some)) (ListReader.read two)
        | _, _ => ([], .ok none)
      let made : Except String Transliterate := do
        return { (← ofLists w (← first) (← second)) with name := name }
      ((warnings ++ later).map message, made.mapError message)

/-! ## Steps -/

/-- The text of characters, the last one first, and the last character that was written. -/
def convert (t : Transliterate) (before : List Char) (last : Option Char) :
    List Char → List Char × Option Char
  | [] => (before, last)
  | c :: cs =>
    if t.deleted c then convert t before last cs
    else
      let d := (t.table[c.toNat]?).getD c
      if some d = last ∧ t.squeezed d then convert t before last cs
      else convert t (d :: before) (some d) cs

def receive (t : Transliterate) (a : Arrived) : List Effect × Transliterate :=
  match a with
  | .text s =>
    let (reversed, last) := t.convert [] t.last s.toList
    (if reversed.isEmpty then [] else [.output (String.ofList reversed.reverse)],
      { t with last := last })
  | .ended => ([], { t with finished := true })
  | .broken e _ =>
    ([.error (t.name ++ ": read error: " ++ e.text ++ "\n")], { t with finished := true, status := 1 })

end Transliterate
end BuildRunner.Host
