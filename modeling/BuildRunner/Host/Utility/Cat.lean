import BuildRunner.Host.Utility.Effect
import BuildRunner.Host.Utility.Options
import BuildRunner.Host.Utility.Quoted

set_option autoImplicit false

/-! # Joining files

The utility that writes its inputs one behind another, on request with numbered lines and with
marks for characters that cannot be seen. The inputs form one text: a line that one input does
not end goes on with the next one.
-/

namespace BuildRunner.Host

structure Showing where
  /-- Whether lines are numbered. -/
  number : Bool := false
  /-- Whether empty lines are not numbered. -/
  onlyFull : Bool := false
  /-- Whether line ends are marked. -/
  ends : Bool := false
  /-- Whether tabs are marked. -/
  tabs : Bool := false
  /-- Whether other characters that cannot be seen are marked. -/
  hidden : Bool := false
  /-- Whether of several empty lines only the first one is kept. -/
  squeeze : Bool := false
deriving Repr, DecidableEq

inductive Column where
  /-- Inside of a line. -/
  | inside
  /-- At the beginning of a line, behind as many empty lines, but for those beyond the first. -/
  | start (empty : Nat)
deriving Repr, DecidableEq

/-- What joins its inputs. -/
structure Cat where
  name : String := "cat"
  showing : Showing := {}
  /-- The inputs that have not been read. -/
  left : List String := []
  /-- Whether the standard input is being read. -/
  reading : Bool := false
  column : Column := .start 0
  /-- The number of the last line. -/
  line : Nat := 0
  /-- Whether a carriage return has been read whose place in its line is not known yet. -/
  pendingReturn : Bool := false
  status : Nat := 0
deriving Repr

namespace Cat

/-! ## Showing text -/

def numbering (n : Nat) : List Char :=
  let ds := (toString n).toList
  List.replicate (6 - ds.length) ' ' ++ ds ++ ['\t']

/-- A character with the mark of control characters. -/
def caret (n : Nat) : List Char := ['^', if n = 127 then '?' else Char.ofNat (n + 64)]

def shown (s : Showing) (c : Char) : List Char :=
  if c = '\t' then (if s.tabs then caret 9 else [c])
  else if !s.hidden then [c]
  else
    let low := if c.toNat < 128 then c.toNat else c.toNat - 128
    (if c.toNat < 128 then [] else ['M', '-']) ++
      (if 32 ≤ low ∧ low < 127 then [Char.ofNat low] else caret low)

/-- The text of a character other than a line feed, and what shows the characters behind it. -/
def showChar (k : Cat) (c : Char) : List Char × Cat :=
  let held := if k.pendingReturn then ['\r'] else []
  let k := { k with pendingReturn := false }
  let (number, k) := match k.column with
    | .inside => ([], k)
    | .start _ =>
      if k.showing.number then (numbering (k.line + 1), { k with line := k.line + 1 }) else ([], k)
  let k := { k with column := .inside }
  if c = '\r' ∧ k.showing.ends ∧ !k.showing.hidden then
    (held ++ number, { k with pendingReturn := true })
  else (held ++ number ++ shown k.showing c, k)

/-- The text of a line feed, and what shows the characters behind it. -/
def showEnd (k : Cat) : List Char × Cat :=
  let ended := (if k.pendingReturn then caret 13 else []) ++ (if k.showing.ends then ['$'] else []) ++
    ['\n']
  let done := { k with pendingReturn := false }
  match k.column with
  | .inside => (ended, { done with column := .start 0 })
  | .start n =>
    if 0 < n ∧ k.showing.squeeze then ([], k)
    else
      let done := { done with column := .start 1 }
      if k.showing.number ∧ !k.showing.onlyFull then
        (numbering (k.line + 1) ++ ended, { done with line := k.line + 1 })
      else (ended, done)

/-- The text of characters, the last one first, when `before` stands in front of it. -/
def showAll (before : List Char) (k : Cat) : List Char → List Char × Cat
  | [] => (before, k)
  | c :: cs =>
    let (shown, k) := if c = '\n' then k.showEnd else k.showChar c
    showAll (shown.reverseAux before) k cs

def present (k : Cat) (s : String) : String × Cat :=
  if k.showing = {} then (s, k)
  else
    let (reversed, k) := k.showAll [] s.toList
    (String.ofList reversed.reverse, k)

/-! ## Arguments -/

def options : OptionTable where
  letters := [('b', .never), ('e', .never), ('n', .never), ('s', .never), ('t', .never),
    ('u', .never), ('v', .never), ('A', .never), ('E', .never), ('T', .never)]
  words := [("number-nonblank", .never, 'b'), ("number", .never, 'n'),
    ("squeeze-blank", .never, 's'), ("show-nonprinting", .never, 'v'), ("show-ends", .never, 'E'),
    ("show-tabs", .never, 'T'), ("show-all", .never, 'A')]

/-- What an option changes. -/
def amended (s : Showing) (letter : Char) : Showing :=
  match letter with
  | 'b' => { s with number := true, onlyFull := true }
  | 'e' => { s with ends := true, hidden := true }
  | 'n' => { s with number := true }
  | 's' => { s with squeeze := true }
  | 't' => { s with tabs := true, hidden := true }
  | 'v' => { s with hidden := true }
  | 'A' => { s with ends := true, tabs := true, hidden := true }
  | 'E' => { s with ends := true }
  | 'T' => { s with tabs := true }
  | _ => s

def fault? (gs : List Given) : Option String :=
  gs.findSome? fun
    | .fault m => some m
    | _ => none

/-- What a call with arguments does, or the message that it writes. -/
def ofArgs (name : String) (args : List String) : Except String Cat :=
  let (given, operands) := options.read args
  match fault? given with
  | some m => .error (name ++ ": " ++ m ++ "\n" ++ hint name)
  | none => .ok {
      name := name
      showing := given.foldl (fun s g => match g with
        | .option c _ => amended s c
        | _ => s) {}
      left := if operands.isEmpty then ["-"] else operands }

/-! ## Steps -/

def output (s : String) : List Effect := if s = "" then [] else [.output s]

def refuse (k : Cat) (input reason : String) : List Effect × Cat :=
  ([.error (k.name ++ ": " ++ Quoted.ifNeeded input ++ ": " ++ reason ++ "\n")],
    { k with status := 1, reading := false })

/-- What is done next: effects, and whether it is over; nothing while the standard input is
read. -/
def step (k : Cat) (o : Outlook) : Option (List Effect × Cat × Bool) :=
  if k.reading then none
  else
    match k.left with
    | [] => some (if k.pendingReturn then [.output "\r"] else [], k, true)
    | input :: left =>
      let k := { k with left := left }
      let same := fun (_ : Unit) =>
        let (es, k) := k.refuse input "input file is output file"
        some (es, k, false)
      if input = "-" ∨ o.isStandard input then
        if o.standard.any (·.isOutput) then same () else some ([], { k with reading := true }, false)
      else
        match o.file input with
        | .ok sight =>
          if sight.isOutput then same ()
          else
            let (text, k) := k.present sight.text
            some (output text, k, false)
        | .error e =>
          let (es, k) := k.refuse input e.text
          some (es, k, false)

def receive (k : Cat) (a : Arrived) : List Effect × Cat :=
  match a with
  | .text s =>
    let (text, k) := k.present s
    (output text, k)
  | .ended => ([], { k with reading := false })
  | .broken e isOpen =>
    let (es, k) := k.refuse "-" e.text
    let closing := Effect.error (k.name ++ ": closing standard input: " ++ e.text ++ "\n")
    (if isOpen then es else es ++ [closing], k)

end Cat
end BuildRunner.Host
