import BuildRunner.Host.Utility.Effect
import BuildRunner.Host.Utility.Options
import BuildRunner.Host.Utility.Quoted
import BuildRunner.Text.CharSet

set_option autoImplicit false

/-! # Counting lines, words and characters

The utility that counts. Columns are as wide as the sizes of the inputs ask for, before anything
has been counted; an input whose size is not known asks for seven digits.
-/

namespace BuildRunner.Host

structure Counts where
  lines : Nat := 0
  words : Nat := 0
  bytes : Nat := 0
  /-- The width of the widest line. -/
  widest : Nat := 0
  /-- The width of the current line. -/
  column : Nat := 0
  /-- Whether a word has begun. -/
  inWord : Bool := false
deriving Repr

namespace Counts

/-- The counts at the end of a word. -/
def endWord (c : Counts) : Counts :=
  { c with words := c.words + (if c.inWord then 1 else 0), inWord := false }

/-- The counts at the end of a line as it is shown. -/
def endLine (c : Counts) : Counts :=
  { c.endWord with widest := max c.widest c.column, column := 0 }

def add (c : Counts) (x : Char) : Counts :=
  let c := { c with bytes := c.bytes + 1 }
  if x = '\n' then { c.endLine with lines := c.lines + 1 }
  else if x = '\r' ∨ x = Char.ofNat 12 then c.endLine
  else if x = '\t' then { c.endWord with column := (c.column / 8 + 1) * 8 }
  else if x = ' ' then { c.endWord with column := c.column + 1 }
  else if CharSet.isSpace x then c.endWord
  else if CharSet.isGraphic x then { c with inWord := true, column := c.column + 1 }
  else c

def read (c : Counts) (s : String) : Counts := s.toList.foldl add c

def close (c : Counts) : Counts := c.endLine

def join (a b : Counts) : Counts where
  lines := a.lines + b.lines
  words := a.words + b.words
  bytes := a.bytes + b.bytes
  widest := max a.widest b.widest

end Counts

/-- When the counts of all inputs together are written. -/
inductive Totals where
  | ifMany
  | always
  | only
  | never
deriving Repr, DecidableEq

/-- What counts. -/
structure WordCount where
  name : String := "wc"
  lines : Bool := false
  words : Bool := false
  characters : Bool := false
  bytes : Bool := false
  width : Bool := false
  totals : Totals := .ifMany
  /-- The inputs; the standard input may be without a name. -/
  inputs : List (Option String) := []
  /-- The inputs that have not been counted. -/
  left : List (Option String) := []
  /-- The counts of the standard input that is being read. -/
  reading : Option Counts := none
  total : Counts := {}
  /-- How wide columns are, when that has been found out. -/
  digits : Option Nat := none
  status : Nat := 0
deriving Repr

namespace WordCount

def wanted (k : WordCount) : Nat :=
  [k.lines, k.words, k.characters, k.bytes, k.width].count true

def padded (width n : Nat) : String :=
  let s := toString n
  String.ofList (List.replicate (width - s.length) ' ') ++ s

def row (k : WordCount) (c : Counts) (name : String) : String :=
  let chosen := (if k.lines then [c.lines] else []) ++ (if k.words then [c.words] else []) ++
    (if k.characters then [c.bytes] else []) ++ (if k.bytes then [c.bytes] else []) ++
    (if k.width then [c.widest] else [])
  let digits := if k.totals = .only then 1 else k.digits.getD 1
  String.intercalate " " (chosen.map (padded digits)) ++
    (if name = "" then "" else " " ++ name) ++ "\n"

def digitsFor (k : WordCount) (o : Outlook) : Nat :=
  if k.inputs.length = 1 ∧ k.wanted = 1 then 1
  else
    let seen := k.inputs.filterMap fun n =>
      match n with
      | none | some "-" => o.standard
      | some n =>
        match o.file n with
        | .ok s => some s
        | .error .isDirectory => some {}
        | .error _ => none
    let size := seen.foldl (fun n (s : Sight) => n + (if s.isRegular then s.size else 0)) 0
    max (toString size).length (if seen.all (·.isRegular) then 1 else 7)

def options : OptionTable where
  letters := [('c', .never), ('l', .never), ('L', .never), ('m', .never), ('w', .never)]
  words := [("bytes", .never, 'c'), ("chars", .never, 'm'), ("lines", .never, 'l'),
    ("words", .never, 'w'), ("debug", .never, 'D'), ("files0-from", .always, 'F'),
    ("max-line-length", .never, 'L'), ("total", .always, 'T')]

def totalsNamed? (name : String) : Option Totals :=
  let known := [("auto", Totals.ifMany), ("always", .always), ("only", .only), ("never", .never)]
  if name = "" then none
  else
    match known.filter fun x => x.1.startsWith name with
    | [x] => some x.2
    | _ => none

def badTotals (k : WordCount) (name : String) : String :=
  let isAmbiguous := name = "" || name = "a"
  k.name ++ ": " ++ (if isAmbiguous then "ambiguous" else "invalid") ++ " argument " ++
    Quoted.always name ++ " for '--total'\nValid arguments are:\n" ++
    "  - 'auto'\n  - 'always'\n  - 'only'\n  - 'never'\n" ++ hint k.name

def withOption (k : WordCount) (g : Given) : Except String WordCount :=
  match g with
  | .option 'l' _ => .ok { k with lines := true }
  | .option 'w' _ => .ok { k with words := true }
  | .option 'm' _ => .ok { k with characters := true }
  | .option 'c' _ => .ok { k with bytes := true }
  | .option 'L' _ => .ok { k with width := true }
  | .option 'T' (some name) =>
    match totalsNamed? name with
    | some t => .ok { k with totals := t }
    | none => .error (k.badTotals name)
  | .fault m => .error (k.name ++ ": " ++ m ++ "\n" ++ hint k.name)
  | _ => .ok k

/-- What a call with arguments does, or the message that it writes. -/
def ofArgs (name : String) (args : List String) : Except String WordCount := do
  let (given, operands) := options.read args
  let k ← given.foldlM withOption { name := name }
  let inputs := if operands.isEmpty then [none] else operands.map some
  let k := { k with inputs := inputs, left := inputs }
  return if k.wanted = 0 then { k with lines := true, words := true, bytes := true } else k

def report (k : WordCount) (c : Counts) (input : Option String) : List Effect × WordCount :=
  let c := c.close
  (if k.totals = .only then [] else [.output (k.row c ((input.map Quoted.ifNeeded).getD ""))],
    { k with total := k.total.join c })

def summary (k : WordCount) : List Effect :=
  let many : Bool := match k.totals with
    | .ifMany => decide (1 < k.inputs.length)
    | .always | .only => true
    | .never => false
  if many then [.output (k.row k.total (if k.totals = .only then "" else "total"))] else []

/-- What is done next: effects, and whether it is over; nothing while the standard input is
read. -/
def step (k : WordCount) (o : Outlook) : Option (List Effect × WordCount × Bool) :=
  if k.reading.isSome then none
  else
    let k := { k with digits := some (k.digits.getD (k.digitsFor o)) }
    match k.left with
    | [] => some (k.summary, k, true)
    | input :: left =>
      let k := { k with left := left }
      let refuse := fun (message : String) (k : WordCount) =>
        (Effect.error (k.name ++ ": " ++ message ++ "\n"), { k with status := 1 })
      let isStandard := input.all fun name => name = "-" || o.isStandard name
      match (if isStandard then none else input) with
      | none => some ([], { k with reading := some {} }, false)
      | some "" =>
        let (e, k) := refuse "invalid zero-length file name" k
        some ([e], k, false)
      | some name =>
        match o.file name with
        | .ok sight =>
          let (es, k) := k.report (Counts.read {} sight.text) input
          some (es, k, false)
        | .error e =>
          let (message, k) := refuse (Quoted.ifNeeded name ++ ": " ++ e.text) k
          let (es, k) := if e = .isDirectory then k.report {} input else ([], k)
          some (message :: es, k, false)

/-- The name under which the standard input is being read. -/
def current (k : WordCount) : Option String :=
  (k.inputs[k.inputs.length - k.left.length - 1]?).getD none

def receive (k : WordCount) (a : Arrived) : List Effect × WordCount :=
  let c := k.reading.getD {}
  match a with
  | .text s => ([], { k with reading := some (c.read s) })
  | .ended => { k with reading := none }.report c k.current
  | .broken e isOpen =>
    let complain := fun (name : String) => Effect.error (k.name ++ ": " ++ name ++ ": " ++ e.text ++ "\n")
    let (es, k) := { k with reading := none, status := 1 }.report {} k.current
    (complain (k.current.getD "'standard input'") ::
      (if isOpen then es else es ++ [complain "-"]), k)

end WordCount
end BuildRunner.Host
