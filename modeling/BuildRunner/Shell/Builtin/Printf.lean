import BuildRunner.Shell.Builtin.Escape
import BuildRunner.Shell.Builtin.RealNumber

set_option autoImplicit false

/-! # The command that prints by a format

A format is used again as long as there are arguments left. A missing argument is an empty text
or zero. An argument that is no number is complained about and counts as far as it is one; a
format that is wrong ends the command behind what has been printed before.
-/

namespace BuildRunner.Shell.Printf

/-! ## Formats -/

/-- A width or a precision. -/
inductive Extent where
  | given (n : Nat)
  /-- It is the next argument. -/
  | argument
deriving Repr, DecidableEq

/-- A place in a format at which a value is printed. -/
structure Directive where
  flags : List Char := []
  width : Extent := .given 0
  precision : Option Extent := none
  kind : Char
  /-- The directive as it was written. -/
  text : String
deriving Repr

inductive Piece where
  | text (s : String)
  | value (d : Directive)
  /-- A directive whose kind is missing. -/
  | unfinished (width : Extent) (precision : Option Extent)
deriving Repr

/-- The width or the precision at the front, and the text behind it. -/
def extentAt (cs : List Char) : Extent × List Char :=
  match cs with
  | '*' :: rest => (.argument, rest)
  | cs =>
    let (n, rest) := Numeral.decimalAt cs
    (.given n, rest)

/-- The pieces of a format, whose escapes have not been undone. -/
def piecesFrom : Nat → List Char → List Piece
  | 0, _ => []
  | fuel + 1, cs =>
    match cs with
    | [] => []
    | '%' :: '%' :: rest => .text "%" :: piecesFrom fuel rest
    | '%' :: rest =>
      let flags := rest.takeWhile ("#-+ 0".toList.contains ·)
      let (width, behind) := extentAt (rest.drop flags.length)
      let (precision, behind) := match behind with
        | '.' :: behind =>
          let (p, behind) := extentAt behind
          (some p, behind)
        | _ => (none, behind)
      match behind with
      | [] => [.unfinished width precision]
      | kind :: behind =>
        let written := cs.take (cs.length - behind.length)
        .value ⟨flags, width, precision, kind, String.ofList written⟩ :: piecesFrom fuel behind
    | '\\' :: rest =>
      match Escape.behind false rest with
      | .char c n => .text (String.singleton c) :: piecesFrom fuel (rest.drop n)
      | _ => .text "\\" :: piecesFrom fuel rest
    | c :: rest => .text (String.singleton c) :: piecesFrom fuel rest

def pieces (format : String) : List Piece := piecesFrom (format.length + 1) format.toList

/-! ## Layout -/

structure Layout where
  flags : List Char := []
  width : Nat := 0
  precision : Option Nat := none
deriving Repr

def Layout.isLeft (l : Layout) : Bool := l.flags.contains '-'

def Layout.sign (l : Layout) (negative : Bool) : List Char :=
  if negative then ['-']
  else if l.flags.contains '+' then ['+']
  else if l.flags.contains ' ' then [' ']
  else []

/-- A value that fills its field: with zeros behind its front, or with blanks. -/
def Layout.fill (l : Layout) (zeros : Bool) (front body : List Char) : String :=
  let missing := l.width - (front.length + body.length)
  String.ofList <|
    if l.isLeft then front ++ body ++ List.replicate missing ' '
    else if zeros ∧ l.flags.contains '0' then front ++ List.replicate missing '0' ++ body
    else List.replicate missing ' ' ++ front ++ body

/-- Digits with zeros in front of them as far as the precision wants them. -/
def Layout.widened (l : Layout) (ds : List Char) : List Char :=
  let ds := if l.precision = some 0 ∧ ds = ['0'] then [] else ds
  List.replicate (l.precision.getD 0 - ds.length) '0' ++ ds

def Layout.signed (l : Layout) (n : Int) : String :=
  l.fill l.precision.isNone (l.sign (n < 0)) (l.widened (Nat.toDigits 10 n.natAbs))

def Layout.unsigned (l : Layout) (kind : Char) (n : Nat) : String :=
  let marked := l.flags.contains '#'
  let zeros := l.precision.isNone
  match kind with
  | 'o' =>
    let ds := l.widened (Nat.toDigits 8 n)
    l.fill zeros [] (if marked ∧ ds.head? ≠ some '0' then '0' :: ds else ds)
  | 'x' => l.fill zeros (if marked ∧ n ≠ 0 then ['0', 'x'] else []) (l.widened (Nat.toDigits 16 n))
  | 'X' =>
    l.fill zeros (if marked ∧ n ≠ 0 then ['0', 'X'] else [])
      ((l.widened (Nat.toDigits 16 n)).map Char.toUpper)
  | _ => l.fill zeros [] (l.widened (Nat.toDigits 10 n))

def Layout.real (l : Layout) (kind : Char) (x : RealNumber) : String :=
  let (body, zeros) := x.text kind.toLower (l.flags.contains '#') l.precision
  let cased := fun (cs : List Char) => if kind.isUpper then cs.map Char.toUpper else cs
  let sign := l.sign x.isNegative
  match kind.toLower, zeros with
  | 'a', true => l.fill true (sign ++ cased (body.take 2)) (cased (body.drop 2))
  | _, zeros => l.fill zeros sign (cased body)

/-- A text cut to its precision and laid out. -/
def Layout.text (l : Layout) (s : String) : String :=
  l.fill false [] (match l.precision with
    | some n => s.toList.take n
    | none => s.toList)

/-! ## Arguments -/

/-- What is wrong with a number of which `rest` is left. -/
def faultOf (rest : List Char) (outOfRange : Bool) : Option String :=
  if !rest.isEmpty then some "not completely converted"
  else if outOfRange then some "Numerical result out of range"
  else none

/-- The character that an argument names by a quote in front of it. -/
def named? (s : String) : Option Nat :=
  match s.toList with
  | '\'' :: rest | '"' :: rest => some ((rest.head?.map Char.toNat).getD 0)
  | _ => none

def notNumeric (s : String) : Option String := if s = "" then none else some "expected numeric value"

/-- The value of an argument as an integer, and what is wrong with it. Without a sign numbers wrap
around. -/
def integerOf (isSigned : Bool) (s : String) : Int × Option String :=
  match named? s with
  | some n => (n, none)
  | none =>
    match Numeral.signedAt? Numeral.anyAt s.toList with
    | none => (0, notNumeric s)
    | some (n, rest) =>
      let least : Int := if isSigned then -(twoTo 63) else -(twoTo 64 - 1)
      let greatest : Int := if isSigned then twoTo 63 - 1 else twoTo 64 - 1
      let bounded := if n < least then (if isSigned then least else greatest) else min greatest n
      (if isSigned then bounded else bounded % (twoTo 64 : Int), faultOf rest (bounded ≠ n))

/-- The value of an argument as a real number, and what is wrong with it. -/
def realOf (s : String) : RealNumber × Option String :=
  match named? s with
  | some n => (.ofNat n, none)
  | none =>
    match RealNumber.at? s with
    | none => (.ofNat 0, notNumeric s)
    | some found => (found.value, faultOf found.rest found.outOfRange)

/-! ## Printing -/

structure Printed where
  output : String := ""
  /-- What is wrong with arguments. -/
  complaints : List String := []
  /-- The arguments that are left. -/
  args : List String
  stopped : Bool := false
  /-- What is wrong with the format. -/
  failure : Option String := none
deriving Repr

namespace Printed

/-- The next argument, and what has been printed when it is used. -/
def next (p : Printed) : Option String × Printed := (p.args.head?, { p with args := p.args.drop 1 })

def print (p : Printed) (s : String) : Printed := { p with output := p.output ++ s }

/-- Complains about an argument if something is wrong with it. -/
def complain (p : Printed) (arg : String) (fault : Option String) : Printed :=
  { p with complaints := p.complaints ++ (fault.map fun f => arg ++ ": " ++ f).toList }

def nextInteger (p : Printed) (isSigned : Bool) : Int × Printed :=
  let (arg, p) := p.next
  let (n, fault) := integerOf isSigned (arg.getD "")
  (n, p.complain (arg.getD "") fault)

def extent (p : Printed) : Extent → Int × Printed
  | .given n => (n, p)
  | .argument => p.nextInteger true

def layout (p : Printed) (flags : List Char) (width : Extent) (precision : Option Extent) :
    Layout × Printed :=
  let (w, p) := p.extent width
  let (precision, p) := match precision with
    | none => (none, p)
    | some x =>
      let (n, p) := p.extent x
      (if n < 0 then none else some n.toNat, p)
  (⟨if w < 0 then '-' :: flags else flags, w.natAbs, precision⟩, p)

def value (p : Printed) (d : Directive) : Printed :=
  let (l, p) := p.layout d.flags d.width d.precision
  let kind := d.kind
  if "di".toList.contains kind then
    let (n, p) := p.nextInteger true
    p.print (l.signed n)
  else if "ouxX".toList.contains kind then
    let (n, p) := p.nextInteger false
    p.print (l.unsigned kind n.toNat)
  else if "aAeEfFgG".toList.contains kind then
    let (arg, p) := p.next
    let (x, fault) := realOf (arg.getD "")
    (p.complain (arg.getD "") fault).print (l.real kind x)
  else if kind = 's' then
    let (arg, p) := p.next
    p.print (l.text (arg.getD ""))
  else if kind = 'c' then
    let (arg, p) := p.next
    p.print (l.fill false [] [((arg.getD "").toList.head?).getD (Char.ofNat 0)])
  else if kind = 'b' then
    let (arg, p) := p.next
    let (s, stopped) := Escape.undo true (arg.getD "")
    { p.print (l.text s) with stopped := stopped }
  else { p with failure := some (d.text ++ ": invalid directive"), stopped := true }

def piece (p : Printed) (x : Piece) : Printed :=
  if p.stopped then p
  else
    match x with
    | .text s => p.print s
    | .value d => p.value d
    | .unfinished width precision =>
      { (p.layout [] width precision).2 with
        failure := some "missing format character", stopped := true }

/-- Prints by a format as often as arguments are left. -/
def all (ps : List Piece) (p : Printed) : Nat → Printed
  | 0 => p
  | fuel + 1 =>
    let q := ps.foldl piece p
    if q.args.isEmpty ∨ q.stopped ∨ q.args.length = p.args.length then q else all ps q fuel

def status (p : Printed) : Nat :=
  if p.failure.isSome then 2 else if p.complaints.isEmpty then 0 else 1

end Printed

def output (format : String) (args : List String) : Printed :=
  Printed.all (pieces format) { args := args } (args.length + 1)

end BuildRunner.Shell.Printf
