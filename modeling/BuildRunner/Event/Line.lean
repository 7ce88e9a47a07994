import BuildRunner.Event.Decode
import BuildRunner.Json.Reader

set_option autoImplicit false

/-! # Events from lines

A line is an event if it is a JSON text whose tree decodes as one. A line that is none is
explained by what a reader notices first: it goes through the lexemes, checks the reason of
the event where it stands, and looks at the payload once the event is complete.
-/

namespace BuildRunner

open Json (Lexeme LexemeKind Place Fault Reader Selector DecodeError Frame located)

namespace ToolEvent

def ofLine? (line : String) : Option ToolEvent :=
  match Json.readText line with
  | .error _ => none
  | .ok tree =>
    match ofJson tree with
    | .error _ => none
    | .ok event => some event

/-! ## Explaining what is no event -/

/-- Where a reader stands as far as the reason is concerned. -/
inductive Spot where
  /-- Before the whole value. -/
  | root
  /-- Before the value of the reason, in an object. -/
  | reason
  /-- Before the head of a list, which is the reason. -/
  | head
  /-- Behind the key of a reason, before its colon. -/
  | reasonColon
  /-- At the top level of an object, where it may end. -/
  | objectEnd
  /-- Anywhere else. -/
  | elsewhere
deriving DecidableEq

def spot (r : Reader Unit) : Spot :=
  match r.expects, r.frames with
  | .value _, [] => .root
  | .value _, [.object _ _ key] => if key = reasonKey then .reason else .elsewhere
  | .firstItem, [.array _ _] => .head
  | .colon, [.object _ _ key] => if key = reasonKey then .reasonColon else .elsewhere
  | .firstKey, [.object _ _ _] => .objectEnd
  | .next, [.object _ _ _] => .objectEnd
  | _, _ => .elsewhere

/-- The value of a lexeme that is a whole value. -/
def scalar? (x : Lexeme) : Option Json :=
  match x.kind with
  | .null => some .null
  | .bool b => some (.bool b)
  | .string (.ok s) => some (.string s)
  | .number (.ok n) => some (.number n)
  | _ => none

/-- The message for a value of the wrong kind. -/
def wrongKind (j : Json) (wanted : String) : String :=
  (DecodeError.wrongKind j.describe wanted).message

/-- The message for a value that is wanted to be a reason and starts with `x`. -/
def reasonProblem (x : Lexeme) : Option String :=
  match x.kind with
  | .openBracket => some (located (wrongKind (.array []) "variant identifier") x.start)
  | .openBrace => some (located (wrongKind (.object []) "variant identifier") x.start)
  | _ =>
    match scalar? x with
    | some (.string _) => none
    | some j => some (located (wrongKind j "variant identifier") x.stop)
    | none => none

/-- The message for an event that ends without a reason. -/
def missingProblem (p : Place) : String :=
  located (DecodeError.missingField reasonKey).message p

/-- The place at which a repeated reason is noticed: before the next lexeme, or behind it if
it closes the object. -/
def duplicatePlace (x : Lexeme) : Place :=
  match x.kind with
  | .closeBrace => x.stop
  | _ => x.start

def duplicateProblem (p : Place) : String :=
  located (DecodeError.duplicateField reasonKey).message p

/-- What is wrong with the reason at the lexeme `x`, where `seen` says whether the event has
one already. -/
def problemAt (s : Spot) (seen : Bool) (x : Lexeme) : Option String :=
  match s with
  | .root => (scalar? x).map fun j => located (wrongKind j title) x.stop
  | .reason => reasonProblem x
  | .head =>
    match x.kind with
    | .closeBracket => some (missingProblem x.stop)
    | _ => reasonProblem x
  | .reasonColon => if seen then some (duplicateProblem (duplicatePlace x)) else none
  | .objectEnd =>
    match x.kind with
    | .closeBrace => if seen then none else some (missingProblem x.stop)
    | _ => none
  | .elsewhere => none

/-- What is wrong with a complete value and the lexemes behind it. -/
def problemOf (tree : Json) (rest : List Lexeme) : String :=
  match ofJson tree with
  | .error e => e.message
  | .ok _ => ((Json.trailing rest).map Fault.message).getD ""

/-- What a reader of the lexemes notices first. -/
def firstProblem (r : Reader Unit) (seen : Bool) (stop : Place) : List Lexeme → String
  | [] =>
    if seen && spot r = .reasonColon then duplicateProblem stop
    else Fault.message ⟨r.missing, stop⟩
  | x :: xs =>
    match problemAt (spot r) seen x with
    | some message => message
    | none =>
      match r.next .all x with
      | .error fault => fault.message
      | .ok (.inr tree) => problemOf tree xs
      | .ok (.inl r') => firstProblem r' (seen || spot r = .reason) stop xs

/-- What is wrong with a line that is no event. -/
def explain (line : String) : String :=
  let (xs, stop) := Json.lexemes line
  firstProblem (.start ()) false stop xs

/-- The event of a line, or what is wrong with it. -/
def ofLine (line : String) : Except String ToolEvent :=
  match ofLine? line with
  | some event => .ok event
  | none => .error (explain line)

end ToolEvent

/-- A line of the tool that is no event. -/
structure Malformed where
  input : String
  reason : String
deriving Repr, DecidableEq

def Malformed.message (e : Malformed) : String := "Malformed tool event: " ++ e.reason

end BuildRunner
