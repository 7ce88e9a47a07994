import BuildRunner.Shell.Arithmetic
import BuildRunner.Shell.Field

set_option autoImplicit false

/-! # Expansion of words

A word becomes a list of glyphs, and the glyphs become fields or one text. An expansion that
needs the output of a script stops there with the script and what the shell remembers at that
point; it is made again when the output is known, so that no half of an expansion has to be kept.
-/

namespace BuildRunner.Shell

/-! ## Expansions that need outputs -/

structure Progress where
  memory : Memory
  /-- The outputs of scripts that have not been used. -/
  outputs : List String := []

inductive Stop where
  /-- It fails, which ends the shell. -/
  | failure (reason : String)
  /-- It needs the output of a script. -/
  | output (script : Command) (memory : Memory)

abbrev Expanding := StateT Progress (Except Stop)

namespace Expanding

def fail {α : Type} (reason : String) : Expanding α := fun _ => .error (.failure reason)

def memory : Expanding Memory := return (← get).memory

/-- Does something that may fail with the memory. -/
def update (change : Memory → Except String Memory) : Expanding Unit := do
  match change (← memory) with
  | .ok m => modify fun p => { p with memory := m }
  | .error reason => fail reason

def output (script : Command) : Expanding String := fun p =>
  match p.outputs with
  | o :: rest => .ok (o, { p with outputs := rest })
  | [] => .error (.output script p.memory)

end Expanding

/-! ## Glyphs -/

/-- Where a tilde stands for a directory. -/
inductive TildePlace where
  | nowhere
  | front
  /-- Also behind a colon. -/
  | path
deriving Repr, DecidableEq

structure Manner where
  /-- Whether the word becomes fields. -/
  fields : Bool := false
  quoted : Bool := false
  /-- Whether the characters of the script are split as well. -/
  operand : Bool := false
  tilde : TildePlace := .nowhere
deriving Repr, DecidableEq

def resultGlyphs (quoted : Bool) (s : String) : List Glyph :=
  if quoted then s.toList.map .quoted else .seam false :: s.toList.map .expanded

/-- The arguments as the characters of one text, of which nothing stands for a border. -/
def argumentChars (m : Memory) (w : Manner) (name : String) : List (Option Char) :=
  let texts := m.arguments.map fun a => a.toList.map some
  let joined := fun (s : String) => List.intercalate (s.toList.map some) texts
  if name = "@" ∧ w.quoted ∧ w.fields then List.intercalate [none] texts
  else if w.quoted ∨ !w.fields then joined m.joint
  else if (m.get? "IFS").isSome then List.intercalate [none] texts
  else joined " "

/-- The value of a parameter as characters, if it has one. -/
def valueChars (m : Memory) (w : Manner) (name : String) : Option (List (Option Char)) :=
  if name = "@" ∨ name = "*" then some (argumentChars m w name)
  else (m.parameter? name).map fun s => s.toList.map some

def isGiven (m : Memory) (w : Manner) (name : String) (orNull : Bool) : Bool :=
  match valueChars m w name with
  | none => false
  | some cs => !orNull || !cs.isEmpty

def valueGlyphs (m : Memory) (w : Manner) (name : String) (cs : List (Option Char)) : List Glyph :=
  let glyph := fun (c : Option Char) =>
    match c with
    | some c => if w.quoted then Glyph.quoted c else .expanded c
    | none => .border
  let isApart := name = "@" && w.quoted && !m.arguments.isEmpty
  (if isApart then [.seam true] else if w.quoted then [] else [.seam false]) ++ cs.map glyph

/-- The characters in front of the first border. -/
def frontText (cs : List (Option Char)) : List Char := (cs.takeWhile Option.isSome).filterMap id

/-- The value without the part that a pattern stands for. The pattern sees nothing of a text behind
a border; the shortest part at the start and the longest one at the end do not reach over the
first one. -/
def trimmed (use : Use) (p : Pattern) (cs : List (Option Char)) : List (Option Char) :=
  let upward := List.range ((frontText cs).length + 1)
  let downward := (List.range (cs.length + 1)).reverse
  match use with
  | .dropStart longest =>
    let place? := (if longest then downward else upward).find? fun n =>
      p.accepts (frontText (cs.take n))
    (place?.map cs.drop).getD cs
  | .dropEnd longest =>
    let place? := (if longest then upward else downward).find? fun n =>
      p.accepts (frontText (cs.drop n))
    (place?.map cs.take).getD cs
  | _ => cs

/-! ## Tildes -/

def homeOf (m : Memory) (name : String) : Option String :=
  if name = "" then m.get? "HOME" else [("root", "/root")].lookup name

/-- A text of the script in which tildes stand for directories. `closed` says whether nothing
that is quoted or expanded follows the text, `atFront` whether a tilde may stand here. -/
def tildeGlyphs (m : Memory) (w : Manner) (closed : Bool) :
    Nat → Bool → List Char → List Glyph
  | 0, _, _ => []
  | _, _, [] => []
  | fuel + 1, atFront, c :: cs =>
    let ends := fun (d : Char) => d = '/' || (w.tilde = .path && d = ':')
    let name := cs.takeWhile fun d => !ends d
    let rest := cs.drop name.length
    let home := if c = '~' ∧ atFront ∧ (closed ∨ !rest.isEmpty) then homeOf m (String.ofList name)
      else none
    match home with
    | some h => h.toList.map .quoted ++ tildeGlyphs m w closed fuel false rest
    | none =>
      (if w.operand then .expanded c else .plain c) ::
        tildeGlyphs m w closed fuel (w.tilde = .path && c = ':') cs

/-- The glyphs of a text of the script. -/
def textGlyphs (m : Memory) (w : Manner) (atFront closed : Bool) (s : String) : List Glyph :=
  if w.quoted then s.toList.map .quoted
  else
    let cs := s.toList
    (if w.operand then [.seam false] else []) ++
      (if w.tilde = .nowhere then cs.map fun c => if w.operand then .expanded c else .plain c
        else tildeGlyphs m w closed (cs.length + 1) atFront cs)

/-- Whether quotes hold the arguments and nothing else. -/
def areArguments : List Part → Bool
  | [.parameter "@" .plain _] => true
  | _ => false

def unsetReason (name : String) (orNull : Bool) : String :=
  name ++ ": parameter not set" ++ (if orNull then " or null" else "")

mutual

def partGlyphs (w : Manner) (atFront closed : Bool) : Part → Expanding (List Glyph)
  | .text s => return textGlyphs (← Expanding.memory) w atFront closed s
  | .literal s => return s.toList.map .quoted
  | .quotes inside => do
    let gs ← wordGlyphs { w with quoted := true } false inside
    -- Quotes make a word even of nothing, except around the arguments when there are none.
    return if areArguments inside then gs else .mark :: gs ++ [.mark]
  | .output script => return resultGlyphs w.quoted (← Expanding.output script)
  | .arithmetic expression => do
    let text := Glyph.text (← wordGlyphs {} false expression)
    match Arithmetic.valueOfText (← Expanding.memory) text with
    | .ok (n, m) =>
      Expanding.update fun _ => .ok m
      return resultGlyphs w.quoted (toString n)
    | .error reason => Expanding.fail reason
  | .parameter name use operand => do
    let m ← Expanding.memory
    let value := valueChars m w name
    let kept := fun (m : Memory) (cs : List (Option Char)) => valueGlyphs m w name cs
    let front : Manner := { w with
      tilde := if w.tilde = .nowhere then .front else w.tilde, operand := !w.quoted }
    let bare : Manner := { tilde := .front }
    let needed := fun (value : Option (List (Option Char))) => do
      if value.isNone ∧ m.has .refuseUnset then Expanding.fail (unsetReason name false)
      else return value.getD []
    match use with
    | .unknown => Expanding.fail "Bad substitution"
    | .plain => return kept m (← needed value)
    | .length => return resultGlyphs w.quoted (toString (← needed (valueChars m {} name)).length)
    | .orElse orNull =>
      if isGiven m w name orNull then return kept m (value.getD [])
      else wordGlyphs front true operand
    | .instead orNull =>
      if isGiven m w name orNull then wordGlyphs front true operand else return []
    | .orAssign orNull =>
      if isGiven m w name orNull then return kept m (value.getD [])
      else
        let text := Glyph.text (← wordGlyphs { bare with quoted := false } true operand)
        Expanding.update fun m => m.assign name text
        -- The operand may have assigned too, so the value is looked up behind it.
        let m ← Expanding.memory
        return kept m ((valueChars m w name).getD [])
    | .orFail orNull =>
      if isGiven m w name orNull then return kept m (value.getD [])
      else
        let text := Glyph.text (← wordGlyphs bare true operand)
        Expanding.fail (if operand.isEmpty then unsetReason name orNull else name ++ ": " ++ text)
    | .dropStart _ | .dropEnd _ => do
      let cs ← needed value
      if value.isNone then return kept m []
      else
        let p := Glyph.pattern (← wordGlyphs bare true operand)
        return kept m (trimmed use p cs)
termination_by structural p => p

/-- The glyphs of parts, in front of which a tilde may stand for a directory. -/
def wordGlyphs (w : Manner) (atFront : Bool) : List Part → Expanding (List Glyph)
  | [] => return []
  | p :: ps => do
    let gs ← partGlyphs w atFront ps.isEmpty p
    return gs ++ (← wordGlyphs w false ps)
termination_by structural ps => ps

end

/-! ## Texts and fields -/

def expandText (w : Word) : Expanding String :=
  return Glyph.text (← wordGlyphs { tilde := .front } true w)

def expandValue (w : Word) : Expanding String :=
  return Glyph.text (← wordGlyphs { tilde := .path } true w)

def expandDocument (d : Document) : Expanding String :=
  return Glyph.text (← wordGlyphs { quoted := true } false d.body)

def expandPattern (w : Word) : Expanding Pattern :=
  return Glyph.pattern (← wordGlyphs { tilde := .front } true w)

/-- Names of files that characters of a pattern stand for, in order. -/
abbrev Matching := List PatternChar → List String

/-- The texts of a field: the files that it stands for, or the field itself if there is none. -/
def fieldTexts (m : Memory) (matching : Matching) (field : List Glyph) : List String :=
  if m.has .keepPatterns ∨ !(Glyph.pattern field).isActive then [Glyph.text field]
  else
    match matching (Glyph.patternChars field) with
    | [] => [Glyph.text field]
    | found => found

def expandFields (matching : Matching) (w : Word) : Expanding (List String) := do
  let gs ← wordGlyphs { fields := true, tilde := .front } true w
  let m ← Expanding.memory
  return (splitFields m.separators gs).flatMap (fieldTexts m matching)

/-- The text of an argument that assigns, which is not split. -/
def expandAssignment (name : String) (w : Word) : Expanding (List String) :=
  return [name ++ "=" ++ (← expandValue w)]

end BuildRunner.Shell
