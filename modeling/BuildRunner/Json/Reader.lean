import BuildRunner.Json.Lexeme

set_option autoImplicit false

/-! # Reading JSON

A reader takes one lexeme after another. It keeps the arrays and objects that are still open
in a stack of frames, the innermost first, and knows what may come next. It refuses a text
that opens more than `depthLimit` of them inside each other.

What a caller does not look at may be passed over. A `Selector` says, for every member and
item, in which state a value is read there; a value in a state that is not kept is checked
for its form only, is not counted as nested, and does not appear in the tree.
-/

namespace BuildRunner.Json

/-- Which parts of a value are kept. -/
structure Selector (σ : Type) where
  /-- The state in which the member with a key is read. -/
  member : σ → String → σ
  /-- The state in which the item with an index is read. -/
  item : σ → Nat → σ
  /-- Whether what is read in a state appears in the tree. -/
  kept : σ → Bool

def Selector.all : Selector Unit := ⟨fun _ _ => (), fun _ _ => (), fun _ => true⟩

/-- The number of arrays and objects that may be open at the same time. -/
def depthLimit : Nat := 127

/-- An array or object that is still open, with what it holds so far in reverse order. -/
inductive Frame (σ : Type) where
  | array (state : σ) (items : List Json)
  | object (state : σ) (members : List (String × Json)) (key : String)

/-- The state in which an open array or object is read. -/
def Frame.state {σ : Type} : Frame σ → σ
  | .array s _ => s
  | .object s _ _ => s

inductive Expectation (σ : Type) where
  /-- A value, to be read in a state. -/
  | value (state : σ)
  /-- The first item of an array or its end. -/
  | firstItem
  /-- An item of an array, behind a comma. -/
  | item
  /-- The first key of an object or its end. -/
  | firstKey
  /-- A key of an object, behind a comma. -/
  | key
  /-- The colon behind a key. -/
  | colon
  /-- A comma, or the end of the innermost array or object. -/
  | next

structure Reader (σ : Type) where
  frames : List (Frame σ)
  expects : Expectation σ

/-- The place that is named when a lexeme is not what may come next. -/
def Lexeme.peek (x : Lexeme) : Place :=
  match x.kind with
  | .broken c _ => x.start.inside c
  | _ => x.start.shift 1

namespace Reader

variable {σ : Type}

def start (s : σ) : Reader σ := ⟨[], .value s⟩

/-- The result of a lexeme: another reader, or the whole value. -/
abbrev Progress (σ : Type) := Reader σ ⊕ Json

/-- What follows when the value `v`, read in state `s`, is complete. -/
def complete (sel : Selector σ) (s : σ) (v : Json) : List (Frame σ) → Progress σ
  | [] => .inr v
  | .array t items :: frames =>
    .inl ⟨.array t (if sel.kept s then v :: items else items) :: frames, .next⟩
  | .object t members key :: frames =>
    .inl ⟨.object t (if sel.kept s then (key, v) :: members else members) key :: frames, .next⟩

def closed : Frame σ → Json
  | .array _ items => .array items.reverse
  | .object _ members _ => .object members.reverse

/-- What follows when the innermost frame `f` is closed. -/
def close (sel : Selector σ) (f : Frame σ) (frames : List (Frame σ)) : Progress σ :=
  complete sel f.state (closed f) frames

/-- Opens a frame, unless too many are open. -/
def opens (sel : Selector σ) (r : Reader σ) (s : σ) (f : Frame σ) (e : Expectation σ)
    (x : Lexeme) : Except Fault (Progress σ) :=
  if sel.kept s && depthLimit ≤ r.frames.length then .error ⟨.tooDeep, x.peek⟩
  else .ok (.inl ⟨f :: r.frames, e⟩)

/-- The value of a lexeme that is kept, or any value if it is not. -/
def scalar (sel : Selector σ) (r : Reader σ) (s : σ) (v : Except Fault Json) :
    Except Fault (Progress σ) :=
  match v with
  | .ok v => .ok (complete sel s v r.frames)
  -- Digits and escapes of what is passed over were checked for their form only.
  | .error fault => if sel.kept s then .error fault else .ok (complete sel s .null r.frames)

/-- A value wanted in state `s` that starts with the lexeme `x`. -/
def nextValue (sel : Selector σ) (r : Reader σ) (s : σ) (x : Lexeme) :
    Except Fault (Progress σ) :=
  match x.kind with
  | .null => scalar sel r s (.ok .null)
  | .bool b => scalar sel r s (.ok (.bool b))
  | .string v => scalar sel r s (v.map .string)
  | .number v => scalar sel r s (v.map .number)
  | .openBracket => opens sel r s (.array s []) .firstItem x
  | .openBrace => opens sel r s (.object s [] "") .firstKey x
  | .broken _ fault => .error fault
  | _ => .error ⟨.expectedValue, x.peek⟩

/-- A key wanted in the object with state `s`. -/
def nextKey (sel : Selector σ) (s : σ) (members : List (String × Json)) (frames : List (Frame σ))
    (x : Lexeme) : Except Fault (Progress σ) :=
  match x.kind with
  | .string (.ok k) => .ok (.inl ⟨.object s members k :: frames, .colon⟩)
  | .string (.error fault) =>
    if sel.kept s then .error fault else .ok (.inl ⟨.object s members "" :: frames, .colon⟩)
  | .broken '"' fault => .error fault
  | _ => .error ⟨.keyNotString, x.peek⟩

/-- The state in which the next item of an array is read. -/
def itemState (sel : Selector σ) (s : σ) (items : List Json) : σ := sel.item s items.length

def next (sel : Selector σ) (r : Reader σ) (x : Lexeme) : Except Fault (Progress σ) :=
  match r.expects, r.frames with
  | .value s, _ => nextValue sel r s x
  | .firstItem, .array s items :: frames =>
    match x.kind with
    | .closeBracket => .ok (close sel (.array s items) frames)
    | _ => nextValue sel r (itemState sel s items) x
  | .item, .array s items :: _ =>
    match x.kind with
    | .closeBracket => .error ⟨.trailingComma, x.peek⟩
    | _ => nextValue sel r (itemState sel s items) x
  | .firstKey, .object s members key :: frames =>
    match x.kind with
    | .closeBrace => .ok (close sel (.object s members key) frames)
    | _ => nextKey sel s members frames x
  | .key, .object s members _ :: frames =>
    match x.kind with
    | .closeBrace => .error ⟨.trailingComma, x.peek⟩
    | _ => nextKey sel s members frames x
  | .colon, .object s members key :: frames =>
    match x.kind with
    | .colon => .ok (.inl ⟨.object s members key :: frames, .value (sel.member s key)⟩)
    | _ => .error ⟨.expectedColon, x.peek⟩
  | .next, .array s items :: frames =>
    match x.kind with
    | .comma => .ok (.inl ⟨.array s items :: frames, .item⟩)
    | .closeBracket => .ok (close sel (.array s items) frames)
    | _ => .error ⟨.expectedCommaOrBracket, x.peek⟩
  | .next, .object s members key :: frames =>
    match x.kind with
    | .comma => .ok (.inl ⟨.object s members key :: frames, .key⟩)
    | .closeBrace => .ok (close sel (.object s members key) frames)
    | _ => .error ⟨.expectedCommaOrBrace, x.peek⟩
  -- No reader that has started gets here: what it expects fits its frames.
  | _, _ => .error ⟨.expectedValue, x.peek⟩

def missing (r : Reader σ) : Problem :=
  match r.expects, r.frames with
  | .firstItem, _ => .endInArray
  | .firstKey, _ => .endInObject
  | .colon, _ => .endInObject
  | .next, .array _ _ :: _ => .endInArray
  | .next, .object _ _ _ :: _ => .endInObject
  | _, _ => .endInValue

/-- Takes lexemes up to the end of the value: the value and the lexemes behind it. -/
def run (sel : Selector σ) (r : Reader σ) (stop : Place) :
    List Lexeme → Except Fault (Json × List Lexeme)
  | [] => .error ⟨r.missing, stop⟩
  | x :: xs =>
    match r.next sel x with
    | .error fault => .error fault
    | .ok (.inr v) => .ok (v, xs)
    | .ok (.inl r) => run sel r stop xs

end Reader

def trailing : List Lexeme → Option Fault
  | [] => none
  | x :: _ => some ⟨.trailingCharacters, x.peek⟩

/-- The value of a text of which the parts that `sel` names are kept. -/
def readWith {σ : Type} (sel : Selector σ) (s : σ) (text : String) : Except Fault Json := do
  let (xs, stop) := lexemes text
  let (v, rest) ← Reader.run sel (.start s) stop xs
  match trailing rest with
  | none => .ok v
  | some fault => .error fault

def readText (text : String) : Except Fault Json := readWith .all () text

end BuildRunner.Json
