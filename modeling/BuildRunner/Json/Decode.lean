import BuildRunner.Json.Value
import BuildRunner.Number.Power

set_option autoImplicit false

/-! # Decoding trees

What can be wrong with a JSON tree that stands for a record, and the parts from which
decoders are built. A record is an object, in which each known key stands at most once and
unknown keys do not count, or an array of its fields in their order, from which fields with
a default may be missing at the end.
-/

namespace BuildRunner.Json

/-- Why a tree does not stand for a value of the wanted type. -/
inductive DecodeError where
  /-- Something of another kind than wanted. -/
  | wrongKind (found wanted : String)
  /-- Something of the wanted kind, but out of range. -/
  | outOfRange (found wanted : String)
  /-- A list with too few or too many items. -/
  | wrongLength (found : Nat) (wanted : String)
  | duplicateField (name : String)
  | missingField (name : String)
  /-- Something that is none of several forms. -/
  | noForm (name : String)
deriving Repr, DecidableEq

def DecodeError.message : DecodeError → String
  | .wrongKind found wanted => "invalid type: " ++ found ++ ", expected " ++ wanted
  | .outOfRange found wanted => "invalid value: " ++ found ++ ", expected " ++ wanted
  | .wrongLength found wanted => "invalid length " ++ toString found ++ ", expected " ++ wanted
  | .duplicateField name => "duplicate field `" ++ name ++ "`"
  | .missingField name => "missing field `" ++ name ++ "`"
  | .noForm name => "data did not match any variant of untagged enum " ++ name

abbrev Decoded (α : Type) := Except DecodeError α

/-- `j` is not what was wanted. -/
def wanted {α : Type} (j : Json) (what : String) : Decoded α :=
  .error (.wrongKind j.describe what)

/-! ## Values -/

def asText : Json → Decoded String
  | .string s => .ok s
  | j => wanted j "a string"

def asBool : Json → Decoded Bool
  | .bool b => .ok b
  | j => wanted j "a boolean"

/-- A number of 32 bits. -/
def asWord : Json → Decoded UInt32
  | .number (.natural n) =>
    if n < twoTo 32 then .ok (UInt32.ofNat n)
    else .error (.outOfRange (describe (.number (.natural n))) "u32")
  | .number (.negative n) => .error (.outOfRange (describe (.number (.negative n))) "u32")
  | j => wanted j "u32"

def asList {α : Type} (item : Json → Decoded α) : Json → Decoded (List α)
  | .array items => items.mapM item
  | j => wanted j "a sequence"

def isNull : Json → Bool
  | .null => true
  | _ => false

def asOption {α : Type} (value : Json → Decoded α) (j : Json) : Decoded (Option α) :=
  if j.isNull then .ok none else (value j).map some

/-! ## Fields -/

/-- The value `v` for the field `name` whose slot must be vacant. -/
def fill {α : Type} (name : String) (slot : Option α) (value : Json → Decoded α) (v : Json) :
    Decoded (Option α) :=
  if slot.isSome then .error (.duplicateField name) else (value v).map some

/-- Refuses a field that is given twice. -/
def vacant {α : Type} (name : String) (slot : Option α) : Decoded Unit :=
  if slot.isSome then .error (.duplicateField name) else .ok ()

/-- A number of items in words. -/
def itemCount (n : Nat) : String :=
  toString n ++ (if n = 1 then " element" else " elements")

/-- Too many items in the list form of a record with `n` fields. -/
def surplus {α : Type} (n : Nat) (items : List Json) : Decoded α :=
  .error (.wrongLength (n + items.length) (itemCount n ++ " in sequence"))

/-- How a record without a required field is refused: in its object form by the name of the
field, in its list form by the number of items. -/
inductive Form where
  | object
  | list (record : String) (size : Nat)

/-- The value of a required field, the `index`-th of its record. -/
def required {α : Type} (form : Form) (name : String) (index : Nat) : Option α → Decoded α
  | some a => .ok a
  | none =>
    match form with
    | .object => .error (.missingField name)
    | .list record size => .error (.wrongLength index (record ++ " with " ++ itemCount size))

/-! ## Records -/

/-- How a record `α` with the fields `φ` is read, by way of a draft `δ` in which some fields
have their values already. -/
structure Record (φ δ α : Type) where
  /-- What the record is called where it was wanted. -/
  title : String
  /-- The fields in their order. -/
  fields : List φ
  /-- The key of a field. -/
  key : φ → String
  /-- The draft without any field. -/
  empty : δ
  /-- Puts a value into the slot of a field. -/
  put : δ → φ → Json → Decoded δ
  /-- The finished record. -/
  finish : Form → δ → Decoded α

namespace Record

variable {φ δ α : Type}

def field? (r : Record φ δ α) (k : String) : Option φ := r.fields.find? fun f => r.key f = k

/-- Puts the members of an object into their slots. -/
def ofMembers (r : Record φ δ α) (d : δ) : List (String × Json) → Decoded δ
  | [] => .ok d
  | (k, v) :: ms =>
    match r.field? k with
    | none => r.ofMembers d ms
    | some f => do r.ofMembers (← r.put d f v) ms

/-- Puts the items of a list into the slots of `fields`. -/
def ofItems (r : Record φ δ α) (d : δ) (fields : List φ) : List Json → Decoded δ
  | [] => .ok d
  | j :: js =>
    match fields with
    | [] => surplus r.fields.length (j :: js)
    | f :: fs => do r.ofItems (← r.put d f j) fs js

def ofJson (r : Record φ δ α) : Json → Decoded α
  | .object ms => do r.finish .object (← r.ofMembers r.empty ms)
  | .array js => do
    r.finish (.list r.title r.fields.length) (← r.ofItems r.empty r.fields js)
  | j => wanted j r.title

end Record
end BuildRunner.Json
