import BuildRunner.Json.Reader

set_option autoImplicit false

/-! # Reading what a record needs

A text that is read as a record is decoded only where the record has a field. Unknown
members are passed over: they have to be well formed, but may hold numbers that are too large
or surrogates without a partner, and may be nested without limit.
-/

namespace BuildRunner.Json

/-- What is kept of a value, where `ρ` names records. -/
inductive Shape (ρ : Type) where
  /-- All of it. -/
  | whole
  /-- Nothing. -/
  | passed
  /-- The fields of a record. -/
  | record (r : ρ)
  /-- The items of a list, each in the same way. -/
  | list (item : Shape ρ)

variable {ρ : Type}

/-- The fields of every record with what is kept of each. -/
abbrev Layout (ρ : Type) := ρ → List (String × Shape ρ)

def Shape.member (layout : Layout ρ) : Shape ρ → String → Shape ρ
  | .record r, k => ((layout r).lookup k).getD .passed
  | .passed, _ => .passed
  | _, _ => .whole

def Shape.item (layout : Layout ρ) : Shape ρ → Nat → Shape ρ
  | .record r, i =>
    match (layout r)[i]? with
    | some (_, s) => s
    | none => .whole
  | .list s, _ => s
  | .passed, _ => .passed
  | .whole, _ => .whole

def Shape.isKept : Shape ρ → Bool
  | .passed => false
  | _ => true

def Layout.selector (layout : Layout ρ) : Selector (Shape ρ) :=
  ⟨Shape.member layout, Shape.item layout, Shape.isKept⟩

end BuildRunner.Json
