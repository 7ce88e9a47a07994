import BuildRunner.Json.Shape
import BuildRunner.Event.Decode
import BuildRunner.Diagnostic.Json

set_option autoImplicit false

/-! # Records in JSON texts

The layouts of all records that are read from JSON, and the reading of a text as one of
them.
-/

namespace BuildRunner

open Json (Shape Layout Decoded)

/-- The records that are read from JSON. -/
inductive RecordName where
  | spanText
  | expansion
  | span
  | child
  | message
  | position
  | range
  | diagnostic
  | config
deriving Repr, DecidableEq

namespace RecordName

def fields {φ : Type} (all : List φ) (key : φ → String) (shape : φ → Shape RecordName) :
    List (String × Shape RecordName) :=
  all.map fun f => (key f, shape f)

def spanShape : Span.Field → Shape RecordName
  | .expansion => .record .expansion
  | .text => .list (.record .spanText)
  | _ => .whole

def expansionShape : Expansion.Field → Shape RecordName
  | .macroName => .whole
  | _ => .record .span

def childShape : Child.Field → Shape RecordName
  | .children => .list (.record .child)
  | _ => .whole

def messageShape : CompilerMessage.Field → Shape RecordName
  | .spans => .list (.record .span)
  | .children => .list (.record .child)
  | _ => .whole

def diagnosticShape : Diagnostic.Field → Shape RecordName
  | .range => .record .range
  | _ => .whole

def layout : Layout RecordName
  | .spanText => fields SpanText.Field.all SpanText.Field.key fun _ => .whole
  | .expansion => fields Expansion.Field.all Expansion.Field.key expansionShape
  | .span => fields Span.Field.all Span.Field.key spanShape
  | .child => fields Child.Field.all Child.Field.key childShape
  | .message => fields CompilerMessage.Field.all CompilerMessage.Field.key messageShape
  | .position => fields Position.Field.all Position.Field.key fun _ => .whole
  | .range => fields Range.Field.all Range.Field.key fun _ => .record .position
  | .diagnostic => fields Diagnostic.Field.all Diagnostic.Field.key diagnosticShape
  | .config => fields Config.Field.all Config.Field.key fun _ => .whole

end RecordName

/-- The value of type `α` that a text of a given shape stands for, if it does. -/
def readAs? {α : Type} (shape : Shape RecordName) (decode : Json → Decoded α) (text : String) :
    Option α :=
  match Json.readWith RecordName.layout.selector shape text with
  | .error _ => none
  | .ok tree => (decode tree).toOption

end BuildRunner
