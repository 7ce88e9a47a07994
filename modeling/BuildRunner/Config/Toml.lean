import BuildRunner.Config.Basic
import BuildRunner.Config.Json
import BuildRunner.Toml.Document

set_option autoImplicit false

/-! # Settings as TOML

The settings that a TOML text stands for. Unknown keys do not count. The name of a target may
also be written as a table with that name as its only key and nothing under it.
-/

namespace BuildRunner

def Toml.asText : Toml → Option String
  | .string s => some s
  | _ => none

def Toml.isVacant : Toml → Bool
  | .array [] | .table [] => true
  | _ => false

def CheckTarget.ofToml : Toml → Option CheckTarget
  | .string s => ofName? s
  | .table [(s, v)] => if v.isVacant then ofName? s else none
  | _ => none

namespace Environment

/-- The only key of a moment that stands where a table is wanted. -/
def momentKey : String := "$__toml_private_datetime"

/-- The environment that a value stands for; a moment is a table of its text alone. -/
def ofToml : Toml → Option Environment
  | .table entries => entries.mapM fun (k, v) => v.asText.map fun s => (k, s)
  | .moment m => some [(momentKey, m.text)]
  | _ => none

end Environment

namespace Config

/-- The value of a field that a table may lack. -/
def fieldOf {α : Type} (entries : List (String × Toml)) (f : Field) (decode : Toml → Option α)
    (vacant : α) : Option α :=
  match entries.lookup f.key with
  | none => some vacant
  | some v => decode v

def ofToml (entries : List (String × Toml)) : Option Config := do
  let c : Config := {}
  return {
    toolPath := ← fieldOf entries .toolPath Toml.asText c.toolPath
    toolHome := ← fieldOf entries .toolHome (fun v => v.asText.map some) c.toolHome
    assignments := ← fieldOf entries .assignments Environment.ofToml c.assignments
    checkTarget := ← fieldOf entries .checkTarget CheckTarget.ofToml c.checkTarget }

def ofText? (text : String) : Option Config := (Toml.read text).bind ofToml

end Config
end BuildRunner
