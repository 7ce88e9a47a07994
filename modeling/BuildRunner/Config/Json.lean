import BuildRunner.Config.Basic
import BuildRunner.Json.Decode

set_option autoImplicit false

/-! # Settings as JSON

The settings that a JSON tree stands for. A name of a target may also be written as an object
with that name as its only key and null as its value.
-/

namespace BuildRunner

open Json (Decoded fill surplus wanted asText asOption)

/-- The one of several names that a tree stands for. -/
def Json.asName {α : Type} (ofName? : String → Option α) (what : String) : Json → Decoded α
  | .string s =>
    match ofName? s with
    | some a => .ok a
    | none => .error (.noForm what)
  | .object [(s, .null)] =>
    match ofName? s with
    | some a => .ok a
    | none => .error (.noForm what)
  | j => wanted j ("enum " ++ what)

def CheckTarget.ofJson : Json → Decoded CheckTarget := Json.asName ofName? "CheckTarget"

def CheckTarget.toJson (t : CheckTarget) : Json := .string t.name

namespace Environment

/-- Sets the variables of an object one after another. -/
def ofMembers (env : Environment) : List (String × Json) → Decoded Environment
  | [] => .ok env
  | (k, v) :: ms => do ofMembers (env.set k (← asText v)) ms

def ofJson : Json → Decoded Environment
  | .object ms => ofMembers [] ms
  | j => wanted j "a map"

def toJson (env : Environment) : Json := .object (env.map fun (k, v) => (k, .string v))

end Environment

namespace Config

inductive Field where
  | toolPath
  | toolHome
  | assignments
  | checkTarget
deriving Repr, DecidableEq

def Field.all : List Field := [.toolPath, .toolHome, .assignments, .checkTarget]

def Field.key : Field → String
  | .toolPath => "cargo_path"
  | .toolHome => "cargo_home"
  | .assignments => "env"
  | .checkTarget => "check_target"

/-- Settings of which some fields have been read. -/
structure Draft where
  toolPath : Option String := none
  toolHome : Option (Option String) := none
  assignments : Option Environment := none
  checkTarget : Option CheckTarget := none

def Draft.put (d : Draft) (f : Field) (v : Json) : Decoded Draft :=
  match f with
  | .toolPath => return { d with toolPath := ← fill f.key d.toolPath asText v }
  | .toolHome => return { d with toolHome := ← fill f.key d.toolHome (asOption asText) v }
  | .assignments => return { d with assignments := ← fill f.key d.assignments Environment.ofJson v }
  | .checkTarget => return { d with checkTarget := ← fill f.key d.checkTarget CheckTarget.ofJson v }

/-- The finished settings; what was not read has its default. -/
def Draft.finish (d : Draft) : Config :=
  let c : Config := {}
  ⟨d.toolPath.getD c.toolPath, d.toolHome.getD c.toolHome, d.assignments.getD c.assignments,
    d.checkTarget.getD c.checkTarget⟩

def record : Json.Record Field Draft Config where
  title := "struct RunnerConfig"
  fields := Field.all
  key := Field.key
  empty := {}
  put := Draft.put
  finish := fun _ d => .ok d.finish

def ofJson : Json → Decoded Config := record.ofJson

def toJson (c : Config) : Json :=
  .object [
    (Field.toolPath.key, .string c.toolPath),
    (Field.toolHome.key, match c.toolHome with
      | none => .null
      | some home => .string home),
    (Field.assignments.key, c.assignments.toJson),
    (Field.checkTarget.key, c.checkTarget.toJson)]

end Config
end BuildRunner
