import BuildRunner.Toml.Moment

set_option autoImplicit false

/-! # TOML values -/

namespace BuildRunner

inductive Toml where
  | string (s : String)
  | integer (n : Int)
  /-- A floating-point number, as it was written. -/
  | float (written : String)
  | boolean (b : Bool)
  | moment (m : Toml.Moment)
  | array (items : List Toml)
  | table (entries : List (String × Toml))
deriving Repr

end BuildRunner
