set_option autoImplicit false

/-! # Notices

What a user is told that is neither output of the tool nor a diagnostic.
-/

namespace BuildRunner

inductive Notice where
  /-- The tool could not be launched. -/
  | toolNotAvailable (program : String)
  /-- There is no directory to work in. -/
  | workingDirectoryUnresolved (reason : String)
deriving Repr, DecidableEq

def Notice.text : Notice → String
  | .toolNotAvailable program => program ++ " is not available. Is it installed and on PATH?"
  | .workingDirectoryUnresolved reason => "Could not resolve working directory: " ++ reason

end BuildRunner
