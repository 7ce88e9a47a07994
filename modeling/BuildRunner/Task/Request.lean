set_option autoImplicit false

/-! # Requests

A request to run one subcommand of the tool.
-/

namespace BuildRunner

/-- A request to run one subcommand. -/
structure TaskRequest where
  command : String
  args : List String := []
  workingDirectory : String
  /-- Whether a running task has to make way. -/
  force : Bool := false
deriving Repr, DecidableEq

namespace TaskRequest

def withArgs (r : TaskRequest) (args : List String) : TaskRequest := { r with args := r.args ++ args }

/-- Sets whether a running task has to make way. -/
def withForce (r : TaskRequest) (force : Bool) : TaskRequest := { r with force := force }

end TaskRequest
end BuildRunner
