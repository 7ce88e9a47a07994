set_option autoImplicit false

/-! # How a process ends

A process that was launched ends by itself or because it was killed. Why a process could not be
launched is told apart as far as a user can act on it.
-/

namespace BuildRunner

/-- The status with which a process exits; `none` if it died from a signal. -/
abbrev ExitCode := Option Int

inductive RunOutcome where
  /-- By itself. -/
  | exited (code : ExitCode)
  /-- Because it was killed on request. -/
  | cancelled
deriving Repr, DecidableEq

inductive LaunchError where
  /-- There is no such program, interpreter or directory. -/
  | notFound (program : String)
  /-- The program may not be executed. -/
  | permissionDenied (program : String)
  /-- Any other failure. -/
  | io (reason : String)
deriving Repr, DecidableEq

def LaunchError.message : LaunchError → String
  | .notFound program => program ++ " not found"
  | .permissionDenied program => "Permission denied launching " ++ program
  | .io reason => "I/O error: " ++ reason

end BuildRunner
