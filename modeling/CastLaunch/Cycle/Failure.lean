import CastLaunch.Execution

/-!
Failed starts.  Each resource of a cycle has its name in diagnostics and its exit
code; a failure names the resource and, where there is one, the collaborator's own
error.
-/

namespace CastLaunch

inductive Stage where
  | engine
  | sink
  | video
  | audio
  | discovery
  deriving DecidableEq, Repr

namespace Stage

def label : Stage → String
  | engine => "protocol engine"
  | sink => "render logger"
  | video => "video renderer"
  | audio => "audio renderer"
  | discovery => "discovery registrar"

def exitCode : Stage → Nat
  | engine => 2
  | sink => 3
  | video => 4
  | audio => 5
  | discovery => 6

theorem exitCode_bounds (stage : Stage) : 2 ≤ stage.exitCode ∧ stage.exitCode ≤ 6 := by
  cases stage <;> decide

end Stage

structure StartFailure where
  stage : Stage
  /-- What the collaborator said; nothing when its factory made nothing. -/
  detail : String := ""
  deriving DecidableEq, Repr

def StartFailure.message (f : StartFailure) : String :=
  "Could not init " ++ f.stage.label ++ if f.detail = "" then "" else ": " ++ f.detail

inductive StartError where
  | failed (f : StartFailure)
  | fault (e : Fault)
  deriving DecidableEq, Repr

end CastLaunch
