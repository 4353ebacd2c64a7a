import TopologySubmission.Plugin.Interface

/-!
# Stages and outcomes

An attempt goes through stages, and its outcome records how far it came, what went wrong and what was
undone. The stage of an outcome is the last one before the attempt was closed.
-/

namespace TopologySubmission

/-! ## Algorithm -/

/-- The stages of an attempt. -/
inductive Stage where
  | init
  | validating
  | uploading
  | launching
  | committed
  | rollingBack
  | closed
  deriving DecidableEq, Repr, Inhabited

def Stage.text : Stage → String
  | .init => "init"
  | .validating => "validating"
  | .uploading => "uploading"
  | .launching => "launching"
  | .committed => "committed"
  | .rollingBack => "rolling_back"
  | .closed => "closed"

/-- What became of an attempt. -/
structure Outcome where
  topologyName : String
  success : Bool := false
  stage : Stage := .init
  failedStage : Option Stage := none
  error : Option SubmissionError := none
  packageUri : Value := .null
  undoErrors : List SubmissionError := []
  cleanupErrors : List String := []
  history : List Stage := []
  deriving Repr, Inhabited

namespace Outcome

/-- What the program ends with: zero for a success. -/
def exitCode (o : Outcome) : Nat := if o.success then 0 else 1

/-- The words for the stage in which the attempt failed. -/
def failedStageText (o : Outcome) : String := (o.failedStage.map Stage.text).getD "unknown"

/-- Records a stage. Closing is not the stage of an outcome. -/
def enter (o : Outcome) (s : Stage) : Outcome :=
  { o with history := o.history ++ [s], stage := if s = .closed then o.stage else s }

/-- Records the error that ended the attempt in a stage. -/
def failWith (o : Outcome) (s : Stage) (e : SubmissionError) : Outcome :=
  { o with success := false, failedStage := some s, error := some e }

end Outcome

/-- A call of a plugin, in the words of an attempt. -/
inductive Call where
  | configureState
  | runningCheck (name : String)
  | closeState
  | configureUploader
  | uploadPackage
  | undoUploader
  | closeUploader
  | configureLauncher (runtime : Runtime)
  | launch
  | undoLauncher
  | closeLauncher
  | closePacking
  deriving Repr

/-! ## Lemmas -/

@[simp] theorem Outcome.history_enter (o : Outcome) (s : Stage) :
    (o.enter s).history = o.history ++ [s] := rfl

theorem Outcome.exitCode_eq_zero_iff (o : Outcome) : o.exitCode = 0 ↔ o.success = true := by
  cases h : o.success <;> simp [exitCode, h]

end TopologySubmission
