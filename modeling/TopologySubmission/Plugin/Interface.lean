import TopologySubmission.Act.Basic
import TopologySubmission.Packing.Plan
import TopologySubmission.Settings.Basic
import TopologySubmission.Topology.Basic
import TopologySubmission.Value.Order

/-!
# The interfaces of the plugins

A submission works with four plugins. The state manager knows which topologies run and keeps a node
of each kind for a topology; the uploader moves the package to where the cluster finds it; the
launcher registers and starts the topology; the packing places its instances into containers. Each
is a record of acts on a world of some type, so that a plugin may be anything.

The state manager answers a running check later or never. `StateManager.runningState` waits for the
answer no longer than it may, and answers one of three states; whatever is no clear answer is a
time-out.
-/

namespace TopologySubmission

/-! ## Algorithm -/

/-- The kinds of nodes that are kept for a topology. -/
inductive NodeKind where
  | topology
  | executionState
  | packingPlan
  deriving DecidableEq, Repr

/-- How a running check comes out. A check may give nothing to wait for. -/
inductive CheckAnswer where
  | finished (v : Value)
  | stopped (s : Stop)
  | cancelled
  | never
  | missing
  deriving Repr

/-- What a launcher is given for one attempt. -/
structure Runtime where
  topologyId : Value
  topologyName : String
  topology : Topology
  packageUri : Value
  deriving Repr, Inhabited

/-- Knows which topologies run. -/
structure StateManager (σ : Type) where
  configure : Settings → Act σ Unit
  runningCheck : String → Act σ CheckAnswer
  setNode : NodeKind → Value → String → Act σ Unit
  getNode : NodeKind → String → Act σ Value
  deleteNode : NodeKind → String → Act σ Unit
  close : Act σ Unit

/-- Moves a package to where the cluster finds it; its place is a value that counts as true. -/
structure Uploader (σ : Type) where
  configure : Settings → Act σ Unit
  uploadPackage : Act σ Value
  undo : Act σ Unit
  close : Act σ Unit

/-- Registers and starts a topology; a value that counts as true says that it did. -/
structure Launcher (σ : Type) where
  configure : Settings → Runtime → Act σ Unit
  launch : Act σ Value
  undo : Act σ Unit
  close : Act σ Unit

/-- Places the instances of a topology into containers. -/
structure Packing (σ : Type) where
  configure : Settings → Act σ Unit
  pack : Topology → Act σ PackingPlan
  close : Act σ Unit

/-- The plugins of one attempt. -/
structure Plugins (σ : Type) where
  stateManager : StateManager σ
  launcher : Launcher σ
  packing : Packing σ
  uploader : Uploader σ

/-- What is known about a topology after a check that may not take forever. -/
inductive RunningState where
  | running
  | notRunning
  | timedOut
  deriving DecidableEq, Repr

namespace RunningState

def text : RunningState → String
  | .running => "running"
  | .notRunning => "not_running"
  | .timedOut => "timed_out"

/-- The topology is known not to run. -/
def confirmedAbsent (s : RunningState) : Bool := s == .notRunning

end RunningState

/-- What launchers see of a state manager. -/
structure StateAccess (σ : Type) where
  runningState : String → Value → Act σ RunningState
  setNode : NodeKind → Value → String → Act σ Unit
  getNode : NodeKind → String → Act σ Value
  deleteNode : NodeKind → String → Act σ Unit

/-- The failure of an answer that does not come in time. -/
def noAnswerInTime : Failure := .reported (.system .timeout) ""

/-- The most seconds that can be waited for. -/
def longestWait : Int := 9223372036

/-- Why an answer that never comes is given up, after some seconds. -/
def givenUp (timeout : Value) : Failure :=
  match timeout.numeric? with
  | none => .wrongKind (.incomparable timeout.kindName "int")
  | some seconds =>
    if Value.Numeric.lt (.int longestWait) seconds then .overflow .waitTooLong
    else noAnswerInTime

/-- Waits for the answer of a check for some seconds. -/
def CheckAnswer.await {σ : Type} (timeout : Value) : CheckAnswer → Act σ Value
  | .finished v => pure v
  | .stopped s => Act.stop s
  | .cancelled => Act.fail .cancelled
  | .never => Act.fail (givenUp timeout)
  | .missing => Act.fail (.noSuchPart "NoneType" "result")

namespace StateManager

variable {σ : Type}

/-- Asks whether a topology runs and waits for the answer. -/
def askRunning (m : StateManager σ) (name : String) (timeout : Value) : Act σ Value := do
  (← m.runningCheck name).await timeout

/-- What the answer to a running check says. -/
def readAnswer (name : String) : Value → Act σ RunningState
  | .null => do
    Act.log .warning ("Running check for topology " ++ name ++ " returned no answer")
    return .timedOut
  | v => return if v.isTruthy then .running else .notRunning

/-- Asks whether a topology runs and waits no longer than it may. -/
def runningState (m : StateManager σ) (name : String) (timeout : Value) : Act σ RunningState := do
  match ← Act.attempt (m.askRunning name timeout) with
  | .ok v => readAnswer name v
  | .error f =>
    let what := "Running check for topology " ++ name
    Act.log .warning
      (if f.isTimeout then what ++ " timed out after " ++ timeout.plain ++ "s"
        else what ++ " failed: " ++ f.message)
    return .timedOut

/-- What launchers see of the state manager. -/
def access (m : StateManager σ) : StateAccess σ :=
  { runningState := m.runningState, setNode := m.setNode, getNode := m.getNode
    deleteNode := m.deleteNode }

end StateManager

/-! ## Lemmas -/

/-- Only an answer that is false, and not nothing, says that a topology does not run. -/
theorem StateManager.run_readAnswer_notRunning {σ : Type} (name : String) (v : Value)
    (s : Scene σ) :
    (Act.run (readAnswer name v) s).1 = .ok .notRunning ↔ v ≠ .null ∧ v.isTruthy = false := by
  cases v with
  | null => simp [readAnswer, Act.run_map]
  | _ => cases h : Value.isTruthy _ <;> simp [readAnswer, h]

end TopologySubmission
