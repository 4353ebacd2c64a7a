import TopologySubmission.Packing.Plan
import TopologySubmission.Yaml.Write

/-!
# The manifest of a launch

The manifest tells the scheduler of the host what was launched: the execution state and the packing
plan, as a YAML document. The name of a component with several instances that is no plain scalar is
written once, and later instances refer to it. A read-only mapping cannot be written, nor can an integer
with too many digits; the first of them refuses the manifest.
-/

namespace TopologySubmission.LaunchManifest

open Yaml

/-! ## Algorithm -/

/-- The name of the file. -/
def fileName : String := "launch.yaml"

/-- A name of a component that is written once. -/
def isWrittenOnce : Value → Bool
  | .date _ => true
  | .moment _ => true
  | .tuple xs => !xs.isEmpty
  | _ => false

/-- The name of a component, shared by its instances. -/
def componentBlock (components : List Value) (v : Value) : Block :=
  match isWrittenOnce v, components.findIdx? (·.same v) with
  | true, some i => .shared i (Block.ofValue v)
  | _, _ => Block.ofValue v

/-- A number as a document. -/
def number (n : Nat) : Block := Block.ofValue (.int n)

def instanceBlock (components : List Value) (i : Instance) : Block :=
  .fields .map
    [(Block.ofText "component", componentBlock components i.component),
      (Block.ofText "task_id", number i.task), (Block.ofText "component_index", number i.index)]

def containerBlock (components : List Value) (c : Container) : Block :=
  .fields .map
    [(Block.ofText "id", number c.id),
      (Block.ofText "instances", .row (c.instances.map (instanceBlock components)))]

/-- The names of the components of a plan. -/
def componentsOf (p : PackingPlan) : List Value :=
  p.containers.flatMap fun c => c.instances.map (·.component)

/-- The packing plan as a document. -/
def planBlock (p : PackingPlan) : Block :=
  .fields .map
    [(Block.ofText "id", Block.ofText p.id),
      (Block.ofText "containers", .row (p.containers.map (containerBlock (componentsOf p))))]

/-- The text of the manifest. -/
def text (executionState : Entries) (p : PackingPlan) : String :=
  Block.document
    [(Block.ofText "execution_state", Block.ofValue (.map executionState)),
      (Block.ofText "packing_plan", planBlock p)]

/-- The failure of writing a value of a kind that a document cannot hold. -/
def notRepresentable (v : Value) : Failure :=
  if v.isWritable then
    .reported (.other "RepresenterError") ("('cannot represent an object', " ++ v.quoted ++ ")")
  else .badValue .tooLongForText

mutual

/-- The failure of the first part of a value that a document cannot hold. -/
def fault? : Value → Option Failure
  | .int n => if (Value.int n).isWritable then none else some (.badValue .tooLongForText)
  | .list xs => itemsFault? xs
  | .tuple xs => itemsFault? xs
  | .set xs => itemsFault? xs
  | .map es => entriesFault? es
  | .readOnlyMap es => some (notRepresentable (.readOnlyMap es))
  | _ => none

def itemsFault? : List Value → Option Failure
  | [] => none
  | x :: xs => fault? x <|> itemsFault? xs

def entriesFault? : Entries → Option Failure
  | [] => none
  | (k, v) :: es => fault? k <|> fault? v <|> entriesFault? es

end

/-- The text of the manifest, if all of it can be written. -/
def write (executionState : Entries) (p : PackingPlan) : Except Failure String :=
  match fault? (.map executionState) <|> fault? (.map p.toEntries) with
  | none => .ok (text executionState p)
  | some f => .error f

end TopologySubmission.LaunchManifest
