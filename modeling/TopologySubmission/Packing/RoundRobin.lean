import TopologySubmission.Packing.Plan
import TopologySubmission.Topology.Basic
import TopologySubmission.Value.Number

/-!
# Dealing instances in turn

The instances of a topology, component by component and spouts first, are numbered from one and dealt
to the containers in turn. The topology's own settings say how many containers there are; containers
that nothing is dealt to are left out of the plan.

    the tasks are numbered 1, 2, 3, …                     (tasks_numbered)
    container c gets the tasks c, c + n, c + 2n, …        (mem_dealtTo)
-/

namespace TopologySubmission.RoundRobin

/-! ## Algorithm -/

/-- The setting of the topology that says how many containers there are. -/
def containersKey : String := "topology.stmgrs"

/-- The number of containers that a value asks for. -/
def containerCount (v : Value) : Except Failure Nat := do
  let n ← v.configured (containersKey ++ " must be an integer, got ") v.toInteger
  if n < 1 then throw (.configuration (containersKey ++ " must be at least 1"))
  return n.toNat

/-- The number of instances of a component. -/
def instanceTotal : Value → Except Failure Nat
  | .bool b => .ok (if b then 1 else 0)
  | .int n => .ok n.toNat
  | v => .error (.wrongKind (.unusable v.kindName "an integer"))

/-- The instances of components in a row, each with its place in its component. -/
def unroll : Entries → Except Failure (List (Value × Nat))
  | [] => .ok []
  | (name, parallelism) :: es => do
    let n ← instanceTotal parallelism
    return (List.range n).map (fun i => (name, i)) ++ (← unroll es)

/-- Numbers a row of instances from a first number on. -/
def numberFrom (first : Nat) : List (Value × Nat) → List Instance
  | [] => []
  | (name, index) :: rest => ⟨name, first, index⟩ :: numberFrom (first + 1) rest

/-- What is dealt to one of `n` containers. -/
def dealtTo (n container : Nat) (tasks : List Instance) : List Instance :=
  tasks.filter fun i => (i.task - 1) % n + 1 == container

/-- The containers that something is dealt to. -/
def deal (n : Nat) (tasks : List Instance) : List Container :=
  (List.range' 1 (min n tasks.length)).map fun c => ⟨c, dealtTo n c tasks⟩

/-- The plan of containers for an id, which must have a text. -/
def planNamed (id : Value) (containers : List Container) : Except Failure PackingPlan := do
  return { id := (← id.asText) ++ "-packing", containers }

/-- The containers for components with their parallelism. -/
def containersFor (n : Nat) (components : Entries) : Except Failure (List Container) := do
  return deal n (numberFrom 1 (← unroll components))

/-- The value that asks for containers. -/
def containersValue (t : Topology) : Except Failure Value := do
  let settings ← t.settings
  match settings.entries? with
  | some es => return (es.getText? containersKey).getD (.int 1)
  | none => throw (.noSuchPart settings.kindName "get")

/-- The containers of a topology. -/
def containers (t : Topology) : Except Failure (List Container) := do
  let n ← containerCount (← containersValue t)
  containersFor n (← t.components)

/-- The plan for a topology. -/
def plan (t : Topology) : Except Failure PackingPlan := do planNamed t.id (← containers t)

/-! ## Lemmas -/

/-- An id that has a text names the plan. -/
theorem planNamed_eq (id : Value) (cs : List Container) :
    planNamed id cs = id.asText.map fun _ => ⟨id.plain ++ "-packing", cs⟩ := by
  unfold planNamed Value.asText
  split <;> rfl

theorem length_numberFrom (first : Nat) (xs : List (Value × Nat)) :
    (numberFrom first xs).length = xs.length := by
  induction xs generalizing first with
  | nil => rfl
  | cons x xs ih => simp [numberFrom, ih]

/-- The tasks are numbered in a row. -/
theorem tasks_numbered (first : Nat) (xs : List (Value × Nat)) :
    (numberFrom first xs).map (·.task) = List.range' first xs.length := by
  induction xs generalizing first with
  | nil => rfl
  | cons x xs ih => simp [numberFrom, ih, List.range'_succ]

/-- A container gets the tasks whose number leaves its place in the turn. -/
theorem mem_dealtTo (n container : Nat) (tasks : List Instance) (i : Instance) :
    i ∈ dealtTo n container tasks ↔ i ∈ tasks ∧ (i.task - 1) % n + 1 = container := by
  simp [dealtTo]

end TopologySubmission.RoundRobin
