import TopologySubmission.Value.Entries

/-!
# Packing plans

A plan places the instances of a topology's components into containers. An instance is known by its
component, its task number within the plan and its place among the instances of the component.
-/

namespace TopologySubmission

/-! ## Algorithm -/

/-- One instance of a component. -/
structure Instance where
  component : Value
  task : Nat
  index : Nat
  deriving Repr, Inhabited

/-- A container and what was dealt to it. -/
structure Container where
  id : Nat
  instances : List Instance
  deriving Repr, Inhabited

/-- The placement of every instance of a topology. -/
structure PackingPlan where
  id : String
  containers : List Container
  deriving Repr, Inhabited

namespace PackingPlan

/-- The number of instances that the plan places. -/
def instanceCount (p : PackingPlan) : Nat := (p.containers.flatMap (·.instances)).length

/-- A number of the plan as a value. -/
def number (n : Nat) : Value := .int n

def instanceValue (i : Instance) : Value :=
  .map [(.text "component", i.component), (.text "task_id", number i.task),
    (.text "component_index", number i.index)]

def containerValue (c : Container) : Value :=
  .map [(.text "id", number c.id), (.text "instances", .list (c.instances.map instanceValue))]

/-- The plan as one value. -/
def toEntries (p : PackingPlan) : Entries :=
  [(.text "id", .text p.id), (.text "containers", .list (p.containers.map containerValue))]

end PackingPlan

end TopologySubmission
