import TopologySubmission.Packing.RoundRobin
import TopologySubmission.Plugin.Interface

/-!
# Packing in turn

The packing that deals the instances of a topology to containers in turn. It has nothing in hand.
-/

namespace TopologySubmission.RoundRobin

/-! ## Algorithm -/

/-- What is logged about the containers of a topology. -/
def summary (t : Topology) (cs : List Container) : String :=
  "Packed " ++ toString (cs.flatMap (·.instances)).length ++ " instances of " ++ t.name ++ " into " ++
    toString cs.length ++ " containers"

/-- Packs a topology and logs how many instances are placed. -/
def pack {σ : Type} (t : Topology) : Act σ PackingPlan := do
  let cs ← Act.ofExcept (containers t)
  Act.log .debug (summary t cs)
  Act.ofExcept (planNamed t.id cs)

/-- The packing that deals in turn. -/
def packing {σ : Type} : Packing σ where
  configure _ := pure ()
  pack := pack
  close := pure ()

/-! ## Lemmas -/

/-- Where it is known what the containers hold, packing logs it and then names the plan. -/
theorem run_pack {σ : Type} {t : Topology} {cs : List Container} (h : containers t = .ok cs)
    (s : Scene σ) : Act.run (pack t) s = ((planNamed t.id cs).mapError .failure,
      { s with log := s.log ++ [⟨.debug, summary t cs⟩] }) := by
  unfold pack
  rw [h]
  show Act.run (Act.ofExcept (planNamed t.id cs)) _ = _
  cases planNamed t.id cs <;> rfl

/-- Packing changes nothing but the log. -/
theorem world_run_pack {σ : Type} (t : Topology) (s : Scene σ) :
    (Act.run (pack t) s).2.world = s.world := by
  cases h : containers t with
  | error f => simp [pack, Act.run_bind, Act.ofExcept, h]
  | ok cs => rw [run_pack h]

end TopologySubmission.RoundRobin
