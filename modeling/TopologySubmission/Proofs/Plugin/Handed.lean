import TopologySubmission.Proofs.Act.Preserves
import TopologySubmission.Proofs.Plugin.Retraction
import TopologySubmission.Proofs.Value.Merging

/-!
# What a launcher hands to a state manager

A launcher sets nodes through its access to a state manager, whatever that does with them. What it hands
over can be written down on the way, in surroundings in which nothing else looks at it. So it is known
which topology the execution states tell of:

    setting a node writes it down                       (handed_setNode)
    every step of a launch hands over what it may       (preserves_steps)
    what is launched is what the execution state tells of      (tells_hands)
-/

namespace TopologySubmission

open Act (Preserves)

variable {σ ω α : Type}

/-! ## Algorithm -/

/-- A node that is to be set. -/
structure Handed where
  kind : NodeKind
  value : Value
  name : String

/-- It is for a topology by its name, and it tells the name and the id of that topology. -/
def Handed.Tells (h : Handed) (t : Topology) : Prop :=
  h.name = t.name ∧ ∃ es : Entries, h.value = .map es ∧
    es.getText? "topology_name" = some (.text t.name) ∧ es.getText? "topology_id" = some t.id

/-- What a state manager and a packing work with, and the nodes that were handed over, in their order. -/
structure Watched (ω : Type) where
  rest : ω
  handed : List Handed

def Watched.aroundPart : Part (Surroundings (Watched ω)) (Surroundings ω) :=
  ⟨fun w => ⟨w.site, w.rest.rest⟩, fun w v => ⟨v.site, ⟨v.rest, w.rest.handed⟩⟩⟩

/-- A state manager before which each node is written down that is to be set. -/
def StateAccess.watched (a : StateAccess (Surroundings ω)) :
    StateAccess (Surroundings (Watched ω)) :=
  { a.within Watched.aroundPart with
    setNode := fun kind v name => do
      Act.change fun w =>
        { w with rest := { w.rest with handed := w.rest.handed ++ [⟨kind, v, name⟩] } }
      Act.within Watched.aroundPart (a.setNode kind v name) }

namespace Undertaking

/-- The same undertaking with a state manager that is watched. -/
def watched (u : Undertaking ω) : Undertaking (Watched ω) where
  access := u.access.watched
  packing := u.packing.within Watched.aroundPart
  settings := u.settings
  runtime := u.runtime

/-- The answer of a launcher that is initialized and launches, and what it hands to the state manager. -/
def hands (u : Undertaking ω) (c : Scene (Surroundings ω)) : Except Stop Value × List Handed :=
  let (answer, d) := Act.run (do
    u.watched.launcher.configure u.settings u.runtime
    u.watched.launcher.launch) ⟨⟨⟨c.world.site, ⟨c.world.rest, []⟩⟩, {}⟩, c.log⟩
  (answer, d.world.around.rest.handed)

end Undertaking

/-! ## Lemmas -/

/-! ### What is written down -/

/-- What every step preserves holds after any of them. -/
theorem Registers.preserves {P : σ → Prop} {steps : List (Registration × Act σ Unit)} {c d : Scene σ}
    {o : Option Stop} {gs : List Registration} (h : Registers steps c o gs d)
    (hsteps : ∀ x ∈ steps, Preserves P x.2) (hc : P c.world) : P d.world := by
  induction h with
  | all => exact hc
  | completed hrun _ ih =>
    obtain ⟨hfirst, hrest⟩ := List.forall_mem_cons.mp hsteps
    have hnext := hfirst _ hc
    rw [hrun] at hnext
    exact ih hrest hnext
  | stopped hrun =>
    have hlast := hsteps _ List.mem_cons_self _ hc
    rwa [hrun] at hlast

section
variable {Q : List Handed → Prop}

theorem preserves_around (a : Act (Surroundings ω) α) :
    Preserves (fun w : Surroundings (Watched ω) => Q w.rest.handed)
      (Act.within Watched.aroundPart a) := .apart fun _ _ h => h

theorem preserves_onSite (a : Act Site α) :
    Preserves (fun w : Surroundings (Watched ω) => Q w.rest.handed)
      (Act.within Surroundings.sitePart a) := .apart fun _ _ h => h

/-- A node is written down, however setting it ends. -/
theorem handed_setNode (a : StateAccess (Surroundings ω)) (kind : NodeKind) (v : Value)
    (name : String) (c : Scene (Surroundings (Watched ω))) :
    (Act.run (a.watched.setNode kind v name) c).2.world.rest.handed =
      c.world.rest.handed ++ [⟨kind, v, name⟩] := rfl

theorem preserves_setNode (a : StateAccess (Surroundings ω)) {kind : NodeKind} {v : Value}
    {name : String} (h : ∀ hs, Q hs → Q (hs ++ [⟨kind, v, name⟩])) :
    Preserves (fun w : Surroundings (Watched ω) => Q w.rest.handed)
      (a.watched.setNode kind v name) := by
  intro c hc
  rw [handed_setNode]
  exact h _ hc

end

/-! ### A launch -/

/-- The execution state of a launcher tells of the topology that it was given. -/
theorem tells_executionState {s : Site} {settings : Settings} {r : Runtime} {state : Entries}
    (h : LocalLauncher.executionState s settings r = .ok state) :
    Handed.Tells ⟨.executionState, .map state, r.topology.name⟩ r.topology := by
  unfold LocalLauncher.executionState at h
  cases huser : s.user with
  | error f =>
    rw [huser] at h
    cases h
  | ok user =>
    rw [huser] at h
    cases h
    refine ⟨rfl, _, rfl, ?_, ?_⟩
    · unfold LocalLauncher.submittedState
      rw [Entries.getText?_cons, if_pos (by decide)]
    · unfold LocalLauncher.submittedState
      rw [Entries.getText?_cons, if_neg (by decide), Entries.getText?_cons, if_pos (by decide)]

namespace Undertaking

variable {u : Undertaking ω} {t : Topology} {dir : Path} {Q : List Handed → Prop}

/-- What is handed over is a packing plan, a topology, or an execution state that tells of the
topology. -/
theorem preserves_steps (ht : u.runtime.topology = t)
    (hQ : ∀ hs h, (h.kind = .executionState → h.Tells t) → Q hs → Q (hs ++ [h]))
    {c : Scene (Surroundings (Watched ω))} {state : Entries} (hstate : u.watched.state c = .ok state)
    (plan : PackingPlan) :
    ∀ x ∈ u.watched.steps dir state plan,
      Preserves (fun w : Surroundings (Watched ω) => Q w.rest.handed) x.2 := by
  subst ht
  unfold steps
  simp only [List.forall_mem_cons]
  refine ⟨?_, ?_, ?_, ?_, nofun⟩
  · exact preserves_setNode _ fun hs => hQ hs _ fun _ => tells_executionState hstate
  · exact preserves_setNode _ fun hs => hQ hs _ nofun
  · exact preserves_onSite _
  · exact (Preserves.ofExcept _).bind fun _ => preserves_setNode _ fun hs => hQ hs _ nofun

theorem preserves_packed :
    Preserves (fun w : Surroundings (Watched ω) => Q w.rest.handed) u.watched.packed :=
  (preserves_around _).bind fun _ => preserves_around _

/-- Before it launches, a launcher hands over nothing. -/
theorem preserves_configure :
    Preserves (fun b : Bench (Watched ω) => Q b.around.rest.handed)
      (u.watched.launcher.configure u.settings u.runtime) := by
  have hremember (f : LocalLauncher → LocalLauncher) :
      Preserves (fun b : Bench (Watched ω) => Q b.around.rest.handed)
        (LocalLauncher.remember Bench.launcherPart f) := .apart fun _ _ h => h
  exact (hremember _).bind fun _ => (Preserves.apart fun _ _ h => h).bind fun _ => hremember _

/-- A launch in surroundings in which nothing was handed over yet. -/
theorem tells_launches {c d : Scene (Surroundings (Watched ω))} {answer : Except Stop Value}
    {gs : List Registration} (ht : u.runtime.topology = t) (hc : c.world.rest.handed = [])
    (h : u.watched.Launches dir c answer gs d) :
    (∀ x ∈ d.world.rest.handed, x.kind = .executionState → x.Tells t) ∧
      (answer = .ok (.bool true) → ∃ x ∈ d.world.rest.handed, x.kind = .executionState) := by
  have htells (hs : List Handed) (x : Handed) (hx : x.kind = .executionState → x.Tells t)
      (hall : ∀ y ∈ hs, y.kind = .executionState → y.Tells t) :
      ∀ y ∈ hs ++ [x], y.kind = .executionState → y.Tells t :=
    List.forall_mem_append.mpr ⟨hall, List.forall_mem_singleton.mpr hx⟩
  have hstart : ∀ x ∈ c.world.rest.handed, x.kind = .executionState → x.Tells t := by
    rw [hc]
    nofun
  have hpacked {r : Except Stop PackingPlan} {c₁ : Scene (Surroundings (Watched ω))}
      (hrun : Act.run u.watched.packed c = (r, c₁)) :
      ∀ x ∈ c₁.world.rest.handed, x.kind = .executionState → x.Tells t := by
    have hnext := preserves_packed (u := u)
      (Q := fun hs => ∀ x ∈ hs, x.kind = .executionState → x.Tells t) c hstart
    rwa [hrun] at hnext
  cases h with
  | unpacked hrun => exact ⟨hpacked hrun, nofun⟩
  | empty hrun hplan =>
    have hlast := hpacked hrun
    exact ⟨hlast, nofun⟩
  | stateless hrun _ _ => exact ⟨hpacked hrun, nofun⟩
  | stopped hrun _ hstate hsteps =>
    exact ⟨hsteps.preserves (preserves_steps ht htells hstate _) (hpacked hrun), nofun⟩
  | @launched plan _ state _ _ hrun _ hstate hsteps =>
    refine ⟨hsteps.preserves (preserves_steps ht htells hstate _) (hpacked hrun), fun _ => ?_⟩
    -- the first step hands over an execution state, and nothing is taken back
    have hkept (hs : List Handed) (x : Handed) (_ : x.kind = .executionState → x.Tells t)
        (hany : ∃ y ∈ hs, y.kind = .executionState) : ∃ y ∈ hs ++ [x], y.kind = .executionState := by
      obtain ⟨y, hy, hkind⟩ := hany
      exact ⟨y, List.mem_append_left _ hy, hkind⟩
    have hall : ∀ x ∈ u.watched.steps dir state plan,
        Preserves (fun w => ∃ y ∈ w.rest.handed, y.kind = .executionState) x.2 :=
      preserves_steps ht hkept hstate _
    unfold steps at hsteps hall
    cases hsteps with
    | completed hfirst hrest =>
      refine hrest.preserves (List.forall_mem_cons.mp hall).2 ?_
      have hhanded := congrArg (·.2.world.rest.handed) hfirst
      rw [← show _ = _ from hhanded]
      exact ⟨_, List.mem_append_right _ List.mem_cons_self, rfl⟩

/-- Whatever the state manager and the packing do: each execution state that a launcher hands over tells
the name and the id of the topology that the launcher was given, and one is handed over if the topology
is launched. -/
theorem tells_hands (ht : u.runtime.topology = t) (c : Scene (Surroundings ω)) :
    (∀ x ∈ (u.hands c).2, x.kind = .executionState → x.Tells t) ∧
      ((u.hands c).1 = .ok (.bool true) → ∃ x ∈ (u.hands c).2, x.kind = .executionState) := by
  unfold hands
  have hnone := preserves_configure (u := u) (Q := (· = []))
    ⟨⟨⟨c.world.site, ⟨c.world.rest, []⟩⟩, {}⟩, c.log⟩ rfl
  rcases hrun : Act.run (u.watched.launcher.configure u.settings u.runtime)
    ⟨⟨⟨c.world.site, ⟨c.world.rest, []⟩⟩, {}⟩, c.log⟩ with ⟨e | ⟨⟩, b⟩ <;> rw [hrun] at hnone
  · rw [Act.run_bind_error hrun]
    dsimp only
    rw [show b.world.around.rest.handed = [] from hnone]
    exact ⟨nofun, nofun⟩
  · obtain ⟨dir, hmemory⟩ := memory_of_configure hrun
    have hb : Scene.beside ⟨b.world.around, b.log⟩ (u.watched.memory dir []) = b := by
      rw [← hmemory]
      rfl
    obtain ⟨answer, gs, d, hlaunches, hlaunch⟩ :=
      launches_launch (u := u.watched) dir [] ⟨b.world.around, b.log⟩
    rw [hb] at hlaunch
    rw [Act.run_bind_ok hrun, hlaunch]
    exact tells_launches ht hnone hlaunches

end Undertaking

end TopologySubmission
