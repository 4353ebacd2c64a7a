import TopologySubmission.Proofs.Packing.Declared
import TopologySubmission.Proofs.Plugin.Handed
import TopologySubmission.Proofs.Plugin.Layout
import TopologySubmission.Proofs.Settings.Layered
import TopologySubmission.Proofs.Settings.Resolved
import TopologySubmission.Proofs.Submission.Order
import TopologySubmission.Topology.Definition

/-!
# Which topology is submitted

The id and the name of a topology travel on two ways: through the settings, where they are the highest
layer, and as parts of the topology, which the submitter gives to the launcher. The settings are expanded
and the topology is not. A name holds no placeholder, but an id may:

    expanding settles the value of a key                       (settles_get?)
    the settings have the id unless it holds a placeholder     (get?_topologyId_iff)
    the launcher is given the topology itself                  (isOf_of_mem_calls)
    both ways agree on the name, and on an id without placeholders     (build_identifies)
-/

namespace TopologySubmission

/-! ## Algorithm -/

/-- What a launcher is given is about a topology. -/
structure Runtime.IsOf (r : Runtime) (t : Topology) : Prop where
  id : r.topologyId = t.id
  name : r.topologyName = t.name
  topology : r.topology = t

namespace Settings

/-- A definition whose id names the cluster by a placeholder. -/
def namingCluster : Value := .map [(.text "id", .text "wc-${CLUSTER}"), (.text "name", .text "wc")]

/-- A request for the topology of that definition. -/
def requestNamingCluster : Request where
  home := "/h"
  conf := "conf"
  cluster := .text "local"
  role := .text "me"
  environ := .text "dev"
  package := "p.tar"
  jar := "p.jar"
  definition := "d.yaml"
  topology := ⟨.text "wc-${CLUSTER}", "wc", .readOnlyMap [(.text "spouts", .tuple []),
    (.text "bolts", .tuple [])]⟩

/-- A site with an empty directory of configuration. -/
def siteWithConf : Site where
  tree := ⟨[(["h"], .directory), (["h", "conf"], .directory)]⟩
  environment := [("HOME", "/root")]

end Settings

/-! ## Lemmas -/

theorem Topology.isName_of_ofDefinition {v : Value} {t : Topology}
    (h : Topology.ofDefinition v = .ok t) :
    isName t.name = true := by
  obtain ⟨_, _, _, _, -, -, hmake⟩ := make_of_ofDefinition h
  exact isName_of_make hmake

namespace Settings

variable {s c : Settings} {env : Environment} {bound : Int} {key : String} {v x : Value} {r : Request}
  {w d : Scene Site}

/-! ### Expanding -/

/-- A name has no sign that begins a placeholder. -/
theorem isResolved_of_isName {name : String} (h : Topology.isName name = true) :
    IsResolved (.text name) := by
  have hdollar : '$' ∉ name.toList := by
    intro hmem
    rcases Topology.isNameChar_of_mem h hmem with h | h <;> revert h <;> decide
  exact namesIn_eq_nil_iff.mp (Template.names_eq_nil_of_no_dollar name hdollar)

/-- Expanding settles the value of each key. -/
theorem settles_get? (h : s.expand env bound = .ok c) (hv : s.get? key = some v) :
    ∃ x, c.get? key = some x ∧ Settles v x := by
  have hstart : KeepsResolved id := ⟨fun t => ⟨t, rfl⟩, fun _ _ => rfl⟩
  have hstep (g : Value → Value) (hg : KeepsResolved g)
      (_ : AllResolve (s.entries.mapValues g) env (s.entries.mapValues g)) :
      KeepsResolved (replaced (s.entries.mapValues g) env ∘ g) := hg.replaced
  have hpasses := passes_cases hstep bound.toNat id hstart
  rw [Entries.mapValues_eq_self fun _ _ => rfl, (expand_eq_ok h).1] at hpasses
  rcases hpasses with ⟨message, hm⟩ | ⟨g, hg, hm⟩
  · cases hm
  replace hm : c.entries = s.entries.mapValues g := Except.ok.inj hm
  have hx : c.get? key = some (g v) := by
    unfold get? at hv ⊢
    rw [hm, Entries.getText?_mapValues, hv]
    rfl
  refine ⟨g v, hx, fun t ht => ht ▸ hg.text t, ?_, hg.same v⟩
  have hresolved := no_placeholder_of_expand h _ (Entries.mem_of_getText? hx)
  exact isUnresolved_eq_false_iff.mp hresolved

/-- A value is kept exactly if it holds no placeholder. -/
theorem Settles.eq_iff (h : Settles v x) : x = v ↔ IsResolved v :=
  ⟨fun he => he ▸ h.resolved, h.same⟩

/-! ### The settings of a submission -/

/-- The settings of a submission are the layers, expanded. -/
theorem exists_expand_of_build (h : Act.run (build r) w = (.ok c, d)) :
    ∃ base env, (mergeLayers base r).expand env defaultPasses = .ok c := by
  unfold build at h
  obtain ⟨base, w₁, -, h⟩ := Act.exists_of_run_bind h
  obtain ⟨site, w₂, -, h⟩ := Act.exists_of_run_bind h
  obtain ⟨x, w₃, hx, h⟩ := Act.exists_of_run_bind h
  obtain ⟨_, w₄, -, h⟩ := Act.exists_of_run_bind h
  obtain rfl : x = c := Except.ok.inj (congrArg Prod.fst h)
  refine ⟨base, r.environment.getD (.ofTexts site.environment), ?_⟩
  cases hexpand : (mergeLayers base r).expand (r.environment.getD (.ofTexts site.environment))
      defaultPasses with
  | error f =>
    rw [hexpand] at hx
    cases hx
  | ok y =>
    rw [hexpand] at hx
    rw [Except.ok.inj (congrArg Prod.fst hx)]

/-- What the topology says stands above what all other layers say. -/
theorem settles_build (h : Act.run (build r) w = (.ok c, d))
    (hv : (ofTopology r.package r.jar r.definition r.topology).get? key = some v) :
    ∃ x, c.get? key = some x ∧ Settles v x := by
  obtain ⟨base, env, hexpand⟩ := exists_expand_of_build h
  refine settles_get? hexpand ?_
  have hnamed := named_ofTopology r.package r.jar r.definition r.topology
  unfold mergeLayers putAll get?
  rw [hnamed.getText?_merge]
  unfold get? at hv
  rw [hv]
  rfl

/-- The id in the settings is that of the topology exactly if that holds no placeholder. -/
theorem get?_topologyId_iff (h : Act.run (build r) w = (.ok c, d)) :
    c.get? Key.topologyId = some r.topology.id ↔ IsResolved r.topology.id := by
  have hid : (ofTopology r.package r.jar r.definition r.topology).get? Key.topologyId =
      some r.topology.id := rfl
  obtain ⟨x, hx, hsettles⟩ := settles_build h hid
  rw [hx, Option.some_inj, hsettles.eq_iff]

theorem get?_topologyName (h : Act.run (build r) w = (.ok c, d))
    (hname : Topology.isName r.topology.name = true) :
    c.get? Key.topologyName = some (.text r.topology.name) := by
  have hset : (ofTopology r.package r.jar r.definition r.topology).get? Key.topologyName =
      some (.text r.topology.name) :=
    (named_ofTopology r.package r.jar r.definition r.topology).getText?_eq_some_iff.mpr
      (List.mem_cons_of_mem _ List.mem_cons_self)
  obtain ⟨x, hx, hsettles⟩ := settles_build h hset
  rw [hx, hsettles.eq_iff.mpr (isResolved_of_isName hname)]

end Settings

/-! ### What a launcher is given -/

/-- Whatever the plugins do, the launcher is given the topology of the submitter. -/
theorem Submitter.isOf_of_mem_calls {σ : Type} {s : Submitter σ} {x : σ} {log : List Record}
    {rt : Runtime}
    (h : Call.configureLauncher rt ∈ (Act.run s.submit ⟨s.begin x, log⟩).2.world.calls) :
    rt.IsOf s.topology := by
  obtain ⟨a⟩ := attempted_submit (s := s) x log
  rw [a.calls_eq] at h
  obtain ⟨v, hv, hcall⟩ := List.mem_map.mp h
  have hstage : v ∈ a.stages := by
    refine a.mem_stages hv ?_
    rw [hcall]
    exact Option.some_ne_none _
  have hplan := a.passage.course.planned.subset (List.mem_map_of_mem hstage)
  rw [hcall] at hplan
  simp only [plan, List.mem_cons, List.not_mem_nil, or_false, reduceCtorEq, false_or,
    Call.configureLauncher.injEq] at hplan
  subst hplan
  exact ⟨rfl, rfl, rfl⟩

namespace Settings

variable {c : Settings} {v : Value} {r : Request} {w d : Scene Site}

/-- For a topology of a definition, whatever the other layers and the variables are: the settings have the
name of the topology, and its id exactly if no placeholder is written in it. Every submitter of the
topology gives its id and its name to the launcher, and every execution state that a launcher then hands
over tells this id and this name. -/
theorem build_identifies (hv : Topology.ofDefinition v = .ok r.topology)
    (hc : Act.run (build r) w = (.ok c, d)) :
    c.get? Key.topologyName = some (.text r.topology.name) ∧
    (c.get? Key.topologyId = some r.topology.id ↔ IsResolved r.topology.id) ∧
    (∀ (σ : Type) (s : Submitter σ) (x : σ) (log : List Record) (rt : Runtime),
      s.topology = r.topology →
      Call.configureLauncher rt ∈ (Act.run s.submit ⟨s.begin x, log⟩).2.world.calls →
        rt.IsOf r.topology) ∧
    ∀ (ω : Type) (u : Undertaking ω) (scene : Scene (Surroundings ω)), u.runtime.IsOf r.topology →
      (∀ x ∈ (u.hands scene).2, x.kind = .executionState → x.Tells r.topology) ∧
        ((u.hands scene).1 = .ok (.bool true) →
          ∃ x ∈ (u.hands scene).2, x.kind = .executionState) := by
  refine ⟨get?_topologyName hc (Topology.isName_of_ofDefinition hv), get?_topologyId_iff hc,
    fun σ s x log rt hs hrt => ?_, fun ω u scene hu => Undertaking.tells_hands hu.topology scene⟩
  rw [← hs]
  exact Submitter.isOf_of_mem_calls hrt

/-- The settings for an id that names the cluster. -/
theorem run_build_namingCluster :
    ∃ c d, Act.run (build requestNamingCluster) ⟨siteWithConf, []⟩ = (.ok c, d) ∧
      c.get? Key.topologyId = some (.text "wc-local") := by
  have hid : (((Act.run (build requestNamingCluster) ⟨siteWithConf, []⟩).1.toOption.bind
      (·.get? Key.topologyId)).bind Value.text?) = some "wc-local" := by
    decide +kernel
  obtain ⟨x, hx, htext⟩ := Option.bind_eq_some_iff.mp hid
  obtain ⟨c, hc, hget⟩ := Option.bind_eq_some_iff.mp hx
  rcases hrun : Act.run (build requestNamingCluster) ⟨siteWithConf, []⟩ with ⟨e | c', d⟩
  · rw [hrun] at hc
    cases hc
  · rw [hrun] at hc
    obtain rfl : c' = c := Option.some.inj hc
    refine ⟨c', d, rfl, hget.trans ?_⟩
    cases x with
    | text s => exact congrArg (some <| Value.text ·) (Option.some.inj htext)
    | _ => cases htext

/-- The settings have the name of a topology whose id names the cluster, and not its id. -/
theorem build_identifies_namingCluster :
    ∃ c d, Topology.ofDefinition namingCluster = .ok requestNamingCluster.topology ∧
      Act.run (build requestNamingCluster) ⟨siteWithConf, []⟩ = (.ok c, d) ∧
      c.get? Key.topologyName = some (.text "wc") ∧ ¬IsResolved (.text "wc-${CLUSTER}") := by
  obtain ⟨c, d, hc, hid⟩ := run_build_namingCluster
  have hv : Topology.ofDefinition namingCluster = .ok requestNamingCluster.topology := rfl
  obtain ⟨hname, hiff, -⟩ := build_identifies hv hc
  refine ⟨c, d, hv, hc, hname, fun hresolved => ?_⟩
  have hsame := Value.text.inj (Option.some.inj ((hiff.mpr hresolved).symm.trans hid))
  revert hsame
  decide

/-- The settings have an id of their own, while the launcher is given the id of the topology. -/
theorem build_changes_id :
    ∃ c d, Topology.ofDefinition namingCluster = .ok requestNamingCluster.topology ∧
      Act.run (build requestNamingCluster) ⟨siteWithConf, []⟩ = (.ok c, d) ∧
      c.get? Key.topologyId = some (.text "wc-local") ∧
      ∀ (σ : Type) (s : Submitter σ) (uri : Value), s.topology = requestNamingCluster.topology →
        (s.runtime uri).topologyId = .text "wc-${CLUSTER}" := by
  obtain ⟨c, d, hc, hid⟩ := run_build_namingCluster
  refine ⟨c, d, rfl, hc, hid, fun σ s uri hs => ?_⟩
  rw [Submitter.runtime, hs]
  rfl

end Settings

end TopologySubmission
