import TopologySubmission.Proofs.Packing.InTurn
import TopologySubmission.Proofs.Plugin.Delivery
import TopologySubmission.Proofs.Value.Configured

/-!
# Settings that are numbers

An integer may be asked for, a topology says for how many containers it is packed, and an uploader how many
seconds a command may take. Whatever value stands there, it is known what comes of it:

    an integer that is asked for               (Settings.configures_integerOf)
    the plan for a topology                    (RoundRobin.Asks.configures_plan)
    the seconds of an uploader                 (ScpUploader.configures_timeLimit)
    an uploader that is initialized with them  (ScpUploader.ForHost.leads_configure)

Not-a-number is a number of seconds that is neither refused nor above zero (numbers_escape).
-/

namespace TopologySubmission

/-! ## Algorithm -/

namespace RoundRobin

/-- A topology has components with numbers of instances, and a value says for how many containers it is
packed. -/
structure Asks (t : Topology) (es : Entries) (v : Value) : Prop where
  components : t.components = .ok es
  numbers : ∀ e ∈ es, ∃ k, e.2.asInt? = some k
  containers : containersValue t = .ok v.freeze

/-- The value under which a definition says for how many containers it is packed. -/
def askedIn? (d : Value) : Option Value := do
  let settings ← (← d.entries?).getText? "config"
  (← settings.entries?).getText? containersKey

/-- The plan of components for a number of containers. -/
def planOf (t : Topology) (es : Entries) (n : Nat) : PackingPlan :=
  ⟨t.id.plain ++ "-packing", deal n (numberFrom 1 (rowOf es))⟩

end RoundRobin

namespace ScpUploader

/-- Settings with all that an uploader needs at a site, apart from the seconds that a command may take. -/
structure ForHost (settings : Settings) (s : Site) : Prop where
  required : ∀ k ∈ requiredKeys, (settings.get k).isTruthy = true
  scpOptions : ∃ ws, optionWords (settings.get Key.scpOptions) = .ok ws
  sshOptions : ∃ ws, optionWords (settings.get Key.sshOptions) = .ok ws
  package : ∃ p, Act.Leads (Site.pathSetting settings Key.packageFile) s (.ok p) s

/-- The seconds that a value asks for. -/
def timeLimit (v : Value) : Except Failure Binary64 := do
  let limit ← seconds v
  if limit.isZeroOrLess then throw (.configuration (Key.scpTimeout ++ " must be positive"))
  return limit

end ScpUploader

/-! ## Lemmas -/

/-! ### The three settings -/

/-- An integer that is asked for. -/
theorem Settings.configures_integerOf (key v : Value) :
    Configures (integerOf key v)
      (fun x => v = .null ∧ x = .null ∨ ∃ n, v.toInteger = .ok n ∧ x = .int n) v.EscapesInteger := by
  by_cases hnull : v = .null
  · subst hnull
    refine .ok (fun x => ⟨?_, fun hx => .inl ⟨rfl, hx⟩⟩) ?_
    · rintro (⟨-, hx⟩ | ⟨n, hn, -⟩)
      · exact hx
      · cases hn
    · rintro f (⟨negative, h⟩ | ⟨h, -⟩) <;> cases h
  · have hread : integerOf key v =
        (v.configured ("Config key '" ++ key.plain ++ "' is not an integer: ") v.toInteger).map Value.int := by
      cases v <;> first | rfl | exact absurd rfl hnull
    rw [hread]
    refine ((Value.configures_integer v _).map Value.int).congr (fun x => ?_) fun _ => Iff.rfl
    simp [hnull]

namespace RoundRobin

variable {t : Topology} {es : Entries} {v : Value}

theorem configures_containerCount (v : Value) :
    Configures (containerCount v) (fun k => ∃ n : Int, v.toInteger = .ok n ∧ 1 ≤ n ∧ k = n.toNat)
      v.EscapesInteger := by
  refine Configures.bind (Value.configures_integer v _) fun n _ => ?_
  exact (Configures.check _ _).congr (fun k => and_congr_left fun _ => by omega) fun _ => Iff.rfl

/-- The plan of a topology is the plan of its components for the number of containers, named after the id. -/
theorem Asks.plan_eq (h : Asks t es v) :
    plan t = (containerCount v.freeze).map (planOf t es) >>= fun p => t.id.asText.map fun _ => p := by
  have hcontainers : ∀ n, containersFor n es = .ok (planOf t es n).containers := by
    intro n
    unfold containersFor
    rw [unroll_eq h.numbers]
    rfl
  unfold plan RoundRobin.containers
  rw [h.containers, h.components]
  show ((containerCount v.freeze >>= fun n => containersFor n es) >>= planNamed t.id) = _
  cases containerCount v.freeze with
  | error f => rfl
  | ok n =>
    show (containersFor n es >>= planNamed t.id) = _
    rw [hcontainers]
    exact planNamed_eq t.id _

theorem Asks.configures_plan (h : Asks t es v) : ∃ r : Except Failure PackingPlan,
    plan t = (r >>= fun p => t.id.asText.map fun _ => p) ∧
      Configures r (fun p => ∃ n : Int, v.toInteger = .ok n ∧ 1 ≤ n ∧ p = planOf t es n.toNat)
        v.EscapesInteger := by
  refine ⟨_, h.plan_eq, ((configures_containerCount v.freeze).map (planOf t es)).congr (fun p => ?_)
    fun _ => Value.escapesInteger_freeze_iff⟩
  simp only [Value.toInteger_freeze_eq_ok_iff]
  constructor
  · rintro ⟨_, ⟨n, hn, hpos, rfl⟩, rfl⟩
    exact ⟨n, hn, hpos, rfl⟩
  · rintro ⟨n, hn, hpos, rfl⟩
    exact ⟨_, ⟨n, hn, hpos, rfl⟩, rfl⟩

/-- Packing ends with the plan. -/
theorem result_run_pack {σ : Type} (t : Topology) (s : Scene σ) :
    (Act.run (packing.pack t) s).1 = (plan t).mapError .failure := by
  show (Act.run (pack t) s).1 = _
  unfold plan
  cases h : containers t with
  | error f =>
    unfold pack
    rw [h]
    rfl
  | ok cs =>
    rw [run_pack h]
    rfl

/-- A definition whose components are named with texts makes a topology with those components, packed for
as many containers as the definition says. -/
theorem asks_ofDefinition {d : Value} {ds : List (String × Nat)} (ht : Topology.ofDefinition d = .ok t)
    (hds : Topology.declared d = Topology.declaring ds) (hasked : askedIn? d = some v) :
    Asks t (Entries.ofList (componentEntries ds)) v where
  components := (Topology.components_ofDefinition ht hds).1
  numbers e he := by
    rw [ofList_componentEntries] at he
    obtain ⟨d, -, rfl⟩ := List.mem_map.mp he
    exact ⟨d.2, rfl⟩
  containers := by
    obtain ⟨es, body, hes, hbody, -, -, hrest⟩ := Topology.completes_ofDefinition ht
    obtain ⟨es', hes', hasked⟩ := Option.bind_eq_some_iff.mp hasked
    cases hes.symm.trans hes'
    obtain ⟨c, hc, hasked⟩ := Option.bind_eq_some_iff.mp hasked
    obtain ⟨cs, hcs, hv⟩ := Option.bind_eq_some_iff.mp hasked
    have hsettings : t.settings = .ok c.freeze := by
      unfold Topology.settings
      rw [Topology.part_of_body hbody, hrest "config" (by decide) (by decide), hc]
      rfl
    unfold containersValue
    rw [hsettings]
    refine bind_eq_ok_iff.mpr ⟨_, rfl, ?_⟩
    rw [Value.entries?_freeze, hcs]
    dsimp only [Option.map_some]
    rw [Topology.getText?_freezeEntries, hv]
    rfl

end RoundRobin

namespace ScpUploader

variable {settings : Settings} {w : Shipping} {v : Value}

theorem configures_timeLimit (v : Value) :
    Configures (timeLimit v) (fun x => v.toReal = .ok x ∧ (x = .nan ∨ Binary64.intLt 0 x = true))
      v.EscapesReal := by
  have hbind := Configures.bind (Value.configures_real v (Key.scpTimeout ++ " must be a number, got "))
    fun x _ => Configures.check (p := x.isZeroOrLess = true) (Key.scpTimeout ++ " must be positive") x
  refine hbind.congr (fun x => ?_) fun _ => Iff.rfl
  rw [← Binary64.isZeroOrLess_eq_false_iff]
  simp [and_comm]

theorem timeLimit_of_seconds {x : Binary64} (h : seconds v = .ok x) :
    timeLimit v = if x.isZeroOrLess then
      .error (.configuration (Key.scpTimeout ++ " must be positive")) else .ok x := by
  unfold timeLimit
  rw [h]
  show (if x.isZeroOrLess then (throw _ : Except Failure Unit) >>= fun _ => pure x else pure x) = _
  split <;> rfl

/-- With settings that have all else, an uploader is initialized as the time limit is read. -/
theorem ForHost.leads_configure (h : ForHost settings w.site) (hv : settings.get? Key.scpTimeout = some v) :
    ∃ w', Act.Leads (Shipping.sender.configure settings) w
        (((timeLimit v).map fun _ => ()).mapError .failure) w' ∧
      ∀ x, timeLimit v = .ok x → w'.uploader.timeout = .float x := by
  obtain ⟨scpWords, hscp⟩ := h.scpOptions
  obtain ⟨sshWords, hssh⟩ := h.sshOptions
  obtain ⟨p, hp⟩ := h.package
  have hlearn : ∀ (w : Shipping) (f : ScpUploader → ScpUploader),
      Act.Leads (remember Shipping.uploaderPart f) w (.ok ()) { w with uploader := f w.uploader } :=
    fun w f => Act.Leads.within _ (.change f w.uploader)
  have hread : ∀ {α : Type} {r : Except Failure α} {x : α} (w : Shipping), r = .ok x →
      Act.Leads (Act.ofExcept r) w (.ok x) w := fun w hr => hr ▸ Act.Leads.ofExcept _ w
  have hpackage : ∀ w' : Shipping, w'.site = w.site → Act.Leads
      (Act.within Shipping.sitePart (Site.pathSetting settings Key.packageFile)) w' (.ok p) w' := by
    rintro ⟨_, u⟩ rfl
    exact Act.Leads.within Shipping.sitePart hp
  have hmissing : (requiredKeys.filter fun k => !(settings.get k).isTruthy) = [] :=
    List.filter_eq_nil_iff.mpr fun k hk => by simp [h.required k hk]
  show ∃ w', Act.Leads (configure Shipping.sitePart Shipping.uploaderPart settings) w _ w' ∧ _
  unfold configure
  rw [hmissing, hv]
  dsimp only [Option.getD_some]
  refine (hlearn _ _).exists_bind <| (hread _ hscp).exists_bind <| (hlearn _ _).exists_bind <|
    (hread _ hssh).exists_bind <| (hlearn _ _).exists_bind ?_
  cases hlimit : seconds v with
  | error f =>
    have htime : timeLimit v = .error f := by
      unfold timeLimit
      rw [hlimit]
      rfl
    rw [htime]
    exact ⟨_, .bind_error (.fail f _) _, nofun⟩
  | ok x =>
    rw [timeLimit_of_seconds hlimit]
    refine (hread _ rfl).exists_bind <| (hlearn _ _).exists_bind ?_
    cases hzero : x.isZeroOrLess with
    | true => exact ⟨_, .bind_error (.fail _ _) _, nofun⟩
    | false =>
      refine ⟨_, .bind (hpackage _ ?site) (hlearn _ _), fun y hy => ?_⟩
      case site => rfl
      cases hy
      rfl

/-- The settings of an uploader to a host have all that it needs. -/
theorem forHost_hostSettings (v : Value) :
    ForHost (hostSettings.put Key.scpTimeout v) (siteWithPackage []) where
  required k hk := by
    simp only [requiredKeys, List.mem_cons, List.not_mem_nil, or_false] at hk
    rcases hk with rfl | rfl | rfl <;> rfl
  scpOptions := ⟨[], rfl⟩
  sshOptions := ⟨[], rfl⟩
  package := ⟨⟨"/", ["p.tar"]⟩, fun log => ⟨log, rfl⟩⟩

end ScpUploader

/-! ### Any value in the place of a number -/

/-- An integer that is asked for, a packing and an uploader take any value in the place of their number: a
value that reads as a number that will do gives the result, and any other one refuses the configuration,
apart from those that escape. A plan is named after the id, which must have a text, as every id that is a
text has. Of the numbers that an uploader takes, all but not-a-number are above zero. Topologies of
definitions with named components can be packed. -/
theorem numbers_configured {σ : Type} (v : Value) :
    (∀ key : String, Configures (Settings.integerOf (.text key) v)
      (fun x => v = .null ∧ x = .null ∨ ∃ n, v.toInteger = .ok n ∧ x = .int n) v.EscapesInteger) ∧
    (∀ t es, RoundRobin.Asks t es v → ∀ s : Scene σ, ∃ r : Except Failure PackingPlan,
      (Act.run (RoundRobin.packing.pack t) s).1 =
          (r >>= fun p => t.id.asText.map fun _ => p).mapError .failure ∧
        Configures r
          (fun p => ∃ n : Int, v.toInteger = .ok n ∧ 1 ≤ n ∧ p = RoundRobin.planOf t es n.toNat)
          v.EscapesInteger) ∧
    (∀ d t ds, Topology.ofDefinition d = .ok t → Topology.declared d = Topology.declaring ds →
      RoundRobin.askedIn? d = some v →
        RoundRobin.Asks t (Entries.ofList (RoundRobin.componentEntries ds)) v) ∧
    (∀ (settings : Settings) (w : Shipping), ScpUploader.ForHost settings w.site →
      settings.get? Key.scpTimeout = some v → ∃ (r : Except Failure Binary64) (w' : Shipping),
        Act.Leads (Shipping.sender.configure settings) w ((r.map fun _ => ()).mapError .failure) w' ∧
        (∀ x, r = .ok x → w'.uploader.timeout = .float x) ∧
        Configures r (fun x => v.toReal = .ok x ∧ (x = .nan ∨ Binary64.intLt 0 x = true))
          v.EscapesReal) := by
  refine ⟨fun key => Settings.configures_integerOf (.text key) v, fun t es h s => ?_,
    fun d t ds ht hds hasked => RoundRobin.asks_ofDefinition ht hds hasked, fun settings w h hv => ?_⟩
  · obtain ⟨r, hplan, hgives⟩ := h.configures_plan
    exact ⟨r, hplan ▸ RoundRobin.result_run_pack t s, hgives⟩
  · obtain ⟨w', hleads, htimeout⟩ := h.leads_configure hv
    exact ⟨_, w', hleads, htimeout, ScpUploader.configures_timeLimit v⟩

/-- Two containers and two seconds. -/
theorem numbers_configured_two :
    Settings.integerOf (.text "k") (.int 2) = .ok (.int 2) ∧
      (∃ t p, Topology.ofDefinition RoundRobin.namedApart = .ok t ∧
        (Act.run (RoundRobin.packing.pack t) (⟨(), []⟩ : Scene Unit)).1 = .ok p ∧
        p.containers.length = 2) ∧
      ∃ w' : Shipping, Act.Leads
        (Shipping.sender.configure (ScpUploader.hostSettings.put Key.scpTimeout (.int 2)))
        ⟨ScpUploader.siteWithPackage [], {}⟩ (.ok ()) w' ∧
        w'.uploader.timeout = .float (.finite false (2 ^ 52) (-51)) := by
  obtain ⟨hint, hpack, hasks, hconfigure⟩ := numbers_configured (σ := Unit) (.int 2)
  refine ⟨((hint "k").ok_iff _).mpr (.inr ⟨2, rfl, rfl⟩), ?_, ?_⟩
  · have hdefined := hasks RoundRobin.namedApart _ [("a", 1), ("b", 3)] rfl rfl rfl
    obtain ⟨r, hrun, hgives⟩ := hpack _ _ hdefined ⟨(), []⟩
    obtain rfl := (hgives.ok_iff _).mpr ⟨2, rfl, by decide, rfl⟩
    exact ⟨_, _, rfl, hrun, rfl⟩
  · obtain ⟨r, w', hleads, htimeout, hgives⟩ := hconfigure _ ⟨ScpUploader.siteWithPackage [], {}⟩
      (ScpUploader.forHost_hostSettings (.int 2)) rfl
    obtain rfl := (hgives.ok_iff (.finite false (2 ^ 52) (-51))).mpr ⟨rfl, .inr rfl⟩
    exact ⟨w', hleads, htimeout _ rfl⟩

/-- The definition of a topology that is packed for as many containers as a value says. -/
def RoundRobin.packedFor (v : Value) : Value :=
  .map [(.text "id", .text "x"), (.text "name", .text "n"),
    (.text "config", .map [(.text containersKey, v)])]

/-- An infinity is no integer and no number of containers, and does not refuse the configuration; nor does a
large integer as a number of seconds. Not-a-number passes for a number of seconds and is not above zero. -/
theorem numbers_escape :
    Settings.integerOf (.text "k") (.float (.infinity false)) = .error (.overflow .infinityToInteger) ∧
      (∃ t, Topology.ofDefinition (RoundRobin.packedFor (.float (.infinity false))) = .ok t ∧
        (Act.run (RoundRobin.packing.pack t) (⟨(), []⟩ : Scene Unit)).1 =
          .error (.failure (.overflow .infinityToInteger))) ∧
      (Act.run (Shipping.sender.configure (ScpUploader.hostSettings.put Key.scpTimeout (.int (2 ^ 1024))))
        ⟨⟨ScpUploader.siteWithPackage [], {}⟩, []⟩).1 = .error (.failure (.overflow .integerToReal)) ∧
      (∃ c, Act.run (Shipping.sender.configure (ScpUploader.hostSettings.put Key.scpTimeout (.float .nan)))
          ⟨⟨ScpUploader.siteWithPackage [], {}⟩, []⟩ = (.ok (), c) ∧
        c.world.uploader.timeout = .float .nan ∧ Binary64.intLt 0 .nan = false) ∧
      ∀ o, (Failure.overflow o).kind ≠ .submission .configuration := by
  refine ⟨rfl, ⟨_, rfl, rfl⟩, ?_, ⟨_, rfl, rfl, rfl⟩, fun _ => nofun⟩
  obtain ⟨w', hleads, -⟩ := (ScpUploader.forHost_hostSettings (.int (2 ^ 1024))).leads_configure
    (w := ⟨ScpUploader.siteWithPackage [], {}⟩) rfl
  have hpow : ∀ k, ((2 : Int) ^ k).natAbs = 2 ^ k := fun k => Int.natAbs_pow 2 k
  have hlarge : (Value.int (2 ^ 1024)).IsLarge :=
    ⟨2 ^ 1024, rfl, (Nat.sub_le _ _).trans_eq (hpow 1024).symm⟩
  rw [hleads.result, (ScpUploader.configures_timeLimit _).passes _ (.overflow hlarge)]
  rfl

end TopologySubmission
