import TopologySubmission.Plugin.RoundRobin
import TopologySubmission.Proofs.Packing.Dealing
import TopologySubmission.Topology.Definition

/-!
# What a definition declares and what is packed

A definition declares components in two lists, and every entry asks for a number of instances. Packing
goes through the components as a mapping, so of two entries with one name the later one counts:

    the components of a definition are the mapping of its entries     (components_ofDefinition)
    a plan holds all that is declared exactly if no name is declared twice      (pack_holds_iff)
-/

namespace TopologySubmission

namespace Topology

open RoundRobin (componentEntries instancesOf kept)

/-! ## Algorithm -/

/-- The name and the number of instances that an entry of a definition declares. -/
def declaredEntry (v : Value) : Value × Nat :=
  let es := v.entries?.getD []
  ((es.getText? "name").getD .null,
    ((((es.getText? "parallelism").getD (.int 1)).asInt?).getD 0).toNat)

/-- The entries that a mapping declares under a kind of component. -/
def declaredUnder (es : Entries) (kind : String) : List (Value × Nat) :=
  match es.getText? kind with
  | some (.list xs) => xs.map declaredEntry
  | _ => []

/-- All entries that a definition declares, the spouts first. -/
def declared (v : Value) : List (Value × Nat) :=
  componentKinds.flatMap (declaredUnder (v.entries?.getD []))

/-- Components whose names are texts, as a definition declares them. -/
def declaring (ds : List (String × Nat)) : List (Value × Nat) := ds.map fun d => (.text d.1, d.2)

/-- The entries that a mapping declares under a kind are completed in a body. -/
def Completes (es body : Entries) (kind : String) : Prop :=
  ∃ xs ys : List Value, declaredUnder es kind = xs.map declaredEntry ∧
    xs.mapM (completeComponent kind) = .ok ys ∧ body.getText? kind = some (.list ys)

/-! ## Lemmas -/

theorem getText?_freezeEntries (es : Entries) (s : String) :
    (Value.freezeEntries es).getText? s = (es.getText? s).map Value.freeze := by
  induction es with
  | nil => rfl
  | cons e es ih =>
    obtain ⟨k, v⟩ := e
    rw [Value.freezeEntries, Entries.getText?_cons, Entries.getText?_cons, ih]
    split <;> rfl

theorem getText?_insertText (es : Entries) (k : String) (v : Value) (s : String) :
    (es.insertText k v).getText? s = if k = s then some v else es.getText? s := by
  unfold Entries.insertText
  rw [Entries.getText?_insert, Value.same_text]
  by_cases h : k = s <;> simp [h]

theorem eq_int_of_parallelism? {v : Value} {n : Int} (h : parallelism? v = some n) :
    v = .int n ∧ 1 ≤ n := by
  refine ⟨?_, parallelism?_pos v n h⟩
  unfold parallelism? at h
  split at h
  · split at h
    · rw [Option.some.inj h]
    · cases h
  · cases h

/-- An entry is completed with its name and a positive number of instances. -/
theorem completeComponent_eq_ok {kind : String} {x y : Value} (h : completeComponent kind x = .ok y) :
    ∃ es name, ∃ n : Int, x.entries? = some es ∧ es.getText? "name" = some name ∧
      (es.getText? "parallelism").getD (.int 1) = .int n ∧ 1 ≤ n ∧
      y = .map (es.insertText "parallelism" (.int n)) := by
  unfold completeComponent at h
  split at h
  · cases h
  · next es hes =>
    split at h
    · cases h
    · next name hname =>
      split at h
      · next n hn =>
        obtain ⟨hint, hpos⟩ := eq_int_of_parallelism? hn
        exact ⟨es, name, n, hes, hname, hint, hpos, (Except.ok.inj h).symm⟩
      · obtain ⟨_, -, h⟩ := bind_eq_ok_iff.mp h
        cases h

/-- A completed entry that is frozen is the component that was declared. -/
theorem component_of_complete {kind : String} {x y : Value} {d : String × Nat}
    (h : completeComponent kind x = .ok y) (hd : declaredEntry x = (.text d.1, d.2)) :
    component y.freeze = .ok (.text d.1, .int d.2) ∧ 1 ≤ d.2 := by
  obtain ⟨es, name, n, hes, hname, hint, hpos, rfl⟩ := completeComponent_eq_ok h
  have hentry : declaredEntry x = (name, n.toNat) := by
    unfold declaredEntry
    rw [hes]
    dsimp only [Option.getD_some]
    rw [hname, hint]
    rfl
  obtain ⟨rfl, hcount⟩ := Prod.mk.inj (hentry.symm.trans hd)
  have hn : n = (d.2 : Int) := by omega
  refine ⟨?_, by omega⟩
  unfold component
  rw [Value.freeze_map]
  dsimp only [Value.entries?]
  rw [getText?_freezeEntries, getText?_freezeEntries, getText?_insertText,
    getText?_insertText, if_neg (by decide), if_pos rfl, hname, hn]
  rfl

/-- The components of completed entries are those that were declared. -/
theorem mapM_component {kind : String} {xs ys : List Value} {ds : List (String × Nat)}
    (h : xs.mapM (completeComponent kind) = .ok ys) (hds : xs.map declaredEntry = declaring ds) :
    (Value.freezeItems ys).mapM component = .ok (componentEntries ds) ∧ ∀ d ∈ ds, 1 ≤ d.2 := by
  induction xs generalizing ys ds with
  | nil =>
    obtain rfl : ds = [] := List.map_eq_nil_iff.mp hds.symm
    rw [List.mapM_nil] at h
    obtain rfl := Except.ok.inj h
    exact ⟨rfl, fun d hd => by cases hd⟩
  | cons x xs ih =>
    cases ds with
    | nil => cases hds
    | cons d ds =>
      obtain ⟨hd, hrest⟩ := List.cons.inj hds
      rw [List.mapM_cons] at h
      obtain ⟨y, hx, h⟩ := bind_eq_ok_iff.mp h
      obtain ⟨zs, hxs, h⟩ := bind_eq_ok_iff.mp h
      obtain rfl : y :: zs = ys := Except.ok.inj h
      obtain ⟨hcomponent, hpos⟩ := component_of_complete hx hd
      obtain ⟨hcomponents, hall⟩ := ih hxs hrest
      refine ⟨?_, List.forall_mem_cons.mpr ⟨hpos, hall⟩⟩
      rw [Value.freezeItems, List.mapM_cons, hcomponent, hcomponents]
      rfl

/-- A kind of component is completed in its place, and nothing else changes. -/
theorem completeKind_eq_ok {body body' : Entries} {kind : String}
    (h : completeKind body kind = .ok body') :
    ∃ xs ys : List Value, declaredUnder body kind = xs.map declaredEntry ∧
      xs.mapM (completeComponent kind) = .ok ys ∧ body' = body.insertText kind (.list ys) := by
  unfold completeKind at h
  split at h
  · next xs hxs =>
    obtain ⟨ys, hys, h⟩ := bind_eq_ok_iff.mp h
    refine ⟨xs, ys, ?_, hys, (Except.ok.inj h).symm⟩
    unfold declaredUnder
    cases hkind : body.getText? kind with
    | none =>
      rw [hkind] at hxs
      obtain rfl := Value.list.inj hxs
      rfl
    | some v =>
      rw [hkind] at hxs
      obtain rfl : v = .list xs := hxs
      rfl
  · cases h

/-- Taking out the headings leaves the lists of components. -/
theorem getText?_body (es : Entries) {s : String} (h : isHeading (.text s) = false) :
    Entries.getText? (es.filter fun e => !isHeading e.1) s = es.getText? s := by
  induction es with
  | nil => rfl
  | cons e es ih =>
    obtain ⟨k, v⟩ := e
    cases hh : isHeading k with
    | false =>
      rw [List.filter_cons_of_pos (by simpa using hh), Entries.getText?_cons, Entries.getText?_cons,
        ih]
    | true =>
      have hk : k.same (.text s) = false := by
        rw [← Bool.not_eq_true]
        intro hk
        obtain rfl := Value.same_text_right s k hk
        rw [hh] at h
        cases h
      rw [List.filter_cons_of_neg (by simpa using hh), ih, Entries.getText?_cons, hk]
      rfl

theorem parts_of_make {id name body : Value} {t : Topology} (h : make id name body = .ok t) :
    t.id = id ∧ t.body = body.freeze := by
  unfold make at h
  dsimp only at h
  split at h
  · cases h
  · split at h
    · cases h
    · obtain ⟨_, -, h⟩ := bind_eq_ok_iff.mp h
      obtain rfl := Except.ok.inj h
      exact ⟨rfl, rfl⟩

/-- The topology of a definition is made of two texts and the completed body. -/
theorem make_of_ofDefinition {v : Value} {t : Topology} (h : ofDefinition v = .ok t) :
    ∃ (es body : Entries) (id name : String), v.entries? = some es ∧
      componentKinds.foldlM completeKind (es.filter fun e => !isHeading e.1) = .ok body ∧
      make (.text id) (.text name) (.map body) = .ok t := by
  unfold ofDefinition at h
  split at h
  · cases h
  next es hes =>
  obtain ⟨body, hbody, h⟩ := bind_eq_ok_iff.mp h
  dsimp only at h
  split at h
  · cases h
  obtain ⟨id, -, h⟩ := bind_eq_ok_iff.mp h
  obtain ⟨name, -, h⟩ := bind_eq_ok_iff.mp h
  exact ⟨es, body, id, name, hes, hbody, h⟩

/-- The id of a definition is a text. -/
theorem id_of_ofDefinition {v : Value} {t : Topology} (h : ofDefinition v = .ok t) :
    ∃ id, t.id = .text id := by
  obtain ⟨_, _, id, _, -, -, hmake⟩ := make_of_ofDefinition h
  exact ⟨id, (parts_of_make hmake).1⟩

/-- A part of a topology is what the body had under its name before it was frozen. -/
theorem part_of_body {t : Topology} {body : Entries} (h : t.body = (Value.map body).freeze)
    (name : String) (default : Value) :
    t.part name default = .ok (((body.getText? name).map Value.freeze).getD default) := by
  unfold part
  rw [h, Value.freeze_map]
  dsimp only [Value.entries?]
  rw [getText?_freezeEntries]

/-- The parts that a kind gives, where the body has completed entries of that kind. -/
theorem componentsOf_eq {t : Topology} {body : Entries} {kind : String} {ys : List Value}
    {es : Entries} (hbody : t.body = (Value.map body).freeze)
    (hkind : body.getText? kind = some (.list ys))
    (hys : (Value.freezeItems ys).mapM component = .ok es) (found : Entries) :
    t.componentsOf found kind = .ok (found.merge es) := by
  have hpart : t.part kind (.tuple []) = .ok (.tuple (Value.freezeItems ys)) := by
    rw [part_of_body hbody, hkind, Option.map_some, Value.freeze]
    rfl
  unfold componentsOf
  rw [hpart]
  dsimp only [bind, Except.bind, Value.members, Value.members?]
  rw [hys]
  rfl

/-- What a kind declares is found among the components, and asks for one instance at least. -/
theorem Completes.components {t : Topology} {es body : Entries} {kind : String}
    {ds : List (String × Nat)} (h : Completes es body kind)
    (hbody : t.body = (Value.map body).freeze) (hds : declaredUnder es kind = declaring ds) :
    (∀ found, t.componentsOf found kind = .ok (found.merge (componentEntries ds))) ∧
      ∀ d ∈ ds, 1 ≤ d.2 := by
  obtain ⟨xs, ys, hxs, hys, hkind⟩ := h
  obtain ⟨hparts, hpos⟩ := mapM_component hys (hxs.symm.trans hds)
  exact ⟨componentsOf_eq hbody hkind hparts, hpos⟩

/-- The body of a topology from a definition completes both kinds of components, and has all else as it
is. -/
theorem completes_ofDefinition {v : Value} {t : Topology} (h : ofDefinition v = .ok t) :
    ∃ es body : Entries, v.entries? = some es ∧ t.body = (Value.map body).freeze ∧
      Completes es body "spouts" ∧ Completes es body "bolts" ∧
      ∀ s, s ∉ componentKinds → isHeading (.text s) = false → body.getText? s = es.getText? s := by
  obtain ⟨es, body, _, _, hes, hbody, hmake⟩ := make_of_ofDefinition h
  have ht : t.body = (Value.map body).freeze := (parts_of_make hmake).2
  obtain ⟨body₁, hspouts, hbody⟩ := bind_eq_ok_iff.mp hbody
  obtain ⟨body₂, hbolts, hbody⟩ := bind_eq_ok_iff.mp hbody
  obtain rfl : body₂ = body := Except.ok.inj hbody
  obtain ⟨xs₁, ys₁, hxs₁, hys₁, hbody₁⟩ := completeKind_eq_ok hspouts
  obtain ⟨xs₂, ys₂, hxs₂, hys₂, hbody₂⟩ := completeKind_eq_ok hbolts
  refine ⟨es, body₂, hes, ht, ⟨xs₁, ys₁, ?_, hys₁, ?_⟩, ⟨xs₂, ys₂, ?_, hys₂, ?_⟩, fun s hs hh => ?_⟩
  · rw [← hxs₁]
    unfold declaredUnder
    rw [getText?_body es (by decide)]
  · rw [hbody₂, getText?_insertText, if_neg (by decide), hbody₁, getText?_insertText, if_pos rfl]
  · -- the spouts are completed in place, so the bolts are still those of the definition
    rw [← hxs₂]
    unfold declaredUnder
    rw [hbody₁, getText?_insertText, if_neg (by decide), getText?_body es (by decide)]
  · rw [hbody₂, getText?_insertText, if_pos rfl]
  · have hkinds : "spouts" ≠ s ∧ "bolts" ≠ s := by
      constructor <;> rintro rfl <;> exact hs (by decide)
    rw [hbody₂, getText?_insertText, if_neg hkinds.2, hbody₁, getText?_insertText,
      if_neg hkinds.1, getText?_body es hh]

/-- The components of a definition are its entries as a mapping. -/
theorem components_ofDefinition {v : Value} {t : Topology} {ds : List (String × Nat)}
    (h : ofDefinition v = .ok t) (hds : declared v = declaring ds) :
    t.components = .ok (Entries.ofList (componentEntries ds)) ∧ ∀ d ∈ ds, 1 ≤ d.2 := by
  obtain ⟨es, body, hes, hbody, hspouts, hbolts, -⟩ := completes_ofDefinition h
  have hsplit : declaredUnder es "spouts" ++ declaredUnder es "bolts" = declaring ds := by
    rw [← hds]
    unfold declared
    rw [hes]
    simp [componentKinds]
  obtain ⟨ds₁, ds₂, rfl, hds₁, hds₂⟩ := List.map_eq_append_iff.mp hsplit.symm
  obtain ⟨hparts₁, hpos₁⟩ := hspouts.components hbody hds₁.symm
  obtain ⟨hparts₂, hpos₂⟩ := hbolts.components hbody hds₂.symm
  refine ⟨?_, List.forall_mem_append.mpr ⟨hpos₁, hpos₂⟩⟩
  unfold components
  rw [componentKinds, List.foldlM_cons, hparts₁]
  refine bind_eq_ok_iff.mpr ⟨_, rfl, ?_⟩
  rw [List.foldlM_cons, hparts₂]
  refine bind_eq_ok_iff.mpr ⟨_, rfl, ?_⟩
  unfold Entries.ofList Entries.merge componentEntries
  rw [List.foldlM_nil, List.map_append, List.foldl_append]
  rfl

end Topology

namespace RoundRobin

open TopologySubmission.Topology (declared declaring)

/-- A definition that names two spouts alike. -/
def namedTwice : Value :=
  .map [(.text "id", .text "x"), (.text "name", .text "n"),
    (.text "spouts", .list [.map [(.text "name", .text "a")], .map [(.text "name", .text "a")]])]

/-- A definition with a spout and a bolt of three instances, for two containers. -/
def namedApart : Value :=
  .map [(.text "id", .text "x"), (.text "name", .text "n"),
    (.text "spouts", .list [.map [(.text "name", .text "a")]]),
    (.text "bolts", .list [.map [(.text "name", .text "b"), (.text "parallelism", .int 3)]]),
    (.text "config", .map [(.text containersKey, .int 2)])]

theorem containerCount_of_toInteger {v : Value} {m : Int} (h : v.toInteger = .ok m) (hm : 1 ≤ m) :
    containerCount v = .ok m.toNat := by
  unfold containerCount
  rw [h, Value.configured_ok]
  refine bind_eq_ok_iff.mpr ⟨m, rfl, ?_⟩
  rw [if_neg (by omega)]
  rfl

theorem containerCount_of_asInt? {v : Value} {n : Int} (h : v.asInt? = some n) (hn : 1 ≤ n) :
    containerCount v = .ok n.toNat := by
  refine containerCount_of_toInteger ?_ hn
  cases v with
  | bool b => exact congrArg Except.ok (Option.some.inj h)
  | int m => exact congrArg Except.ok (Option.some.inj h)
  | _ => cases h

/-- Packing succeeds on every definition with numbers of instances and containers, and the plan holds
the components that are kept. It holds all that is declared, and counts it, exactly if no name is
declared twice. -/
theorem pack_holds_iff {σ : Type} {v : Value} {t : Topology} {ds : List (String × Nat)}
    {asked : Value} {n : Int} (ht : Topology.ofDefinition v = .ok t)
    (hds : declared v = declaring ds) (hasked : containersValue t = .ok asked)
    (hint : asked.asInt? = some n) (hn : 1 ≤ n) (s : Scene σ) :
    ∃ p, Act.run (packing.pack t) s =
        (.ok p, { s with log := s.log ++ [⟨.debug, summary t p.containers⟩] }) ∧
      p.held.Perm (instancesOf (kept ds)) ∧
      (p.held.Perm (instancesOf ds) ↔ (ds.map Prod.fst).Nodup) ∧
      (p.instanceCount = (ds.map Prod.snd).sum ↔ (ds.map Prod.fst).Nodup) := by
  obtain ⟨hcomponents, hpos⟩ := Topology.components_ofDefinition ht hds
  have hcount := containerCount_of_asInt? hint hn
  obtain ⟨id, hid⟩ := Topology.id_of_ofDefinition ht
  obtain ⟨cs, hcs, hholds⟩ := containersFor_held (n := n.toNat) (by omega) (kept ds)
  have hcontainers : containers t = .ok cs := by
    unfold containers
    rw [hasked, hcomponents, ofList_componentEntries]
    refine bind_eq_ok_iff.mpr ⟨asked, rfl, ?_⟩
    rw [hcount]
    exact bind_eq_ok_iff.mpr ⟨n.toNat, rfl, hcs⟩
  obtain ⟨p, hp⟩ : ∃ p : PackingPlan, p = ⟨id ++ "-packing", cs⟩ := ⟨_, rfl⟩
  have hheld : p.held.Perm (instancesOf (kept ds)) := hp ▸ hholds _
  have htotal : p.instanceCount = ((kept ds).map Prod.snd).sum := by
    rw [← length_held, hheld.length_eq, length_instancesOf]
  have hcounted : p.instanceCount = (ds.map Prod.snd).sum ↔ (ds.map Prod.fst).Nodup := by
    rw [htotal]
    exact sum_kept_iff hpos
  refine ⟨p, ?_, hheld, ⟨fun h => ?_, fun h => ?_⟩, hcounted⟩
  · show Act.run (pack t) s = _
    rw [run_pack hcontainers, hid, hp]
    rfl
  · apply hcounted.mp
    rw [← length_held, h.length_eq, length_instancesOf]
  · exact hheld.trans ((kept_perm h).flatMap_right _)

/-- A spout and a bolt of three instances are packed as they are declared. -/
theorem pack_holds_namedApart :
    ∃ t p, Topology.ofDefinition namedApart = .ok t ∧
      (Act.run (packing.pack t) (⟨(), []⟩ : Scene Unit)).1 = .ok p ∧
      p.held.Perm (instancesOf [("a", 1), ("b", 3)]) ∧ p.instanceCount = 4 := by
  obtain ⟨p, hrun, -, hheld, hcount⟩ :=
    pack_holds_iff (show Topology.ofDefinition namedApart = .ok _ from rfl)
      (show declared namedApart = declaring [("a", 1), ("b", 3)] from rfl)
      (show containersValue _ = .ok (.int 2) from rfl) rfl (by decide) (⟨(), []⟩ : Scene Unit)
  have hnames : (([("a", 1), ("b", 3)] : List (String × Nat)).map Prod.fst).Nodup := by decide
  exact ⟨_, p, rfl, congrArg Prod.fst hrun, hheld.mpr hnames, hcount.mpr hnames⟩

/-- Of two spouts that are named alike, one is not packed. -/
theorem pack_loses_namedTwice :
    ∃ t p, Topology.ofDefinition namedTwice = .ok t ∧
      declared namedTwice = declaring [("a", 1), ("a", 1)] ∧ containersValue t = .ok (.int 1) ∧
      (Act.run (packing.pack t) (⟨(), []⟩ : Scene Unit)).1 = .ok p ∧
      ¬ p.held.Perm (instancesOf [("a", 1), ("a", 1)]) ∧ p.instanceCount ≠ 2 := by
  refine ⟨_, _, rfl, rfl, rfl, rfl, ?_, ?_⟩
  · intro h
    have hlength := h.length_eq
    revert hlength
    decide
  · decide

end RoundRobin

end TopologySubmission
