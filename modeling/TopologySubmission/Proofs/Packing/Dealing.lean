import TopologySubmission.Packing.RoundRobin
import TopologySubmission.Proofs.Value.Merging
import Mathlib.Algebra.GroupWithZero.Nat
import Mathlib.Data.List.Nodup
import Mathlib.Data.List.Perm.Subperm

/-!
# What a plan holds

Dealing in turn gives every task to exactly one container. So a plan holds each instance of the
components it was made for once, whatever the number of containers:

    the containers of `deal` hold the tasks                        (deal_perm)
    a plan holds the instances of its components                   (containersFor_held)

The components of a topology are a mapping, in which of two equal names the later one counts. `kept`
are the components that are left, and nothing is lost exactly if no name is there twice:

    ofList (componentEntries ds) = componentEntries (kept ds)      (ofList_componentEntries)
    the totals of `kept ds` and `ds` are the same exactly if the names of `ds` differ  (sum_kept_iff)
-/

namespace TopologySubmission

namespace RoundRobin

/-! ## Algorithm -/

/-- Components by name and number of instances, as entries of a mapping. -/
def componentEntries (ds : List (String × Nat)) : Entries := ds.map fun d => (.text d.1, .int d.2)

/-- The instances of components, each by its component and its place in it. -/
def instancesOf (ds : List (String × Nat)) : List (Value × Nat) :=
  ds.flatMap fun d => (List.range d.2).map fun i => (.text d.1, i)

/-- Each name once, at its first place and with its last number of instances. -/
def kept (ds : List (String × Nat)) : List (String × Nat) :=
  (ds.map Prod.fst).eraseDups.map fun s => (s, (ds.reverse.lookup s).getD 0)

end RoundRobin

/-- The instances in the containers of a plan, each by its component and its place in it. -/
def PackingPlan.held (p : PackingPlan) : List (Value × Nat) :=
  (p.containers.flatMap (·.instances)).map fun i => (i.component, i.index)

namespace RoundRobin

/-! ## Lemmas -/

/-! ### Dealing -/

/-- The elements with each of some distinct numbers are all elements, if every number is there. -/
theorem fibers_perm {α : Type} (f : α → Nat) (ks : List Nat) (hks : ks.Nodup) (xs : List α)
    (h : ∀ x ∈ xs, f x ∈ ks) : (ks.flatMap fun k => xs.filter fun x => f x == k).Perm xs := by
  induction ks generalizing xs with
  | nil =>
    have hxs : xs = [] := List.eq_nil_iff_forall_not_mem.mpr fun x hx => by cases h x hx
    rw [hxs]
    rfl
  | cons k ks ih =>
    obtain ⟨hk, hks⟩ := List.nodup_cons.mp hks
    have hrest : ∀ x ∈ xs.filter (fun x => !(f x == k)), f x ∈ ks := by
      intro x hx
      obtain ⟨hx, hne⟩ := List.mem_filter.mp hx
      rcases List.mem_cons.mp (h x hx) with heq | hmem
      · simp [heq] at hne
      · exact hmem
    have hsame : (ks.flatMap fun k' => xs.filter fun x => f x == k') =
        ks.flatMap fun k' => (xs.filter fun x => !(f x == k)).filter fun x => f x == k' := by
      apply List.flatMap_congr
      intro k' hk'
      rw [List.filter_filter]
      apply List.filter_congr
      intro x _
      cases hx : f x == k' with
      | false => rfl
      | true =>
        have hne : f x ≠ k := by
          rw [beq_iff_eq.mp hx]
          rintro rfl
          exact hk hk'
        simpa using hne
    rw [List.flatMap_cons, hsame]
    exact ((ih hks _ hrest).append_left _).trans (List.filter_append_perm _ xs)

/-- Every task is dealt to exactly one container. -/
theorem deal_perm {n : Nat} (hn : 1 ≤ n) (tasks : List Instance)
    (h : ∀ i ∈ tasks, 1 ≤ i.task ∧ i.task ≤ tasks.length) :
    ((deal n tasks).flatMap (·.instances)).Perm tasks := by
  have hdealt : (deal n tasks).flatMap (·.instances) =
      (List.range' 1 (min n tasks.length)).flatMap fun c =>
        tasks.filter fun i => (i.task - 1) % n + 1 == c := by
    unfold deal dealtTo
    rw [List.flatMap_map]
  rw [hdealt]
  apply fibers_perm (fun i : Instance => (i.task - 1) % n + 1) _ List.nodup_range'
  intro i hi
  obtain ⟨hlow, hhigh⟩ := h i hi
  have hturn : (i.task - 1) % n < n := Nat.mod_lt _ (by omega)
  have hle : (i.task - 1) % n ≤ i.task - 1 := Nat.mod_le _ _
  rw [List.mem_range'_1]
  omega

theorem map_numberFrom (first : Nat) (xs : List (Value × Nat)) :
    ((numberFrom first xs).map fun i => (i.component, i.index)) = xs := by
  induction xs generalizing first with
  | nil => rfl
  | cons x xs ih => rw [numberFrom, List.map_cons, ih]

theorem unroll_componentEntries (ds : List (String × Nat)) :
    unroll (componentEntries ds) = .ok (instancesOf ds) := by
  induction ds with
  | nil => rfl
  | cons d ds ih =>
    have hcons : componentEntries (d :: ds) = (.text d.1, .int d.2) :: componentEntries ds := rfl
    rw [hcons, unroll, ih]
    rfl

/-- A plan with the containers for components holds their instances. -/
theorem containersFor_held {n : Nat} (hn : 1 ≤ n) (ds : List (String × Nat)) :
    ∃ cs, containersFor n (componentEntries ds) = .ok cs ∧
      ∀ name, (PackingPlan.mk name cs).held.Perm (instancesOf ds) := by
  unfold containersFor
  rw [unroll_componentEntries]
  refine ⟨_, rfl, fun _ => ?_⟩
  have htask : ∀ i ∈ numberFrom 1 (instancesOf ds), 1 ≤ i.task ∧
      i.task ≤ (numberFrom 1 (instancesOf ds)).length := by
    intro i hi
    have hmem : i.task ∈ (numberFrom 1 (instancesOf ds)).map (·.task) := List.mem_map.mpr ⟨i, hi, rfl⟩
    rw [tasks_numbered, List.mem_range'_1] at hmem
    rw [length_numberFrom]
    omega
  have hperm := (deal_perm hn _ htask).map fun i => (i.component, i.index)
  rwa [map_numberFrom] at hperm

theorem length_held (p : PackingPlan) : p.held.length = p.instanceCount := by
  unfold PackingPlan.held PackingPlan.instanceCount
  rw [List.length_map]

theorem length_instancesOf (ds : List (String × Nat)) :
    (instancesOf ds).length = (ds.map Prod.snd).sum := by
  unfold instancesOf
  rw [List.length_flatMap]
  simp

/-! ### Names that are there twice -/

theorem names_componentEntries (ds : List (String × Nat)) :
    (componentEntries ds).names = ds.map Prod.fst := by
  induction ds with
  | nil => rfl
  | cons d ds ih => exact congrArg (d.1 :: ·) ih

theorem keys_componentEntries (ds : List (String × Nat)) :
    (componentEntries ds).keys = (ds.map Prod.fst).map .text := by
  unfold componentEntries Entries.keys
  rw [List.map_map, List.map_map]
  rfl

theorem getText?_componentEntries (ds : List (String × Nat)) (s : String) :
    (componentEntries ds).getText? s = (ds.lookup s).map fun k => .int k := by
  induction ds with
  | nil => rfl
  | cons d ds ih =>
    have hcons : componentEntries (d :: ds) = (.text d.1, .int d.2) :: componentEntries ds := rfl
    rw [hcons, Entries.getText?_cons, ih, List.lookup_cons, Value.same_text]
    by_cases h : d.1 = s
    · simp [h]
    · have hne : (s == d.1) = false := beq_false_of_ne fun hs => h hs.symm
      simp [h, hne]

theorem map_fst_kept (ds : List (String × Nat)) :
    (kept ds).map Prod.fst = (ds.map Prod.fst).eraseDups := by
  unfold kept
  rw [List.map_map]
  exact List.map_id _

theorem lookup_reverse_isSome {ds : List (String × Nat)} {s : String} (h : s ∈ ds.map Prod.fst) :
    ∃ k, ds.reverse.lookup s = some k := by
  rw [← Option.isSome_iff_exists, List.lookup_isSome_iff]
  obtain ⟨d, hd, rfl⟩ := List.mem_map.mp h
  exact ⟨d, List.mem_reverse.mpr hd, beq_self_eq_true _⟩

/-- What is kept of a name is its last number of instances. -/
theorem mem_kept_iff {ds : List (String × Nat)} {s : String} {k : Nat} :
    (s, k) ∈ kept ds ↔ ds.reverse.lookup s = some k := by
  unfold kept
  rw [List.mem_map]
  constructor
  · rintro ⟨t, ht, h⟩
    obtain ⟨rfl, rfl⟩ := Prod.mk.inj h
    obtain ⟨k, hk⟩ := lookup_reverse_isSome (List.mem_eraseDups.mp ht)
    rw [hk]
    rfl
  · intro h
    refine ⟨s, List.mem_eraseDups.mpr ?_, by rw [h]; rfl⟩
    obtain ⟨l, r, hlr, -⟩ := List.lookup_eq_some_iff.mp h
    have hmem : (s, k) ∈ ds.reverse := by
      rw [hlr]
      simp
    exact List.mem_map.mpr ⟨_, List.mem_reverse.mp hmem, rfl⟩

/-- As a mapping, components are those that are kept. -/
theorem ofList_componentEntries (ds : List (String × Nat)) :
    Entries.ofList (componentEntries ds) = componentEntries (kept ds) := by
  obtain ⟨hnamed, hnames⟩ := Entries.named_nil.merge (keys_componentEntries ds)
  have hkept : (componentEntries (kept ds)).Named := by
    apply Entries.Named.of_keys (keys_componentEntries (kept ds))
    rw [map_fst_kept]
    exact Entries.nodup_eraseDups _
  apply Entries.Named.ext hnamed hkept
  · rw [hnames, names_componentEntries, map_fst_kept]
    rfl
  · intro s
    have hreverse : (componentEntries ds).reverse = componentEntries ds.reverse := by
      unfold componentEntries
      rw [List.map_reverse]
    rw [Entries.getText?_merge, hreverse, getText?_componentEntries]
    apply Option.ext
    intro v
    rw [hkept.getText?_eq_some_iff]
    unfold componentEntries
    rw [List.mem_map]
    constructor
    · intro h
      have h' : (ds.reverse.lookup s).map (fun k : Nat => Value.int k) = some v := by
        simpa [Entries.getText?, Entries.get?] using h
      obtain ⟨k, hk, rfl⟩ := Option.map_eq_some_iff.mp h'
      exact ⟨(s, k), mem_kept_iff.mpr hk, rfl⟩
    · rintro ⟨d, hd, h⟩
      obtain ⟨hs, rfl⟩ := Prod.mk.inj h
      obtain rfl := Value.text.inj hs
      rw [mem_kept_iff.mp hd]
      rfl

theorem nodup_kept (ds : List (String × Nat)) : ((kept ds).map Prod.fst).Nodup := by
  rw [map_fst_kept]
  exact Entries.nodup_eraseDups _

theorem kept_subperm (ds : List (String × Nat)) : (kept ds).Subperm ds := by
  apply List.Nodup.subperm (List.Nodup.of_map Prod.fst (nodup_kept ds))
  rintro ⟨s, k⟩ h
  obtain ⟨l, r, hlr, -⟩ := List.lookup_eq_some_iff.mp (mem_kept_iff.mp h)
  have hmem : (s, k) ∈ ds.reverse := by
    rw [hlr]
    simp
  exact List.mem_reverse.mp hmem

/-- Where the names differ, every component is kept. -/
theorem kept_perm {ds : List (String × Nat)} (h : (ds.map Prod.fst).Nodup) : (kept ds).Perm ds := by
  apply (kept_subperm ds).perm_of_length_le
  have hlength : (kept ds).length = ds.length := by
    rw [← List.length_map (f := Prod.fst), map_fst_kept, Entries.eraseDups_of_nodup h,
      List.length_map]
  exact Nat.le_of_eq hlength.symm

/-- Numbers above zero have the total of some of them only if these are all. -/
theorem eq_of_sublist_of_sum_eq {ds es : List (String × Nat)} (h : es.Sublist ds)
    (hpos : ∀ d ∈ ds, 1 ≤ d.2) :
    (es.map Prod.snd).sum ≤ (ds.map Prod.snd).sum ∧
      ((es.map Prod.snd).sum = (ds.map Prod.snd).sum → es = ds) := by
  induction h with
  | slnil => exact ⟨Nat.le_refl _, fun _ => rfl⟩
  | cons d h ih =>
    obtain ⟨hle, -⟩ := ih fun d hd => hpos d (List.mem_cons_of_mem _ hd)
    have hd := hpos d List.mem_cons_self
    rw [List.map_cons, List.sum_cons]
    exact ⟨by omega, fun hsum => by omega⟩
  | cons_cons d h ih =>
    obtain ⟨hle, heq⟩ := ih fun d hd => hpos d (List.mem_cons_of_mem _ hd)
    simp only [List.map_cons, List.sum_cons]
    exact ⟨by omega, fun hsum => by rw [heq (by omega)]⟩

/-- Nothing of the total is lost exactly if no name is there twice. -/
theorem sum_kept_iff {ds : List (String × Nat)} (hpos : ∀ d ∈ ds, 1 ≤ d.2) :
    ((kept ds).map Prod.snd).sum = (ds.map Prod.snd).sum ↔ (ds.map Prod.fst).Nodup := by
  constructor
  · intro hsum
    obtain ⟨es, hperm, hsub⟩ := kept_subperm ds
    have heq : es = ds := by
      apply (eq_of_sublist_of_sum_eq hsub hpos).2
      rw [← hsum]
      exact (hperm.map Prod.snd).sum_nat
    rw [← heq]
    exact ((hperm.map Prod.fst).nodup_iff).mpr (nodup_kept ds)
  · intro h
    exact ((kept_perm h).map Prod.snd).sum_nat

end RoundRobin

end TopologySubmission
