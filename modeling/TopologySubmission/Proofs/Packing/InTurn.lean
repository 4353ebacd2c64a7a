import TopologySubmission.Proofs.Packing.Declared

/-!
# Which container holds what

Where a topology says its components and a number of containers, packing makes a plan, and the plan is
known: the containers are numbered from one on, container `c` of `n` holds the tasks `c`, `c + n`,
`c + 2n`, … and the task `t` is the `t`-th instance of the components in their order. `DealsInTurn` says
so, and everything else about the plan is a consequence of it:

    the tasks at which it is the turn of a container           (filter_turnOf)
    each instance is held once                                 (DealsInTurn.held_perm)
    no two containers differ by more than one instance         (DealsInTurn.balanced)
    packing deals in turn                                      (pack_dealsInTurn)

Dealing a task at a time to the container whose turn it is, and leaving out the empty containers in the
end, comes to the same (dealOneByOne_eq).
-/

namespace TopologySubmission.RoundRobin

/-! ## Algorithm -/

/-- The number of instances that a parallelism asks for. -/
def asksFor (v : Value) : Nat := (v.asInt?.getD 0).toNat

/-- The instances of components in a row, each by its component and its place in it. -/
def rowOf (es : Entries) : List (Value × Nat) :=
  es.flatMap fun e => (List.range (asksFor e.2)).map fun i => (e.1, i)

/-- The container whose turn it is at a task. -/
def turnOf (n task : Nat) : Nat := (task - 1) % n + 1

/-- The tasks up to the last one at which it is the turn of a container: the task that has its number, and
every `n`-th one after that. -/
def turns (n c last : Nat) : List Nat := List.range' c ((last + n - c) / n) n

/-- A plan that deals a row of instances to `n` containers in turn. -/
structure DealsInTurn (n : Nat) (row : List (Value × Nat)) (p : PackingPlan) : Prop where
  ids : p.containers.map (·.id) = List.range' 1 (min n row.length)
  tasks : ∀ c ∈ p.containers, c.instances.map (·.task) = turns n c.id row.length
  placed : ∀ c ∈ p.containers, ∀ i ∈ c.instances, row[i.task - 1]? = some (i.component, i.index)

/-- One more task is put into the container whose turn it is. -/
def dealOne (n : Nat) (dealt : List Container) (i : Instance) : List Container :=
  dealt.map fun c =>
    if turnOf n i.task = c.id then { c with instances := c.instances ++ [i] } else c

/-- The tasks are dealt one by one to all containers, and the empty ones are left out. -/
def dealOneByOne (n : Nat) (tasks : List Instance) : List Container :=
  (tasks.foldl (dealOne n) ((List.range' 1 n).map fun c => ⟨c, []⟩)).filter
    fun c => !c.instances.isEmpty

/-- A topology with two components, whose number of containers is a text. -/
def fiveTasks : Topology where
  id := .text "x"
  name := "n"
  body := .readOnlyMap [
    (.text "bolts", .tuple [.readOnlyMap [(.text "parallelism", .int 3), (.text "name", .int 7)]]),
    (.text "config", .readOnlyMap [(.text containersKey, .text " 2")]),
    (.text "spouts", .tuple [.readOnlyMap [(.text "name", .null), (.text "parallelism", .int 2)]])]

/-! ## Lemmas -/

/-! ### Turns -/

section Turns

variable {n c last : Nat}

theorem turnOf_le (hn : 1 ≤ n) (task : Nat) : 1 ≤ turnOf n task ∧ turnOf n task ≤ n := by
  have hlt : (task - 1) % n < n := Nat.mod_lt _ hn
  unfold turnOf
  omega

/-- It is the turn of a container if the rounds before the task are whole ones. -/
theorem dvd_iff_turnOf (hc : 1 ≤ c) (hcn : c ≤ n) :
    n ∣ last + n - c + 1 ↔ turnOf n (last + 1) = c := by
  have hlt : last % n < n := Nat.mod_lt _ (by omega)
  have hdivide := Nat.div_add_mod last n
  have hrounds : last + n - c + 1 = n * (last / n) + (n + last % n + 1 - c) := by omega
  have hturn : turnOf n (last + 1) = last % n + 1 := rfl
  rw [hrounds, Nat.dvd_add_right (Nat.dvd_mul_right n _), hturn]
  constructor
  · rintro ⟨k, hk⟩
    -- less than two rounds are left, and not none
    have hone : k = 1 := by
      rcases k with - | - | k
      · omega
      · rfl
      · have htwo : n * 2 ≤ n * (k + 1 + 1) := Nat.mul_le_mul_left n (by omega)
        omega
    subst hone
    omega
  · rintro rfl
    exact ⟨1, by omega⟩

/-- With one more task there is one more turn for the container whose turn it is. -/
theorem turns_succ (hc : 1 ≤ c) (hcn : c ≤ n) :
    turns n c (last + 1) = turns n c last ++ if turnOf n (last + 1) = c then [last + 1] else [] := by
  have hcount : last + 1 + n - c = (last + n - c) + 1 := by omega
  unfold turns
  rw [hcount, Nat.succ_div]
  by_cases hturn : turnOf n (last + 1) = c
  · have hdvd := (dvd_iff_turnOf hc hcn).mpr hturn
    have hnext : c + n * ((last + n - c) / n) = last + 1 := by
      have hmul := Nat.mul_div_cancel' hdvd
      rw [Nat.succ_div, if_pos hdvd, Nat.mul_add] at hmul
      omega
    rw [if_pos hdvd, if_pos hturn, List.range'_concat, hnext]
  · rw [if_neg fun hdvd => hturn ((dvd_iff_turnOf hc hcn).mp hdvd), if_neg hturn, List.append_nil]
    rfl

/-- Of the tasks in a row, a container has its turn at its own number and at every `n`-th one after it. -/
theorem filter_turnOf (hc : 1 ≤ c) (hcn : c ≤ n) :
    (List.range' 1 last).filter (turnOf n · == c) = turns n c last := by
  induction last with
  | zero =>
    have hnone : (0 + n - c) / n = 0 := Nat.div_eq_of_lt (by omega)
    unfold turns
    rw [hnone]
    rfl
  | succ last ih =>
    rw [List.range'_concat, List.filter_append, ih, turns_succ hc hcn, Nat.one_mul, Nat.add_comm 1]
    simp [List.filter_cons]

theorem length_turns (n c last : Nat) : (turns n c last).length = (last + n - c) / n :=
  List.length_range'

theorem turns_ne_nil (hc : 1 ≤ c) (hcn : c ≤ n) (hlast : c ≤ last) : turns n c last ≠ [] := by
  rw [← List.length_pos_iff, length_turns]
  exact Nat.div_pos (by omega) (by omega)

theorem length_turns_le {d : Nat} (hc : 1 ≤ c) (hd : d ≤ n) (hn : 1 ≤ n) (last : Nat) :
    (turns n c last).length ≤ (turns n d last).length + 1 := by
  rw [length_turns, length_turns, ← Nat.add_div_right _ hn]
  exact Nat.div_le_div_right (by omega)

/-- All turns together are the tasks in a row. -/
theorem turns_perm (hn : 1 ≤ n) (last : Nat) :
    ((List.range' 1 (min n last)).flatMap fun c => turns n c last).Perm (List.range' 1 last) := by
  have hturns : ((List.range' 1 (min n last)).flatMap fun c => turns n c last) =
      (List.range' 1 (min n last)).flatMap fun c =>
        (List.range' 1 last).filter (turnOf n · == c) := by
    apply List.flatMap_congr
    intro c hc
    rw [List.mem_range'_1] at hc
    rw [filter_turnOf (by omega) (by omega)]
  rw [hturns]
  apply fibers_perm (turnOf n) _ List.nodup_range'
  intro task htask
  rw [List.mem_range'_1] at htask ⊢
  have hle : (task - 1) % n ≤ task - 1 := Nat.mod_le _ _
  have hturn := turnOf_le hn task
  unfold turnOf at hturn ⊢
  omega

end Turns

/-! ### Plans -/

namespace DealsInTurn

variable {n : Nat} {row : List (Value × Nat)} {p : PackingPlan}

theorem mem_ids (h : DealsInTurn n row p) {c : Container} (hc : c ∈ p.containers) :
    1 ≤ c.id ∧ c.id ≤ n ∧ c.id ≤ row.length := by
  have hmem : c.id ∈ p.containers.map (·.id) := List.mem_map.mpr ⟨c, hc, rfl⟩
  rw [h.ids, List.mem_range'_1] at hmem
  omega

/-- The containers together hold the tasks from one to the length of the row. -/
theorem tasks_perm (h : DealsInTurn n row p) (hn : 1 ≤ n) :
    ((p.containers.flatMap (·.instances)).map (·.task)).Perm (List.range' 1 row.length) := by
  have htasks : (p.containers.flatMap (·.instances)).map (·.task) =
      (List.range' 1 (min n row.length)).flatMap fun c => turns n c row.length := by
    rw [List.map_flatMap, ← h.ids, List.flatMap_map]
    exact List.flatMap_congr h.tasks
  rw [htasks]
  exact turns_perm hn row.length

theorem nodup_tasks (h : DealsInTurn n row p) (hn : 1 ≤ n) :
    ((p.containers.flatMap (·.instances)).map (·.task)).Nodup :=
  (h.tasks_perm hn).nodup_iff.mpr List.nodup_range'

theorem instanceCount_eq (h : DealsInTurn n row p) (hn : 1 ≤ n) : p.instanceCount = row.length := by
  have hlength := (h.tasks_perm hn).length_eq
  rwa [List.length_map, List.length_range'] at hlength

/-- Each instance of the row is held once. -/
theorem held_perm (h : DealsInTurn n row p) (hn : 1 ≤ n) : p.held.Perm row := by
  have hplaced : p.held.map some =
      ((p.containers.flatMap (·.instances)).map (·.task)).map fun task => row[task - 1]? := by
    unfold PackingPlan.held
    rw [List.map_map, List.map_map]
    apply List.map_congr_left
    intro i hi
    obtain ⟨c, hc, hic⟩ := List.mem_flatMap.mp hi
    exact (h.placed c hc i hic).symm
  have hrow : ((List.range' 1 row.length).map fun task => row[task - 1]?) = row.map some := by
    apply List.ext_getElem
    · simp
    · intro i hi _
      simp
  have hperm := (h.tasks_perm hn).map fun task => row[task - 1]?
  rw [← hplaced, hrow] at hperm
  have hsome := hperm.filterMap id
  simpa [List.filterMap_map] using hsome

theorem ne_nil (h : DealsInTurn n row p) {c : Container} (hc : c ∈ p.containers) :
    c.instances ≠ [] := by
  obtain ⟨hlow, hhigh, hlast⟩ := h.mem_ids hc
  intro hnil
  have htasks := h.tasks c hc
  rw [hnil] at htasks
  exact turns_ne_nil hlow hhigh hlast htasks.symm

theorem balanced (h : DealsInTurn n row p) {c d : Container} (hc : c ∈ p.containers)
    (hd : d ∈ p.containers) : c.instances.length ≤ d.instances.length + 1 := by
  obtain ⟨hlow, hhigh, -⟩ := h.mem_ids hc
  obtain ⟨-, hdn, -⟩ := h.mem_ids hd
  have hle := length_turns_le hlow hdn (by omega) row.length
  rwa [← h.tasks c hc, ← h.tasks d hd, List.length_map, List.length_map] at hle

end DealsInTurn

/-! ### Dealing -/

section Dealing

variable {n : Nat} {row : List (Value × Nat)}

theorem getElem?_of_mem_numberFrom {first : Nat} {i : Instance} (h : i ∈ numberFrom first row) :
    first ≤ i.task ∧ row[i.task - first]? = some (i.component, i.index) := by
  induction row generalizing first with
  | nil => cases h
  | cons x row ih =>
    rcases List.mem_cons.mp h with rfl | h
    · simp
    · obtain ⟨hle, hget⟩ := ih h
      have hnext : i.task - first = (i.task - (first + 1)) + 1 := by omega
      rw [hnext, List.getElem?_cons_succ]
      exact ⟨by omega, hget⟩

theorem map_task_dealtTo (n c : Nat) (row : List (Value × Nat)) :
    (dealtTo n c (numberFrom 1 row)).map (·.task) =
      (List.range' 1 row.length).filter (turnOf n · == c) := by
  rw [← tasks_numbered, List.filter_map]
  rfl

/-- Dealing the instances of a row, numbered from one on, deals in turn. -/
theorem dealsInTurn_deal (id : String) (n : Nat) (row : List (Value × Nat)) :
    DealsInTurn n row ⟨id, deal n (numberFrom 1 row)⟩ where
  ids := by
    unfold deal
    rw [List.map_map, length_numberFrom]
    exact List.map_id _
  tasks c hc := by
    obtain ⟨k, hk, rfl⟩ := List.mem_map.mp hc
    rw [length_numberFrom, List.mem_range'_1] at hk
    rw [map_task_dealtTo, filter_turnOf (by omega) (by omega)]
  placed c hc i hi := by
    obtain ⟨k, -, rfl⟩ := List.mem_map.mp hc
    exact (getElem?_of_mem_numberFrom (List.mem_filter.mp hi).1).2

theorem dealtTo_cons (n c : Nat) (i : Instance) (tasks : List Instance) :
    dealtTo n c (i :: tasks) = (if turnOf n i.task = c then [i] else []) ++ dealtTo n c tasks := by
  unfold dealtTo turnOf
  rw [List.filter_cons]
  by_cases hturn : (i.task - 1) % n + 1 = c
  · simp [hturn]
  · simp [hturn]

/-- Dealing task by task gives each container what is dealt to it. -/
theorem foldl_dealOne (n : Nat) (dealt : List Container) (tasks : List Instance) :
    tasks.foldl (dealOne n) dealt =
      dealt.map fun c => ⟨c.id, c.instances ++ dealtTo n c.id tasks⟩ := by
  induction tasks generalizing dealt with
  | nil => simp [dealtTo]
  | cons i tasks ih =>
    rw [List.foldl_cons, ih]
    unfold dealOne
    rw [List.map_map]
    apply List.map_congr_left
    intro c _
    rw [dealtTo_cons]
    by_cases hturn : turnOf n i.task = c.id
    · simp [hturn]
    · simp [hturn]

theorem dealtTo_eq_nil_iff {c : Nat} (hc : 1 ≤ c) (hcn : c ≤ n) (row : List (Value × Nat)) :
    dealtTo n c (numberFrom 1 row) = [] ↔ row.length < c := by
  rw [← List.map_eq_nil_iff (f := (·.task)), map_task_dealtTo, filter_turnOf hc hcn]
  constructor
  · intro hnil
    by_contra hle
    exact turns_ne_nil hc hcn (by omega) hnil
  · intro hlt
    have hnone : (row.length + n - c) / n = 0 := Nat.div_eq_of_lt (by omega)
    unfold turns
    rw [hnone]
    rfl

/-- Dealing to all containers and leaving out the empty ones is dealing to those that something is dealt
to. -/
theorem dealOneByOne_eq (n : Nat) (row : List (Value × Nat)) :
    dealOneByOne n (numberFrom 1 row) = deal n (numberFrom 1 row) := by
  have hsplit : List.range' 1 n = List.range' 1 (min n row.length) ++
      List.range' (1 + min n row.length) (n - min n row.length) := by
    rw [List.range'_append_1]
    congr 1
    omega
  have hfull : ∀ c ∈ List.range' 1 (min n row.length),
      (!(dealtTo n c (numberFrom 1 row)).isEmpty) = true := by
    intro c hc
    rw [List.mem_range'_1] at hc
    rw [Bool.not_eq_true', List.isEmpty_eq_false_iff, ne_eq, dealtTo_eq_nil_iff (by omega) (by omega)]
    omega
  have hempty : ∀ c ∈ List.range' (1 + min n row.length) (n - min n row.length),
      ¬(!(dealtTo n c (numberFrom 1 row)).isEmpty) = true := by
    intro c hc
    rw [List.mem_range'_1] at hc
    rw [Bool.not_eq_true', Bool.not_eq_false, List.isEmpty_iff,
      dealtTo_eq_nil_iff (by omega) (by omega)]
    omega
  unfold dealOneByOne deal
  rw [foldl_dealOne, List.map_map, List.filter_map, length_numberFrom, hsplit, List.filter_append]
  have hkept : (List.range' 1 (min n row.length)).filter
      (fun c => !(dealtTo n c (numberFrom 1 row)).isEmpty) = List.range' 1 (min n row.length) :=
    List.filter_eq_self.mpr hfull
  have hleft : (List.range' (1 + min n row.length) (n - min n row.length)).filter
      (fun c => !(dealtTo n c (numberFrom 1 row)).isEmpty) = [] :=
    List.filter_eq_nil_iff.mpr hempty
  refine (congrArg _ (congrArg₂ _ hkept hleft)).trans ?_
  rw [List.append_nil]
  rfl

end Dealing

/-! ### Packing -/

theorem instanceTotal_of_asInt? {v : Value} {k : Int} (h : v.asInt? = some k) :
    instanceTotal v = .ok (asksFor v) := by
  cases v with
  | bool b => cases b <;> rfl
  | int m => rfl
  | _ => cases h

theorem unroll_eq {es : Entries} (h : ∀ e ∈ es, ∃ k, e.2.asInt? = some k) :
    unroll es = .ok (rowOf es) := by
  induction es with
  | nil => rfl
  | cons e es ih =>
    obtain ⟨name, parallelism⟩ := e
    obtain ⟨⟨k, hk⟩, hes⟩ := List.forall_mem_cons.mp h
    rw [unroll, instanceTotal_of_asInt? hk, ih hes]
    rfl

theorem length_rowOf (es : Entries) : (rowOf es).length = (es.map fun e => asksFor e.2).sum := by
  unfold rowOf
  rw [List.length_flatMap]
  simp

/-- A topology whose components ask for numbers of instances, and whose settings ask for one container or
more, is packed in turn. Each instance is placed once, under a number of its own; no container is empty,
and none holds two instances more than another. The plan is named after the id, so there is one as soon as
the id has a text, as every id that is a text has. -/
theorem pack_dealsInTurn {σ : Type} {t : Topology} {es : Entries} {asked : Value} {m : Int}
    (hes : t.components = .ok es) (hnumbers : ∀ e ∈ es, ∃ k, e.2.asInt? = some k)
    (hasked : containersValue t = .ok asked) (hread : asked.toInteger = .ok m) (hm : 1 ≤ m)
    (s : Scene σ) :
    ∃ p, Act.run (packing.pack t) s = ((t.id.asText.map fun _ => p).mapError .failure,
        { s with log := s.log ++ [⟨.debug, summary t p.containers⟩] }) ∧
      DealsInTurn m.toNat (rowOf es) p ∧ p.held.Perm (rowOf es) ∧
      ((p.containers.flatMap (·.instances)).map (·.task)).Nodup ∧
      (∀ c ∈ p.containers, c.instances ≠ []) ∧
      (∀ c ∈ p.containers, ∀ d ∈ p.containers, c.instances.length ≤ d.instances.length + 1) ∧
      p.instanceCount = (es.map fun e => asksFor e.2).sum := by
  have hn : 1 ≤ m.toNat := by omega
  have hcontainers : containers t = .ok (deal m.toNat (numberFrom 1 (rowOf es))) := by
    unfold containers
    rw [hasked, hes]
    refine bind_eq_ok_iff.mpr ⟨asked, rfl, ?_⟩
    rw [containerCount_of_toInteger hread hm]
    refine bind_eq_ok_iff.mpr ⟨m.toNat, rfl, ?_⟩
    refine bind_eq_ok_iff.mpr ⟨es, rfl, ?_⟩
    unfold containersFor
    rw [unroll_eq hnumbers]
    rfl
  have hdeals := dealsInTurn_deal (t.id.plain ++ "-packing") m.toNat (rowOf es)
  refine ⟨_, ?_, hdeals, hdeals.held_perm hn, hdeals.nodup_tasks hn, fun c hc => hdeals.ne_nil hc,
    fun c hc d hd => hdeals.balanced hc hd, ?_⟩
  · show Act.run (pack t) s = _
    rw [run_pack hcontainers, planNamed_eq]
  · rw [hdeals.instanceCount_eq hn, length_rowOf]

/-- Five instances of two components, for a number of containers that is a text. -/
theorem pack_dealsInTurn_fiveTasks :
    ∃ p, (Act.run (packing.pack fiveTasks) (⟨(), []⟩ : Scene Unit)).1 = .ok p ∧
      DealsInTurn 2 [(.null, 0), (.null, 1), (.int 7, 0), (.int 7, 1), (.int 7, 2)] p ∧
      p.instanceCount = 5 := by
  have hes : fiveTasks.components = .ok [(.null, .int 2), (.int 7, .int 3)] := rfl
  have hnumbers : ∀ e ∈ ([(.null, .int 2), (.int 7, .int 3)] : Entries),
      ∃ k, e.2.asInt? = some k := by
    intro e he
    simp only [List.mem_cons, List.not_mem_nil, or_false] at he
    rcases he with rfl | rfl
    · exact ⟨2, rfl⟩
    · exact ⟨3, rfl⟩
  have hasked : containersValue fiveTasks = .ok (.text " 2") := rfl
  have hread : (Value.text " 2").toInteger = .ok 2 := rfl
  obtain ⟨p, hrun, hdeals, -, -, -, -, hcount⟩ :=
    pack_dealsInTurn hes hnumbers hasked hread (by decide) (⟨(), []⟩ : Scene Unit)
  exact ⟨p, congrArg Prod.fst hrun, hdeals, hcount⟩

end TopologySubmission.RoundRobin
