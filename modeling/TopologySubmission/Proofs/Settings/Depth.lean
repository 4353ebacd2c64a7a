import Mathlib.Logic.Relation
import Mathlib.Order.WellFoundedSet
import TopologySubmission.Proofs.Settings.Unfold
import TopologySubmission.Proofs.Value.Plain

/-!
# How many passes settings need

Tame settings whose references do not go in circles have a depth for each key and one way to put whole
texts in the place of all placeholders. Each time that a text is unfolded takes one level off it, and
passes unfold it more and more quickly:

    a text unfolded n times has a placeholder ↔ it is deeper than n     (hasPlaceholder_deepened)
    unfolded to its depth, a text is unfolded completely                (IsUnfolded.eq_deepened)
    n passes are enough ↔ all depths are below 2 ^ n                    (expand_of_acyclic)
-/

namespace TopologySubmission.Settings

open Template (Piece)

/-! ## Algorithm -/

/-- The keys that the placeholders of a value mean. -/
def keysIn (values : Entries) (v : Value) : List String := (namesIn v).filterMap (keyFor? values)

/-- The value of the first key has a placeholder that means the second key. -/
def Refers (values : Entries) (key target : String) : Prop :=
  ∃ v, values.getText? key = some v ∧ target ∈ keysIn values v

/-- The depth of a value over the depths of the keys that it references; variables do not count. -/
def depthOver (values : Entries) (depth : String → Nat) (v : Value) : Nat :=
  if namesIn v = [] then 0 else 1 + ((keysIn values v).map depth).foldr max 0

/-- Every key has the depth of its value. -/
def IsDepth (values : Entries) (depth : String → Nat) : Prop :=
  ∀ k v, values.getText? k = some v → depth k = depthOver values depth v

/-- The entries are the values with each placeholder replaced by what it stands for among the entries
themselves, so by a text that is unfolded too. -/
def IsUnfolded (values : Entries) (env : Environment) (es : Entries) : Prop :=
  es = values.mapValues (replaced es env)

/-- The depth that a piece gives to a text. -/
def level (values : Entries) (depth : String → Nat) : Piece → Nat
  | .literal _ => 0
  | .reference name => 1 + ((keyFor? values (String.ofList name)).map depth).getD 0

/-! ## Lemmas -/

variable {values es : Entries} {env : Environment} {depth : String → Nat}

/-! ### Depths -/

theorem lt_foldr_max {n : Nat} {ns : List Nat} : n < ns.foldr max 0 ↔ ∃ m ∈ ns, n < m := by
  induction ns with
  | nil => simp
  | cons m ns ih => simp [ih]

/-- A value is deeper than the keys that it references. -/
theorem lt_depthOver_iff {n : Nat} {v : Value} :
    n < depthOver values depth v ↔
      ∃ name ∈ namesIn v, n < 1 + ((keyFor? values name).map depth).getD 0 := by
  unfold depthOver
  split
  · next hnone => simp [hnone]
  · next hsome =>
    cases n with
    | zero =>
      obtain ⟨name, hn⟩ := List.exists_mem_of_ne_nil _ hsome
      exact ⟨fun _ => ⟨name, hn, by omega⟩, fun _ => by omega⟩
    | succ n =>
      rw [show n + 1 < 1 + ((keysIn values v).map depth).foldr max 0 ↔
        n < ((keysIn values v).map depth).foldr max 0 by omega, lt_foldr_max]
      constructor
      · rintro ⟨_, hm, hlt⟩
        obtain ⟨k, hk, rfl⟩ := List.mem_map.mp hm
        obtain ⟨name, hn, hkey⟩ := List.mem_filterMap.mp hk
        refine ⟨name, hn, ?_⟩
        simp only [hkey, Option.map_some, Option.getD_some]
        omega
      · rintro ⟨name, hn, hlt⟩
        cases hkey : keyFor? values name with
        | none =>
          simp only [hkey, Option.map_none, Option.getD_none] at hlt
          omega
        | some k =>
          simp only [hkey, Option.map_some, Option.getD_some] at hlt
          exact ⟨depth k, List.mem_map_of_mem (List.mem_filterMap.mpr ⟨name, hn, hkey⟩), by omega⟩

/-- A text is as deep as its deepest piece. -/
theorem lt_depthOver_text_iff {n : Nat} {t : String} :
    n < depthOver values depth (.text t) ↔
      ∃ p ∈ Template.pieces t.toList, n < level values depth p := by
  rw [lt_depthOver_iff]
  constructor
  · rintro ⟨name, hn, hlt⟩
    refine ⟨_, Template.mem_names_iff_mem_pieces.mp hn, ?_⟩
    rwa [level, String.ofList_toList]
  · rintro ⟨p, hp, hlt⟩
    cases p with
    | literal c => exact absurd hlt (Nat.not_lt_zero n)
    | reference name =>
      exact ⟨String.ofList name,
        Template.mem_names_iff_mem_pieces.mpr (by rwa [String.toList_ofList]), hlt⟩

theorem depthOver_of_not_text {v : Value} (h : ∀ t, v ≠ .text t) :
    depthOver values depth v = 0 := by
  cases v with
  | text t => exact absurd rfl (h t)
  | _ => rfl

/-- To unfold a piece takes one level off it. -/
theorem lt_level_unfoldPiece (ht : Unfoldable values env) (hd : IsDepth values depth) {p : Piece}
    (hp : Known values p) (n : Nat) :
    (∃ q ∈ unfoldPiece values env p, n < level values depth q) ↔ n + 1 < level values depth p := by
  cases p with
  | literal c => simp [unfoldPiece, level]
  | reference name =>
    rcases ht.unfoldPiece hp with ⟨k, t, hkey, hv, hu⟩ | ⟨cs, -, hu, hother, -⟩
    · rw [hu, ← lt_depthOver_text_iff, ← hd k _ hv, level, hkey, Option.map_some, Option.getD_some]
      omega
    · have hlevel : level values depth (.reference name) = 1 := by
        cases hkey : keyFor? values (String.ofList name) with
        | none =>
          rw [level, hkey]
          rfl
        | some k =>
          obtain ⟨v, hv, hv'⟩ := hother k hkey
          rw [level, hkey, Option.map_some, Option.getD_some, hd k v hv, depthOver_of_not_text hv']
      rw [hu, hlevel]
      simp [level]

/-- Pieces that are unfolded `n` times have placeholders if they are deeper than `n`. -/
theorem reference_mem_deepen_iff (ht : Unfoldable values env) (hd : IsDepth values depth) (n : Nat)
    {ps : List Piece} (h : ∀ p ∈ ps, Known values p) :
    (∃ name, .reference name ∈ deepen values env n ps) ↔ ∃ p ∈ ps, n < level values depth p := by
  induction n generalizing ps with
  | zero =>
    constructor
    · rintro ⟨name, hn⟩
      exact ⟨_, hn, by rw [level]; omega⟩
    · rintro ⟨p, hp, hlt⟩
      cases p with
      | literal c => exact absurd hlt (Nat.not_lt_zero 0)
      | reference name => exact ⟨name, hp⟩
  | succ n ih =>
    have hknown : ∀ q ∈ ps.flatMap (unfoldPiece values env), Known values q := by
      intro q hq
      obtain ⟨p, hp, hq⟩ := List.mem_flatMap.mp hq
      exact known_unfoldPiece ht (h p hp) q hq
    rw [deepen, ih hknown]
    constructor
    · rintro ⟨q, hq, hlt⟩
      obtain ⟨p, hp, hq⟩ := List.mem_flatMap.mp hq
      exact ⟨p, hp, (lt_level_unfoldPiece ht hd (h p hp) n).mp ⟨q, hq, hlt⟩⟩
    · rintro ⟨p, hp, hlt⟩
      obtain ⟨q, hq, hlt⟩ := (lt_level_unfoldPiece ht hd (h p hp) n).mpr hlt
      exact ⟨q, List.mem_flatMap.mpr ⟨p, hp, hq⟩, hlt⟩

/-- A value that is unfolded `n` times has placeholders if it is deeper than `n`. -/
theorem hasPlaceholder_deepened (ht : Unfoldable values env) (hd : IsDepth values depth) (n : Nat)
    {e : Value × Value} (he : e ∈ values) :
    isUnresolved (deepened values env n e.2) = true ↔ n < depthOver values depth e.2 := by
  cases hv : e.2 with
  | text t =>
    have hknown := known_of_text ht he hv
    have hsound := fun p hp => (known_deepen ht n hknown p hp).sound
    rw [lt_depthOver_text_iff, ← reference_mem_deepen_iff ht hd n hknown]
    refine Template.hasPlaceholder_iff.trans ⟨?_, ?_⟩
    · rintro ⟨name, hn⟩
      have hp := Template.mem_names_iff_mem_pieces.mp hn
      rw [String.toList_ofList, Template.pieces_assemble hsound] at hp
      exact ⟨_, hp⟩
    · rintro ⟨name, hn⟩
      refine ⟨String.ofList name, Template.mem_names_iff_mem_pieces.mpr ?_⟩
      rwa [String.toList_ofList, String.toList_ofList, Template.pieces_assemble hsound]
  | _ => simp [deepened, isUnresolved, depthOver, namesIn]

/-! ### Full depth -/

/-- What a value becomes when its placeholders are replaced, where the pieces are unfolded. -/
theorem replaced_text {n : Nat} {t : String}
    (h : ∀ p ∈ Template.pieces t.toList,
      said es env p = Template.assemble (deepen values env n [p])) :
    replaced es env (.text t) = deepened values env n (.text t) := by
  simp only [replaced, deepened]
  rw [List.flatMap_congr h, ← assemble_flatMap, ← deepen_eq_flatMap]

/-- A value that is unfolded to its depth is unfolded completely. -/
theorem IsUnfolded.replaced_eq (ht : Unfoldable values env) (hd : IsDepth values depth)
    (hes : IsUnfolded values env es) (n : Nat) : ∀ e ∈ values, depthOver values depth e.2 ≤ n →
      replaced es env e.2 = deepened values env n e.2 := by
  induction n with
  | zero =>
    intro e he hle
    cases hv : e.2 with
    | text t =>
      refine replaced_text fun p hp => ?_
      cases p with
      | literal c => rfl
      | reference name =>
        have hlt := lt_depthOver_text_iff.mpr ⟨_, hp, show 0 < level values depth _ by
          rw [level]; omega⟩
        rw [hv] at hle
        omega
    | _ => rfl
  | succ n ih =>
    intro e he hle
    cases hv : e.2 with
    | text t =>
      refine replaced_text fun p hp => ?_
      have hknown := known_of_text ht he hv p hp
      rw [hes]
      refine said_deepened ht hknown n (fun _ => replaced_of_not_text) ?_
      rintro name k t' rfl hkey ht'
      refine ih _ (Entries.mem_of_getText? ht') ?_
      rw [← hd k _ ht']
      have hlevel := mt (fun hlt => lt_depthOver_text_iff.mpr ⟨_, hp, hlt⟩)
        (Nat.not_lt.mpr (hv ▸ hle))
      rw [level, hkey, Option.map_some, Option.getD_some] at hlevel
      omega
    | _ => rfl

/-- Values of at most this depth are unfolded completely by it. -/
theorem IsUnfolded.eq_deepened (ht : Unfoldable values env) (hd : IsDepth values depth)
    (hes : IsUnfolded values env es) {n : Nat} (hle : ∀ e ∈ values, depthOver values depth e.2 ≤ n) :
    es = values.mapValues (deepened values env n) := by
  rw [hes]
  exact Entries.mapValues_congr fun e he => hes.replaced_eq ht hd n e he (hle e he)

theorem deepen_of_no_reference (n : Nat) {ps : List Piece} (h : ∀ name, .reference name ∉ ps) :
    deepen values env n ps = ps := by
  have hps : ∃ cs : List Char, ps = cs.map .literal := by
    induction ps with
    | nil => exact ⟨[], rfl⟩
    | cons p ps ih =>
      obtain ⟨cs, rfl⟩ := ih fun name hn => h name (List.mem_cons_of_mem p hn)
      cases p with
      | literal c => exact ⟨c :: cs, rfl⟩
      | reference name => exact absurd List.mem_cons_self (h name)
  obtain ⟨cs, rfl⟩ := hps
  exact deepen_literals n cs

/-- There is a way to unfold values that have depths. -/
theorem exists_isUnfolded (ht : Unfoldable values env) (hd : IsDepth values depth) :
    ∃ es, IsUnfolded values env es := by
  let n := (values.map fun e => depthOver values depth e.2).foldr max 0
  have hle : ∀ e ∈ values, ¬ n < depthOver values depth e.2 := fun e he hlt =>
    absurd (lt_foldr_max.mpr ⟨_, List.mem_map_of_mem he, hlt⟩) (Nat.lt_irrefl n)
  refine ⟨values.mapValues (deepened values env n), Entries.mapValues_congr fun e he => ?_⟩
  cases hv : e.2 with
  | text t =>
    have hknown := known_of_text ht he hv
    -- nothing is left to unfold, so one more time does not matter
    have hmore : deepened values env n (.text t) = deepened values env (1 + n) (.text t) := by
      have hnone := mt (reference_mem_deepen_iff ht hd n hknown).mp
        (mt lt_depthOver_text_iff.mpr (hv ▸ hle e he))
      simp only [deepened]
      rw [deepen_add, deepen_of_no_reference 1 fun name hn => hnone ⟨name, hn⟩]
    rw [hmore, Nat.add_comm]
    exact (replaced_text fun p hp => said_deepened ht (hknown p hp) n
      (fun _ => deepened_of_not_text n) fun _ _ _ _ _ _ => rfl).symm
  | _ => rfl

/-! ### References without circles -/

theorem wellFounded_refers (h : ∀ k, ¬ Relation.TransGen (Refers values) k k) :
    WellFounded fun target key => Refers values key target := by
  let below (target key : String) : Prop := Relation.TransGen (Refers values) key target
  let keys : Set String := Set.preimage Value.text {k | k ∈ values.keys}
  have hfinite : keys.Finite :=
    (List.finite_toSet values.keys).preimage fun _ _ _ _ h => Value.text.inj h
  have hmem : ∀ k v, values.getText? k = some v → k ∈ keys := fun k v hv =>
    List.mem_map.mpr ⟨_, Entries.mem_of_getText? hv, rfl⟩
  have : IsStrictOrder String below :=
    { irrefl := h, trans := fun _ _ _ hab hbc => hbc.trans hab }
  refine Subrelation.wf ?_ (Set.wellFoundedOn_iff.mp (hfinite.wellFoundedOn (r := below)))
  rintro target key ⟨v, hv, ht⟩
  obtain ⟨name, -, hkey⟩ := List.mem_filterMap.mp ht
  obtain ⟨w, hw⟩ := getText?_of_keyFor? hkey
  exact ⟨.single ⟨v, hv, ht⟩, hmem target w hw, hmem key v hv⟩

/-- The depth of a key, by recursion along the references. -/
noncomputable def depthAlong (wf : WellFounded fun target key => Refers values key target) :
    String → Nat :=
  wf.fix fun key below =>
    match h : values.getText? key with
    | none => 0
    | some v =>
      if namesIn v = [] then 0
      else 1 + ((keysIn values v).attach.map fun k => below k.1 ⟨v, h, k.2⟩).foldr max 0

theorem isDepth_depthAlong (wf : WellFounded fun target key => Refers values key target) :
    IsDepth values (depthAlong wf) := by
  intro k v hv
  rw [depthAlong, wf.fix_eq, ← depthAlong]
  split
  · next h =>
    rw [hv] at h
    cases h
  · next w h =>
    cases hv.symm.trans h
    rw [depthOver, List.map_attach_eq_pmap, List.pmap_eq_map]

/-- References that descend never go in circles. -/
theorem acyclic_of_descending (rank : String → Nat)
    (h : ∀ key target, Refers values key target → rank target < rank key) (k : String) :
    ¬ Relation.TransGen (Refers values) k k := by
  have hlt : ∀ a b, Relation.TransGen (Refers values) a b → rank b < rank a := by
    intro a b hab
    induction hab with
    | single hab => exact h _ _ hab
    | tail _ hbc ih => exact Nat.lt_trans (h _ _ hbc) ih
  exact fun hk => Nat.lt_irrefl _ (hlt k k hk)

/-! ### Expanding -/

theorem isUnresolved_iff_depthOver {v : Value} :
    isUnresolved v = true ↔ 1 ≤ depthOver values depth v := by
  rw [Nat.one_le_iff_ne_zero, ← Nat.pos_iff_ne_zero, lt_depthOver_iff]
  cases v with
  | text t =>
    refine Template.hasPlaceholder_iff.trans ⟨?_, ?_⟩
    · rintro ⟨name, hn⟩
      exact ⟨name, hn, by omega⟩
    · rintro ⟨name, hn, -⟩
      exact ⟨name, hn⟩
  | _ => simp [isUnresolved, namesIn]

/-- The passes are not refused where all is written, nor where there is none, and leave the placeholders
of values of depth `2 ^ n` or more. -/
theorem passes_leave (ht : Tame values env) (hd : IsDepth values depth) {n : Nat}
    (h : n = 0 ∨ AllWritten values env values) :
    ∃ g, passes env n values = .ok (values.mapValues g) ∧
      ∀ e ∈ values, isUnresolved (g e.2) = true ↔ 2 ^ n ≤ depthOver values depth e.2 := by
  rcases h with rfl | hw
  · exact ⟨id, by rw [mapValues_id]; rfl, fun e _ => isUnresolved_iff_depthOver⟩
  · have hu : Unfoldable values env := ⟨ht, hw⟩
    refine ⟨_, passes_eq hu n, fun e he => (hasPlaceholder_deepened hu hd _ he).trans ?_⟩
    have hpos : 0 < 2 ^ n := Nat.two_pow_pos n
    omega

/-- The keys that are left are those of this depth or more, if the placeholders left are those of values
so deep. -/
theorem mem_unresolvedKeys_iff {ks : List String} (hkeys : values.keys = ks.map .text)
    (hks : ks.Nodup) (hd : IsDepth values depth) {g : Value → Value} {m : Nat}
    (hg : ∀ e ∈ values, isUnresolved (g e.2) = true ↔ m ≤ depthOver values depth e.2) (k : String) :
    .text k ∈ unresolvedKeys (values.mapValues g) ↔ k ∈ ks ∧ m ≤ depth k := by
  unfold unresolvedKeys
  constructor
  · intro h
    obtain ⟨_, hf, hk⟩ := List.mem_map.mp h
    obtain ⟨hm, hleft⟩ := List.mem_filter.mp hf
    obtain ⟨⟨_, v⟩, he, rfl⟩ := List.mem_map.mp hm
    cases hk
    have hle := (hg _ he).mp hleft
    rw [← hd k v (Entries.getText?_of_mem hkeys hks he)] at hle
    have hmem : Value.text k ∈ values.keys := List.mem_map.mpr ⟨_, he, rfl⟩
    rw [hkeys] at hmem
    obtain ⟨k', hk', hkk'⟩ := List.mem_map.mp hmem
    exact ⟨Value.text.inj hkk' ▸ hk', hle⟩
  · rintro ⟨hk, hle⟩
    have hmem : Value.text k ∈ values.keys := hkeys ▸ List.mem_map_of_mem hk
    obtain ⟨⟨k', v⟩, he, rfl⟩ := List.mem_map.mp hmem
    rw [hd k v (Entries.getText?_of_mem hkeys hks he)] at hle
    exact List.mem_map.mpr ⟨(.text k, g v),
      List.mem_filter.mpr ⟨List.mem_map.mpr ⟨_, he, rfl⟩, (hg _ he).mpr hle⟩, rfl⟩

/-- What the last check says of such entries. -/
theorem checkResolved_of_depth {ks : List String} (hkeys : values.keys = ks.map .text)
    (hks : ks.Nodup) (hd : IsDepth values depth) {g : Value → Value} {m : Nat}
    (hg : ∀ e ∈ values, isUnresolved (g e.2) = true ↔ m ≤ depthOver values depth e.2) (bound : Int) :
    ((∀ k ∈ ks, depth k < m) → checkResolved bound (values.mapValues g) = .ok ()) ∧
    ((∃ k ∈ ks, m ≤ depth k) → ∃ names : List String,
      checkResolved bound (values.mapValues g) =
        .error (.configuration (unresolvedMessage bound names)) ∧
      names.Pairwise (· < ·) ∧ ∀ k, k ∈ names ↔ k ∈ ks ∧ m ≤ depth k) := by
  have hnames : (values.mapValues g).keys = ks.map .text := by rw [Entries.keys_mapValues, hkeys]
  obtain ⟨found, hsub, hfound, hresolved, hrefused⟩ := checkResolved_texts bound hnames
  have hmem : ∀ k, k ∈ found ↔ k ∈ ks ∧ m ≤ depth k := by
    intro k
    rw [← mem_unresolvedKeys_iff hkeys hks hd hg k, hfound]
    exact ⟨List.mem_map_of_mem, fun h => by
      obtain ⟨k', hk', hkk'⟩ := List.mem_map.mp h
      exact Value.text.inj hkk' ▸ hk'⟩
  constructor
  · intro hall
    exact hresolved (List.eq_nil_iff_forall_not_mem.mpr fun k hk =>
      Nat.not_lt.mpr ((hmem k).mp hk).2 (hall k ((hmem k).mp hk).1))
  · rintro ⟨k, hk, hle⟩
    have hne : found ≠ [] := List.ne_nil_of_mem ((hmem k).mpr ⟨hk, hle⟩)
    obtain ⟨names, hperm, hsorted, hcheck⟩ := hrefused hne
    refine ⟨names, hcheck, ?_, fun k => hperm.mem_iff.trans (hmem k)⟩
    have hnodup : names.Nodup := hperm.nodup_iff.mpr (hks.sublist hsub)
    exact (hsorted.and hnodup).imp fun h => Std.lt_of_le_of_ne h.1 h.2

theorem depthOver_lt {ks : List String} (hkeys : values.keys = ks.map .text) (hks : ks.Nodup)
    (hd : IsDepth values depth) {m : Nat} (h : ∀ k ∈ ks, depth k < m) :
    ∀ e ∈ values, depthOver values depth e.2 < m := by
  intro e he
  have hkey : e.1 ∈ values.keys := List.mem_map_of_mem he
  rw [hkeys] at hkey
  obtain ⟨k, hk, hke⟩ := List.mem_map.mp hkey
  rw [← hd k e.2 (Entries.getText?_of_mem hkeys hks (by rwa [hke]))]
  exact h k hk

/-- Settings without stray dollar signs, whose references resolve and do not go in circles, have one
depth for each key. Where no placeholder stands for a value without a text, they are expanded within `n`
passes exactly if all keys have depths below `2 ^ n`. The result is the only way to replace every
placeholder by a text that is unfolded itself, under the same keys; a refusal names the keys that are too
deep, in order. Where one does stand for such a value, the first pass fails, whatever the depths. -/
theorem expand_of_acyclic (s : Settings) (env : Environment) {ks : List String}
    (hkeys : s.entries.keys = ks.map .text) (hks : ks.Nodup) (ht : Tame s.entries env)
    (hacyclic : ∀ k, ¬ Relation.TransGen (Refers s.entries) k k) :
    (∃ depth, IsDepth s.entries depth) ∧
    ∀ depth, IsDepth s.entries depth → ∀ n : Nat,
      (n = 0 ∨ AllWritten s.entries env s.entries →
        ((∀ k ∈ ks, depth k < 2 ^ n) → ∃ es, s.expand env n = .ok ⟨es⟩ ∧
          ∀ fs, IsUnfolded s.entries env fs ↔ fs = es) ∧
        ((∃ k ∈ ks, 2 ^ n ≤ depth k) → ∃ names : List String,
          s.expand env n = .error (.configuration (unresolvedMessage n names)) ∧
          names.Pairwise (· < ·) ∧ ∀ k, k ∈ names ↔ k ∈ ks ∧ 2 ^ n ≤ depth k)) ∧
      (n ≠ 0 → ¬AllWritten s.entries env s.entries →
        s.expand env n = .error (.badValue .tooLongForText)) := by
  have hdepth := isDepth_depthAlong (wellFounded_refers hacyclic)
  refine ⟨⟨_, hdepth⟩, fun depth hd n => ⟨?_, ?_⟩⟩
  · intro hn
    obtain ⟨g, hpasses, hg⟩ := passes_leave ht hd hn
    obtain ⟨hresolved, hrefused⟩ := checkResolved_of_depth hkeys hks hd hg n
    constructor
    · intro hall
      have hlt := depthOver_lt hkeys hks hd hall
      -- without a pass no text has a placeholder, so everything is written
      have hw : AllWritten s.entries env s.entries := by
        rcases hn with rfl | hw
        · intro e he name hname
          have hnone : ¬ 0 < depthOver s.entries depth e.2 := Nat.not_lt.mpr
            (Nat.le_of_lt_succ (hlt e he))
          exact absurd (lt_depthOver_iff.mpr ⟨name, hname, by omega⟩) hnone
        · exact hw
      have hu : Unfoldable s.entries env := ⟨ht, hw⟩
      have hsame {fs : Entries} (hfs : IsUnfolded s.entries env fs) : fs = s.entries.mapValues g := by
        rw [hfs.eq_deepened hu hd fun e he => Nat.le_sub_one_of_lt (hlt e he)]
        exact Except.ok.inj ((passes_eq hu n).symm.trans hpasses)
      obtain ⟨es, hes⟩ := exists_isUnfolded hu hd
      refine ⟨s.entries.mapValues g, ?_, fun fs => ⟨hsame, ?_⟩⟩
      · simp only [expand, Int.toNat_natCast, hpasses, bind, Except.bind, hresolved hall]
        rfl
      · rintro rfl
        rwa [← hsame hes]
    · intro hdeep
      obtain ⟨names, hcheck, hnames⟩ := hrefused hdeep
      refine ⟨names, ?_, hnames⟩
      simp only [expand, Int.toNat_natCast, hpasses, bind, Except.bind, hcheck]
  · intro hn hw
    exact expand_of_pass_error (pass_of_not_written ht.resolve hw)
      (Int.natCast_pos.mpr (Nat.pos_of_ne_zero hn))

/-- A chain of references over a key to a variable, next to a reference to a row. -/
theorem expand_of_chain :
    let s : Settings :=
      ⟨[(.text "a", .text "${b}/${n}"), (.text "b", .text "${HOME}"), (.text "n", .list [])]⟩
    let env := Environment.ofTexts [("HOME", "/h")]
    ∃ depth es, IsDepth s.entries depth ∧ IsUnfolded s.entries env es ∧ ∀ n : Nat,
      ((∀ k ∈ ["a", "b", "n"], depth k < 2 ^ n) → s.expand env n = .ok ⟨es⟩) ∧
      ((∃ k ∈ ["a", "b", "n"], 2 ^ n ≤ depth k) → ∃ names : List String,
        s.expand env n = .error (.configuration (unresolvedMessage n names)) ∧
        names.Pairwise (· < ·) ∧ ∀ k, k ∈ names ↔ k ∈ ["a", "b", "n"] ∧ 2 ^ n ≤ depth k) := by
  intro s env
  have hna : namesIn (.text "${b}/${n}") = ["b", "n"] := by decide +kernel
  have hnb : namesIn (.text "${HOME}") = ["HOME"] := by decide +kernel
  have hcases : ∀ e ∈ s.entries, e = (.text "a", .text "${b}/${n}") ∨
      e = (.text "b", .text "${HOME}") ∨ e = (.text "n", .list []) := by
    simp [s]
  have htame : Tame s.entries env := by
    refine ⟨?_, ?_, ?_⟩
    · have hpa : Template.pieces "${b}/${n}".toList =
          [.reference ['b'], .literal '/', .reference ['n']] := by decide +kernel
      have hpb : Template.pieces "${HOME}".toList = [.reference ['H', 'O', 'M', 'E']] := by
        decide +kernel
      intro e he t ht
      rcases hcases e he with rfl | rfl | rfl <;> cases ht
      · rw [hpa]
        decide
      · rw [hpb]
        decide
    · intro e he name hn
      rcases hcases e he with rfl | rfl | rfl
      · rw [hna] at hn
        simp only [List.mem_cons, List.not_mem_nil, or_false] at hn
        rcases hn with rfl | rfl
        · exact ⟨.text "${HOME}", rfl, by simp⟩
        · exact ⟨.list [], rfl, by simp⟩
      · rw [hnb, List.mem_singleton] at hn
        subst hn
        exact ⟨.text "/h", rfl, by simp⟩
      · cases hn
    · have hb : keyFor? s.entries "b" = some "b" ∧
          meaning? s.entries env "b" = some (.text "${HOME}") := by
        constructor <;> rfl
      have hn' : meaning? s.entries env "n" = some (.list []) := rfl
      have hh : meaning? s.entries env "HOME" = some (.text "/h") := rfl
      intro e he name hn v hv hother text htext
      rcases hcases e he with rfl | rfl | rfl
      · rw [hna] at hn
        simp only [List.mem_cons, List.not_mem_nil, or_false] at hn
        rcases hn with rfl | rfl
        · cases hb.2.symm.trans hv
          simp [hb.1] at hother
        · cases hn'.symm.trans hv
          cases htext
          decide
      · rw [hnb, List.mem_singleton] at hn
        subst hn
        cases hh.symm.trans hv
        cases htext
        decide
      · cases hn
  have hacyclic : ∀ k, ¬ Relation.TransGen (Refers s.entries) k k := by
    refine acyclic_of_descending (fun k => if k = "a" then 1 else 0) ?_
    rintro key target ⟨v, hv, ht⟩
    have hka : keysIn s.entries (.text "${b}/${n}") = ["b", "n"] := by decide +kernel
    have hkb : keysIn s.entries (.text "${HOME}") = [] := by decide +kernel
    rcases hcases _ (Entries.mem_of_getText? hv) with h | h | h <;> cases h
    · rw [hka] at ht
      simp only [List.mem_cons, List.not_mem_nil, or_false] at ht
      rcases ht with rfl | rfl <;> decide
    · rw [hkb] at ht
      cases ht
    · cases ht
  have hwritten : AllWritten s.entries env s.entries := by
    have hall : ∀ e ∈ s.entries, ∀ name ∈ namesIn e.2,
        ((meaning? s.entries env name).map Value.isWritable).getD true = true := by
      decide +kernel
    intro e he name hn v hv
    have h := hall e he name hn
    rwa [hv] at h
  have hkeys : s.entries.keys = ["a", "b", "n"].map .text := rfl
  obtain ⟨⟨depth, hd⟩, hexpand⟩ := expand_of_acyclic s env hkeys (by decide) htame hacyclic
  obtain ⟨es, hes⟩ := exists_isUnfolded ⟨htame, hwritten⟩ hd
  refine ⟨depth, es, hd, hes, fun n => ?_⟩
  obtain ⟨hreturns, hrefuses⟩ := (hexpand depth hd n).1 (.inr hwritten)
  refine ⟨fun hall => ?_, hrefuses⟩
  obtain ⟨fs, hfs, hunique⟩ := hreturns hall
  rwa [(hunique es).mp hes]

/-- A reference to an integer with too many digits, whose depth is small enough for one pass. -/
theorem expand_fails_below_depth :
    let s : Settings := ⟨[(.text "a", .int (10 ^ maxDecimalDigits : Nat)), (.text "b", .text "${a}")]⟩
    Tame s.entries [] ∧ (∀ k, ¬ Relation.TransGen (Refers s.entries) k k) ∧
      (∃ depth, IsDepth s.entries depth ∧ ∀ k ∈ ["a", "b"], depth k < 2 ^ 1) ∧
      s.expand [] 1 = .error (.badValue .tooLongForText) := by
  have hlong := Value.isWritable_limit
  generalize ((10 ^ maxDecimalDigits : Nat) : Int) = n at hlong
  intro s
  have hpieces : Template.pieces "${a}".toList = [.reference "a".toList] := by decide +kernel
  have hnames : namesIn (.text "${a}") = ["a"] := by decide +kernel
  have hkey : keyFor? s.entries "a" = some "a" := rfl
  have ha : meaning? s.entries [] "a" = some (.int n) := rfl
  have hcases : ∀ e ∈ s.entries, e = (.text "a", .int n) ∨ e = (.text "b", .text "${a}") := by
    simp [s]
  have htame : Tame s.entries [] := by
    refine ⟨?_, ?_, ?_⟩
    · intro e he t ht
      rcases hcases e he with rfl | rfl <;> cases ht
      rw [hpieces]
      decide
    · intro e he name hn
      rcases hcases e he with rfl | rfl
      · cases hn
      · rw [hnames, List.mem_singleton] at hn
        exact ⟨.int n, hn ▸ ha, nofun⟩
    · intro e he name hn v hv _ text htext
      rcases hcases e he with rfl | rfl
      · cases hn
      · rw [hnames, List.mem_singleton] at hn
        subst hn
        cases ha.symm.trans hv
        rw [Value.asText_of_not_writable hlong] at htext
        cases htext
  let depth (k : String) : Nat := if k = "b" then 1 else 0
  have hkeysIn : keysIn s.entries (.text "${a}") = ["a"] := by
    rw [keysIn, hnames, List.filterMap_cons_some hkey]
    rfl
  refine ⟨htame, acyclic_of_descending depth ?_, ⟨depth, ?_, by decide⟩, ?_⟩
  · rintro key target ⟨v, hv, ht⟩
    rcases hcases _ (Entries.mem_of_getText? hv) with h | h <;> cases h
    · cases ht
    · rw [hkeysIn, List.mem_singleton] at ht
      subst ht
      decide
  · intro k v hv
    rcases hcases _ (Entries.mem_of_getText? hv) with h | h <;> cases h
    · rfl
    · rw [depthOver, hnames, hkeysIn]
      rfl
  · refine expand_of_pass_error (pass_of_not_written htame.resolve fun hw => ?_) Int.one_pos
    have hwritten := hw (.text "b", .text "${a}") (.tail _ (.head _)) "a"
      (by rw [hnames]; exact .head _) _ ha
    rw [hlong] at hwritten
    cases hwritten

end TopologySubmission.Settings
