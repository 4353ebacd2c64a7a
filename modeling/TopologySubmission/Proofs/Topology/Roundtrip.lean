import TopologySubmission.Proofs.Topology.Accepted

/-!
# Definitions written back

A topology written out as one mapping is a definition again, and it defines the same topology. What the
first reading changes, it changes once and for all: the id and the name are texts, both lists of
components are there, each component says its parallelism, and rows of both kinds have become one.
Thawing does not bring back the value that was frozen, but freezing that again adds nothing:

    freeze (thaw (freeze v)) = freeze v                        (freeze_thaw_freeze)
    the body of a definition is complete                       (ofDefinition_complete)
    a complete body stays complete when it is frozen and thawed      (CompleteBody.settle)
    a complete body under an id and a name is read as it is    (CompleteBody.ofDefinition_headed)
    the mapping of a topology defines that topology            (ofDefinition_toEntries)
-/

namespace TopologySubmission

/-! ## Algorithm -/

namespace Entries

/-- No key is the same value as a later one, as in every mapping. -/
def Distinct (es : Entries) : Prop := es.keys.Pairwise fun a b => a.same b = false

instance (es : Entries) : Decidable es.Distinct := inferInstanceAs (Decidable (List.Pairwise _ _))

end Entries

namespace Topology

/-- A component whose parallelism is written out. -/
def IsCompleted (v : Value) : Prop :=
  ∃ (es : Entries) (name : Value) (n : Int), v = .map es ∧ es.getText? "name" = some name ∧
    es.getText? "parallelism" = some (.int n) ∧ 1 ≤ n

/-- What reading a definition makes of its body. -/
structure CompleteBody (body : Entries) : Prop where
  distinct : body.Distinct
  noHeading : ∀ k ∈ body.keys, isHeading k = false
  kinds : ∀ kind ∈ componentKinds, ∃ ys, body.getText? kind = some (.list ys) ∧
    ∀ y ∈ ys, IsCompleted y
  settings : ∀ v, body.getText? "config" = some v → ∃ fs, v.entries? = some fs

/-- A body after it was frozen and thawed. -/
def settled (body : Entries) : Entries := Value.thawEntries (Value.freezeEntries body)

/-- A body under an id and a name. -/
def headed (id name : String) (body : Entries) : Entries :=
  (.text "id", .text id) :: (.text "name", .text name) :: body

/-- A definition with its id in the middle, rows of both kinds and a component without parallelism. -/
def unordered : Value :=
  .readOnlyMap [(.text "name", .text "wc"), (.int 1, .tuple [.list [.readOnlyMap [(.bool false, .null)]]]),
    (.text "id", .int 7),
    (.text "spouts", .list [.readOnlyMap [(.text "tags", .tuple [.text "a"]), (.text "name", .null)]])]

end Topology

/-! ## Lemmas -/

/-! ### Freezing and thawing -/

namespace Value

mutual

/-- A value that was frozen and thawed is frozen to the same value. -/
theorem freeze_thaw_freeze : ∀ v : Value, freeze (thaw (freeze v)) = freeze v
  | .map es | .readOnlyMap es => by
    simp only [freeze, thaw, freezeEntries_thawEntries_freezeEntries es]
  | .list xs | .tuple xs => by
    simp only [freeze, thaw, freezeItems_thawItems_freezeItems xs]
  | .null | .bool _ | .int _ | .float _ | .text _ | .bytes _ | .date _ | .moment _ | .set _ => rfl

theorem freezeItems_thawItems_freezeItems : ∀ xs : List Value,
    freezeItems (thawItems (freezeItems xs)) = freezeItems xs
  | [] => rfl
  | x :: xs => by
    simp only [freezeItems, thawItems, freeze_thaw_freeze x, freezeItems_thawItems_freezeItems xs]

theorem freezeEntries_thawEntries_freezeEntries : ∀ es : Entries,
    freezeEntries (thawEntries (freezeEntries es)) = freezeEntries es
  | [] => rfl
  | (k, v) :: es => by
    simp only [freezeEntries, thawEntries, freeze_thaw_freeze v,
      freezeEntries_thawEntries_freezeEntries es]

end

theorem freezeItems_eq_map (xs : List Value) : freezeItems xs = xs.map freeze := by
  induction xs with
  | nil => rfl
  | cons x xs ih => rw [freezeItems, ih, List.map_cons]

theorem thawItems_eq_map (xs : List Value) : thawItems xs = xs.map thaw := by
  induction xs with
  | nil => rfl
  | cons x xs ih => rw [thawItems, ih, List.map_cons]

end Value

/-! ### Entries -/

namespace Entries

variable {es fs : Entries} {k v : Value} {s : String}

/-- Setting the value that is there changes nothing. -/
theorem insertText_of_getText? (h : es.getText? s = some v) : es.insertText s v = es := by
  unfold insertText
  induction es with
  | nil => cases h
  | cons e es ih =>
    obtain ⟨k, w⟩ := e
    rw [getText?_cons] at h
    rw [insert]
    split at h
    · next hk =>
      rw [if_pos hk, Option.some.inj h]
    · next hk => rw [if_neg hk, ih h]

theorem insert_of_new (h : ∀ k' ∈ es.keys, k'.same k = false) : es.insert k v = es ++ [(k, v)] := by
  induction es with
  | nil => rfl
  | cons e es ih =>
    obtain ⟨hhead, hrest⟩ := List.forall_mem_cons.mp h
    rw [insert, if_neg (by rw [hhead]; decide), ih hrest]
    rfl

theorem keys_append (es fs : Entries) : keys (es ++ fs) = es.keys ++ fs.keys := List.map_append

/-- Mappings without a common key are put one behind the other. -/
theorem merge_of_distinct (h : Distinct (es ++ fs)) : es.merge fs = es ++ fs := by
  induction fs generalizing es with
  | nil => rw [merge_nil, List.append_nil]
  | cons f fs ih =>
    have hnew : ∀ k' ∈ es.keys, k'.same f.1 = false := by
      unfold Distinct at h
      rw [keys_append, List.pairwise_append] at h
      exact fun k' hk' => h.2.2 k' hk' f.1 List.mem_cons_self
    rw [merge_cons, insert_of_new hnew, ih (by rwa [List.append_assoc]), List.append_assoc]
    rfl

theorem Distinct.insertText (h : es.Distinct) (s : String) (v : Value) :
    (es.insertText s v).Distinct := by
  unfold Entries.insertText Distinct
  rw [keys_insert]
  split
  · exact h
  · next hnew =>
    refine List.pairwise_append.mpr ⟨h, List.pairwise_singleton _ _, fun k hk k' hk' => ?_⟩
    obtain rfl := List.mem_singleton.mp hk'
    rw [← Bool.not_eq_true]
    intro hsame
    obtain ⟨e, he, rfl⟩ := List.mem_map.mp hk
    exact hnew (List.any_eq_true.mpr ⟨e, he, hsame⟩)

theorem Distinct.filter (h : es.Distinct) (p : Value × Value → Bool) :
    Distinct (es.filter p) := h.sublist (List.filter_sublist.map Prod.fst)

theorem keys_freezeEntries (es : Entries) : keys (Value.freezeEntries es) = es.keys := by
  induction es with
  | nil => rfl
  | cons e es ih => exact congrArg (e.1 :: ·) ih

theorem keys_thawEntries (es : Entries) : keys (Value.thawEntries es) = es.keys := by
  induction es with
  | nil => rfl
  | cons e es ih => exact congrArg (e.1 :: ·) ih

theorem getText?_thawEntries (es : Entries) (s : String) :
    getText? (Value.thawEntries es) s = (es.getText? s).map Value.thaw := by
  induction es with
  | nil => rfl
  | cons e es ih =>
    obtain ⟨k, v⟩ := e
    rw [Value.thawEntries, getText?_cons, getText?_cons, ih]
    split <;> rfl

end Entries

namespace Topology

variable {v : Value} {es body body' : Entries} {kind id name : String} {t : Topology}

theorem keys_settled (body : Entries) : (settled body).keys = body.keys := by
  rw [settled, Entries.keys_thawEntries, Entries.keys_freezeEntries]

theorem getText?_settled (body : Entries) (s : String) :
    (settled body).getText? s = (body.getText? s).map fun v => v.freeze.thaw := by
  rw [settled, Entries.getText?_thawEntries, getText?_freezeEntries, Option.map_map]
  rfl

/-! ### Components -/

theorem isCompleted_of_complete {x y : Value} (h : completeComponent kind x = .ok y) :
    IsCompleted y := by
  obtain ⟨es, name, n, -, hname, -, hpos, rfl⟩ := completeComponent_eq_ok h
  refine ⟨_, name, n, rfl, ?_, ?_, hpos⟩
  · rw [getText?_insertText, if_neg (by decide), hname]
  · rw [getText?_insertText, if_pos rfl]

/-- Nothing is left to complete. -/
theorem IsCompleted.complete (h : IsCompleted v) (kind : String) :
    completeComponent kind v = .ok v := by
  obtain ⟨es, name, n, rfl, hname, hn, hpos⟩ := h
  have hread : parallelism? (.int n) = some n := if_pos hpos
  unfold completeComponent
  dsimp only [Value.entries?]
  rw [hname, hn]
  dsimp only [Option.getD_some]
  rw [hread]
  dsimp only
  rw [Entries.insertText_of_getText? hn]

theorem mapM_completed {ys : List Value} (h : ∀ y ∈ ys, IsCompleted y) (kind : String) :
    ys.mapM (completeComponent kind) = .ok ys := by
  induction ys with
  | nil => rfl
  | cons y ys ih =>
    obtain ⟨hy, hys⟩ := List.forall_mem_cons.mp h
    rw [List.mapM_cons, hy.complete kind, ih hys]
    rfl

theorem isCompleted_of_mapM {xs ys : List Value} (h : xs.mapM (completeComponent kind) = .ok ys) :
    ∀ y ∈ ys, IsCompleted y := by
  induction xs generalizing ys with
  | nil =>
    obtain rfl := Except.ok.inj (h.symm.trans List.mapM_nil)
    nofun
  | cons x xs ih =>
    rw [List.mapM_cons] at h
    obtain ⟨y, hy, h⟩ := bind_eq_ok_iff.mp h
    obtain ⟨zs, hzs, h⟩ := bind_eq_ok_iff.mp h
    obtain rfl : y :: zs = ys := Except.ok.inj h
    exact List.forall_mem_cons.mpr ⟨isCompleted_of_complete hy, ih hzs⟩

theorem IsCompleted.settle (h : IsCompleted v) : IsCompleted v.freeze.thaw := by
  obtain ⟨es, name, n, rfl, hname, hn, hpos⟩ := h
  refine ⟨settled es, name.freeze.thaw, n, by rw [Value.freeze, Value.thaw, settled], ?_, ?_, hpos⟩
  · rw [getText?_settled, hname, Option.map_some]
  · rw [getText?_settled, hn, Option.map_some, Value.thaw_freeze (.int n) rfl]

/-! ### Bodies -/

theorem isHeading_of_component (h : kind ∈ componentKinds) : isHeading (.text kind) = false := by
  simp only [componentKinds, List.mem_cons, List.not_mem_nil, or_false] at h
  rcases h with rfl | rfl <;> decide

/-- Completing a kind adds no heading and no key twice. -/
theorem completeKind_keys (h : completeKind body kind = .ok body') (hd : body.Distinct)
    (hk : ∀ k ∈ body.keys, isHeading k = false) (hkind : kind ∈ componentKinds) :
    body'.Distinct ∧ ∀ k ∈ body'.keys, isHeading k = false := by
  obtain ⟨xs, ys, -, -, rfl⟩ := completeKind_eq_ok h
  refine ⟨hd.insertText kind _, ?_⟩
  unfold Entries.insertText
  rw [Entries.keys_insert]
  split
  · exact hk
  · exact List.forall_mem_append.mpr
      ⟨hk, List.forall_mem_singleton.mpr (isHeading_of_component hkind)⟩

/-- A body without headings is completed. -/
theorem completeBody_of_completeKinds (hd : body.Distinct)
    (hk : ∀ k ∈ body.keys, isHeading k = false)
    (h : componentKinds.foldlM completeKind body = .ok body')
    (hsettings : (((body'.getText? "config").getD (.map [])).entries?).isNone = false) :
    CompleteBody body' := by
  obtain ⟨body₁, hspouts, h⟩ := bind_eq_ok_iff.mp h
  obtain ⟨body₂, hbolts, h⟩ := bind_eq_ok_iff.mp h
  obtain rfl : body₂ = body' := Except.ok.inj h
  obtain ⟨hd₁, hk₁⟩ := completeKind_keys hspouts hd hk (by decide)
  obtain ⟨hd₂, hk₂⟩ := completeKind_keys hbolts hd₁ hk₁ (by decide)
  refine ⟨hd₂, hk₂, fun kind hkind => ?_, (settings_iff _).mp hsettings⟩
  obtain ⟨xs₁, ys₁, -, hys₁, rfl⟩ := completeKind_eq_ok hspouts
  obtain ⟨xs₂, ys₂, -, hys₂, rfl⟩ := completeKind_eq_ok hbolts
  simp only [componentKinds, List.mem_cons, List.not_mem_nil, or_false] at hkind
  rcases hkind with rfl | rfl
  · refine ⟨ys₁, ?_, isCompleted_of_mapM hys₁⟩
    rw [getText?_insertText, if_neg (by decide), getText?_insertText, if_pos rfl]
  · refine ⟨ys₂, ?_, isCompleted_of_mapM hys₂⟩
    rw [getText?_insertText, if_pos rfl]

namespace CompleteBody

/-- Nothing is left to complete. -/
theorem completeKinds (h : CompleteBody body) :
    componentKinds.foldlM completeKind body = .ok body := by
  have hkind : ∀ kind ∈ componentKinds, completeKind body kind = .ok body := by
    intro kind hkind
    obtain ⟨ys, hys, hcompleted⟩ := h.kinds kind hkind
    unfold completeKind
    rw [hys]
    dsimp only [Option.getD_some]
    rw [mapM_completed hcompleted kind]
    exact congrArg Except.ok (Entries.insertText_of_getText? hys)
  rw [componentKinds, List.foldlM_cons, hkind "spouts" (by decide)]
  refine bind_eq_ok_iff.mpr ⟨body, rfl, ?_⟩
  rw [List.foldlM_cons, hkind "bolts" (by decide)]
  rfl

theorem settle (h : CompleteBody body) : CompleteBody (settled body) where
  distinct := by
    unfold Entries.Distinct
    rw [keys_settled]
    exact h.distinct
  noHeading := by
    rw [keys_settled]
    exact h.noHeading
  kinds kind hkind := by
    obtain ⟨ys, hys, hcompleted⟩ := h.kinds kind hkind
    refine ⟨ys.map fun y => y.freeze.thaw, ?_, ?_⟩
    · rw [getText?_settled, hys, Option.map_some, Value.freeze, Value.thaw, Value.freezeItems_eq_map,
        Value.thawItems_eq_map, List.map_map]
      rfl
    · rw [List.forall_mem_map]
      exact fun y hy => (hcompleted y hy).settle
  settings v hv := by
    rw [getText?_settled] at hv
    obtain ⟨w, hw, rfl⟩ := Option.map_eq_some_iff.mp hv
    obtain ⟨fs, hfs⟩ := h.settings w hw
    cases w with
    | map es => exact ⟨settled es, by rw [Value.freeze, Value.thaw, settled, Value.entries?]⟩
    | readOnlyMap es => exact ⟨settled es, by rw [Value.freeze, Value.thaw, settled, Value.entries?]⟩
    | _ => cases hfs

end CompleteBody

/-! ### Whole definitions -/

theorem make_texts_iff {body : Value} : make (.text id) (.text name) body = .ok t ↔
    id ≠ "" ∧ isName name = true ∧ t = ⟨.text id, name, body.freeze⟩ := by
  by_cases hid : id = ""
  · subst hid
    refine iff_of_false (fun h => ?_) fun h => h.1 rfl
    cases h
  by_cases hempty : name = ""
  · subst hempty
    refine iff_of_false (fun h => ?_) fun h => ?_
    · simp [make, Value.isTruthy, hid, bind, Except.bind, throw, throwThe, MonadExceptOf.throw] at h
    · cases h.2.1
  have hmake : make (.text id) (.text name) body = (do
      let checked ← checkName (.text name)
      return { id := .text id, name := checked, body := body.freeze }) := by
    simp [make, Value.isTruthy, hid, hempty, bind, Except.bind]
  rw [hmake]
  unfold checkName
  dsimp only
  split
  · next hname =>
    constructor
    · intro h
      exact ⟨hid, hname, (Except.ok.inj h).symm⟩
    · rintro ⟨-, -, rfl⟩
      rfl
  · next hname =>
    refine iff_of_false (fun h => ?_) fun h => hname h.2.1
    cases h

/-- The topology of a definition has a text for its id and a complete body. -/
theorem ofDefinition_complete (hd : ∀ ds, v.entries? = some ds → ds.Distinct)
    (h : ofDefinition v = .ok t) :
    ∃ id body, id ≠ "" ∧ isName t.name = true ∧ CompleteBody body ∧
      t = ⟨.text id, t.name, (Value.map body).freeze⟩ := by
  unfold ofDefinition at h
  split at h
  · cases h
  next ds hds =>
  obtain ⟨body, hbody, h⟩ := bind_eq_ok_iff.mp h
  dsimp only at h
  split at h
  · cases h
  next hsettings =>
  obtain ⟨id, -, h⟩ := bind_eq_ok_iff.mp h
  obtain ⟨name, -, h⟩ := bind_eq_ok_iff.mp h
  obtain ⟨hid, hname, rfl⟩ := make_texts_iff.mp h
  have hplain : ∀ k ∈ Entries.keys (ds.filter fun e => !isHeading e.1), isHeading k = false := by
    intro k hk
    obtain ⟨e, he, rfl⟩ := List.mem_map.mp hk
    simpa using (List.mem_filter.mp he).2
  have hcomplete := completeBody_of_completeKinds ((hd ds hds).filter _) hplain hbody
    (Bool.not_eq_true _ ▸ hsettings)
  exact ⟨id, body, hid, hname, hcomplete, rfl⟩

theorem headingText_of_text {s : String} (h : es.getText? kind = some (.text s)) :
    headingText es kind = .ok s := by
  unfold headingText
  rw [h]
  dsimp only
  by_cases hs : (Value.text s).isTruthy = true
  · rw [if_pos hs]
    rfl
  · have hempty : s = "" := by simpa [Value.isTruthy] using hs
    rw [if_neg hs, hempty]

theorem getText?_headed_id (id name : String) (body : Entries) :
    (headed id name body).getText? "id" = some (.text id) := rfl

theorem getText?_headed_name (id name : String) (body : Entries) :
    (headed id name body).getText? "name" = some (.text name) := by
  unfold headed
  rw [Entries.getText?_cons, Value.same_text, Entries.getText?_cons, Value.same_text]
  rfl

namespace CompleteBody

/-- A complete body under an id and a name is read as it is. -/
theorem ofDefinition_headed (h : CompleteBody body) (hid : id ≠ "") (hname : isName name = true) :
    ofDefinition (.map (headed id name body)) = .ok ⟨.text id, name, (Value.map body).freeze⟩ := by
  have hbody : (headed id name body).filter (fun e => !isHeading e.1) = body := by
    have hself : body.filter (fun e => !isHeading e.1) = body := by
      rw [List.filter_eq_self]
      intro e he
      rw [h.noHeading e.1 (List.mem_map.mpr ⟨e, he, rfl⟩)]
      rfl
    unfold headed
    rw [List.filter_cons_of_neg (by simp [isHeading]), List.filter_cons_of_neg (by simp [isHeading]),
      hself]
  have hsettings : (((body.getText? "config").getD (.map [])).entries?).isNone = false :=
    (settings_iff _).mpr h.settings
  unfold ofDefinition
  rw [show (Value.map (headed id name body)).entries? = some (headed id name body) from rfl]
  dsimp only
  rw [hbody, h.completeKinds]
  refine bind_eq_ok_iff.mpr ⟨body, rfl, ?_⟩
  rw [if_neg (by rw [hsettings]; decide), headingText_of_text (getText?_headed_id id name body),
    headingText_of_text (getText?_headed_name id name body)]
  exact make_texts_iff.mpr ⟨hid, hname, rfl⟩

/-- Without headings of its own, the body is put behind the id and the name. -/
theorem merge_headed (h : CompleteBody body) (id name : String) :
    Entries.merge [(.text "id", .text id), (.text "name", .text name)] body =
      headed id name body := by
  have hdistinct : Entries.Distinct
      ([(.text "id", .text id), (.text "name", .text name)] ++ body) := by
    unfold Entries.Distinct
    rw [Entries.keys_append, List.pairwise_append]
    refine ⟨by simp [Entries.keys], h.distinct, fun k hk k' hk' => ?_⟩
    have hplain := h.noHeading k' hk'
    rw [← Bool.not_eq_true]
    intro hsame
    simp only [Entries.keys, List.map_cons, List.map_nil, List.mem_cons, List.not_mem_nil,
      or_false] at hk
    rcases hk with rfl | rfl
    · obtain rfl := Value.same_text_left _ _ hsame
      exact absurd hplain (by decide)
    · obtain rfl := Value.same_text_left _ _ hsame
      exact absurd hplain (by decide)
  exact Entries.merge_of_distinct hdistinct

theorem toEntries (h : CompleteBody body) (id name : String) :
    Topology.toEntries ⟨.text id, name, (Value.map body).freeze⟩ =
      .ok (headed id name (settled body)) := by
  rw [← h.settle.merge_headed, Value.freeze]
  rfl

end CompleteBody

/-- A topology of a definition is written out with its id and its name first. This is a definition again,
and it defines the same topology, which is written out in the same way. -/
theorem ofDefinition_toEntries (hd : ∀ ds, v.entries? = some ds → ds.Distinct)
    (h : ofDefinition v = .ok t) :
    ∃ es, t.toEntries = .ok es ∧ es.getText? "id" = some t.id ∧
      es.getText? "name" = some (.text t.name) ∧ ofDefinition (.map es) = .ok t ∧
      (do toEntries (← ofDefinition (.map es))) = .ok es := by
  obtain ⟨id, body, hid, hname, hbody, ht⟩ := ofDefinition_complete hd h
  have hwritten : t.toEntries = .ok (headed id t.name (settled body)) := by
    rw [ht]
    exact hbody.toEntries id t.name
  have hagain : ofDefinition (.map (headed id t.name (settled body))) = .ok t := by
    rw [hbody.settle.ofDefinition_headed hid hname, Value.freeze, settled,
      Value.freezeEntries_thawEntries_freezeEntries]
    rw [Value.freeze] at ht
    exact congrArg Except.ok ht.symm
  refine ⟨headed id t.name (settled body), hwritten, ?_, ?_, hagain, ?_⟩
  · rw [getText?_headed_id, ht]
  · exact getText?_headed_name id t.name _
  · rw [hagain]
    exact hwritten

/-- The mapping of a topology whose definition left much unsaid: the id becomes a text and goes to the
front, the rows become changeable ones, the parallelism is added and the bolts are added at the end. -/
theorem ofDefinition_toEntries_unordered :
    ∃ t es, ofDefinition unordered = .ok t ∧ t.toEntries = .ok es ∧ ofDefinition (.map es) = .ok t ∧
      es = [(.text "id", .text "7"), (.text "name", .text "wc"),
        (.int 1, .list [.list [.map [(.bool false, .null)]]]),
        (.text "spouts", .list [.map [(.text "tags", .list [.text "a"]), (.text "name", .null),
          (.text "parallelism", .int 1)]]),
        (.text "bolts", .list [])] := by
  have hd : ∀ ds, unordered.entries? = some ds → Entries.Distinct ds := by
    intro ds hds
    obtain rfl := Option.some.inj hds
    decide
  have ht : ofDefinition unordered = .ok _ := rfl
  obtain ⟨es, hwritten, -, -, hagain, -⟩ := ofDefinition_toEntries hd ht
  refine ⟨_, es, ht, hwritten, hagain, ?_⟩
  exact (Except.ok.inj hwritten).symm

end Topology

end TopologySubmission
