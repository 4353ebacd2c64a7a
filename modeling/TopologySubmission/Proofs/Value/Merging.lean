import TopologySubmission.Value.Entries
import Mathlib.Data.List.Induction
import Mathlib.Data.List.Nodup

/-!
# One mapping put over another

A mapping whose keys are texts is known by its names in their order and by the value of each name. Put
over another mapping, it gives its values to the names of both, and each name stands at its first place:

    names (merge es fs) = (names es ++ names fs).eraseDups                   (names_merge)
    getText? (merge es fs) k is the last value of k in fs, or that of es     (getText?_merge)

So a row of mappings put over one another has the names of all of them, and the last mapping that has a
name says its value (names_layered, getText?_layered). The same holds of single names that are set one
after the other (keys_ofRows, getText?_ofRows_eq_some_iff).
-/

namespace TopologySubmission.Entries

/-! ## Algorithm -/

/-- The keys that are texts. -/
def names (es : Entries) : List String := es.filterMap fun e => e.1.text?

/-- All keys are texts, and no two are the same. -/
structure Named (es : Entries) : Prop where
  keys_eq : es.keys = es.names.map .text
  nodup : es.names.Nodup

/-- Sets names one after the other. -/
def setAll (es : Entries) (rows : List (String × Value)) : Entries :=
  rows.foldl (fun es row => es.insertText row.1 row.2) es

/-- The mapping that names make, set one after the other. -/
def ofRows (rows : List (String × Value)) : Entries := setAll [] rows

/-- Mappings put over one another, the first one below. -/
def layered (layers : List Entries) : Entries := layers.foldl merge []

/-! ## Lemmas -/

/-- Keys that are the same stand for the same text. -/
theorem same_text_congr {k key : Value} (h : k.same key = true) (s : String) :
    k.same (.text s) = key.same (.text s) := by
  rw [Bool.eq_iff_iff]
  constructor
  · intro hk
    obtain rfl := Value.same_text_right s k hk
    obtain rfl := Value.same_text_left s key h
    exact hk
  · intro hkey
    obtain rfl := Value.same_text_right s key hkey
    exact h

/-- Of two different keys only one stands for a text. -/
theorem same_text_apart {k key : Value} {s : String} (h : k.same key = false)
    (hk : k.same (.text s) = true) : key.same (.text s) = false := by
  obtain rfl := Value.same_text_right s k hk
  rw [← Bool.not_eq_true]
  intro hkey
  obtain rfl := Value.same_text_right s key hkey
  rw [hk] at h
  cases h

/-! ### Keys and values -/

@[simp] theorem names_nil : names [] = [] := rfl

@[simp] theorem names_cons_text (s : String) (v : Value) (es : Entries) :
    names ((.text s, v) :: es) = s :: names es := rfl

theorem names_of_keys {es : Entries} {ks : List String} (h : es.keys = ks.map .text) :
    es.names = ks := by
  have hmap : es.names = es.keys.filterMap Value.text? := by
    rw [keys, List.filterMap_map]
    rfl
  rw [hmap, h, List.filterMap_map]
  exact List.filterMap_some

theorem Named.of_keys {es : Entries} {ks : List String} (h : es.keys = ks.map .text)
    (hks : ks.Nodup) : es.Named := by
  have hnames := names_of_keys h
  exact ⟨by rw [h, hnames], by rwa [hnames]⟩

theorem mem_names_iff {es : Entries} {s : String} : s ∈ es.names ↔ ∃ v, (.text s, v) ∈ es := by
  unfold names
  rw [List.mem_filterMap]
  constructor
  · rintro ⟨⟨k, v⟩, he, hk⟩
    cases k with
    | text t =>
      obtain rfl : t = s := Option.some.inj hk
      exact ⟨v, he⟩
    | _ => cases hk
  · rintro ⟨v, he⟩
    exact ⟨_, he, rfl⟩

/-- The value of a key stands in one of the entries. -/
theorem mem_of_getText? {es : Entries} {key : String} {v : Value} (h : es.getText? key = some v) :
    (.text key, v) ∈ es := by
  unfold getText? get? at h
  obtain ⟨e, he, rfl⟩ := Option.map_eq_some_iff.mp h
  have hsame : e.1.same (.text key) = true :=
    List.find?_some (p := fun e : Value × Value => e.1.same (.text key)) he
  rw [← Value.same_text_right key e.1 hsame]
  exact List.mem_of_find?_eq_some he

/-- Where no key is set twice, each value is that of its key. -/
theorem getText?_of_mem {es : Entries} {ks : List String} (hkeys : es.keys = ks.map .text)
    (hks : ks.Nodup) {k : String} {v : Value} (h : (.text k, v) ∈ es) : es.getText? k = some v := by
  induction es generalizing ks with
  | nil => cases h
  | cons e es ih =>
    cases ks with
    | nil => cases hkeys
    | cons k₀ ks =>
      obtain ⟨k₁, v₁⟩ := e
      obtain ⟨rfl, hrest⟩ := List.cons.inj hkeys
      replace hrest : Entries.keys es = ks.map .text := hrest
      obtain ⟨hk₀, hks⟩ := List.nodup_cons.mp hks
      unfold Entries.getText? Entries.get?
      rcases List.mem_cons.mp h with h | h
      · cases h
        simp
      · have hk : k ∈ ks := by
          have hmem : Value.text k ∈ Entries.keys es := List.mem_map.mpr ⟨_, h, rfl⟩
          rw [hrest] at hmem
          obtain ⟨k', hk', hkk'⟩ := List.mem_map.mp hmem
          exact Value.text.inj hkk' ▸ hk'
        have hne : k₀ ≠ k := by
          rintro rfl
          exact hk₀ hk
        rw [List.find?_cons_of_neg (by simpa using hne)]
        exact ih hrest hks h

theorem Named.getText?_eq_some_iff {es : Entries} (h : es.Named) {k : String} {v : Value} :
    es.getText? k = some v ↔ (.text k, v) ∈ es :=
  ⟨mem_of_getText?, getText?_of_mem h.keys_eq h.nodup⟩

theorem getText?_cons (k : Value) (v : Value) (es : Entries) (s : String) :
    getText? ((k, v) :: es) s = if k.same (.text s) then some v else getText? es s := by
  unfold getText? get?
  rw [List.find?_cons]
  cases k.same (.text s) <;> rfl

theorem getText?_append (es fs : Entries) (s : String) :
    getText? (es ++ fs) s = (getText? es s).or (getText? fs s) := by
  unfold getText? get?
  rw [List.find?_append, Option.map_or]

theorem contains_text_iff {es : Entries} {s : String} :
    es.contains (.text s) = true ↔ s ∈ es.names := by
  unfold contains
  rw [List.any_eq_true, mem_names_iff]
  constructor
  · rintro ⟨e, he, hs⟩
    have hk := Value.same_text_right s e.1 hs
    exact ⟨e.2, by rwa [← hk]⟩
  · rintro ⟨v, he⟩
    exact ⟨_, he, by simp⟩

/-- A mapping of names is the row of its names with their values. -/
theorem Named.eq_map {es : Entries} (h : es.Named) :
    es = es.names.map fun s => (.text s, (es.getText? s).getD .null) := by
  have hkeys : ∀ e ∈ es, ∃ s, e.1 = .text s := by
    intro e he
    have hmem : e.1 ∈ es.keys := List.mem_map.mpr ⟨e, he, rfl⟩
    rw [h.keys_eq] at hmem
    obtain ⟨s, -, hs⟩ := List.mem_map.mp hmem
    exact ⟨s, hs.symm⟩
  have hvalue : ∀ e ∈ es, ∀ s, e.1 = .text s → es.getText? s = some e.2 := by
    rintro ⟨k, v⟩ he s rfl
    exact h.getText?_eq_some_iff.mpr he
  have hrow : ∀ fs : Entries, (∀ e ∈ fs, e ∈ es) →
      fs = fs.names.map fun s => (.text s, (es.getText? s).getD .null) := by
    intro fs
    induction fs with
    | nil => intro; rfl
    | cons e fs ih =>
      intro hfs
      have he := hfs e List.mem_cons_self
      obtain ⟨s, hs⟩ := hkeys e he
      have hv := hvalue e he s hs
      obtain ⟨k, v⟩ := e
      obtain rfl : k = .text s := hs
      rw [names_cons_text, List.map_cons, hv, Option.getD_some,
        ← ih fun e he => hfs e (List.mem_cons_of_mem _ he)]
  exact hrow es fun _ he => he

/-- Mappings of names are equal if they have the same names in order, and the same values. -/
theorem Named.ext {es fs : Entries} (he : es.Named) (hf : fs.Named) (hnames : es.names = fs.names)
    (hvalues : ∀ k, es.getText? k = fs.getText? k) : es = fs := by
  rw [he.eq_map, hf.eq_map, hnames]
  simp only [hvalues]

/-! ### Insertion -/

theorem getText?_insert (es : Entries) (key v : Value) (s : String) :
    getText? (insert es key v) s = if key.same (.text s) then some v else getText? es s := by
  induction es with
  | nil => rw [insert, getText?_cons]
  | cons e es ih =>
    obtain ⟨k, w⟩ := e
    cases hk : k.same key with
    | false =>
      have hi : insert ((k, w) :: es) key v = (k, w) :: insert es key v := by simp [insert, hk]
      rw [hi, getText?_cons, getText?_cons, ih]
      cases hks : k.same (.text s) with
      | false => rfl
      | true =>
        rw [same_text_apart hk hks]
        rfl
    | true =>
      have hi : insert ((k, w) :: es) key v = (k, v) :: es := by simp [insert, hk]
      rw [hi, getText?_cons, getText?_cons, same_text_congr hk]
      split <;> rfl

theorem names_insert (es : Entries) (s : String) (v : Value) :
    names (insert es (.text s) v) = if s ∈ es.names then es.names else es.names ++ [s] := by
  have hnames : ∀ fs : Entries, fs.names = fs.keys.filterMap Value.text? := by
    intro fs
    rw [keys, List.filterMap_map]
    rfl
  rw [hnames, keys_insert]
  by_cases h : s ∈ es.names
  · rw [if_pos (contains_text_iff.mpr h), if_pos h, hnames]
  · rw [if_neg (fun hc => h (contains_text_iff.mp hc)), if_neg h, List.filterMap_append, ← hnames]
    rfl

theorem Named.insert {es : Entries} (h : es.Named) (s : String) (v : Value) :
    (Entries.insert es (.text s) v).Named := by
  by_cases hs : s ∈ es.names
  · have hkeys : keys (Entries.insert es (.text s) v) = es.names.map .text := by
      rw [keys_insert, if_pos (contains_text_iff.mpr hs), h.keys_eq]
    exact Named.of_keys hkeys h.nodup
  · have hkeys : keys (Entries.insert es (.text s) v) = (es.names ++ [s]).map .text := by
      rw [keys_insert, if_neg (fun hc => hs (contains_text_iff.mp hc)), h.keys_eq, List.map_append]
      rfl
    apply Named.of_keys hkeys
    rw [List.nodup_append]
    refine ⟨h.nodup, List.nodup_singleton s, ?_⟩
    rintro a ha b hb rfl
    exact hs (List.mem_singleton.mp hb ▸ ha)

/-! ### Merging -/

theorem named_nil : Named [] := ⟨rfl, List.nodup_nil⟩

theorem Named.cons_iff {k v : Value} {es : Entries} :
    Named ((k, v) :: es) ↔ ∃ s, k = .text s ∧ s ∉ es.names ∧ es.Named := by
  constructor
  · intro h
    have hmem : k ∈ keys ((k, v) :: es) := List.mem_cons_self
    rw [h.keys_eq] at hmem
    obtain ⟨s, -, rfl⟩ := List.mem_map.mp hmem
    obtain ⟨hkeys, hnodup⟩ := h
    rw [names_cons_text] at hkeys hnodup
    obtain ⟨hs, hnodup⟩ := List.nodup_cons.mp hnodup
    exact ⟨s, rfl, hs, (List.cons.inj hkeys).2, hnodup⟩
  · rintro ⟨s, rfl, hs, h⟩
    refine ⟨?_, ?_⟩
    · rw [names_cons_text, List.map_cons, ← h.keys_eq]
      rfl
    · rw [names_cons_text]
      exact List.nodup_cons.mpr ⟨hs, h.nodup⟩

theorem named_iff {es : Entries} :
    Named es ↔ (∀ e ∈ es, ∃ s, e.1 = .text s) ∧ es.names.Nodup := by
  induction es with
  | nil => exact ⟨fun _ => ⟨nofun, List.nodup_nil⟩, fun _ => named_nil⟩
  | cons e es ih =>
    obtain ⟨k, v⟩ := e
    rw [Named.cons_iff, List.forall_mem_cons]
    constructor
    · rintro ⟨s, rfl, hs, hes⟩
      exact ⟨⟨⟨s, rfl⟩, (ih.mp hes).1⟩, List.nodup_cons.mpr ⟨hs, hes.nodup⟩⟩
    · rintro ⟨⟨⟨s, rfl⟩, hes⟩, hnodup⟩
      rw [names_cons_text, List.nodup_cons] at hnodup
      exact ⟨s, rfl, hnodup.1, ih.mpr ⟨hes, hnodup.2⟩⟩

/-- The order of the entries does not matter. -/
theorem Named.perm {es fs : Entries} (h : es.Named) (hp : es.Perm fs) : fs.Named := by
  rw [named_iff] at h ⊢
  exact ⟨fun e he => h.1 e (hp.mem_iff.mpr he), (hp.filterMap _).nodup_iff.mp h.2⟩

/-- Nor do the values. -/
theorem Named.map_values {es : Entries} (h : es.Named) (f : Value → Value) :
    Named (es.map fun e => (e.1, f e.2)) := by
  refine Named.of_keys ?_ h.nodup
  rw [← h.keys_eq, keys, List.map_map]
  rfl

/-- The last value of a name in the upper mapping counts, and then that of the lower one. -/
theorem getText?_merge (es fs : Entries) (s : String) :
    getText? (merge es fs) s = (getText? fs.reverse s).or (getText? es s) := by
  induction fs generalizing es with
  | nil => rfl
  | cons f fs ih =>
    obtain ⟨k, v⟩ := f
    rw [merge_cons, ih, getText?_insert, List.reverse_cons, getText?_append, getText?_cons]
    cases getText? fs.reverse s <;> cases k.same (.text s) <;> rfl

/-- In a mapping of names the first value of a name is the last one. -/
theorem Named.getText?_reverse {es : Entries} (h : es.Named) (s : String) :
    getText? es.reverse s = getText? es s := by
  have hkeys : keys es.reverse = es.names.reverse.map .text := by
    rw [keys, List.map_reverse, List.map_reverse]
    exact congrArg List.reverse h.keys_eq
  have hrev : Named es.reverse := Named.of_keys hkeys (List.nodup_reverse.mpr h.nodup)
  apply Option.ext
  intro v
  rw [hrev.getText?_eq_some_iff, h.getText?_eq_some_iff, List.mem_reverse]

theorem Named.getText?_merge {es fs : Entries} (h : fs.Named) (s : String) :
    getText? (merge es fs) s = (getText? fs s).or (getText? es s) := by
  rw [Entries.getText?_merge, h.getText?_reverse]

theorem eraseDups_of_nodup {ks : List String} (h : ks.Nodup) : ks.eraseDups = ks := by
  induction ks with
  | nil => rfl
  | cons k ks ih =>
    obtain ⟨hk, hks⟩ := List.nodup_cons.mp h
    rw [List.eraseDups_cons]
    have hfilter : (ks.filter fun b => !b == k) = ks := by
      rw [List.filter_eq_self]
      intro b hb
      have hne : b ≠ k := by
        rintro rfl
        exact hk hb
      simpa using hne
    rw [hfilter, ih hks]

/-- Each name of both mappings stands at its first place. -/
theorem Named.merge {es : Entries} (he : es.Named) {fs : Entries} {ks : List String}
    (hf : fs.keys = ks.map .text) :
    (Entries.merge es fs).Named ∧ (Entries.merge es fs).names = (es.names ++ ks).eraseDups := by
  induction fs generalizing es ks with
  | nil =>
    obtain rfl : ks = [] := List.map_eq_nil_iff.mp hf.symm
    rw [List.append_nil, eraseDups_of_nodup he.nodup]
    exact ⟨he, rfl⟩
  | cons f fs ih =>
    cases ks with
    | nil => cases hf
    | cons k ks =>
      obtain ⟨k', v⟩ := f
      obtain ⟨rfl, hrest⟩ := List.cons.inj hf
      obtain ⟨hnamed, hnames⟩ := ih (he.insert k v) hrest
      refine ⟨hnamed, ?_⟩
      rw [merge_cons, hnames, names_insert]
      by_cases hk : k ∈ es.names
      · rw [if_pos hk, List.eraseDups_append, List.eraseDups_append]
        have hskip : (k :: ks).removeAll es.names = ks.removeAll es.names := by
          rw [List.cons_removeAll, if_neg]
          simpa using hk
        rw [hskip]
      · rw [if_neg hk, List.append_assoc]
        rfl

theorem names_merge {es fs : Entries} (he : es.Named) (hf : fs.Named) :
    (merge es fs).names = (es.names ++ fs.names).eraseDups :=
  (he.merge hf.keys_eq).2

theorem nodup_eraseDups : ∀ ks : List String, ks.eraseDups.Nodup
  | [] => List.nodup_nil
  | k :: ks => by
    rw [List.eraseDups_cons, List.nodup_cons]
    refine ⟨fun h => ?_, nodup_eraseDups _⟩
    simpa using List.mem_eraseDups.mp h
termination_by ks => ks.length
decreasing_by
  rw [List.length_cons]
  exact Nat.lt_succ_of_le (List.length_filter_le _ _)

theorem eraseDups_append_left (ks ls : List String) :
    (ks.eraseDups ++ ls).eraseDups = (ks ++ ls).eraseDups := by
  have hremove : ls.removeAll ks.eraseDups = ls.removeAll ks := by
    unfold List.removeAll
    apply List.filter_congr
    intro l _
    simp [List.mem_eraseDups]
  rw [List.eraseDups_append, List.eraseDups_append, eraseDups_of_nodup (nodup_eraseDups ks), hremove]

theorem Named.nil_merge {es : Entries} (h : es.Named) : Entries.merge [] es = es := by
  apply Named.ext (named_nil.merge h.keys_eq).1 h
  · rw [names_merge named_nil h]
    exact eraseDups_of_nodup h.nodup
  · intro k
    rw [h.getText?_merge]
    exact Option.or_none

/-- A name that is set in the upper mapping first may be set in both together. -/
theorem merge_insert {es fs : Entries} (he : es.Named) (hf : fs.Named) (s : String) (v : Value) :
    merge es (insert fs (.text s) v) = insert (merge es fs) (.text s) v := by
  have hfs := hf.insert s v
  have hmerged := he.merge hf.keys_eq
  apply Named.ext (he.merge hfs.keys_eq).1 (hmerged.1.insert s v)
  · rw [names_merge he hfs, names_insert, names_insert, names_merge he hf]
    by_cases hs : s ∈ fs.names
    · rw [if_pos hs, if_pos (List.mem_eraseDups.mpr (List.mem_append_right _ hs))]
    · rw [if_neg hs, ← List.append_assoc, List.eraseDups_append]
      by_cases hes : s ∈ es.names ++ fs.names
      · have hin : (es.names ++ fs.names).contains s = true := List.contains_iff_mem.mpr hes
        rw [if_pos (List.mem_eraseDups.mpr hes), List.cons_removeAll, hin]
        exact List.append_nil _
      · have hout : (es.names ++ fs.names).contains s = false := by
          rw [← Bool.not_eq_true, List.contains_iff_mem]
          exact hes
        rw [if_neg (fun h => hes (List.mem_eraseDups.mp h)), List.cons_removeAll, hout]
        rfl
  · intro k
    rw [hfs.getText?_merge, getText?_insert, getText?_insert, hf.getText?_merge]
    split <;> rfl

/-- Rows of settings may be put over a mapping before that mapping is put over another one. -/
theorem merge_merge {es fs rows : Entries} (he : es.Named) (hf : fs.Named) {ks : List String}
    (hrows : rows.keys = ks.map .text) :
    merge es (merge fs rows) = merge (merge es fs) rows := by
  induction rows generalizing fs ks with
  | nil => rfl
  | cons row rows ih =>
    cases ks with
    | nil => cases hrows
    | cons s ks =>
      obtain ⟨k, v⟩ := row
      obtain ⟨rfl, hrest⟩ := List.cons.inj hrows
      rw [merge_cons, merge_cons, ih (hf.insert s v) hrest, merge_insert he hf]

/-- It does not matter which of three mappings are put together first. -/
theorem merge_assoc {es fs gs : Entries} (he : es.Named) (hf : fs.Named) (hg : gs.Named) :
    merge es (merge fs gs) = merge (merge es fs) gs := merge_merge he hf hg.keys_eq

/-! ### Names set one after the other -/

theorem setAll_eq_merge (es : Entries) (rows : List (String × Value)) :
    setAll es rows = merge es (rows.map fun row => (.text row.1, row.2)) := by
  unfold setAll merge
  rw [List.foldl_map]
  rfl

theorem setAll_append (es : Entries) (rows rows' : List (String × Value)) :
    setAll es (rows ++ rows') = setAll (setAll es rows) rows' := List.foldl_append

theorem keys_map_text (rows : List (String × Value)) :
    keys (rows.map fun row => (.text row.1, row.2)) = (rows.map Prod.fst).map .text := by
  unfold keys
  rw [List.map_map, List.map_map]
  rfl

theorem Named.setAll {es : Entries} (h : es.Named) (rows : List (String × Value)) :
    (Entries.setAll es rows).Named := by
  rw [setAll_eq_merge]
  exact (h.merge (keys_map_text rows)).1

/-- A mapping that names made is put over another one by setting the names there. -/
theorem merge_ofRows {es : Entries} (h : es.Named) (rows : List (String × Value)) :
    merge es (ofRows rows) = setAll es rows := by
  unfold ofRows
  rw [setAll_eq_merge, setAll_eq_merge, merge_merge h named_nil (keys_map_text rows)]
  rfl

/-- Each name stands where it is set first. -/
theorem keys_ofRows (rows : List (String × Value)) :
    (ofRows rows).keys = (rows.map Prod.fst).eraseDups.map .text := by
  unfold ofRows
  rw [setAll_eq_merge]
  have hmerged := named_nil.merge (keys_map_text rows)
  rw [hmerged.1.keys_eq, hmerged.2]
  rfl

/-- What a name is set to last is its value. -/
theorem getText?_ofRows_eq_some_iff {rows : List (String × Value)} {s : String} {v : Value} :
    (ofRows rows).getText? s = some v ↔
      ∃ front back, rows = front ++ (s, v) :: back ∧ ∀ row ∈ back, row.1 ≠ s := by
  have hfind : (ofRows rows).getText? s = (rows.reverse.find? (·.1 == s)).map (·.2) := by
    unfold ofRows
    rw [setAll_eq_merge, getText?_merge, ← List.map_reverse]
    unfold getText? get?
    rw [List.find?_map, Option.map_map, List.find?_nil, Option.map_none, Option.or_none]
    rfl
  rw [hfind, Option.map_eq_some_iff]
  constructor
  · rintro ⟨⟨k, w⟩, hrow, rfl⟩
    obtain ⟨hk, later, earlier, hrows, hlater⟩ := List.find?_eq_some_iff_append.mp hrow
    obtain rfl : k = s := beq_iff_eq.mp hk
    refine ⟨earlier.reverse, later.reverse, ?_, fun row hmem => ?_⟩
    · rw [← List.reverse_reverse rows, hrows]
      simp
    · simpa using hlater row (List.mem_reverse.mp hmem)
  · rintro ⟨front, back, rfl, hback⟩
    have hfound : (front ++ (s, v) :: back).reverse.find? (·.1 == s) = some (s, v) := by
      refine List.find?_eq_some_iff_append.mpr ⟨by simp, back.reverse, front.reverse, by simp, ?_⟩
      intro row hmem
      simpa using hback row (List.mem_reverse.mp hmem)
    exact ⟨(s, v), hfound, rfl⟩

/-! ### Layers -/

theorem layered_concat (layers : List Entries) (upper : Entries) :
    layered (layers ++ [upper]) = merge (layered layers) upper := by
  unfold layered
  rw [List.foldl_append]
  rfl

theorem layered_cons {lower : Entries} (h : lower.Named) (layers : List Entries) :
    layered (lower :: layers) = layers.foldl merge lower := by
  unfold layered
  rw [List.foldl_cons, h.nil_merge]

/-- The names of all layers, each at its first place. -/
theorem names_layered {layers : List Entries} (h : ∀ l ∈ layers, Named l) :
    Named (layered layers) ∧ names (layered layers) = (layers.flatMap names).eraseDups := by
  induction layers using List.reverseRecOn with
  | nil => exact ⟨named_nil, rfl⟩
  | append_singleton layers upper ih =>
    obtain ⟨hbelow, hnames⟩ := ih fun l hl => h l (List.mem_append_left _ hl)
    have hupper : upper.Named := h upper (by simp)
    rw [layered_concat]
    refine ⟨(hbelow.merge hupper.keys_eq).1, ?_⟩
    rw [names_merge hbelow hupper, hnames, eraseDups_append_left, List.flatMap_append]
    simp

/-- The last layer that has a name says its value. -/
theorem getText?_layered {layers : List Entries} (h : ∀ l ∈ layers, Named l) (s : String) :
    getText? (layered layers) s = layers.reverse.findSome? fun l => getText? l s := by
  induction layers using List.reverseRecOn with
  | nil => rfl
  | append_singleton layers upper ih =>
    have hupper : upper.Named := h upper (by simp)
    rw [layered_concat, hupper.getText?_merge, ih fun l hl => h l (List.mem_append_left _ hl),
      List.reverse_append, List.reverse_singleton, List.singleton_append, List.findSome?_cons]
    cases getText? upper s <;> rfl

/-- Layers may be put together in groups. -/
theorem merge_layered {below above : List Entries} (hb : ∀ l ∈ below, Named l)
    (ha : ∀ l ∈ above, Named l) :
    merge (layered below) (layered above) = layered (below ++ above) := by
  induction above using List.reverseRecOn with
  | nil => simp [layered]
  | append_singleton above upper ih =>
    have habove : ∀ l ∈ above, Named l := fun l hl => ha l (List.mem_append_left _ hl)
    have hupper : upper.Named := ha upper (by simp)
    rw [layered_concat, merge_assoc (names_layered hb).1 (names_layered habove).1 hupper, ih habove,
      ← List.append_assoc, layered_concat]

end TopologySubmission.Entries
