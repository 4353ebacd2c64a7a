import TopologySubmission.Proofs.Settings.Layered
import TopologySubmission.Proofs.Value.Plain

/-!
# The leaves of nested settings

The leaves of nested settings are the values that are no mappings, each with the keys on its path. Making
the settings flat sets them one by one in the order in which they are written, each under the texts of
its keys with dots between them. The recursion builds the text of a path from the outside to the inside
and puts a flat mapping over another one at every level; both come to the same:

    a path that is no empty text gets its next key behind a dot         (pathKey_dotted)
    the flat settings below a path are those of its leaves              (flattenOnto_dotted)
    nested settings are made flat leaf by leaf                          (flattenKeys_gathers)

An integer with too many digits has no text. As a key it is refused even where no leaf is below it
(flattenKeys_longKey).
-/

namespace TopologySubmission.Settings

/-! ## Algorithm -/

/-- A value that is no mapping, below the keys on its path, the outermost first. -/
structure Leaf where
  keys : List Value
  value : Value

mutual

/-- The leaves of a value below outer keys, in the order in which they are written. -/
def leavesOf (outer : List Value) : Value → List Leaf
  | .map es => leavesBelow outer es
  | .readOnlyMap es => leavesBelow outer es
  | v => [⟨outer, v⟩]

def leavesBelow (outer : List Value) : Entries → List Leaf
  | [] => []
  | (k, v) :: es => leavesOf (outer ++ [k]) v ++ leavesBelow outer es

end

/-- The leaves of nested settings. -/
def leaves (es : Entries) : List Leaf := leavesBelow [] es

/-- The texts of keys with dots between them. -/
def dotted (keys : List Value) : String := ".".intercalate (keys.map Value.plain)

/-- A leaf with its key in flat settings. -/
def Leaf.row (l : Leaf) : String × Value := (dotted l.keys, l.value)

/-- The value stands below these keys, the outermost first. -/
inductive StandsAt : Entries → List Value → Value → Prop
  | here {es : Entries} {k v : Value} (he : (k, v) ∈ es) : StandsAt es [k] v
  | inside {es fs : Entries} {k v w : Value} {keys : List Value} (he : (k, v) ∈ es)
      (hv : v.entries? = some fs) (h : StandsAt fs keys w) : StandsAt es (k :: keys) w

/-! ## Lemmas -/

variable {es : Entries} {keys : List Value} {k v w key : Value}

/-! ### Texts of paths -/

theorem dotted_singleton (k : Value) : dotted [k] = k.plain := String.intercalate_singleton

theorem dotted_concat (h : keys ≠ []) (k : Value) :
    dotted (keys ++ [k]) = dotted keys ++ "." ++ k.plain := by
  unfold dotted
  rw [List.map_append, String.intercalate_append_of_ne_nil (by simpa using h) (by simp)]
  simp

/-- Below a path that is no empty text the next key stands behind a dot. -/
theorem pathKey_dotted (h : dotted keys = "" → keys = []) (k : Value) :
    pathKey (dotted keys) k = dotted (keys ++ [k]) := by
  unfold pathKey
  split
  · next hempty =>
    rw [h hempty]
    exact (dotted_singleton k).symm
  · next hne =>
    have hkeys : keys ≠ [] := by
      rintro rfl
      exact hne String.intercalate_nil
    exact (dotted_concat hkeys k).symm

/-- Only a path of one empty text is an empty text. -/
theorem dotted_concat_ne_empty (h : keys = [] → k ≠ .text "") : dotted (keys ++ [k]) ≠ "" := by
  by_cases hkeys : keys = []
  · subst hkeys
    rw [List.nil_append, dotted_singleton, ne_eq, Value.plain_eq_empty_iff]
    exact h rfl
  · rw [dotted_concat hkeys]
    simp

/-! ### Leaf by leaf -/

mutual

theorem flattenValue_dotted : ∀ (keys : List Value) (v : Value), dotted keys ≠ "" →
    flattenValue (dotted keys) v = Entries.ofRows ((leavesOf keys v).map Leaf.row)
  | keys, .map es, h | keys, .readOnlyMap es, h =>
    flattenOnto_dotted keys [] es (fun he => absurd he h)
      (fun he => absurd (he ▸ String.intercalate_nil) h) Entries.named_nil
  | _, .null, _ | _, .bool _, _ | _, .int _, _ | _, .float _, _ | _, .text _, _ | _, .bytes _, _
  | _, .date _, _ | _, .moment _, _ | _, .list _, _ | _, .tuple _, _ | _, .set _, _ => rfl

/-- The flat settings below a path are set leaf by leaf. -/
theorem flattenOnto_dotted : ∀ (keys : List Value) (flat es : Entries),
    (dotted keys = "" → keys = []) → (keys = [] → ∀ e ∈ es, e.1 ≠ .text "") → flat.Named →
      flattenOnto (dotted keys) flat es = flat.setAll ((leavesBelow keys es).map Leaf.row)
  | _, _, [], _, _, _ => rfl
  | keys, flat, (k, v) :: es, hpath, htop, hflat => by
    have hvalue := flattenValue_dotted (keys ++ [k]) v
      (dotted_concat_ne_empty fun hkeys => htop hkeys (k, v) List.mem_cons_self)
    have hrest := flattenOnto_dotted keys (flat.setAll ((leavesOf (keys ++ [k]) v).map Leaf.row)) es
      hpath (fun hkeys e he => htop hkeys e (List.mem_cons_of_mem _ he)) (hflat.setAll _)
    rw [flattenOnto, pathKey_dotted hpath, hvalue, Entries.merge_ofRows hflat, hrest, leavesBelow,
      List.map_append, Entries.setAll_append]

end

theorem flatten_eq_ofRows (h : ∀ e ∈ es, e.1 ≠ .text "") :
    flatten es = Entries.ofRows ((leaves es).map Leaf.row) :=
  flattenOnto_dotted [] [] es (fun _ => rfl) (fun _ => h) Entries.named_nil

/-! ### What stands where -/

theorem standsAt_cons_iff : StandsAt ((k, v) :: es) keys w ↔ (keys = [k] ∧ w = v) ∨
    (∃ fs inner, v.entries? = some fs ∧ keys = k :: inner ∧ StandsAt fs inner w) ∨
      StandsAt es keys w := by
  constructor
  · rintro (he | ⟨he, hv, hinner⟩)
    · rcases List.mem_cons.mp he with he | he
      · cases he
        exact .inl ⟨rfl, rfl⟩
      · exact .inr (.inr (.here he))
    · rcases List.mem_cons.mp he with he | he
      · cases he
        exact .inr (.inl ⟨_, _, hv, rfl, hinner⟩)
      · exact .inr (.inr (.inside he hv hinner))
  · rintro (⟨rfl, rfl⟩ | ⟨fs, inner, hv, rfl, hinner⟩ | hrest)
    · exact .here List.mem_cons_self
    · exact .inside List.mem_cons_self hv hinner
    · cases hrest with
      | here he => exact .here (List.mem_cons_of_mem _ he)
      | inside he hv hinner => exact .inside (List.mem_cons_of_mem _ he) hv hinner

mutual

theorem mem_leavesOf_iff (outer : List Value) : ∀ (v : Value) (l : Leaf),
    l ∈ leavesOf outer v ↔ l.value.entries? = none ∧ (l = ⟨outer, v⟩ ∨
      ∃ fs inner, v.entries? = some fs ∧ l.keys = outer ++ inner ∧ StandsAt fs inner l.value)
  | .map es, l | .readOnlyMap es, l => by
    rw [leavesOf, mem_leavesBelow_iff outer es l]
    refine and_congr_right fun hleaf => ⟨fun ⟨inner, hl⟩ => .inr ⟨es, inner, rfl, hl⟩, ?_⟩
    rintro (rfl | ⟨fs, inner, hfs, hl⟩)
    · cases hleaf
    · cases hfs
      exact ⟨inner, hl⟩
  | .null, l | .bool _, l | .int _, l | .float _, l | .text _, l | .bytes _, l | .date _, l
  | .moment _, l | .list _, l | .tuple _, l | .set _, l => by
    simp only [leavesOf, List.mem_singleton]
    refine ⟨fun hl => ⟨hl ▸ rfl, .inl hl⟩, ?_⟩
    rintro ⟨-, hl | ⟨fs, inner, hfs, -⟩⟩
    · exact hl
    · cases hfs

theorem mem_leavesBelow_iff (outer : List Value) : ∀ (es : Entries) (l : Leaf),
    l ∈ leavesBelow outer es ↔
      l.value.entries? = none ∧ ∃ inner, l.keys = outer ++ inner ∧ StandsAt es inner l.value
  | [], l => by
    refine iff_of_false List.not_mem_nil ?_
    rintro ⟨-, _, -, he | ⟨he, -, -⟩⟩ <;> cases he
  | (k, v) :: es, l => by
    rw [leavesBelow, List.mem_append, mem_leavesOf_iff (outer ++ [k]) v l,
      mem_leavesBelow_iff outer es l, ← and_or_left]
    refine and_congr_right fun _ => ?_
    obtain ⟨keys, w⟩ := l
    simp only [standsAt_cons_iff]
    constructor
    · rintro ((he | ⟨fs, inner, hv, hkeys, hinner⟩) | ⟨inner, hkeys, hrest⟩)
      · cases he
        exact ⟨[k], rfl, .inl ⟨rfl, rfl⟩⟩
      · rw [List.append_assoc, List.singleton_append] at hkeys
        exact ⟨k :: inner, hkeys, .inr (.inl ⟨fs, inner, hv, rfl, hinner⟩)⟩
      · exact ⟨inner, hkeys, .inr (.inr hrest)⟩
    · rintro ⟨_, hkeys, ⟨rfl, rfl⟩ | ⟨fs, inner, hv, rfl, hinner⟩ | hrest⟩
      · exact .inl (.inl (by rw [hkeys]))
      · rw [← List.singleton_append, ← List.append_assoc] at hkeys
        exact .inl (.inr ⟨fs, inner, hv, hkeys, hinner⟩)
      · exact .inr ⟨_, hkeys, hrest⟩

end

/-- The leaves are the values that are no mappings, on all levels. -/
theorem mem_leaves_iff : ⟨keys, v⟩ ∈ leaves es ↔ v.entries? = none ∧ StandsAt es keys v := by
  unfold leaves
  rw [mem_leavesBelow_iff]
  simp

mutual

theorem innerKeysWritable_iff : ∀ v : Value, innerKeysWritable v = true ↔
    ∀ fs, v.entries? = some fs →
      ∀ keys w, StandsAt fs keys w → ∀ key ∈ keys, key.isWritable = true
  | .map es | .readOnlyMap es => by
    rw [innerKeysWritable, keysWritable_iff es]
    simp [Value.entries?]
  | .null | .bool _ | .int _ | .float _ | .text _ | .bytes _ | .date _ | .moment _ | .list _
  | .tuple _ | .set _ => by
    simp [innerKeysWritable, Value.entries?]

/-- All keys have texts if each key on the way to each value has one. -/
theorem keysWritable_iff : ∀ es : Entries, keysWritable es = true ↔
    ∀ keys w, StandsAt es keys w → ∀ key ∈ keys, key.isWritable = true
  | [] => iff_of_true rfl fun keys w hw => by
    rcases hw with he | ⟨he, -, -⟩ <;> cases he
  | (k, v) :: es => by
    rw [keysWritable, Bool.and_eq_true, Bool.and_eq_true, innerKeysWritable_iff v, keysWritable_iff es]
    simp only [standsAt_cons_iff]
    constructor
    · rintro ⟨⟨hk, hv⟩, hes⟩ keys w (⟨rfl, rfl⟩ | ⟨fs, inner, hfs, rfl, hinner⟩ | hrest)
      · exact List.forall_mem_singleton.mpr hk
      · exact List.forall_mem_cons.mpr ⟨hk, hv fs hfs inner w hinner⟩
      · exact hes keys w hrest
    · intro h
      refine ⟨⟨?_, fun fs hfs inner w hinner key hkey => ?_⟩, fun keys w hrest => ?_⟩
      · exact h [k] v (.inl ⟨rfl, rfl⟩) k List.mem_cons_self
      · exact h (k :: inner) w (.inr (.inl ⟨fs, inner, hfs, rfl, hinner⟩)) key
          (List.mem_cons_of_mem k hkey)
      · exact h keys w (.inr (.inr hrest))

end

/-! ### Flat settings -/

/-- A key without a text refuses the settings, whatever stands below it. -/
theorem flattenKeys_longKey (h : StandsAt es keys v) (hkey : key ∈ keys)
    (hlong : key.isWritable = false) : flattenKeys es = .error (.badValue .tooLongForText) := by
  unfold flattenKeys
  rw [if_neg]
  rw [keysWritable_iff]
  intro hall
  rw [hall keys v h key hkey] at hlong
  cases hlong

/-- Nested settings without an empty key on the first level are made flat by setting their leaves one by
one: each stands where its dotted key is set first, and has the value that this key is set to last. They
are refused exactly if a key of some level has no text. -/
theorem flattenKeys_gathers (es : Entries) (h : ∀ e ∈ es, e.1 ≠ .text "") :
    ((∀ keys v, StandsAt es keys v → ∀ key ∈ keys, key.isWritable = true) →
      flattenKeys es = .ok (Entries.ofRows ((leaves es).map Leaf.row))) ∧
    (∀ keys v key, StandsAt es keys v → key ∈ keys → key.isWritable = false →
      flattenKeys es = .error (.badValue .tooLongForText)) ∧
    (∀ keys v, ⟨keys, v⟩ ∈ leaves es ↔ v.entries? = none ∧ StandsAt es keys v) ∧
    (Entries.ofRows ((leaves es).map Leaf.row)).keys =
      ((leaves es).map fun l => dotted l.keys).eraseDups.map .text ∧
    ∀ s v, (Entries.ofRows ((leaves es).map Leaf.row)).getText? s = some v ↔
      ∃ front l back, leaves es = front ++ l :: back ∧ dotted l.keys = s ∧ l.value = v ∧
        ∀ later ∈ back, dotted later.keys ≠ s := by
  refine ⟨fun hkeys => ?_, fun _ _ _ => flattenKeys_longKey, fun _ _ => mem_leaves_iff, ?_,
    fun s v => ?_⟩
  · unfold flattenKeys
    rw [(keysWritable_iff es).mpr hkeys, if_pos rfl, flatten_eq_ofRows h]
  · rw [Entries.keys_ofRows, List.map_map]
    rfl
  · rw [Entries.getText?_ofRows_eq_some_iff]
    constructor
    · rintro ⟨front, back, hrows, hback⟩
      obtain ⟨front, rest, hleaves, rfl, hrest⟩ := List.map_eq_append_iff.mp hrows
      obtain ⟨l, back, rfl, hl, rfl⟩ := List.map_eq_cons_iff.mp hrest
      cases hl
      exact ⟨front, l, back, hleaves, rfl, rfl, fun later hlater =>
        hback later.row (List.mem_map_of_mem hlater)⟩
    · rintro ⟨front, l, back, hleaves, rfl, rfl, hback⟩
      refine ⟨front.map Leaf.row, back.map Leaf.row, by rw [hleaves]; simp [Leaf.row], ?_⟩
      intro row hrow
      obtain ⟨later, hlater, rfl⟩ := List.mem_map.mp hrow
      exact hback later hlater

/-- Settings that reach one dotted key on two paths, and two keys of different kinds with one text. -/
def collided : Entries :=
  [(.text "a", .map [(.text "b", .int 1), (.text "c", .map [])]), (.text "a.b", .int 2),
    (.bool true, .int 3), (.text "True", .null)]

/-- The later leaves count, in the places of the earlier ones. -/
theorem flattenKeys_gathers_collided :
    flattenKeys collided = .ok [(.text "a.b", .int 2), (.text "True", .null)] := by
  have htop : ∀ e ∈ collided, e.1 ≠ .text "" := by simp [collided]
  have hkeys : ∀ keys v, StandsAt collided keys v → ∀ key ∈ keys, key.isWritable = true :=
    (keysWritable_iff collided).mp rfl
  rw [(flattenKeys_gathers collided htop).1 hkeys]
  rfl

/-- Settings without leaves, with a key that has too many digits. -/
def longKeyed : Entries := [(.int (10 ^ maxDecimalDigits : Nat), .map [])]

/-- They are not made flat leaf by leaf, though there is no leaf whose key had to be written. -/
theorem flattenKeys_refuses_leafless :
    (∀ e ∈ longKeyed, e.1 ≠ .text "") ∧ leaves longKeyed = [] ∧
      flattenKeys longKeyed ≠ .ok (Entries.ofRows ((leaves longKeyed).map Leaf.row)) := by
  have hlong := Value.isWritable_limit
  have hrefused : flattenKeys longKeyed = .error (.badValue .tooLongForText) :=
    flattenKeys_longKey (.here List.mem_cons_self) List.mem_cons_self hlong
  refine ⟨fun e he => ?_, rfl, ?_⟩
  · rw [List.mem_singleton.mp he]
    nofun
  · rw [hrefused]
    nofun

end TopologySubmission.Settings
