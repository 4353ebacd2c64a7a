import TopologySubmission.Proofs.Settings.Placeholder
import TopologySubmission.Proofs.Value.Merging
import TopologySubmission.Settings.Expand

/-!
# One pass over settings

A pass either meets a placeholder that stands for nothing, or for a value without a text, and is
refused, or it replaces every placeholder of every text by what it stands for. What a value becomes
depends on that value alone and on the values before the pass, so the entries after any number of passes
are the first ones with a function applied to each value:

    each step on the way replaces what resolves and can be written          (Replaces, replaces_pass)
    a pass succeeds if all placeholders do, and applies `replaced`          (pass_eq_ok_iff)
    a pass is refused for the configuration or for a value without a text   (pass_error)
    the meaning of a name after `mapValues g`                               (meaning?_mapValues)
-/

namespace TopologySubmission

/-! ## Algorithm -/

/-- The entries with a function applied to each value. -/
def Entries.mapValues (g : Value → Value) (es : Entries) : Entries := es.map fun e => (e.1, g e.2)

namespace Settings

/-- The names of the placeholders of a value. -/
def namesIn : Value → List String
  | .text s => Template.names s
  | _ => []

/-- The key that a name means: the key of a short word if that is set, else the name itself. -/
def keyFor? (values : Entries) (name : String) : Option String :=
  match (shortNames.lookup name).filter fun k => (values.getText? k).isSome with
  | some k => some k
  | none => if (values.getText? name).isSome then some name else none

/-- The name stands for a value. -/
def Resolves (values : Entries) (env : Environment) (name : String) : Prop :=
  ∃ v, meaning? values env name = some v ∧ v ≠ .null

/-- The name stands for no value without a text. -/
def Written (values : Entries) (env : Environment) (name : String) : Prop :=
  ∀ v, meaning? values env name = some v → v.isWritable = true

/-- Every placeholder of the entries stands for a value. -/
def AllResolve (values : Entries) (env : Environment) (es : Entries) : Prop :=
  ∀ e ∈ es, ∀ name ∈ namesIn e.2, Resolves values env name

/-- No placeholder of the entries stands for a value without a text. -/
def AllWritten (values : Entries) (env : Environment) (es : Entries) : Prop :=
  ∀ e ∈ es, ∀ name ∈ namesIn e.2, Written values env name

/-- A step that replaces placeholders gives this result if they resolve and what they stand for can be
written; a failure says which of the two is not so. -/
inductive Replaces {α : Type} (resolve write : Prop) (a : α) : Except Failure α → Prop
  | ok (hresolve : resolve) (hwrite : write) : Replaces resolve write a (.ok a)
  | refuse (message : String) (hresolve : ¬resolve) :
      Replaces resolve write a (.error (.configuration message))
  | tooLong (hwrite : ¬write) : Replaces resolve write a (.error (.badValue .tooLongForText))

/-- One of the first `n` passes meets a placeholder with this name. -/
inductive Meets (env : Environment) (name : String) : Nat → Entries → Prop
  | here {n : Nat} {values : Entries} {e : Value × Value} (he : e ∈ values)
      (hname : name ∈ namesIn e.2) : Meets env name (n + 1) values
  | later {n : Nat} {values fs : Entries} (h : pass values env values = .ok fs)
      (hrest : Meets env name n fs) : Meets env name (n + 1) values

/-- How settings fail to be expanded in `n` passes: for a reason of the configuration, or because one of
the passes meets a name that means a value without a text. -/
inductive ExpandFailure (values : Entries) (env : Environment) (n : Nat) : Failure → Prop
  | configuration (message : String) : ExpandFailure values env n (.configuration message)
  | tooLong {name : String} {v : Value} (hmeets : Meets env name n values)
      (hv : meaning? values env name = some v) (hlong : v.isWritable = false) :
      ExpandFailure values env n (.badValue .tooLongForText)

/-- The characters that stand for a piece. -/
def said (values : Entries) (env : Environment) : Template.Piece → List Char
  | .literal c => [c]
  | .reference name =>
    ((meaning? values env (String.ofList name)).map fun v => v.plain.toList).getD []

/-- The value with its placeholders replaced. -/
def replaced (values : Entries) (env : Environment) : Value → Value
  | .text s => .text (String.ofList ((Template.pieces s.toList).flatMap (said values env)))
  | v => v

/-- What is said of keys whose placeholders are left after the last pass. -/
def unresolvedMessage (bound : Int) (names : List String) : String :=
  "Could not expand config within " ++ toString bound ++ " passes (cyclic reference?): " ++
    ", ".intercalate names

end Settings

/-! ## Lemmas -/

namespace Entries

theorem keys_mapValues (g : Value → Value) (es : Entries) : (es.mapValues g).keys = es.keys := by
  unfold mapValues keys
  rw [List.map_map]
  rfl

theorem mapValues_mapValues (g h : Value → Value) (es : Entries) :
    (es.mapValues g).mapValues h = es.mapValues (h ∘ g) := by
  unfold mapValues
  rw [List.map_map]
  rfl

theorem mapValues_congr {g h : Value → Value} {es : Entries} (hgh : ∀ e ∈ es, g e.2 = h e.2) :
    es.mapValues g = es.mapValues h :=
  List.map_congr_left fun e he => by rw [hgh e he]

theorem mapValues_eq_self {g : Value → Value} {es : Entries} (hg : ∀ e ∈ es, g e.2 = e.2) :
    es.mapValues g = es := by
  rw [mapValues_congr (h := id) hg]
  exact List.map_id es

theorem getText?_mapValues (g : Value → Value) (es : Entries) (key : String) :
    (es.mapValues g).getText? key = (es.getText? key).map g := by
  unfold mapValues getText? get?
  rw [List.find?_map, Option.map_map, Option.map_map]
  rfl

end Entries

namespace Settings

variable {values es fs : Entries} {env : Environment} {name : String}

/-- A name means the value of its key, or a variable if it has none. -/
theorem meaning?_eq (values : Entries) (env : Environment) (name : String) :
    meaning? values env name =
      match keyFor? values name with
      | some k => values.getText? k
      | none => Entries.getText? env name := by
  unfold meaning? keyFor?
  cases shortNames.lookup name with
  | none => cases hn : values.getText? name <;> simp [hn]
  | some k =>
    cases hk : values.getText? k with
    | some v => simp [Option.filter, hk]
    | none => cases hn : values.getText? name <;> simp [Option.filter, hk, hn]

/-- The key that a name means is set. -/
theorem getText?_of_keyFor? {k : String} (h : keyFor? values name = some k) :
    ∃ v, values.getText? k = some v := by
  unfold keyFor? at h
  split at h
  · next hk =>
    cases h
    exact Option.isSome_iff_exists.mp (Option.filter_eq_some_iff.mp hk).2
  · split at h
    · next hv =>
      cases h
      exact Option.isSome_iff_exists.mp hv
    · cases h

theorem keyFor?_mapValues (g : Value → Value) (values : Entries) (name : String) :
    keyFor? (values.mapValues g) name = keyFor? values name := by
  unfold keyFor?
  simp only [Entries.getText?_mapValues, Option.isSome_map]

/-- Where the values change, a name that means a key means the changed value; a variable stays. -/
theorem meaning?_mapValues (g : Value → Value) (values : Entries) (env : Environment)
    (name : String) :
    meaning? (values.mapValues g) env name =
      match keyFor? values name with
      | some k => (values.getText? k).map g
      | none => Entries.getText? env name := by
  rw [meaning?_eq, keyFor?_mapValues]
  cases keyFor? values name with
  | none => rfl
  | some k => exact Entries.getText?_mapValues g values k

/-! ### Steps that replace placeholders -/

namespace Replaces

variable {α β : Type} {resolve resolve' write write' : Prop} {a : α} {b : β} {r : Except Failure α}

theorem congr (h : Replaces resolve write a r) (hr : resolve ↔ resolve') (hw : write ↔ write') :
    Replaces resolve' write' a r := by
  cases h with
  | ok hresolve hwrite => exact .ok (hr.mp hresolve) (hw.mp hwrite)
  | refuse message hresolve => exact .refuse message (mt hr.mpr hresolve)
  | tooLong hwrite => exact .tooLong (mt hw.mpr hwrite)

/-- Of two steps the first one that fails decides. -/
theorem bind {g : α → Except Failure β} (h : Replaces resolve write a r)
    (hg : Replaces resolve' write' b (g a)) :
    Replaces (resolve ∧ resolve') (write ∧ write') b (r >>= g) := by
  cases h with
  | refuse message hresolve => exact .refuse message fun hboth => hresolve hboth.1
  | tooLong hwrite => exact .tooLong fun hboth => hwrite hboth.1
  | ok hresolve hwrite =>
    exact hg.congr (and_iff_right hresolve).symm (and_iff_right hwrite).symm

theorem map (g : α → β) (h : Replaces resolve write a r) :
    Replaces resolve write (g a) (r >>= fun x => .ok (g x)) := by
  have hg : Replaces True True (g a) (.ok (g a) : Except Failure β) := .ok trivial trivial
  exact (h.bind hg).congr (and_iff_left trivial) (and_iff_left trivial)

theorem eq_ok_iff (h : Replaces resolve write a r) {c : α} :
    r = .ok c ↔ (resolve ∧ write) ∧ c = a := by
  cases h with
  | ok hr hw => simp [hr, hw, eq_comm]
  | refuse _ hno => simp [hno]
  | tooLong hno => simp [hno]

end Replaces

/-! ### A placeholder -/

theorem replaces_asText (v : Value) : Replaces True (v.isWritable = true) v.plain v.asText := by
  cases hw : v.isWritable with
  | true =>
    rw [Value.asText_of_writable hw]
    exact .ok trivial rfl
  | false =>
    rw [Value.asText_of_not_writable hw]
    exact .tooLong nofun

theorem replaces_replacement (key : Value) (values : Entries) (env : Environment) (name : String) :
    Replaces (Resolves values env name) (Written values env name)
      (String.ofList (said values env (.reference name.toList))) (replacement key values env name) := by
  unfold replacement said Resolves Written
  dsimp only
  rw [String.ofList_toList]
  cases meaning? values env name with
  | none => exact .refuse _ (by simp)
  | some v =>
    simp only [Option.map_some, Option.getD_some, String.ofList_toList]
    cases v with
    | null => exact .refuse _ (by simp)
    | _ => exact (replaces_asText _).congr (by simp) (by simp)

theorem replaces_pieceText (key : Value) (values : Entries) (env : Environment) (p : Template.Piece) :
    Replaces (∀ name, p = .reference name → Resolves values env (String.ofList name))
      (∀ name, p = .reference name → Written values env (String.ofList name))
      (said values env p) (pieceText key values env p) := by
  cases p with
  | literal c => exact .ok nofun nofun
  | reference name =>
    have h := (replaces_replacement key values env (String.ofList name)).map String.toList
    rw [String.toList_ofList, String.toList_ofList] at h
    exact h.congr (by simp) (by simp)

/-! ### A text -/

theorem replaces_piecesText (key : Value) (values : Entries) (env : Environment)
    (ps : List Template.Piece) :
    Replaces (∀ name, .reference name ∈ ps → Resolves values env (String.ofList name))
      (∀ name, .reference name ∈ ps → Written values env (String.ofList name))
      (ps.flatMap (said values env)) (piecesText key values env ps) := by
  induction ps with
  | nil => exact .ok nofun nofun
  | cons p ps ih =>
    refine ((replaces_pieceText key values env p).bind (ih.map _)).congr ?_ ?_
    · simp only [List.mem_cons, or_imp, forall_and, eq_comm (a := p)]
    · simp only [List.mem_cons, or_imp, forall_and, eq_comm (a := p)]

theorem replaces_substitute (key : Value) (values : Entries) (env : Environment) (text : String) :
    Replaces (∀ name ∈ Template.names text, Resolves values env name)
      (∀ name ∈ Template.names text, Written values env name)
      (String.ofList ((Template.pieces text.toList).flatMap (said values env)))
      (substitute key values env text) := by
  have hnames (p : String → Prop) : (∀ name, .reference name ∈ Template.pieces text.toList →
      p (String.ofList name)) ↔ ∀ name ∈ Template.names text, p name := by
    constructor
    · intro h name hname
      rw [← String.ofList_toList (s := name)]
      exact h _ (Template.mem_names_iff_mem_pieces.mp hname)
    · intro h name hname
      exact h _ (Template.mem_names_iff_mem_pieces.mpr (by rwa [String.toList_ofList]))
  exact ((replaces_piecesText key values env _).map _).congr (hnames _) (hnames _)

/-! ### A value -/

theorem replaces_substituteValue (key : Value) (values : Entries) (env : Environment) (v : Value) :
    Replaces (∀ name ∈ namesIn v, Resolves values env name)
      (∀ name ∈ namesIn v, Written values env name) (replaced values env v)
      (substituteValue key values env v) := by
  cases v with
  | text s => exact (replaces_substitute key values env s).map Value.text
  | _ => exact .ok nofun nofun

/-! ### A pass -/

/-- A pass comes about if every placeholder stands for a value that has a text. -/
theorem replaces_pass (values : Entries) (env : Environment) (es : Entries) :
    Replaces (AllResolve values env es) (AllWritten values env es) (es.mapValues (replaced values env))
      (pass values env es) := by
  induction es with
  | nil => exact .ok nofun nofun
  | cons e es ih =>
    obtain ⟨k, v⟩ := e
    refine ((replaces_substituteValue k values env v).bind (ih.map _)).congr ?_ ?_
    · simp only [AllResolve, List.forall_mem_cons]
    · simp only [AllWritten, List.forall_mem_cons]

/-- What a pass makes of entries, if it is not refused. -/
theorem pass_eq_ok_iff :
    pass values env es = .ok fs ↔
      (AllResolve values env es ∧ AllWritten values env es) ∧ fs = es.mapValues (replaced values env) :=
  (replaces_pass values env es).eq_ok_iff

theorem pass_of_resolves (h : AllResolve values env es) (hw : AllWritten values env es) :
    pass values env es = .ok (es.mapValues (replaced values env)) := pass_eq_ok_iff.mpr ⟨⟨h, hw⟩, rfl⟩

/-- Where the settings are not to blame, a pass is refused for a value without a text. -/
theorem pass_of_not_written (h : AllResolve values env es) (hw : ¬AllWritten values env es) :
    pass values env es = .error (.badValue .tooLongForText) := by
  cases hp : pass values env es with
  | ok gs => exact absurd (pass_eq_ok_iff.mp hp).1.2 hw
  | error f =>
    have hpass := replaces_pass values env es
    rw [hp] at hpass
    cases hpass with
    | refuse _ hno => exact absurd h hno
    | tooLong _ => rfl

theorem replaced_of_not_text {v : Value} (h : ∀ t, v ≠ .text t) : replaced values env v = v := by
  cases v with
  | text t => exact absurd rfl (h t)
  | _ => rfl

/-- Where texts change into texts and nothing else changes, a name means what it meant before if that is
no text. -/
theorem meaning?_of_mapValues {g : Value → Value} {v : Value} (hother : ∀ w, (∀ t, w ≠ .text t) → g w = w)
    (htext : ∀ t, ∃ t', g (.text t) = .text t') (hv : ∀ t, v ≠ .text t)
    (h : meaning? (values.mapValues g) env name = some v) : meaning? values env name = some v := by
  rw [meaning?_mapValues] at h
  rw [meaning?_eq]
  cases hk : keyFor? values name with
  | none => rwa [hk] at h
  | some k =>
    rw [hk] at h
    obtain ⟨w, hw, rfl⟩ := Option.map_eq_some_iff.mp h
    have hwother : ∀ t, w ≠ .text t := by
      rintro t rfl
      obtain ⟨t', ht'⟩ := htext t
      exact hv t' ht'
    rwa [hother w hwother]

theorem expand_of_pass_error {s : Settings} {f : Failure} (h : pass s.entries env s.entries = .error f)
    {bound : Int} (hb : 0 < bound) : s.expand env bound = .error f := by
  obtain ⟨n, hn⟩ := Nat.exists_eq_succ_of_ne_zero (n := bound.toNat) (by omega)
  unfold expand
  simp only [hn, passes, h]
  rfl

/-- What holds of the values before the passes and is kept by each of them holds of the values that
come out, unless a pass is refused. -/
theorem passes_cases {motive : (Value → Value) → Prop}
    (step : ∀ g, motive g → AllResolve (values.mapValues g) env (values.mapValues g) →
      motive (replaced (values.mapValues g) env ∘ g)) (n : Nat) :
    ∀ g, motive g → (∃ f, passes env n (values.mapValues g) = .error f) ∨
      ∃ h, motive h ∧ passes env n (values.mapValues g) = .ok (values.mapValues h) := by
  induction n with
  | zero => exact fun g hg => .inr ⟨g, hg, rfl⟩
  | succ n ih =>
    intro g hg
    cases hp : pass (values.mapValues g) env (values.mapValues g) with
    | error f =>
      refine .inl ⟨f, ?_⟩
      simp only [passes, hp]
      rfl
    | ok fs =>
      obtain ⟨⟨hr, -⟩, rfl⟩ := pass_eq_ok_iff.mp hp
      rw [Entries.mapValues_mapValues] at hp
      simp only [passes, hp, bind, Except.bind]
      split
      · exact .inr ⟨g, hg, rfl⟩
      · exact ih _ (step g hg hr)

/-! ### The last check -/

theorem keyTexts_texts (index : Nat) (ks : List String) :
    keyTexts index (ks.map .text) = .ok ks := by
  induction ks generalizing index with
  | nil => rfl
  | cons k ks ih =>
    simp only [List.map_cons, keyTexts, ih]
    rfl

/-- The failure that lists texts lists them in order. -/
theorem unresolvedFailure_texts (bound : Int) (ks : List String) :
    ∃ names : List String, names.Perm ks ∧ names.Pairwise (· ≤ ·) ∧
      unresolvedFailure bound (ks.map .text) = .configuration (unresolvedMessage bound names) := by
  let notAfter (a b : String) : Bool := !decide (b < a)
  have hle : ∀ a b, notAfter a b = true ↔ a ≤ b := by
    intro a b
    rw [Bool.not_eq_true', decide_eq_false_iff_not, String.not_lt]
  have hsort : (ks.mergeSort notAfter).map Value.text =
      (ks.map Value.text).mergeSort fun x y => Value.notAfter (id x) (id y) :=
    List.map_mergeSort fun _ _ _ _ => rfl
  refine ⟨ks.mergeSort notAfter, List.mergeSort_perm _ _, ?_, ?_⟩
  · refine (List.pairwise_mergeSort ?_ ?_ ks).imp fun h => (hle _ _).mp h
    · intro a b c hab hbc
      exact (hle a c).mpr (String.le_trans ((hle a b).mp hab) ((hle b c).mp hbc))
    · intro a b
      rw [Bool.or_eq_true, hle, hle]
      exact String.le_total a b
  · unfold unresolvedFailure Value.sortByKey
    rw [List.map_id, Value.checkNeighbours_texts, ← hsort]
    simp only [bind, Except.bind, pure, Except.pure, keyTexts_texts]
    rfl

/-- Under keys that are texts the last check finds nothing, or it lists what it finds in order. -/
theorem checkResolved_texts (bound : Int) {ks : List String} (h : es.keys = ks.map .text) :
    ∃ found, found.Sublist ks ∧ unresolvedKeys es = found.map .text ∧
      (found = [] → checkResolved bound es = .ok ()) ∧
      (found ≠ [] → ∃ names : List String, names.Perm found ∧ names.Pairwise (· ≤ ·) ∧
        checkResolved bound es = .error (.configuration (unresolvedMessage bound names))) := by
  have hsub : (unresolvedKeys es).Sublist (ks.map .text) := by
    rw [← h]
    exact List.filter_sublist.map _
  obtain ⟨found, hfound, hmap⟩ := List.sublist_map_iff.mp hsub
  refine ⟨found, hfound, hmap, ?_, ?_⟩
  · rintro rfl
    unfold checkResolved
    rw [hmap]
    rfl
  · intro hne
    obtain ⟨names, hperm, hsorted, hf⟩ := unresolvedFailure_texts bound found
    refine ⟨names, hperm, hsorted, ?_⟩
    unfold checkResolved
    rw [hmap, hf, if_neg (by simpa using hne)]

end Settings

end TopologySubmission
