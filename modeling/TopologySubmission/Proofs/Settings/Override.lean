import Mathlib.Data.List.Forall2
import TopologySubmission.Proofs.Settings.Items
import TopologySubmission.Proofs.Value.Merging

/-!
# The settings of overrides

Where all overrides are read, each item sets the key in front of its first equals sign to what the text
behind it gives. So a key stands where it is set first and has what its last item gives: the value that
the text is read as, or the text as it is written where that is a row or a mapping or where it is no YAML,
or the empty text where the text is blank.

    an item gives its own key and what its own text gives            (parseItem_gives)
    overrides set their keys one after the other                     (parseOnto_eq_ok_iff)
    the place and the value of each key                              (parse_gathers)

All this holds for every reader of YAML that reads no value of a read-only kind, as those of the library
do (givesDocuments_documentReader, givesDocuments_scalarReader). Rows and mappings are told from other
values, but a set is not, so it is the one value of an override that holds others
(Gives.isCollection_iff).
-/

namespace TopologySubmission

/-! ## Algorithm -/

namespace Value

/-- The value holds other values. -/
def isCollection : Value → Bool
  | .list _ | .tuple _ | .map _ | .readOnlyMap _ | .set _ => true
  | _ => false

/-- The value is a pair or a mapping that cannot be changed. -/
def isReadOnly : Value → Bool
  | .tuple _ | .readOnlyMap _ => true
  | _ => false

end Value

namespace Overrides

/-- The text in front of the first equals sign, without the blanks around it. -/
def keyText (item : String) : String := Text.strip (String.ofList (item.toList.takeWhile (· != '=')))

/-- The text behind the first equals sign. -/
def rawText (item : String) : String := String.ofList ((item.toList.dropWhile (· != '=')).drop 1)

/-- What the text behind an equals sign gives. -/
inductive Gives (load : Yaml.Loader) (raw : String) : Value → Prop
  | blank (hraw : Text.allBlank raw = true) : Gives load raw (.text "")
  | single {v : Value} (hraw : Text.allBlank raw = false) (h : load raw = .ok v)
      (hv : isNested v = false) : Gives load raw v
  | nested {v : Value} (hraw : Text.allBlank raw = false) (h : load raw = .ok v)
      (hv : isNested v = true) : Gives load raw (.text raw)
  | noYaml {words : String} (hraw : Text.allBlank raw = false) (h : load raw = .error (.noYaml words)) :
      Gives load raw (.text raw)

end Overrides

/-- No result is of a read-only kind. -/
def NeverReadOnly {ε : Type} (r : Except ε Value) : Prop := ∀ v, r = .ok v → v.isReadOnly = false

/-! ## Lemmas -/

/-! ### Values of nodes -/

namespace NeverReadOnly

variable {ε α : Type}

theorem ok {v : Value} (h : v.isReadOnly = false) : NeverReadOnly (.ok v : Except ε Value) :=
  fun _ he => Except.ok.inj he ▸ h

theorem error (e : ε) : NeverReadOnly (.error e : Except ε Value) := fun _ he => nomatch he

theorem bind {x : Except ε α} {f : α → Except ε Value} (h : ∀ a, NeverReadOnly (f a)) :
    NeverReadOnly (x >>= f) := by
  intro v hv
  obtain ⟨a, -, hf⟩ := bind_eq_ok_iff.mp hv
  exact h a v hf

theorem map {x : Except ε α} {g : α → Value} (h : ∀ a, (g a).isReadOnly = false) :
    NeverReadOnly (x.map g) := by
  cases x with
  | error e => exact error e
  | ok a => exact ok (h a)

theorem mapError {ε' : Type} {x : Except ε Value} {g : ε → ε'} (h : NeverReadOnly x) :
    NeverReadOnly (x.mapError g) := by
  cases x with
  | error e => exact error _
  | ok v => exact ok (h v rfl)

end NeverReadOnly

namespace Yaml

theorem neverReadOnly_truthValue (s : String) : NeverReadOnly (truthValue s) := by
  unfold truthValue
  split
  · exact .ok rfl
  · exact .error _

theorem neverReadOnly_integerValue (s : List Char) : NeverReadOnly (integerValue s) :=
  .bind fun _ => .bind fun _ => .ok rfl

theorem neverReadOnly_realValue (s : List Char) : NeverReadOnly (realValue s) := by
  refine .bind fun _ => ?_
  dsimp only
  split
  · exact .ok rfl
  · split
    · exact .ok rfl
    · split <;> exact .bind fun _ => .ok rfl

theorem neverReadOnly_bytesValue (s : List Char) : NeverReadOnly (bytesValue s) := by
  unfold bytesValue
  split
  · split
    · exact .ok rfl
    · exact .error _
  · exact .error _

theorem neverReadOnly_moment (m : WrittenMoment) : NeverReadOnly m.value := by
  unfold WrittenMoment.value
  dsimp only
  split <;> exact .map fun _ => rfl

theorem neverReadOnly_momentValue (s : List Char) : NeverReadOnly (momentValue s) := by
  unfold momentValue
  split
  · exact .error _
  · next m _ =>
    split
    · next v hv => exact .ok (neverReadOnly_moment m v hv)
    · exact .error _

namespace Node

variable {n : Node} {v : Value}

theorem neverReadOnly_scalarValue (n : Node) : NeverReadOnly (scalarValue n) := by
  unfold scalarValue
  split
  · exact .bind fun _ => .ok rfl
  · exact .bind fun s => neverReadOnly_truthValue _
  · exact .bind fun s => neverReadOnly_integerValue s
  · exact .bind fun s => neverReadOnly_realValue s
  · exact .bind fun s => neverReadOnly_bytesValue s
  · exact .bind fun s => neverReadOnly_momentValue s
  · exact .bind fun _ => .ok rfl
  · exact .error _

theorem neverReadOnly_value (n : Node) : NeverReadOnly n.value := by
  cases n with
  | loop => exact .error _
  | scalar t s => exact neverReadOnly_scalarValue _
  | sequence t items =>
    unfold value
    split
    iterate 3
      exact .bind fun _ => .ok rfl
    exact neverReadOnly_scalarValue _
  | mapping t es =>
    unfold value
    split
    iterate 2
      exact .bind fun _ => .ok rfl
    exact neverReadOnly_scalarValue _

end Node

theorem givesDocuments_of_neverReadOnly {load : Loader} (h : ∀ s, NeverReadOnly (load s)) :
    GivesDocuments load := by
  intro s v hv
  have hkind := h s v hv
  constructor <;> rintro _ rfl <;> cases hkind

/-- What reads the files of a site reads none of the read-only kinds. -/
theorem givesDocuments_documentReader : GivesDocuments documentReader :=
  givesDocuments_of_neverReadOnly fun s => by
    unfold documentReader read
    refine .mapError (.bind fun n => ?_)
    split
    · exact .ok rfl
    · exact Node.neverReadOnly_value _

/-- Nor does what reads the values on the command line. -/
theorem givesDocuments_scalarReader : GivesDocuments scalarReader :=
  givesDocuments_of_neverReadOnly fun s => by
    unfold scalarReader
    split
    · exact .ok rfl
    · refine .mapError ?_
      unfold Node.scalarOrEmpty
      split
      · exact .ok rfl
      · exact Node.neverReadOnly_value _
    · exact .error _

end Yaml

namespace Overrides

variable {load : Yaml.Loader} {item key raw : String} {items : List String} {found es : Entries}
  {v : Value} {rows : List (String × Value)}

/-! ### One item -/

/-- Both sides of the first equals sign. -/
theorem IsCut.sides (h : IsCut item key raw) : item.toList.takeWhile (· != '=') = key.toList ∧
    item.toList.dropWhile (· != '=') = '=' :: raw.toList := by
  have hitem : item.toList = key.toList ++ '=' :: raw.toList := by
    rw [h.text]
    simp
  have hkey : ∀ c ∈ key.toList, (c != '=') = true := fun c hc => by
    rw [bne_iff_ne]
    rintro rfl
    exact h.first hc
  rw [hitem, List.takeWhile_append_of_pos hkey, List.dropWhile_append_of_pos hkey]
  simp

theorem IsCut.keyText_eq (h : IsCut item key raw) : keyText item = Text.strip key := by
  unfold keyText
  rw [h.sides.1, String.ofList_toList]

theorem IsCut.rawText_eq (h : IsCut item key raw) : rawText item = raw := by
  unfold rawText
  rw [h.sides.2, List.drop_one, List.tail_cons, String.ofList_toList]

/-- Only a set is let through among the values that hold others. -/
theorem Gives.isCollection_iff (hload : Yaml.GivesDocuments load) (h : Gives load raw v) :
    v.isCollection = true ↔ Text.allBlank raw = false ∧ ∃ members, load raw = .ok (.set members) := by
  cases h with
  | blank hraw => simp [Value.isCollection, hraw]
  | single hraw h hv =>
    obtain ⟨htuple, hmap⟩ := hload raw v h
    rw [h]
    cases v with
    | set members => simp [Value.isCollection, hraw]
    | list xs => cases hv
    | map es => cases hv
    | tuple xs => exact absurd rfl (htuple xs)
    | readOnlyMap es => exact absurd rfl (hmap es)
    | _ => simp [Value.isCollection]
  | nested hraw h hv =>
    rw [h]
    refine iff_of_false nofun ?_
    rintro ⟨-, members, he⟩
    cases he
    cases hv
  | noYaml hraw h =>
    rw [h]
    exact iff_of_false nofun nofun

theorem valueOf_gives (h : valueOf load raw = .ok v) : Gives load raw v := by
  unfold valueOf at h
  split at h
  · next hraw =>
    cases h
    exact .blank hraw
  · next hraw =>
    rw [Bool.not_eq_true] at hraw
    split at h
    · next w hload =>
      cases hnested : isNested w with
      | true =>
        rw [hnested] at h
        cases h
        exact .nested hraw hload hnested
      | false =>
        rw [hnested] at h
        cases h
        exact .single hraw hload hnested
    · next hload =>
      cases h
      exact .noYaml hraw hload
    · cases h

/-- What an item is parsed to are its own key and what its own text gives. -/
theorem parseItem_gives {row : String × Value} (h : parseItem load item = .ok row) :
    row.1 = keyText item ∧ Gives load (rawText item) row.2 := by
  obtain ⟨⟨key, raw, hcut, hblank⟩, -⟩ := parseItem_ok_iff.mp ⟨row, h⟩
  rw [parseItem_of_key hcut hblank] at h
  obtain ⟨v, hv, h⟩ := bind_eq_ok_iff.mp h
  cases h
  rw [hcut.keyText_eq, hcut.rawText_eq]
  exact ⟨rfl, valueOf_gives hv⟩

/-! ### All items -/

/-- The rows that items are parsed to, one for each, are set one after the other. -/
theorem parseOnto_eq_ok_iff : parseOnto load found items = .ok es ↔
    ∃ rows, List.Forall₂ (fun item row => parseItem load item = .ok row) items rows ∧
      es = found.setAll rows := by
  induction items generalizing found with
  | nil =>
    constructor
    · intro h
      cases h
      exact ⟨[], .nil, rfl⟩
    · rintro ⟨rows, hrows, rfl⟩
      cases hrows
      rfl
  | cons item items ih =>
    cases hitem : parseItem load item with
    | error f =>
      rw [parseOnto_of_error hitem]
      refine iff_of_false nofun ?_
      rintro ⟨_, _ | ⟨hrow, -⟩, -⟩
      cases hitem.symm.trans hrow
    | ok row =>
      rw [parseOnto_of_ok hitem, ih]
      constructor
      · rintro ⟨rows, hrows, rfl⟩
        exact ⟨row :: rows, .cons hitem hrows, rfl⟩
      · rintro ⟨_, _ | ⟨hrow, hrows⟩, rfl⟩
        cases hitem.symm.trans hrow
        exact ⟨_, hrows, rfl⟩

theorem map_keyText_eq
    (h : List.Forall₂ (fun item row => parseItem load item = .ok row) items rows) :
    items.map keyText = rows.map Prod.fst := by
  induction h with
  | nil => rfl
  | cons hrow _ ih => rw [List.map_cons, List.map_cons, ih, (parseItem_gives hrow).1]

/-- For all items that are parsed: their keys stand in the order in which they come up, and each has what
the text of its last item gives. That is a value which holds others exactly if the text is read as a set. -/
theorem parse_gathers (load : Yaml.Loader) (hload : Yaml.GivesDocuments load) (items : List String)
    (es : Entries) (h : parse items load = .ok es) :
    es.keys = (items.map keyText).eraseDups.map .text ∧
      ∀ key v, es.getText? key = some v → ∃ front item back, items = front ++ item :: back ∧
        keyText item = key ∧ (∀ later ∈ back, keyText later ≠ key) ∧ Gives load (rawText item) v ∧
        (v.isCollection = true ↔ Text.allBlank (rawText item) = false ∧
          ∃ members, load (rawText item) = .ok (.set members)) := by
  obtain ⟨rows, hrows, rfl⟩ := parseOnto_eq_ok_iff.mp h
  refine ⟨?_, fun key v hv => ?_⟩
  · rw [map_keyText_eq hrows]
    exact Entries.keys_ofRows rows
  · obtain ⟨front, back, rfl, hback⟩ := Entries.getText?_ofRows_eq_some_iff.mp hv
    have hdrop := List.forall₂_drop_append items front _ hrows
    obtain ⟨item, later, hitem, hlater, hitems⟩ := List.forall₂_cons_right_iff.mp hdrop
    obtain ⟨hkey, hgives⟩ := parseItem_gives hitem
    refine ⟨items.take front.length, item, later, ?_, hkey.symm, ?_, hgives, hgives.isCollection_iff hload⟩
    · rw [← hitems, List.take_append_drop]
    · intro other hother he
      have hmem : key ∈ back.map Prod.fst := by
        rw [← map_keyText_eq hlater, ← he]
        exact List.mem_map_of_mem hother
      obtain ⟨row, hrow, hk⟩ := List.mem_map.mp hmem
      exact hback row hrow hk

/-- A reader of a few texts. -/
def fewTexts : Yaml.Loader
  | "x" => .ok (.text "x")
  | "[]" => .ok (.list [])
  | "!!set \x7bx, y\x7d" => .ok (.set [.text "x", .text "y"])
  | _ => .error (.noYaml "not a YAML document")

theorem givesDocuments_fewTexts : Yaml.GivesDocuments fewTexts := by
  intro s v hv
  unfold fewTexts at hv
  split at hv <;> cases hv <;> exact ⟨nofun, nofun⟩

/-- Overrides that set one key twice, the second time to a row. -/
def repeated : List String := ["a=x", "b= ", "a=[]"]

/-- The row is kept as it is written, in the place where its key came up. -/
theorem parse_gathers_repeated :
    parse repeated fewTexts = .ok [(.text "a", .text "[]"), (.text "b", .text "")] ∧
      ∃ front item back, repeated = front ++ item :: back ∧ keyText item = "a" ∧
        (∀ later ∈ back, keyText later ≠ "a") ∧ Gives fewTexts (rawText item) (.text "[]") := by
  have hparse : parse repeated fewTexts = .ok [(.text "a", .text "[]"), (.text "b", .text "")] := rfl
  obtain ⟨-, hvalues⟩ := parse_gathers fewTexts givesDocuments_fewTexts repeated _ hparse
  obtain ⟨front, item, back, hitems, hkey, hback, hgives, -⟩ := hvalues "a" _ rfl
  exact ⟨hparse, front, item, back, hitems, hkey, hback, hgives⟩

/-- The value of an override is a set, though that holds other values. -/
theorem parse_lets_set_through : Yaml.GivesDocuments fewTexts ∧
    ∃ es v, parse ["a=!!set \x7bx, y\x7d"] fewTexts = .ok es ∧ es.getText? "a" = some v ∧
      v.isCollection = true :=
  ⟨givesDocuments_fewTexts, [(.text "a", .set [.text "x", .text "y"])], _, rfl, rfl, rfl⟩

end Overrides

end TopologySubmission
