import Mathlib.Data.List.TakeWhile
import TopologySubmission.Settings.Overrides

/-!
# The items of overrides

An item is read if a key that is not blank stands in front of its first equals sign and the reader of
YAML lets no failure through for what stands behind it. Items are parsed one after the other, so the first
one that is not read decides, whatever reads the values:

    an item fails with f ↔ it has no key, or reading its value fails with f     (parseItem_eq_error_iff)
    parse items gives a result ↔ every item is read                             (parse_ok_iff)
    parse items = .error f ↔ the first unread item fails with f                 (parse_eq_error_iff)
-/

namespace TopologySubmission

/-! ## Algorithm -/

namespace Overrides

/-- The item is cut at its first equals sign. -/
structure IsCut (item key raw : String) : Prop where
  text : item = key ++ "=" ++ raw
  first : '=' ∉ key.toList

/-- An equals sign stands in the item, and what stands in front of the first one is not blank. -/
def HasKey (item : String) : Prop := ∃ key raw, IsCut item key raw ∧ Text.allBlank key = false

/-- Reading a value as YAML fails, though not because the text is no YAML. -/
structure ValueFails (load : Yaml.Loader) (raw : String) (f : Failure) : Prop where
  filled : Text.allBlank raw = false
  fails : ∃ foreign, load raw = .error (.failed f foreign)

/-- What an item with a key lets through. -/
def Fails (load : Yaml.Loader) (item : String) (f : Failure) : Prop :=
  ∃ key raw, IsCut item key raw ∧ Text.allBlank key = false ∧ ValueFails load raw f

/-- The item gives an override. -/
def IsRead (load : Yaml.Loader) (item : String) : Prop := HasKey item ∧ ∀ f, ¬Fails load item f

/-- The first item that gives no override. -/
inductive FirstUnread (load : Yaml.Loader) : List String → String → Prop
  | here {item : String} {items : List String} (h : ¬IsRead load item) :
      FirstUnread load (item :: items) item
  | later {item first : String} {items : List String} (h : IsRead load item)
      (hfirst : FirstUnread load items first) : FirstUnread load (item :: items) first

end Overrides

/-! ## Lemmas -/

namespace Text

theorem trim_eq_nil_iff {drop : Char → Bool} {s : List Char} :
    trim drop s = [] ↔ ∀ c ∈ s, drop c = true := by
  unfold trim trimRight trimLeft
  rw [List.reverse_eq_nil_iff, List.dropWhile_eq_nil_iff]
  constructor
  · intro h c hc
    rw [← List.takeWhile_append_dropWhile (p := drop) (l := s)] at hc
    rcases List.mem_append.mp hc with hc | hc
    · exact List.mem_takeWhile_imp hc
    · exact h c (List.mem_reverse.mpr hc)
  · intro h c hc
    exact h c ((List.dropWhile_suffix drop).mem (List.mem_reverse.mp hc))

/-- Nothing is left of a text exactly if it is blank. -/
theorem strip_eq_empty_iff {s : String} : strip s = "" ↔ allBlank s = true := by
  unfold strip allBlank
  rw [String.ofList_eq_empty_iff, trim_eq_nil_iff, List.all_eq_true]

end Text

namespace Overrides

variable {load : Yaml.Loader} {item key raw : String} {items : List String} {f : Failure}

/-! ### One item -/

theorem IsCut.cut_eq (h : IsCut item key raw) : cut item.toList = some (key.toList, raw.toList) := by
  rw [h.text, String.toList_append, String.toList_append, List.append_assoc]
  exact cut_append _ _ h.first

theorem isCut_of_cut {k r : List Char} {s : List Char} (h : cut s = some (k, r)) :
    s = k ++ '=' :: r ∧ '=' ∉ k := by
  induction s generalizing k with
  | nil => cases h
  | cons c s ih =>
    unfold cut at h
    split at h
    · next hc =>
      cases h
      exact ⟨congrArg (· :: _) (beq_iff_eq.mp hc), List.not_mem_nil⟩
    · next hc =>
      obtain ⟨⟨k', r'⟩, hcut, he⟩ := Option.map_eq_some_iff.mp h
      cases he
      obtain ⟨rfl, hk⟩ := ih hcut
      refine ⟨rfl, fun hmem => ?_⟩
      rcases List.mem_cons.mp hmem with he | hmem
      · exact hc (beq_iff_eq.mpr he.symm)
      · exact hk hmem

theorem parseItem_of_key (hcut : IsCut item key raw) (hkey : Text.allBlank key = false) :
    parseItem load item = (do return (Text.strip key, ← valueOf load raw)) := by
  have hne : Text.strip key ≠ "" := fun h => by
    rw [Text.strip_eq_empty_iff, hkey] at h
    cases h
  unfold parseItem
  rw [hcut.cut_eq]
  dsimp only
  rw [String.ofList_toList, String.ofList_toList, if_neg hne]

theorem parseItem_of_no_key (h : ¬HasKey item) : parseItem load item = .error (invalid item) := by
  unfold parseItem
  split
  · rfl
  · next k r hcut =>
    obtain ⟨hitem, hk⟩ := isCut_of_cut hcut
    dsimp only
    split
    · rfl
    · next hne =>
      refine absurd ⟨String.ofList k, String.ofList r, ⟨?_, ?_⟩, ?_⟩ h
      · rw [← String.toList_inj, hitem]
        simp
      · rwa [String.toList_ofList]
      · rwa [Text.strip_eq_empty_iff, Bool.not_eq_true] at hne

theorem valueOf_eq_error_iff : valueOf load raw = .error f ↔ ValueFails load raw f := by
  unfold valueOf
  constructor
  · intro h
    split at h
    · cases h
    · next hraw =>
      rw [Bool.not_eq_true] at hraw
      split at h
      · cases h
      · cases h
      · next foreign hload =>
        cases h
        exact ⟨hraw, foreign, hload⟩
  · rintro ⟨hraw, foreign, hload⟩
    rw [hraw, hload]
    rfl

theorem ValueFails.foreign (h : ValueFails load raw f) : f.submissionError? = none := h.fails.1

theorem Fails.foreign (h : Fails load item f) : f.submissionError? = none := by
  obtain ⟨key, raw, -, -, hvalue⟩ := h
  exact hvalue.foreign

theorem IsCut.eq {key' raw' : String} (h : IsCut item key raw) (h' : IsCut item key' raw') :
    key = key' ∧ raw = raw' := by
  have he := h.cut_eq.symm.trans h'.cut_eq
  rw [Option.some.injEq, Prod.mk.injEq] at he
  exact he.imp String.toList_inj.mp String.toList_inj.mp

/-- Parsing an item fails exactly if it has no key, or with what YAML lets through for its value. -/
theorem parseItem_eq_error_iff :
    parseItem load item = .error f ↔ ¬HasKey item ∧ f = invalid item ∨ Fails load item f := by
  by_cases hkey : HasKey item
  · obtain ⟨key, raw, hcut, hblank⟩ := hkey
    rw [parseItem_of_key hcut hblank]
    have hvalue : (do return (Text.strip key, ← valueOf load raw)) = .error f ↔
        ValueFails load raw f := by
      rw [← valueOf_eq_error_iff]
      cases valueOf load raw with
      | error g => exact ⟨fun h => by cases h; rfl, fun h => by cases h; rfl⟩
      | ok v => exact ⟨nofun, nofun⟩
    rw [hvalue]
    constructor
    · exact fun h => .inr ⟨key, raw, hcut, hblank, h⟩
    · rintro (⟨hno, -⟩ | ⟨key', raw', hcut', -, h⟩)
      · exact absurd ⟨key, raw, hcut, hblank⟩ hno
      · rwa [(hcut.eq hcut').2]
  · rw [parseItem_of_no_key hkey]
    constructor
    · intro h
      cases h
      exact .inl ⟨hkey, rfl⟩
    · rintro (⟨-, rfl⟩ | ⟨key, raw, hcut, hblank, -⟩)
      · rfl
      · exact absurd ⟨key, raw, hcut, hblank⟩ hkey

theorem parseItem_ok_iff : (∃ e, parseItem load item = .ok e) ↔ IsRead load item := by
  have hiff (g : Failure) :
      parseItem load item = .error g ↔ ¬HasKey item ∧ g = invalid item ∨ Fails load item g :=
    parseItem_eq_error_iff
  cases h : parseItem load item with
  | ok e =>
    refine iff_of_true ⟨e, rfl⟩ ⟨?_, fun g hg => ?_⟩
    · refine Classical.byContradiction fun hno => ?_
      have herror := (hiff _).mpr (.inl ⟨hno, rfl⟩)
      rw [h] at herror
      cases herror
    · have herror := (hiff g).mpr (.inr hg)
      rw [h] at herror
      cases herror
  | error f =>
    refine iff_of_false nofun ?_
    rintro ⟨hkey, hfails⟩
    rcases (hiff f).mp h with ⟨hno, -⟩ | hf
    · exact hno hkey
    · exact hfails f hf

/-! ### All items -/

variable {found : Entries}

theorem parseOnto_of_error (h : parseItem load item = .error f) :
    parseOnto load found (item :: items) = .error f := by
  rw [parseOnto, h]
  rfl

theorem parseOnto_of_ok {e : String × Value} (h : parseItem load item = .ok e) :
    parseOnto load found (item :: items) = parseOnto load (found.insertText e.1 e.2) items := by
  rw [parseOnto, h]
  rfl

theorem parseOnto_ok_iff :
    (∃ es, parseOnto load found items = .ok es) ↔ ∀ item ∈ items, IsRead load item := by
  induction items generalizing found with
  | nil => exact iff_of_true ⟨found, rfl⟩ nofun
  | cons item items ih =>
    rw [List.forall_mem_cons, ← parseItem_ok_iff]
    cases h : parseItem load item with
    | error f =>
      rw [parseOnto_of_error h]
      exact iff_of_false nofun nofun
    | ok e =>
      rw [parseOnto_of_ok h, ih]
      exact (and_iff_right ⟨e, rfl⟩).symm

/-- All items are parsed exactly if each one is read. -/
theorem parse_ok_iff (load : Yaml.Loader) (items : List String) :
    (∃ es, parse items load = .ok es) ↔ ∀ item ∈ items, IsRead load item := parseOnto_ok_iff

theorem parseOnto_eq_error_iff :
    parseOnto load found items = .error f ↔
      ∃ item, FirstUnread load items item ∧ parseItem load item = .error f := by
  -- along the items, whatever was found before
  induction items generalizing found with
  | nil => exact iff_of_false nofun nofun
  | cons item items ih =>
    by_cases hread : IsRead load item
    · obtain ⟨e, he⟩ := parseItem_ok_iff.mpr hread
      rw [parseOnto_of_ok he, ih]
      constructor
      · rintro ⟨first, hfirst, hf⟩
        exact ⟨first, .later hread hfirst, hf⟩
      · rintro ⟨first, hno | ⟨-, hfirst⟩, hf⟩
        · exact absurd hread hno
        · exact ⟨first, hfirst, hf⟩
    · cases h : parseItem load item with
      | ok e => exact absurd (parseItem_ok_iff.mp ⟨e, h⟩) hread
      | error g =>
        rw [parseOnto_of_error h]
        constructor
        · intro hf
          cases hf
          exact ⟨item, .here hread, h⟩
        · rintro ⟨first, _ | ⟨hyes, -⟩, hf⟩
          · cases h.symm.trans hf
            rfl
          · exact absurd hyes hread

/-- The first item that is not read decides how parsing fails. -/
theorem parse_eq_error_iff (load : Yaml.Loader) (items : List String) (f : Failure) :
    parse items load = .error f ↔ ∃ item, FirstUnread load items item ∧
      (¬HasKey item ∧ f = invalid item ∨ Fails load item f) := by
  simp only [← parseItem_eq_error_iff]
  exact parseOnto_eq_error_iff

end Overrides

end TopologySubmission
