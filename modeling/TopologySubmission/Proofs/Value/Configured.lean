import TopologySubmission.Proofs.Number.Range
import TopologySubmission.Topology.Basic
import TopologySubmission.Value.Number

/-!
# Values that are read as numbers

A value in the place of a number is read as one, and what cannot be read refuses the configuration. A step
`Configures` if it is known what it gives and which of its failures are no refusals. Reading a value does:

    an infinity is no integer, and fails as an overflow                        (configures_integer)
    an integer out of the range of real numbers fails so too                   (configures_real)
    a value that holds too long an integer cannot be shown in a refusal        (both of them)

What is frozen is read as before.
-/

namespace TopologySubmission

/-! ## Algorithm -/

/-- A step gives exactly these results, and refuses the configuration but for the failures that it lets
through, which are exactly these. -/
structure Configures {α : Type} (r : Except Failure α) (results : α → Prop) (through : Failure → Prop) :
    Prop where
  ok_iff : ∀ a, r = .ok a ↔ results a
  refused : ∀ f, r = .error f → f.kind = .submission .configuration ∨ through f
  passes : ∀ f, through f → r = .error f

namespace Value

/-- The value is no integer and holds one that has too many digits to be written. -/
def HoldsLong (v : Value) : Prop := v.isWritable = false ∧ ∀ n, v ≠ .int n

/-- The value is an infinity. -/
def IsInfinite (v : Value) : Prop := ∃ negative, v = .float (.infinity negative)

/-- The value is an integer that is rounded out of the range of real numbers. -/
def IsLarge (v : Value) : Prop := ∃ n : Int, v = .int n ∧ 2 ^ 1024 - 2 ^ 970 ≤ n.natAbs

/-- The failures that are let through where a value is read as a number. -/
inductive Escapes (overflows : Value → Prop) (o : Overflow) (v : Value) : Failure → Prop
  | overflow : overflows v → Escapes overflows o v (.overflow o)
  | long : v.HoldsLong → Escapes overflows o v (.badValue .tooLongForText)

/-- The failures that are let through where a value is read as an integer. -/
def EscapesInteger : Value → Failure → Prop := Escapes IsInfinite .infinityToInteger

/-- The failures that are let through where a value is read as a real number. -/
def EscapesReal : Value → Failure → Prop := Escapes IsLarge .integerToReal

end Value

/-! ## Lemmas -/

/-! ### Steps that configure -/

namespace Configures

variable {α β : Type} {r : Except Failure α} {results : α → Prop} {through : Failure → Prop}

theorem ok {a : α} (hresults : ∀ b, results b ↔ b = a) (hthrough : ∀ f, ¬through f) :
    Configures (.ok a) results through where
  ok_iff b := by rw [hresults, Except.ok.injEq, eq_comm]
  refused f hf := by cases hf
  passes f hf := absurd hf (hthrough f)

theorem error {e : Failure} (hresults : ∀ a, ¬results a)
    (he : e.kind = .submission .configuration ∨ through e) (hthrough : ∀ f, through f → f = e) :
    Configures (.error e) results through where
  ok_iff a := ⟨nofun, fun ha => absurd ha (hresults a)⟩
  refused f hf := by cases hf; exact he
  passes f hf := by rw [hthrough f hf]

theorem congr {results' : α → Prop} {through' : Failure → Prop} (h : Configures r results through)
    (hresults : ∀ a, results a ↔ results' a) (hthrough : ∀ f, through f ↔ through' f) :
    Configures r results' through' where
  ok_iff a := (h.ok_iff a).trans (hresults a)
  refused f hf := (h.refused f hf).imp_right (hthrough f).mp
  passes f hf := h.passes f ((hthrough f).mpr hf)

/-- A check that refuses the configuration, and a result after it. -/
theorem check {p : Prop} [Decidable p] (words : String) (a : α) :
    Configures (if p then (throw (.configuration words) : Except Failure Unit) >>= fun _ => pure a
      else pure a) (fun b => ¬p ∧ b = a) fun _ => False := by
  by_cases hp : p
  · rw [if_pos hp]
    exact error (fun _ h => h.1 hp) (.inl rfl) fun _ h => h.elim
  · rw [if_neg hp]
    exact ok (fun b => and_iff_right hp) fun _ => not_false

/-- A step that configures, and then one that lets nothing through. -/
theorem bind {f : α → Except Failure β} {results' : α → β → Prop} (h : Configures r results through)
    (hf : ∀ a, results a → Configures (f a) (results' a) fun _ => False) :
    Configures (r >>= f) (fun b => ∃ a, results a ∧ results' a b) through where
  ok_iff b := by
    rw [bind_eq_ok_iff]
    refine exists_congr fun a => ?_
    rw [h.ok_iff]
    exact and_congr_right fun ha => (hf a ha).ok_iff b
  refused e he := by
    cases r with
    | error e' => exact h.refused e (by cases he; rfl)
    | ok a => exact ((hf a ((h.ok_iff a).mp rfl)).refused e he).imp_right False.elim
  passes e he := by
    rw [h.passes e he]
    rfl

theorem map (g : α → β) (h : Configures r results through) :
    Configures (r.map g) (fun b => ∃ a, results a ∧ b = g a) through := by
  cases r with
  | error e =>
    refine error (fun b ⟨a, ha, _⟩ => ?_) (h.refused e rfl) fun f hf => ?_
    · cases (h.ok_iff a).mpr ha
    · cases h.passes f hf
      rfl
  | ok a =>
    refine ok (fun b => ⟨fun ⟨a', ha, hb⟩ => ?_, fun hb => ?_⟩) fun f hf => ?_
    · cases (h.ok_iff a').mpr ha
      exact hb
    · exact ⟨a, (h.ok_iff a).mp rfl, hb⟩
    · cases h.passes f hf

end Configures

/-! ### Values that are read as numbers -/

namespace Value

variable {v : Value}

/-- A value that holds an integer with too many digits is a row or a mapping, which is no number. -/
theorem HoldsLong.unusable (h : v.HoldsLong) :
    v.toInteger = .error (.wrongKind (.unusable v.kindName "a number")) ∧
      v.toReal = .error (.wrongKind (.unusable v.kindName "a number")) := by
  obtain ⟨hlong, hint⟩ := h
  cases v with
  | int n => exact absurd rfl (hint n)
  | list | tuple | map | readOnlyMap | set => exact ⟨rfl, rfl⟩
  | _ => cases hlong

/-- What is configured is read, refused with the value, or let through. -/
theorem configures_reading {α : Type} {r : Except Failure α} {overflows : Value → Prop} {o : Overflow}
    (words : String) (hoverflow : overflows v → r = .error (.overflow o))
    (hlong : v.HoldsLong → ∃ f, r = .error f ∧ f.isUnreadable = true)
    (herror : ∀ f, r = .error f →
      f.isUnreadable = true ∧ (∀ n, v ≠ .int n) ∨ overflows v ∧ f = .overflow o) :
    Configures (v.configured words r) (fun a => r = .ok a) (Escapes overflows o v) := by
  cases r with
  | ok a =>
    refine .ok (fun b => by rw [Except.ok.injEq, eq_comm]) fun f hf => ?_
    cases hf with
    | overflow h => cases hoverflow h
    | long h =>
      obtain ⟨g, hg, -⟩ := hlong h
      cases hg
  | error e =>
    rcases herror e rfl with ⟨hread, hint⟩ | ⟨hover, rfl⟩
    · have hthrough : ∀ f, Escapes overflows o v f →
          v.isWritable = false ∧ f = .badValue .tooLongForText := by
        rintro f (h | h)
        · cases hoverflow h
          cases hread
        · exact ⟨h.1, rfl⟩
      rw [configured_unreadable words v hread]
      cases hwritten : v.isWritable with
      | false => exact .error (fun _ => nofun) (.inr (.long ⟨hwritten, hint⟩)) fun f hf => (hthrough f hf).2
      | true =>
        refine .error (fun _ => nofun) (.inl rfl) fun f hf => ?_
        cases hwritten.symm.trans (hthrough f hf).1
    · rw [configured_other words v rfl]
      refine .error (fun _ => nofun) (.inr (.overflow hover)) fun f hf => ?_
      cases hf with
      | overflow => rfl
      | long h =>
        obtain ⟨g, hg, hread⟩ := hlong h
        cases hg
        cases hread

theorem unreadable_of_integerOfText {base : Nat} {s : String} {f : Failure}
    (h : integerOfText base s = .error f) : f.isUnreadable = true := by
  unfold integerOfText at h
  split at h <;> cases h <;> rfl

theorem unreadable_of_realOfText {s : String} {f : Failure} (h : realOfText s = .error f) :
    f.isUnreadable = true := by
  unfold realOfText at h
  split at h <;> cases h
  rfl

/-- A value that is read as no integer is unreadable, unless it is an infinity. -/
theorem toInteger_eq_error {f : Failure} (h : v.toInteger = .error f) :
    f.isUnreadable = true ∧ (∀ n, v ≠ .int n) ∨ v.IsInfinite ∧ f = .overflow .infinityToInteger := by
  cases v with
  | bool | int => cases h
  | float x =>
    cases x with
    | nan =>
      cases h
      exact .inl ⟨rfl, fun _ h => nomatch h⟩
    | infinity negative =>
      cases h
      exact .inr ⟨⟨negative, rfl⟩, rfl⟩
    | finite => cases h
  | text s =>
    have hread : integerOfText 10 s = .error f := h
    exact .inl ⟨unreadable_of_integerOfText hread, fun _ h => nomatch h⟩
  | bytes b =>
    simp only [toInteger] at h
    split at h
    · exact .inl ⟨unreadable_of_integerOfText h, fun _ h => nomatch h⟩
    · cases h
      exact .inl ⟨rfl, fun _ h => nomatch h⟩
  | _ =>
    cases h
    exact .inl ⟨rfl, fun _ h => nomatch h⟩

theorem realOfInteger_eq_error_iff {n : Int} {f : Failure} :
    realOfInteger n = .error f ↔ 2 ^ 1024 - 2 ^ 970 ≤ n.natAbs ∧ f = .overflow .integerToReal := by
  rw [← Binary64.ofInt?_eq_none_iff]
  unfold realOfInteger
  cases Binary64.ofInt? n with
  | none => simp [eq_comm]
  | some x => simp

/-- A value that is read as no real number is unreadable, unless it is a large integer. -/
theorem toReal_eq_error {f : Failure} (h : v.toReal = .error f) :
    f.isUnreadable = true ∧ (∀ n, v ≠ .int n) ∨ v.IsLarge ∧ f = .overflow .integerToReal := by
  cases v with
  | bool b => cases b <;> cases h
  | int n =>
    obtain ⟨hlarge, rfl⟩ := realOfInteger_eq_error_iff.mp h
    exact .inr ⟨⟨n, rfl, hlarge⟩, rfl⟩
  | float => cases h
  | text s =>
    have hread : realOfText s = .error f := h
    exact .inl ⟨unreadable_of_realOfText hread, fun _ h => nomatch h⟩
  | bytes b =>
    simp only [toReal] at h
    split at h
    · exact .inl ⟨unreadable_of_realOfText h, fun _ h => nomatch h⟩
    · cases h
      exact .inl ⟨rfl, fun _ h => nomatch h⟩
  | _ =>
    cases h
    exact .inl ⟨rfl, fun _ h => nomatch h⟩

/-- What is configured as an integer. -/
theorem configures_integer (v : Value) (words : String) :
    Configures (v.configured words v.toInteger) (fun n => v.toInteger = .ok n) v.EscapesInteger :=
  configures_reading words (by rintro ⟨negative, rfl⟩; rfl) (fun h => ⟨_, h.unusable.1, rfl⟩)
    fun _ => toInteger_eq_error

/-- What is configured as a real number. -/
theorem configures_real (v : Value) (words : String) :
    Configures (v.configured words v.toReal) (fun x => v.toReal = .ok x) v.EscapesReal :=
  configures_reading words (by rintro ⟨n, rfl, hn⟩; exact realOfInteger_eq_error_iff.mpr ⟨hn, rfl⟩)
    (fun h => ⟨_, h.unusable.2, rfl⟩) fun _ => toReal_eq_error

/-! ### Frozen values -/

mutual

theorem isWritable_freeze : ∀ v : Value, v.freeze.isWritable = v.isWritable
  | .map es => by simp only [freeze, isWritable, writableEntries_freezeEntries es]
  | .readOnlyMap es => by simp only [freeze, isWritable, writableEntries_freezeEntries es]
  | .list xs => by simp only [freeze, isWritable, writableItems_freezeItems xs]
  | .tuple xs => by simp only [freeze, isWritable, writableItems_freezeItems xs]
  | .null | .bool _ | .int _ | .float _ | .text _ | .bytes _ | .date _ | .moment _ | .set _ => by
    simp only [freeze]

theorem writableItems_freezeItems : ∀ xs : List Value,
    writableItems (freezeItems xs) = writableItems xs
  | [] => rfl
  | x :: xs => by
    simp only [freezeItems, writableItems, isWritable_freeze x, writableItems_freezeItems xs]

theorem writableEntries_freezeEntries : ∀ es : Entries,
    writableEntries (freezeEntries es) = writableEntries es
  | [] => rfl
  | (k, v) :: es => by
    simp only [freezeEntries, writableEntries, isWritable_freeze v, writableEntries_freezeEntries es]

end

theorem entries?_freeze (v : Value) : v.freeze.entries? = v.entries?.map freezeEntries := by
  cases v <;> simp only [freeze] <;> rfl

/-- What is frozen stands for the same integer, and lets the same failures through. -/
theorem toInteger_freeze_eq_ok_iff {n : Int} : v.freeze.toInteger = .ok n ↔ v.toInteger = .ok n := by
  cases v with
  | list | tuple | map | readOnlyMap =>
    simp only [freeze]
    constructor <;> intro h <;> cases h
  | _ => simp only [freeze]

theorem escapesInteger_freeze_iff {f : Failure} : v.freeze.EscapesInteger f ↔ v.EscapesInteger f := by
  have hint : ∀ n, v.freeze = .int n ↔ v = .int n := fun n => by cases v <;> simp [freeze]
  have hfloat : ∀ x, v.freeze = .float x ↔ v = .float x := fun x => by cases v <;> simp [freeze]
  have hlong : v.freeze.HoldsLong ↔ v.HoldsLong := by
    unfold HoldsLong
    simp only [isWritable_freeze, ne_eq, hint]
  have hinfinite : v.freeze.IsInfinite ↔ v.IsInfinite := by
    unfold IsInfinite
    simp only [hfloat]
  constructor
  · rintro (h | h)
    · exact .overflow (hinfinite.mp h)
    · exact .long (hlong.mp h)
  · rintro (h | h)
    · exact .overflow (hinfinite.mpr h)
    · exact .long (hlong.mpr h)

end Value

end TopologySubmission
