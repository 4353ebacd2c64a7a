import TopologySubmission.Proofs.Json.Integer
import TopologySubmission.Value.Quoted

/-!
# The texts that values have

A value becomes part of a text by its plain form. Only the empty text gives nothing, and an integer has a
plain form exactly if it is short enough:

    v.plain = "" ↔ v = .text ""                                  (plain_eq_empty_iff)
    n can be written exactly if it is below 10 ^ maxDecimalDigits       (isWritable_int_iff)
-/

namespace TopologySubmission

/-! ## Lemmas -/

theorem Binary64.text_ne_empty (x : Binary64) : x.text ≠ "" := by
  intro h
  replace h := congrArg String.toList h
  unfold text at h
  split at h
  · cases h
  · split at h <;> cases h
  · rw [String.toList_ofList] at h
    split at h
    · cases h
    · split at h
      · unfold positional at h
        split at h
        · cases h
        · split at h <;> simp at h
      · simp [scientific] at h

namespace Value

/-- Only the empty text has an empty plain form. -/
theorem plain_eq_empty_iff {v : Value} : v.plain = "" ↔ v = .text "" := by
  refine ⟨fun h => ?_, fun h => h ▸ rfl⟩
  cases v with
  | text s => exact congrArg Value.text h
  | float x => exact absurd h x.text_ne_empty
  | int n =>
    obtain ⟨d, ds, hd, -⟩ := toDigits_eq_cons n.natAbs
    have hdigits := Json.toList_toString n
    rw [show toString n = "" from h, hd] at hdigits
    simp at hdigits
  | bool b => cases b <;> exact absurd h (by decide)
  | null => exact absurd h (by decide)
  | bytes b =>
    replace h : Text.quotedBytes b = "" := h
    simp [Text.quotedBytes] at h
  | date d => simp [plain, Date.text] at h
  | moment t => simp [plain, Moment.text] at h
  | list xs =>
    replace h : "[" ++ _ ++ "]" = "" := h
    simp at h
  | tuple xs =>
    replace h : "(" ++ _ ++ (if xs.length = 1 then ",)" else ")") = "" := h
    simp at h
  | map es | readOnlyMap es =>
    replace h : "\x7b" ++ _ ++ "\x7d" = "" := h
    simp at h
  | set xs =>
    replace h : (if xs.isEmpty then "set()" else "\x7b" ++ _ ++ "\x7d") = "" := h
    split at h <;> simp at h

/-- The text of a value that is true is not empty. -/
theorem plain_ne_empty {v : Value} (h : v.isTruthy = true) : v.plain ≠ "" := by
  rw [ne_eq, plain_eq_empty_iff]
  rintro rfl
  cases h

theorem isWritable_int_iff (n : Nat) : (int n).isWritable = true ↔ n < 10 ^ maxDecimalDigits := by
  rw [isWritable, decide_eq_true_eq, Int.natAbs_natCast,
    Nat.length_toDigits_le_iff (by decide) (by decide)]

/-- The least integer that cannot be written. -/
theorem isWritable_limit : (int (10 ^ maxDecimalDigits : Nat)).isWritable = false := by
  rw [← Bool.not_eq_true, isWritable_int_iff]
  exact Nat.lt_irrefl _

end Value

end TopologySubmission
