import Mathlib.Tactic.Ring
import TopologySubmission.Number.Binary64

/-!
# The range of numbers

The numbers next to the end of the range are `(2 ^ 53 - 1) * 2 ^ 971`, the largest one, and `2 ^ 1024`, which
is out of range. What lies halfway between them has an odd mantissa below it, so it is rounded out of range:

    an integer has no nearest number from there on                      (ofInt?_eq_none_iff)
    what is not zero or less is above zero, apart from not-a-number     (isZeroOrLess_eq_false_iff)
-/

namespace TopologySubmission.Binary64

/-! ## Lemmas -/

/-! ### Rounding out of range -/

theorem pow2_natCast (n : Nat) : pow2 n = 2 ^ n := rfl

/-- Between an odd quotient and the next one, rounding goes up from halfway on. -/
theorem roundHalfEven_eq_succ_iff {num half q : Nat} (hhalf : 0 < half) (hodd : q % 2 = 1)
    (hlt : num < (q + 1) * (2 * half)) :
    roundHalfEven num (2 * half) = q + 1 ↔ (2 * q + 1) * half ≤ num := by
  have hdivide := Nat.div_add_mod num (2 * half)
  have hrest : num % (2 * half) < 2 * half := Nat.mod_lt num (by omega)
  have hle : num / (2 * half) ≤ q := Nat.lt_succ_iff.mp ((Nat.div_lt_iff_lt_mul (by omega)).mpr hlt)
  have hmiddle : (2 * q + 1) * half = 2 * half * q + half := by ring
  unfold roundHalfEven
  dsimp only
  rcases hle.lt_or_eq with hbelow | hquotient
  · -- the quotient is below by one unit or more, and so is the middle
    have hunits : 2 * half * (num / (2 * half)) + 2 * half ≤ 2 * half * q := by
      have hmul := Nat.mul_le_mul_left (2 * half) (Nat.succ_le_of_lt hbelow)
      rwa [Nat.mul_succ] at hmul
    constructor
    · intro hround
      split_ifs at hround <;> omega
    · intro hreached
      omega
  · rw [hquotient] at hdivide ⊢
    split_ifs <;> omega

/-- Rounding a natural number looks at its binary digits. -/
theorem rounded_natural (negative : Bool) {num : Nat} (h : num ≠ 0) :
    rounded negative num 1 =
      let e : Int := num.log2 - 52
      let m := roundHalfEven (num * pow2 (-e)) (pow2 e)
      if maxExponent < (if m = pow2 53 then e + 1 else e) then .infinity negative
      else .finite negative (if m = pow2 53 then pow2 52 else m) (if m = pow2 53 then e + 1 else e) := by
  have hone : Nat.log2 1 = 0 := by decide
  have hbelow : belowPow2 num 1 ((num.log2 : Int) - (0 : Nat)) = false := by
    have hself := Nat.log2_self_le h
    unfold belowPow2 pow2
    simp
    omega
  have hmin : max ((num.log2 : Int) - (0 : Nat) - 52) minExponent = num.log2 - 52 := by
    unfold minExponent
    omega
  unfold rounded
  rw [if_neg h, hone]
  dsimp only
  rw [hbelow]
  simp only [Bool.false_eq_true, if_false]
  rw [hmin]
  simp only [Nat.one_mul]
  split_ifs <;> rfl

/-- A natural number is rounded out of range from halfway between the largest number and the next power of
two on. -/
theorem rounded_eq_infinity_iff (negative : Bool) (num : Nat) :
    rounded negative num 1 = .infinity negative ↔ 2 ^ 1024 - 2 ^ 970 ≤ num := by
  have hunit : ∀ k, ∃ unit, 0 < unit ∧ ∀ n, 2 ^ (n + k) = 2 ^ n * unit := fun k =>
    ⟨2 ^ k, Nat.two_pow_pos k, fun n => Nat.pow_add 2 n k⟩
  obtain ⟨half, hpos, hpow⟩ := hunit 970
  have hbound : 2 ^ 1024 - 2 ^ 970 = 2 ^ 54 * half - half := by
    rw [← hpow, ← Nat.one_mul half, ← Nat.pow_zero 2, ← hpow]
  have hbelow : ∀ n m, m ≤ n + 970 → 2 ^ m ≤ 2 ^ n * half := fun n m h =>
    (Nat.pow_le_pow_right Nat.two_pos h).trans_eq (hpow n)
  have habove : ∀ n m, n + 970 ≤ m → 2 ^ n * half ≤ 2 ^ m := fun n m h =>
    (hpow n).symm.trans_le (Nat.pow_le_pow_right Nat.two_pos h)
  rw [hbound]
  by_cases h : num = 0
  · subst h
    exact ⟨nofun, fun hreached => by omega⟩
  have hlow := Nat.log2_self_le h
  have hhigh := Nat.lt_log2_self (n := num)
  have hout : ∀ e m, (if maxExponent < e then Binary64.infinity negative else .finite negative m e) =
      .infinity negative ↔ 971 < e := by
    intro e m
    unfold maxExponent
    split_ifs with hlt <;> simp [hlt]
  rw [rounded_natural negative h]
  dsimp only
  rw [hout]
  rcases Nat.lt_trichotomy num.log2 1023 with hk | hk | hk
  · have hle : 2 ^ (num.log2 + 1) ≤ 2 ^ 53 * half := hbelow 53 _ hk
    constructor
    · intro hlt
      split_ifs at hlt <;> omega
    · intro hreached
      omega
  · -- there is no digit to spare, and the mantissa decides
    have hlt : num < (2 ^ 53 - 1 + 1) * (2 * half) := by
      rw [hk] at hhigh
      have htop := hpow 54
      omega
    have hmantissa : roundHalfEven (num * pow2 (-((num.log2 : Int) - 52))) (pow2 ((num.log2 : Int) - 52)) =
        roundHalfEven num (2 * half) := by
      have hdigits : ((1023 : Nat) : Int) - 52 = (1 + 970 : Nat) := rfl
      have hunits : pow2 (1 + 970 : Nat) = 2 * half := (pow2_natCast (1 + 970)).trans (hpow 1)
      rw [hk, hdigits, hunits]
      exact congrArg (roundHalfEven · (2 * half)) (Nat.mul_one num)
    have hround : roundHalfEven num (2 * half) = pow2 53 ↔ (2 * (2 ^ 53 - 1) + 1) * half ≤ num :=
      roundHalfEven_eq_succ_iff hpos (by decide) hlt
    rw [hmantissa]
    constructor
    · intro hlt
      split_ifs at hlt with hm
      · have hreached := hround.mp hm
        omega
      · omega
    · intro hreached
      rw [if_pos (hround.mpr (by omega))]
      omega
  · have hle : 2 ^ 54 * half ≤ 2 ^ num.log2 := habove 54 _ hk
    constructor
    · intro hlt
      omega
    · intro hreached
      split_ifs <;> omega

/-- Rounding gives the infinity of its own sign, if any. -/
theorem eq_of_rounded_eq_infinity {negative s : Bool} {num den : Nat}
    (h : rounded negative num den = .infinity s) : s = negative := by
  unfold rounded at h
  dsimp only at h
  split_ifs at h <;> cases h <;> rfl

/-- An integer has no nearest number from halfway between the largest number and the next power of two on. -/
theorem ofInt?_eq_none_iff (n : Int) : ofInt? n = none ↔ 2 ^ 1024 - 2 ^ 970 ≤ n.natAbs := by
  rw [← rounded_eq_infinity_iff (decide (n < 0)) n.natAbs]
  unfold ofInt?
  constructor
  · intro hnone
    split at hnone
    · next s hs => rw [hs, eq_of_rounded_eq_infinity hs]
    · cases hnone
  · intro hinfinity
    rw [hinfinity]

/-! ### Signs -/

/-- A number that is not zero or less is above zero, if it is a number. -/
theorem isZeroOrLess_eq_false_iff (x : Binary64) :
    x.isZeroOrLess = false ↔ x = .nan ∨ intLt 0 x = true := by
  cases x with
  | nan => simp [isZeroOrLess]
  | infinity s => simp [isZeroOrLess, intLt]
  | finite s m e =>
    have hpow : 0 < pow2 e := Nat.two_pow_pos _
    have hsize : m ≠ 0 ↔ (0 : Int) < m * pow2 e := by
      rw [← Nat.pos_iff_ne_zero, ← Nat.mul_pos_iff_of_pos_right hpow]
      omega
    cases s with
    | false => simpa [isZeroOrLess, intLt, toFraction?] using hsize
    | true =>
      have hnonneg : (0 : Int) ≤ m * pow2 e := Int.natCast_nonneg (m * pow2 e)
      simpa [isZeroOrLess, intLt, toFraction?] using hnonneg

end TopologySubmission.Binary64
