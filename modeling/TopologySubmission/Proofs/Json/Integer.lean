import Mathlib.Data.Nat.Digits.Defs
import TopologySubmission.Json.Read
import TopologySubmission.Json.Write

/-!
# Integers are read back

An integer is written in decimal digits without leading zeros, with a minus in front if it is below
zero. Reading takes all of these digits, if what stands behind them is the end of a part or of the
document:

    readInt 10     reads the digits of a number as that number       (readInt_digits)
    number         reads what is written of an integer               (number_integer)
-/

namespace TopologySubmission

open Text

/-! ## Algorithm -/

/-- The decimal digits. -/
def decimalDigits : List Char := ['0', '1', '2', '3', '4', '5', '6', '7', '8', '9']

/-- What may stand behind a value: nothing, or the end of the part that it is. -/
def Json.Closes (rest : List Char) : Prop := ∀ c ∈ rest.head?, c = ',' ∨ c = ']' ∨ c = '\x7d'

/-! ## Lemmas -/

variable {c : Char} {ds rest : List Char} {m : Nat}

/-! ### Decimal digits -/

theorem mem_decimalDigits (h : c.isDigit = true) : c ∈ decimalDigits := by
  have hall : ∀ k < 10, Char.ofNat (48 + k) ∈ decimalDigits := by decide
  have hc : 48 ≤ c.toNat ∧ c.toNat ≤ 57 := by
    simpa [Char.isDigit, UInt32.le_iff_toNat_le] using h
  have := hall (c.toNat - 48) (by omega)
  rwa [Nat.add_sub_cancel' hc.1, Char.ofNat_toNat] at this

/-- What holds of each digit can be computed. -/
theorem of_decimalDigits {p : Char → Prop} [DecidablePred p]
    (h : decimalDigits.all (fun c => decide (p c)) = true) : ∀ c ∈ decimalDigits, p c := by
  simpa only [List.all_eq_true, decide_eq_true_eq] using h

theorem digits_toDigits (m : Nat) : ∀ c ∈ Nat.toDigits 10 m, c ∈ decimalDigits := fun _ hc =>
  mem_decimalDigits (Nat.isDigit_of_mem_toDigits (by decide) (by decide) hc)

/-- A number starts with a digit. -/
theorem toDigits_eq_cons (m : Nat) : ∃ d ds, Nat.toDigits 10 m = d :: ds ∧ d ∈ decimalDigits := by
  obtain ⟨d, ds, hd⟩ := List.exists_cons_of_ne_nil (Nat.toDigits_ne_nil (n := m) (b := 10))
  exact ⟨d, ds, hd, digits_toDigits m d (hd ▸ List.mem_cons_self)⟩

/-- No digit is a sign. -/
theorem ne_sign_of_decimal : ∀ c ∈ decimalDigits, c ≠ '-' ∧ c ≠ '+' :=
  of_decimalDigits (by decide)

theorem baseDigit?_decimal :
    ∀ c ∈ decimalDigits, baseDigit? 10 c = some (c.toNat - '0'.toNat) :=
  of_decimalDigits (by decide)

theorem digitRun_decimal (hne : ds ≠ []) (hds : ∀ c ∈ ds, c ∈ decimalDigits) :
    digitRun (baseDigit? 10) ds = some (ds.map fun c => c.toNat - '0'.toNat) := by
  induction ds with
  | nil => exact absurd rfl hne
  | cons c ds ih =>
    have hc := baseDigit?_decimal c (hds c List.mem_cons_self)
    have hrest : ∀ c ∈ ds, c ∈ decimalDigits := fun d hd => hds d (List.mem_cons_of_mem c hd)
    cases ds with
    | nil => rw [digitRun, hc]; rfl
    | cons d ds =>
      have hd : d ≠ '_' := by
        rintro rfl
        exact absurd (hrest '_' List.mem_cons_self) (by decide)
      rw [digitRun.eq_4 _ _ _ (fun he => by cases he) fun r he => hd (List.cons.inj he).1, hc,
        ih (by simp) hrest]
      rfl

theorem ofDigits_toDigits (m : Nat) :
    ofDigits 10 ((Nat.toDigits 10 m).map fun c => c.toNat - '0'.toNat) = m := by
  have h := Nat.ofDigitChars_ten_toDigits (n := m)
  rw [Nat.ofDigitChars_eq_foldl] at h
  unfold ofDigits
  rw [List.foldl_map]
  simpa only [Nat.mul_comm] using h

theorem trim_eq_self {drop : Char → Bool} (h : ∀ c ∈ ds, drop c = false) : trim drop ds = ds := by
  have hdrop : ∀ cs : List Char, (∀ c ∈ cs, drop c = false) → cs.dropWhile drop = cs := by
    intro cs hcs
    cases cs with
    | nil => rfl
    | cons c cs => rw [List.dropWhile_cons, hcs c List.mem_cons_self]; rfl
  unfold trim trimLeft trimRight
  rw [hdrop ds h, hdrop _ fun c hc => h c (List.mem_reverse.mp hc), List.reverse_reverse]

theorem splitSign_digits (negative : Bool) (m : Nat) :
    splitSign ((if negative then ['-'] else []) ++ Nat.toDigits 10 m) =
      (negative, Nat.toDigits 10 m) := by
  cases negative with
  | true => rfl
  | false =>
    obtain ⟨d, ds, hd, hdigit⟩ := toDigits_eq_cons m
    obtain ⟨hminus, hplus⟩ := ne_sign_of_decimal d hdigit
    rw [hd]
    exact splitSign.eq_3 _ (fun r he => hminus (List.cons.inj he).1)
      fun r he => hplus (List.cons.inj he).1

/-- The digits of a number with the sign in front are read as that number. -/
theorem readInt_digits (negative : Bool) (h : (Nat.toDigits 10 m).length ≤ maxDecimalDigits) :
    readInt 10 (String.ofList ((if negative then ['-'] else []) ++ Nat.toDigits 10 m)) =
      .ok (if negative then -m else m) := by
  have hds := digits_toDigits m
  have hblank : ∀ c ∈ decimalDigits, isNumberBlank c = false := of_decimalDigits (by decide)
  have htrim : trim isNumberBlank ((if negative then ['-'] else []) ++ Nat.toDigits 10 m) =
      (if negative then ['-'] else []) ++ Nat.toDigits 10 m := by
    apply trim_eq_self
    intro c hc
    rcases List.mem_append.mp hc with hc | hc
    · cases negative <;> simp at hc
      subst hc
      decide
    · exact hblank c (hds c hc)
  have hmark : afterBaseMark 10 (Nat.toDigits 10 m) = Nat.toDigits 10 m := by
    unfold afterBaseMark
    split
    · next hl => cases hl
    · rfl
  unfold readInt
  rw [String.toList_ofList, htrim, splitSign_digits]
  dsimp only
  rw [hmark, digitRun_decimal Nat.toDigits_ne_nil hds]
  dsimp only
  rw [if_neg, ofDigits_toDigits]
  rw [List.length_map, Bool.and_eq_true, decide_eq_true_eq, decide_eq_true_eq]
  omega

/-! ### Numbers in a document -/

namespace Json

theorem Closes.nil : Closes [] := nofun

theorem Closes.cons (h : c = ',' ∨ c = ']' ∨ c = '\x7d') : Closes (c :: rest) := by
  intro d hd
  exact Option.some.inj hd ▸ h

theorem fractionPart_of_closes (h : Closes rest) : fractionPart rest = ([], rest) := by
  unfold fractionPart
  split
  · next d r =>
    rcases h '.' rfl with h | h | h <;> cases h
  · rfl

theorem exponentPart_of_closes (h : Closes rest) : exponentPart rest = ([], rest) := by
  cases rest with
  | nil => rfl
  | cons c r =>
    unfold exponentPart
    dsimp only
    rw [if_neg]
    rcases h c rfl with rfl | rfl | rfl <;> decide

theorem takeDigits_append (hds : ∀ c ∈ ds, c.isDigit = true) (h : Closes rest) :
    takeDigits (ds ++ rest) = (ds, rest) := by
  have hrest : rest.takeWhile Char.isDigit = [] ∧ rest.dropWhile Char.isDigit = rest := by
    cases rest with
    | nil => exact ⟨rfl, rfl⟩
    | cons c r =>
      have hc : c.isDigit = false := by
        rcases h c rfl with rfl | rfl | rfl <;> rfl
      rw [List.takeWhile_cons, List.dropWhile_cons, hc]
      exact ⟨rfl, rfl⟩
  unfold takeDigits
  rw [List.takeWhile_append_of_pos hds, List.dropWhile_append_of_pos hds, hrest.1, hrest.2,
    List.append_nil]

/-- Only zero starts with the digit zero. -/
theorem head_toDigits (hm : 0 < m) : ∃ d ds, Nat.toDigits 10 m = d :: ds ∧ d ≠ '0' := by
  induction m using Nat.strongRecOn with
  | ind m ih =>
    by_cases hlt : m < 10
    · have hdigit : ∀ k < 10, 0 < k → k.digitChar ≠ '0' := by decide
      exact ⟨_, [], Nat.toDigits_of_lt_base hlt, hdigit m hlt hm⟩
    · obtain ⟨d, ds, he, hd⟩ := ih (m / 10) (by omega) (by omega)
      rw [Nat.toDigits_of_base_le (by decide) (by omega), he]
      exact ⟨d, _, rfl, hd⟩

theorem wholeDigits_toDigits (m : Nat) (h : Closes rest) :
    wholeDigits (Nat.toDigits 10 m ++ rest) = some (Nat.toDigits 10 m, rest) := by
  have hdigit : ∀ c ∈ Nat.toDigits 10 m, c.isDigit = true := fun c hc =>
    Nat.isDigit_of_mem_toDigits (by decide) (by decide) hc
  rcases Nat.eq_zero_or_pos m with rfl | hm
  · rfl
  · obtain ⟨d, ds, he, hd⟩ := head_toDigits hm
    rw [he] at hdigit ⊢
    rw [List.cons_append, wholeDigits.eq_2 _ _ hd, if_pos (hdigit d List.mem_cons_self),
      ← List.cons_append, takeDigits_append hdigit h]

/-- Digits with the sign in front are read as a number. -/
theorem number_digits (negative : Bool) (hm : (Nat.toDigits 10 m).length ≤ maxDecimalDigits)
    (h : Closes rest) :
    number ((if negative then ['-'] else []) ++ Nat.toDigits 10 m ++ rest) =
      .ok (.int (if negative then -m else m), rest) := by
  have hvalue : numberValue ((if negative then ['-'] else []) ++ Nat.toDigits 10 m) [] [] =
      .ok (.int (if negative then -m else m)) := by
    have hread := readInt_digits negative hm
    unfold numberValue Value.integerOfText
    rw [List.append_nil, List.append_nil]
    dsimp only
    rw [hread]
    rfl
  obtain ⟨d, ds, hd, hdigit⟩ := toDigits_eq_cons m
  have hfirst : d ≠ '-' := (ne_sign_of_decimal d hdigit).1
  unfold number
  split
  next sign body hsplit =>
  obtain ⟨rfl, rfl⟩ : sign = (if negative then ['-'] else []) ∧ body = Nat.toDigits 10 m ++ rest := by
    split at hsplit
    · next r hs =>
      cases hsplit
      cases negative with
      | true => exact ⟨rfl, (List.cons.inj hs).2.symm⟩
      | false =>
        rw [hd] at hs
        exact absurd (List.cons.inj hs).1 hfirst
    · next r hs =>
      cases hsplit
      cases negative with
      | true => exact absurd rfl (hs _)
      | false => exact ⟨rfl, rfl⟩
  rw [wholeDigits_toDigits m h]
  dsimp only
  rw [fractionPart_of_closes h]
  dsimp only
  rw [exponentPart_of_closes h]
  dsimp only
  rw [Failure.asFaults_of_ok _ hvalue]
  rfl

theorem toList_toString (n : Int) : (toString n).toList =
    (if decide (n < 0) then ['-'] else []) ++ Nat.toDigits 10 n.natAbs := by
  have hnat : ∀ m : Nat, m.repr.toList = Nat.toDigits 10 m := by
    intro m
    have h : m.repr = String.ofList (Nat.toDigits 10 m) := Nat.toString_eq_ofList_toDigits
    rw [h, String.toList_ofList]
  cases n with
  | ofNat m => exact hnat m
  | negSucc m =>
    show ("-" ++ m.succ.repr).toList = _
    rw [String.toList_append, hnat, if_pos (decide_eq_true (Int.negSucc_lt_zero m))]
    rfl

theorem writtenInteger_eq {n : Int} {cs : List Char} (h : writtenInteger n = .ok cs) :
    (Nat.toDigits 10 n.natAbs).length ≤ maxDecimalDigits ∧
      cs = (if decide (n < 0) then ['-'] else []) ++ Nat.toDigits 10 n.natAbs := by
  unfold writtenInteger at h
  split at h
  · next hshort =>
    cases h
    exact ⟨hshort, toList_toString n⟩
  · cases h

/-- What is written of an integer is read as that integer. -/
theorem number_integer {n : Int} {cs : List Char} (hn : writtenInteger n = .ok cs)
    (h : Closes rest) : number (cs ++ rest) = .ok (.int n, rest) := by
  obtain ⟨hshort, rfl⟩ := writtenInteger_eq hn
  have hvalue : (if decide (n < 0) then -(n.natAbs : Int) else n.natAbs) = n := by
    simp only [decide_eq_true_eq]
    split <;> omega
  rw [number_digits _ hshort h, hvalue]

/-- An integer starts with a digit, or with a minus before one. -/
theorem head_integer {n : Int} {cs : List Char} (hn : writtenInteger n = .ok cs) :
    ∃ c r, cs = c :: r ∧ c ∈ '-' :: decimalDigits ∧ ∃ d ∈ cs.take 2, d ∈ decimalDigits := by
  obtain ⟨-, rfl⟩ := writtenInteger_eq hn
  obtain ⟨d, ds, hd, hdigit⟩ := toDigits_eq_cons n.natAbs
  rw [hd]
  cases decide (n < 0) with
  | true => exact ⟨'-', d :: ds, rfl, List.mem_cons_self, d, by simp, hdigit⟩
  | false => exact ⟨d, ds, rfl, List.mem_cons_of_mem _ hdigit, d, by simp, hdigit⟩

/-- Nothing that is written of an integer ends a line. -/
theorem return_notMem_integer {n : Int} {cs : List Char} (hn : writtenInteger n = .ok cs) :
    '\r' ∉ cs := by
  obtain ⟨-, rfl⟩ := writtenInteger_eq hn
  rw [List.mem_append, not_or]
  constructor
  · split <;> decide
  · intro h
    exact absurd (digits_toDigits _ _ h) (by decide)

end Json

end TopologySubmission
