import TopologySubmission.Json.Text

/-!
# Texts are read back

What is written of a text is ASCII without control characters, and reading it from after the opening
quote gives the text and what stands behind the closing quote:

    unitChar       reads a character from its one or two units        (unitChar_single, unitChar_pair)
    textFrom       reads each written character as that character     (textFrom_writtenChar)
    textFrom       reads the whole text up to its closing quote       (textFrom_written)
-/

namespace TopologySubmission.Json

variable {start n m : Nat} {s r q after : List Char} {c : Char}

/-! ## Units -/

theorem hex_four (n : Nat) : Text.hex 4 n =
    [Text.hexDigit (n / 16 / 16 / 16 % 16), Text.hexDigit (n / 16 / 16 % 16),
      Text.hexDigit (n / 16 % 16), Text.hexDigit (n % 16)] := rfl

/-- A unit is read back if anything stands behind it. -/
theorem unit_hex (h : n < 0x10000) (hr : r ≠ []) : unit (Text.hex 4 n ++ r) = .ok (n, r) := by
  obtain ⟨e, r, rfl⟩ := List.exists_cons_of_ne_nil hr
  have hread := Text.readHex_hex 4 n h
  rw [hex_four] at hread ⊢
  simp only [unit, List.cons_append, List.nil_append, hread]

theorem secondUnit?_writtenUnit (n : Nat) (hr : r ≠ []) :
    secondUnit? (writtenUnit n ++ r) = some (Text.hex 4 n ++ r) := by
  have hlong : 4 < (Text.hex 4 n ++ r).length := by
    rw [List.length_append, Text.length_hex]
    have := List.length_pos_iff.mpr hr
    omega
  exact if_pos hlong

theorem unitChar_single (h : unit s = .ok (n, r)) (hn : isHighUnit n = false) :
    ∃ hlt, unitChar s = .ok (charOf n, ⟨r, hlt⟩) := by
  refine ⟨length_unit h, ?_⟩
  unfold unitChar
  split
  · next e he => rw [h] at he; cases he
  · next n' r' he =>
    obtain ⟨rfl, rfl⟩ := Prod.mk.inj (Except.ok.inj (h.symm.trans he))
    split
    · rfl
    · next h₂ =>
      rw [hn] at h₂
      cases h₂

theorem unitChar_pair (h : unit s = .ok (n, r)) (hn : isHighUnit n = true)
    (hsecond : secondUnit? r = some after) (h' : unit after = .ok (m, q))
    (hm : isLowUnit m = true) :
    ∃ hlt, unitChar s =
      .ok (Char.ofNat (0x10000 + (n - 0xD800) * 0x400 + (m - 0xDC00)), ⟨q, hlt⟩) := by
  refine ⟨Nat.lt_trans (length_unit h') (Nat.lt_trans (length_secondUnit? hsecond) (length_unit h)),
    ?_⟩
  unfold unitChar
  split
  · next e he => rw [h] at he; cases he
  · next n' r' he =>
    obtain ⟨rfl, rfl⟩ := Prod.mk.inj (Except.ok.inj (h.symm.trans he))
    split
    · next h₂ =>
      rw [hn, if_pos rfl, hsecond] at h₂
      cases h₂
    · next h₂ =>
      rw [hn, if_pos rfl, hsecond] at h₂
      cases h₂
      split
      · next e he => rw [h'] at he; cases he
      · next m' q' he =>
        obtain ⟨rfl, rfl⟩ := Prod.mk.inj (Except.ok.inj (h'.symm.trans he))
        rw [if_pos hm]

/-! ## Characters -/

theorem textFrom_unit {x : Char} (h : ∃ hlt, unitChar q = .ok (x, ⟨r, hlt⟩)) :
    textFrom start ('\\' :: 'u' :: q) = consChar x (textFrom start r) := by
  obtain ⟨hlt, h⟩ := h
  rw [textFrom.eq_def]
  simp [h]

/-- A character with a short name is read by that name. -/
theorem textFrom_named {name : Char} (h : (name, c) ∈ shortNames) :
    textFrom start ('\\' :: name :: r) = consChar c (textFrom start r) := by
  rw [textFrom.eq_def]
  simp only [shortNames, List.mem_cons, Prod.mk.injEq, List.not_mem_nil, or_false] at h
  rcases h with ⟨rfl, rfl⟩ | ⟨rfl, rfl⟩ | ⟨rfl, rfl⟩ | ⟨rfl, rfl⟩ | ⟨rfl, rfl⟩ | ⟨rfl, rfl⟩ |
    ⟨rfl, rfl⟩ <;> rfl

theorem toNat_lt (c : Char) : c.toNat < 0xD800 ∨ 0xE000 ≤ c.toNat ∧ c.toNat < 0x110000 := by
  have := c.valid
  simp only [UInt32.isValidChar, Nat.isValidChar] at this
  show c.val.toNat < _ ∨ _ ≤ c.val.toNat ∧ c.val.toNat < _
  omega

/-- A character of the first plane is no half of another one. -/
theorem charOf_toNat (c : Char) : isHighUnit c.toNat = false ∧ charOf c.toNat = c := by
  have h := toNat_lt c
  constructor
  · unfold isHighUnit
    rw [Bool.and_eq_false_iff, decide_eq_false_iff_not, decide_eq_false_iff_not]
    omega
  · unfold charOf
    rw [if_neg, Char.ofNat_toNat]
    rw [Bool.and_eq_true, decide_eq_true_eq, decide_eq_true_eq]
    omega

/-- A character beyond the first plane is made of its two halves. -/
theorem surrogates (c : Char) (h : 0x10000 ≤ c.toNat) :
    isHighUnit (highSurrogate c.toNat) = true ∧ isLowUnit (lowSurrogate c.toNat) = true ∧
      highSurrogate c.toNat < 0x10000 ∧ lowSurrogate c.toNat < 0x10000 ∧
      Char.ofNat (0x10000 + (highSurrogate c.toNat - 0xD800) * 0x400 +
        (lowSurrogate c.toNat - 0xDC00)) = c := by
  have hc := toNat_lt c
  have hnumber : 0x10000 + (highSurrogate c.toNat - 0xD800) * 0x400 +
      (lowSurrogate c.toNat - 0xDC00) = c.toNat := by
    unfold highSurrogate lowSurrogate
    omega
  rw [hnumber, Char.ofNat_toNat]
  unfold highSurrogate lowSurrogate isHighUnit isLowUnit
  simp only [Bool.and_eq_true, decide_eq_true_eq, and_true]
  omega

/-- What is written of a character is read as that character, whatever stands behind it. -/
theorem textFrom_writtenChar (hr : r ≠ []) :
    textFrom start (writtenChar c ++ r) = consChar c (textFrom start r) := by
  unfold writtenChar
  split
  · next name x hfind =>
    have hx : x = c := beq_iff_eq.mp (List.find?_some hfind :)
    exact textFrom_named (hx ▸ List.mem_of_find?_eq_some hfind)
  · next hfind =>
    have hnamed : ∀ e ∈ shortNames, e.2 ≠ c := fun e he => by
      simpa using List.find?_eq_none.mp hfind e he
    split
    · next hplain =>
      rw [Bool.and_eq_true, decide_eq_true_eq, decide_eq_true_eq] at hplain
      exact textFrom_plain start c r (hnamed ('"', '"') (by decide)).symm
        (hnamed ('\\', '\\') (by decide)).symm (by omega)
    · split
      · next hsmall =>
        obtain ⟨hhigh, hchar⟩ := charOf_toNat c
        obtain ⟨hlt, hread⟩ := unitChar_single (unit_hex hsmall hr) hhigh
        rw [hchar] at hread
        exact textFrom_unit ⟨hlt, hread⟩
      · next hlarge =>
        obtain ⟨hhigh, hlow, hhigh', hlow', hchar⟩ := surrogates c (by omega)
        have hfirst := unit_hex (r := writtenUnit (lowSurrogate c.toNat) ++ r) hhigh' (by simp [hr])
        obtain ⟨hlt, hread⟩ :=
          unitChar_pair hfirst hhigh (secondUnit?_writtenUnit _ hr) (unit_hex hlow' hr) hlow
        rw [hchar] at hread
        rw [List.append_assoc]
        exact textFrom_unit ⟨hlt, hread⟩

/-! ## Texts -/

/-- A written text is read back from after its opening quote on. -/
theorem textFrom_written (start : Nat) (cs r : List Char) :
    textFrom start (cs.flatMap writtenChar ++ '"' :: r) = .ok (cs, r) := by
  induction cs with
  | nil =>
    rw [List.flatMap_nil, List.nil_append, textFrom.eq_def]
    rfl
  | cons c cs ih =>
    rw [List.flatMap_cons, List.append_assoc, textFrom_writtenChar (by simp), ih]
    rfl

/-- Nothing that is written of a text ends a line. -/
theorem return_notMem_writtenText (t : String) : '\r' ∉ writtenText t := by
  have hdigit : ∀ d, d < 16 → Text.hexDigit d ≠ '\r' := by decide
  have hunit : ∀ n, '\r' ∉ writtenUnit n := by
    intro n
    have h := fun k => hdigit (k % 16) (Nat.mod_lt k (by decide))
    simp [writtenUnit, hex_four, Ne.symm (h _)]
  have hchar : ∀ c, '\r' ∉ writtenChar c := by
    intro c
    unfold writtenChar
    split
    · next name _ hfind =>
      have hnames : shortNames.all (·.1 != '\r') = true := by decide
      have hname : name ≠ '\r' := by
        simpa using List.all_eq_true.mp hnames _ (List.mem_of_find?_eq_some hfind)
      simp [Ne.symm hname]
    · split
      · next hplain =>
        rw [List.mem_singleton]
        rintro rfl
        cases hplain
      · split
        · exact hunit _
        · rw [List.mem_append, not_or]
          exact ⟨hunit _, hunit _⟩
  simp [writtenText, hchar]

end TopologySubmission.Json
