import TopologySubmission.Proofs.Json.Integer
import TopologySubmission.Proofs.Json.Text
import TopologySubmission.Proofs.Value.Merging

/-!
# Parts of a document are read back

`Reads cs v` says that characters are read as a value whatever ends their part, if reading may go as
deep as there are characters. Rows and mappings of parts that are read as their values are read as the
rows and mappings of these values:

    items      reads joined parts up to the end of the row           (items_joined)
    entries    reads joined entries up to the end of the mapping     (entries_joined)
-/

namespace TopologySubmission.Json

/-! ## Algorithm -/

/-- The characters start a part: neither with a blank nor with an end. -/
def Begins (cs : List Char) : Prop :=
  ∃ c r, cs = c :: r ∧ isBlank c = false ∧ c ≠ ']' ∧ c ≠ '\x7d'

/-- The characters are read as the value, wherever they stand in a document. -/
structure Reads (cs : List Char) (v : Value) : Prop where
  begins : Begins cs
  value : ∀ fuel rest, cs.length ≤ fuel → Closes rest → value fuel (cs ++ rest) = .ok (v, rest)

/-- The characters are a key with a value behind it. -/
structure ReadsEntry (cs : List Char) (e : Value × Value) : Prop where
  parts : ∃ k p, e.1 = .text k ∧ Reads p e.2 ∧ cs = writtenText k ++ ':' :: ' ' :: p

/-! ## Lemmas -/

variable {c : Char} {s r rest cs p : List Char} {ps : List (List Char)} {v : Value}
  {e : Value × Value} {fuel : Nat}

theorem skipBlanks_cons (h : isBlank c = false) : skipBlanks (c :: r) = c :: r := by
  unfold skipBlanks
  rw [List.dropWhile_cons, h]
  rfl

namespace Begins

theorem append (h : Begins cs) (r : List Char) : Begins (cs ++ r) := by
  obtain ⟨c, t, rfl, hc⟩ := h
  exact ⟨c, t ++ r, rfl, hc⟩

theorem skipBlanks_eq (h : Begins cs) : skipBlanks cs = cs := by
  obtain ⟨c, r, rfl, hblank, -⟩ := h
  exact skipBlanks_cons hblank

theorem joined (h : Begins p) (ps : List (List Char)) : Begins (joined (p :: ps)) := by
  cases ps with
  | nil => exact h
  | cons q ps => exact h.append _

end Begins

/-- What begins is read at least one step deep. -/
theorem Reads.of_succ (hbegins : Begins cs)
    (h : ∀ fuel rest, cs.length ≤ fuel + 1 → Closes rest →
      Json.value (fuel + 1) (cs ++ rest) = .ok (v, rest)) : Reads cs v where
  begins := hbegins
  value := by
    intro fuel rest hfuel
    obtain ⟨c, r, rfl, -⟩ := hbegins
    obtain ⟨fuel, rfl⟩ : ∃ n, fuel = n + 1 := by
      rw [List.length_cons] at hfuel
      exact ⟨fuel - 1, by omega⟩
    exact h fuel rest hfuel

/-! ### Words, numbers and texts -/

theorem value_other (h : s.head? = some c) (hc : c ∉ ['"', '[', '\x7b']) :
    value (fuel + 1) s = match word? s with
      | some r => .ok r
      | none => number s := by
  simp only [List.mem_cons, List.not_mem_nil, or_false, not_or] at hc
  refine value.eq_6 s fuel ?_ ?_ ?_ ?_
  · rintro rfl
    cases h
  · rintro r rfl
    exact hc.1 (Option.some.inj h).symm
  · rintro r rfl
    exact hc.2.1 (Option.some.inj h).symm
  · rintro r rfl
    exact hc.2.2 (Option.some.inj h).symm

/-- One of the words is read as its value. -/
theorem reads_word {w : List Char} (h : ∀ rest, word? (w ++ rest) = some (v, rest))
    (hfirst : w.head? = some c) (hblank : isBlank c = false)
    (hc : c ∉ ['"', '[', ']', '\x7b', '\x7d']) : Reads w v := by
  obtain ⟨r, rfl⟩ : ∃ r, w = c :: r := List.head?_eq_some_iff.mp hfirst
  simp only [List.mem_cons, List.not_mem_nil, or_false, not_or] at hc
  refine .of_succ ⟨c, r, rfl, hblank, hc.2.2.1, hc.2.2.2.2⟩ fun fuel rest _ _ => ?_
  rw [value_other rfl (by simp [hc]), h]

/-- No word has a digit among its first two characters. -/
theorem word?_eq_none (h : ∃ d ∈ s.take 2, d ∈ decimalDigits) : word? s = none := by
  have hwords : ∀ w ∈ wordValues, 2 ≤ w.1.toList.length ∧
      (w.1.toList.take 2).any decimalDigits.contains = false := by
    decide
  obtain ⟨d, hd, hdigit⟩ := h
  unfold word?
  rw [List.findSome?_eq_none_iff]
  intro w hw
  unfold dropWord
  have hother : ¬ w.1.toList.isPrefixOf s = true := by
    intro hprefix
    obtain ⟨r, rfl⟩ := List.isPrefixOf_iff_prefix.mp hprefix
    obtain ⟨hlength, hdigits⟩ := hwords w hw
    rw [List.take_append_of_le_length hlength] at hd
    exact List.any_eq_false.mp hdigits d hd (List.contains_iff_mem.mpr hdigit)
  rw [if_neg hother]
  rfl

theorem reads_integer {n : Int} (h : writtenInteger n = .ok cs) : Reads cs (.int n) := by
  obtain ⟨c, r, rfl, hc, d, hd, hdigit⟩ := head_integer h
  have hsigns : ∀ c ∈ '-' :: decimalDigits,
      isBlank c = false ∧ c ∉ ['"', '[', '\x7b'] ∧ c ≠ ']' ∧ c ≠ '\x7d' :=
    List.forall_mem_cons.mpr ⟨by decide, of_decimalDigits (by decide)⟩
  obtain ⟨hblank, hplain, hclose⟩ := hsigns c hc
  refine .of_succ ⟨c, r, rfl, hblank, hclose⟩ fun fuel rest _ hrest => ?_
  have hword : word? (c :: r ++ rest) = none := by
    refine word?_eq_none ⟨d, ?_, hdigit⟩
    rw [List.take_append]
    exact List.mem_append_left _ hd
  rw [value_other rfl hplain, hword]
  exact number_integer h hrest

theorem begins_writtenText (t : String) : Begins (writtenText t) :=
  ⟨'"', _, rfl, rfl, by decide, by decide⟩

theorem reads_text (t : String) : Reads (writtenText t) (.text t) := by
  refine .of_succ (begins_writtenText t) fun fuel rest _ _ => ?_
  rw [writtenText, List.append_assoc, List.cons_append, List.singleton_append, value.eq_3,
    textFrom_written]
  exact congrArg (fun t => Except.ok (Value.text t, rest)) String.ofList_toList

/-! ### Rows -/

theorem separator_close (close : Char) (h : isBlank close = false) :
    separator close (close :: rest) = .ok (false, rest) := by
  unfold separator
  rw [skipBlanks_cons h]
  exact if_pos (beq_self_eq_true close)

theorem separator_comma (close : Char) (h : close ≠ ',') (r : List Char) :
    separator close (',' :: ' ' :: r) = .ok (true, skipBlanks r) := by
  unfold separator
  rw [skipBlanks_cons rfl]
  exact if_neg (by simpa using h.symm)

/-- The parts of a row are read up to its end. -/
theorem items_joined {vs : List Value} (h : List.Forall₂ Reads ps vs) (hne : ps ≠ []) (fuel : Nat)
    (rest : List Char) (hfuel : (joined ps).length < fuel) :
    items fuel (joined ps ++ ']' :: rest) = .ok (vs, rest) := by
  induction h generalizing fuel with
  | nil => exact absurd rfl hne
  | @cons p v ps vs hp hps ih =>
    obtain ⟨fuel, rfl⟩ : ∃ n, fuel = n + 1 := ⟨fuel - 1, by omega⟩
    cases hps with
    | nil =>
      have hread := hp.value fuel (']' :: rest) (Nat.lt_succ_iff.mp hfuel) (.cons (by simp))
      rw [items, joined, hread]
      simp only [bind, Except.bind, separator_close ']' rfl]
      rfl
    | @cons q w ps vs hq hps =>
      simp only [joined, List.length_append, List.length_cons] at hfuel
      have hread := hp.value fuel (',' :: ' ' :: (joined (q :: ps) ++ ']' :: rest)) (by omega)
        (.cons (by simp))
      have hrest := ih (by simp) fuel (by omega)
      have hjoined : joined (p :: q :: ps) ++ ']' :: rest =
          p ++ ',' :: ' ' :: (joined (q :: ps) ++ ']' :: rest) := by
        simp [joined]
      rw [items, hjoined, hread]
      simp only [bind, Except.bind, separator_comma ']' (by decide),
        ((hq.begins.joined ps).append (']' :: rest)).skipBlanks_eq, hrest, if_true]
      rfl

/-! ### Mappings -/

theorem ReadsEntry.begins (h : ReadsEntry cs e) : Begins cs := by
  obtain ⟨k, p, -, -, rfl⟩ := h.parts
  exact (begins_writtenText k).append _

theorem key_writtenText (k : String) (r : List Char) : key (writtenText k ++ r) = .ok (k, r) := by
  rw [writtenText, List.append_assoc, List.cons_append, List.singleton_append, key.eq_1,
    textFrom_written]
  exact congrArg (fun k => Except.ok (k, r)) String.ofList_toList

theorem colon_blank (r : List Char) : colon (':' :: ' ' :: r) = .ok (skipBlanks r) := rfl

/-- The entries of a mapping are read up to its end. -/
theorem entries_joined {es : Entries} (h : List.Forall₂ ReadsEntry ps es) (hne : ps ≠ [])
    (fuel : Nat) (rest : List Char) (hfuel : (joined ps).length < fuel) :
    entries fuel (joined ps ++ '\x7d' :: rest) = .ok (es, rest) := by
  induction h generalizing fuel with
  | nil => exact absurd rfl hne
  | @cons p e ps es hp hps ih =>
    obtain ⟨fuel, rfl⟩ : ∃ n, fuel = n + 1 := ⟨fuel - 1, by omega⟩
    obtain ⟨k, p, hk, hread, rfl⟩ := hp.parts
    obtain ⟨k', v⟩ := e
    obtain rfl : k' = .text k := hk
    cases hps with
    | nil =>
      simp only [joined, List.length_append, List.length_cons] at hfuel
      have hread' := hread.value fuel ('\x7d' :: rest) (by omega) (.cons (by simp))
      rw [entries, joined, List.append_assoc, key_writtenText]
      simp only [bind, Except.bind, List.cons_append, colon_blank,
        (hread.begins.append ('\x7d' :: rest)).skipBlanks_eq, hread',
        separator_close '\x7d' rfl]
      rfl
    | @cons q f ps es hq hps =>
      simp only [joined, List.length_append, List.length_cons] at hfuel
      have hread' := hread.value fuel (',' :: ' ' :: (joined (q :: ps) ++ '\x7d' :: rest)) (by omega)
        (.cons (by simp))
      have hrest := ih (by simp) fuel (by omega)
      have hjoined : joined ((writtenText k ++ ':' :: ' ' :: p) :: q :: ps) ++ '\x7d' :: rest =
          writtenText k ++ ':' :: ' ' ::
            (p ++ ',' :: ' ' :: (joined (q :: ps) ++ '\x7d' :: rest)) := by
        simp [joined]
      rw [entries, hjoined, key_writtenText]
      simp only [bind, Except.bind, colon_blank, (hread.begins.append _).skipBlanks_eq, hread',
        separator_comma '\x7d' (by decide),
        ((hq.begins.joined ps).append ('\x7d' :: rest)).skipBlanks_eq, hrest, if_true]
      rfl

/-! ### Whole rows and mappings -/

theorem reads_row {vs : List Value} (h : List.Forall₂ Reads ps vs) :
    Reads ('[' :: joined ps ++ [']']) (.list vs) := by
  refine .of_succ ⟨'[', _, rfl, rfl, by decide, by decide⟩ fun fuel rest hfuel _ => ?_
  rw [List.append_assoc, List.cons_append, List.singleton_append, value.eq_4]
  cases h with
  | nil => rfl
  | @cons p v ps vs hp hps =>
    have hbegins := (hp.begins.joined ps).append (']' :: rest)
    have hitems := items_joined (.cons hp hps) (by simp) fuel rest
      (by simpa [Nat.succ_le_iff] using hfuel)
    rw [hbegins.skipBlanks_eq]
    split
    · next heq =>
      obtain ⟨c, r, hc, -, hclose, -⟩ := hbegins
      exact absurd (List.cons.inj (hc.symm.trans heq)).1 hclose
    · rw [hitems]
      rfl

theorem reads_mapping {es : Entries} (hnamed : es.Named) (h : List.Forall₂ ReadsEntry ps es) :
    Reads ('\x7b' :: joined ps ++ ['\x7d']) (.map es) := by
  refine .of_succ ⟨'\x7b', _, rfl, rfl, by decide, by decide⟩ fun fuel rest hfuel _ => ?_
  rw [List.append_assoc, List.cons_append, List.singleton_append, value.eq_5]
  cases h with
  | nil => rfl
  | @cons p e ps es hp hps =>
    have hbegins := (hp.begins.joined ps).append ('\x7d' :: rest)
    have hentries := entries_joined (.cons hp hps) (by simp) fuel rest
      (by simpa [Nat.succ_le_iff] using hfuel)
    rw [hbegins.skipBlanks_eq]
    split
    · next heq =>
      obtain ⟨c, r, hc, -, -, hclose⟩ := hbegins
      exact absurd (List.cons.inj (hc.symm.trans heq)).1 hclose
    · rw [hentries]
      exact congrArg (fun es => Except.ok (Value.map es, rest)) hnamed.nil_merge

end TopologySubmission.Json
