import TopologySubmission.Settings.Template

/-!
# Where placeholders stand

A written placeholder holds one dollar sign, at its front, so two of them never overlap. A text has
therefore exactly the placeholders that are written somewhere in it, whatever stands around them, and
pieces without stray dollar signs are found again in the text that they make up:

    name ∈ names s ↔ "${name}" stands in s                       (mem_names_iff)
    pieces (assemble ps) = ps, without stray dollar signs         (pieces_assemble)
-/

namespace TopologySubmission.Template

/-! ## Algorithm -/

/-- A name that can stand in a placeholder. -/
def IsReferenceName (name : List Char) : Prop := name ≠ [] ∧ ∀ c ∈ name, isNameChar c = true

/-- A piece that is read again as itself: no dollar sign stands for itself, and a reference has a
name. -/
def Piece.Sound : Piece → Prop
  | .literal c => c ≠ '$'
  | .reference name => IsReferenceName name

/-! ## Lemmas -/

/-! ### Reading a placeholder -/

theorem isReferenceName_of_nameAt? {s name rest : List Char} (h : nameAt? s = some (name, rest)) :
    IsReferenceName name := by
  unfold nameAt? at h
  split at h
  · simp only [Option.ite_none_left_eq_some, Option.some.injEq, Prod.mk.injEq] at h
    obtain ⟨hne, rfl, -⟩ := h
    exact ⟨by simpa using hne, fun c hc => List.all_eq_true.mp List.all_takeWhile c hc⟩
  · cases h

/-- The closing brace is no character of names, so it ends the name. -/
theorem nameAt?_append {name : List Char} (h : IsReferenceName name) (rest : List Char) :
    nameAt? (name ++ '\x7d' :: rest) = some (name, rest) := by
  have hend : isNameChar '\x7d' = false := by decide
  have htake : (name ++ '\x7d' :: rest).takeWhile isNameChar = name := by
    rw [List.takeWhile_append_of_pos h.2, List.takeWhile_cons_of_neg (by simp [hend]),
      List.append_nil]
  have hdrop : (name ++ '\x7d' :: rest).dropWhile isNameChar = '\x7d' :: rest := by
    rw [List.dropWhile_append_of_pos h.2, List.dropWhile_cons_of_neg (by simp [hend])]
  unfold nameAt?
  rw [hdrop, htake]
  simp [h.1]

theorem pieces_cons {c : Char} (h : c ≠ '$') (s : List Char) :
    pieces (c :: s) = .literal c :: pieces s := by
  rw [pieces]
  rintro s' rfl -
  exact h rfl

theorem pieces_written {name : List Char} (h : IsReferenceName name) (rest : List Char) :
    pieces (Piece.written (.reference name) ++ rest) = .reference name :: pieces rest := by
  have hn := nameAt?_append h rest
  show pieces ('$' :: '\x7b' :: (name ++ ['\x7d']) ++ rest) = _
  rw [show '$' :: '\x7b' :: (name ++ ['\x7d']) ++ rest =
    '$' :: '\x7b' :: (name ++ '\x7d' :: rest) by simp, pieces]
  split
  · next hs =>
    rw [hn] at hs
    cases hs
    rfl
  · next hs =>
    rw [hn] at hs
    cases hs

theorem isReferenceName_of_mem_pieces {s name : List Char} (h : .reference name ∈ pieces s) :
    IsReferenceName name := by
  fun_induction pieces s with
  | case1 => cases h
  | case2 s name' rest hn _ ih =>
    rcases List.mem_cons.mp h with h | h
    · cases h
      exact isReferenceName_of_nameAt? hn
    · exact ih h
  | case3 s hn ih =>
    rcases List.mem_cons.mp h with h | h
    · cases h
    · exact ih h
  | case4 c s _ ih =>
    rcases List.mem_cons.mp h with h | h
    · cases h
    · exact ih h

/-! ### Placing a placeholder -/

/-- Behind its first character a written placeholder has no dollar sign. -/
theorem dollar_not_mem {name : List Char} (h : IsReferenceName name) :
    '$' ∉ '\x7b' :: (name ++ ['\x7d']) := by
  simp only [List.mem_cons, List.mem_append, List.not_mem_nil, or_false, not_or]
  exact ⟨by decide, fun hc => absurd (h.2 '$' hc) (by decide), by decide⟩

/-- A dollar sign that stands behind the first one of a written placeholder stands behind the whole
of it. -/
theorem eq_append_of_dollar {name rest front back : List Char} (h : IsReferenceName name)
    (he : '\x7b' :: (name ++ ['\x7d']) ++ rest = front ++ '$' :: back) :
    ∃ front', rest = front' ++ '$' :: back := by
  rcases List.append_eq_append_iff.mp he with ⟨mid, -, hr⟩ | ⟨mid, hl, hr⟩
  · exact ⟨mid, hr⟩
  · cases mid with
    | nil => exact ⟨[], by simpa using hr.symm⟩
    | cons c mid =>
      obtain ⟨rfl, -⟩ := List.cons.inj hr
      refine absurd ?_ (dollar_not_mem h)
      rw [hl]
      exact List.mem_append_right _ List.mem_cons_self

/-- A placeholder that is written in a text is one of its pieces. -/
theorem mem_pieces_of_written {name : List Char} (h : IsReferenceName name) {s : List Char} :
    ∀ front back, s = front ++ Piece.written (.reference name) ++ back →
      .reference name ∈ pieces s := by
  fun_induction pieces s with
  | case1 =>
    intro front back hs
    simp [Piece.written] at hs
  | case2 s name' rest hn _ ih =>
    intro front back hs
    have hname' := isReferenceName_of_nameAt? hn
    cases front with
    -- the placeholder is the one that was just read
    | nil =>
      simp only [Piece.written, List.nil_append, List.cons_append, List.append_assoc,
        List.cons.injEq, true_and] at hs
      rw [hs, nameAt?_append h] at hn
      cases hn
      exact List.mem_cons_self
    | cons c front =>
      simp only [Piece.written, List.cons_append, List.append_assoc, List.cons.injEq] at hs
      have he : '\x7b' :: (name' ++ ['\x7d']) ++ rest =
          front ++ '$' :: '\x7b' :: (name ++ '\x7d' :: back) := by
        rw [append_of_nameAt? hn] at hs
        simpa using hs.2
      obtain ⟨front', hr⟩ := eq_append_of_dollar hname' he
      refine List.mem_cons_of_mem _ (ih front' back ?_)
      simpa [Piece.written] using hr
  | case3 s hn ih =>
    intro front back hs
    cases front with
    | nil =>
      simp only [Piece.written, List.nil_append, List.cons_append, List.append_assoc,
        List.cons.injEq, true_and] at hs
      rw [hs, nameAt?_append h] at hn
      cases hn
    | cons c front =>
      simp only [List.cons_append, List.cons.injEq] at hs
      exact List.mem_cons_of_mem _ (ih front back (by simpa using hs.2))
  | case4 c s hc ih =>
    intro front back hs
    cases front with
    | nil =>
      simp only [Piece.written, List.nil_append, List.cons_append, List.append_assoc,
        List.cons.injEq] at hs
      exact (hc _ hs.1 hs.2).elim
    | cons c' front =>
      simp only [List.cons_append, List.cons.injEq] at hs
      exact List.mem_cons_of_mem _ (ih front back (by simpa using hs.2))

/-- The placeholders of a text are those that are written in it. -/
theorem mem_pieces_iff {s name : List Char} :
    .reference name ∈ pieces s ↔
      IsReferenceName name ∧ ∃ front back, s = front ++ Piece.written (.reference name) ++ back := by
  constructor
  · intro h
    refine ⟨isReferenceName_of_mem_pieces h, ?_⟩
    obtain ⟨ps, qs, hps⟩ := List.append_of_mem h
    refine ⟨assemble ps, assemble qs, ?_⟩
    have hs := assemble_pieces s
    rw [hps] at hs
    simpa [assemble] using hs.symm
  · rintro ⟨h, front, back, hs⟩
    exact mem_pieces_of_written h front back hs

theorem mem_names_iff_mem_pieces {s name : String} :
    name ∈ names s ↔ .reference name.toList ∈ pieces s.toList := by
  unfold names
  simp only [List.mem_map, List.mem_filterMap]
  constructor
  · rintro ⟨cs, ⟨p, hp, hname⟩, rfl⟩
    cases p with
    | literal c => cases hname
    | reference name' =>
      cases hname
      simpa using hp
  · intro h
    exact ⟨name.toList, ⟨_, h, rfl⟩, String.ofList_toList⟩

/-- The names of a text are those of the placeholders that are written in it. -/
theorem mem_names_iff {s name : String} :
    name ∈ names s ↔ IsReferenceName name.toList ∧ ∃ front back,
      s.toList = front ++ Piece.written (.reference name.toList) ++ back := by
  rw [mem_names_iff_mem_pieces, mem_pieces_iff]

/-- A placeholder of a text stays one in a longer text. -/
theorem mem_names_of_infix {s t name : String} (h : name ∈ names s) {front back : List Char}
    (ht : t.toList = front ++ s.toList ++ back) : name ∈ names t := by
  obtain ⟨hn, a, b, hs⟩ := mem_names_iff.mp h
  refine mem_names_iff.mpr ⟨hn, front ++ a, b ++ back, ?_⟩
  rw [ht, hs]
  simp

theorem hasPlaceholder_iff {s : String} : hasPlaceholder s = true ↔ ∃ name, name ∈ names s := by
  unfold hasPlaceholder
  cases names s <;> simp

/-! ### Pieces without stray dollar signs -/

/-- Pieces without stray dollar signs are found again. -/
theorem pieces_assemble {ps : List Piece} (h : ∀ p ∈ ps, p.Sound) : pieces (assemble ps) = ps := by
  induction ps with
  | nil =>
    show pieces [] = []
    rw [pieces]
  | cons p ps ih =>
    have hps := ih fun q hq => h q (List.mem_cons_of_mem p hq)
    show pieces (p.written ++ assemble ps) = p :: ps
    cases p with
    | literal c =>
      have hc : c ≠ '$' := h _ List.mem_cons_self
      show pieces (c :: assemble ps) = _
      rw [pieces_cons hc, hps]
    | reference name =>
      have hn : IsReferenceName name := h _ List.mem_cons_self
      rw [pieces_written hn, hps]

end TopologySubmission.Template
