/-!
# Texts with placeholders

A placeholder is `$`, an opening brace, a name of letters, digits, underscores, dots and hyphens,
and a closing brace. `pieces` cuts a text into its placeholders and the characters between them, and
`assemble` puts pieces back together:

    assemble (pieces s) = s                          (assemble_pieces)
    a text without a dollar sign has no placeholder  (names_eq_nil_of_no_dollar)
-/

namespace TopologySubmission.Template

/-! ## Algorithm -/

/-- A piece of a text: a character that stands for itself, or the name of a placeholder. -/
inductive Piece where
  | literal (c : Char)
  | reference (name : List Char)
  deriving DecidableEq, Repr

/-- The characters of the names of placeholders. -/
def isNameChar (c : Char) : Bool := c.isAlphanum || c == '_' || c == '.' || c == '-'

/-- The name that stands before a closing brace at the start of a text, and what follows. -/
def nameAt? (s : List Char) : Option (List Char × List Char) :=
  match s.dropWhile isNameChar with
  | '\x7d' :: rest =>
    if (s.takeWhile isNameChar).isEmpty then none else some (s.takeWhile isNameChar, rest)
  | _ => none

theorem length_of_nameAt? {s name rest : List Char} (h : nameAt? s = some (name, rest)) :
    rest.length < s.length := by
  have hs := congrArg List.length (List.takeWhile_append_dropWhile (p := isNameChar) (l := s))
  rw [List.length_append] at hs
  unfold nameAt? at h
  split at h
  · next h2 =>
    simp only [Option.ite_none_left_eq_some, Option.some.injEq, Prod.mk.injEq] at h
    obtain ⟨_, _, rfl⟩ := h
    rw [h2, List.length_cons] at hs
    omega
  · simp at h

/-- The pieces of a text. -/
def pieces : List Char → List Piece
  | [] => []
  | '$' :: '\x7b' :: s =>
    match h : nameAt? s with
    | some (name, rest) =>
      have := length_of_nameAt? h
      .reference name :: pieces rest
    | none => .literal '$' :: pieces ('\x7b' :: s)
  | c :: s => .literal c :: pieces s
termination_by s => s.length
decreasing_by all_goals simp only [List.length_cons]; omega

/-- A piece as it is written in a text. -/
def Piece.written : Piece → List Char
  | .literal c => [c]
  | .reference name => '$' :: '\x7b' :: name ++ ['\x7d']

/-- The text that is made of pieces. -/
def assemble (ps : List Piece) : List Char := ps.flatMap Piece.written

/-- The name of a placeholder. -/
def Piece.name? : Piece → Option (List Char)
  | .literal _ => none
  | .reference name => some name

/-- The names of the placeholders of a text, from left to right. -/
def names (s : String) : List String := ((pieces s.toList).filterMap Piece.name?).map String.ofList

/-- The text holds a placeholder. -/
def hasPlaceholder (s : String) : Bool := !(names s).isEmpty

/-! ## Lemmas -/

theorem append_of_nameAt? {s name rest : List Char} (h : nameAt? s = some (name, rest)) :
    s = name ++ '\x7d' :: rest := by
  have hs := List.takeWhile_append_dropWhile (p := isNameChar) (l := s)
  unfold nameAt? at h
  split at h
  · next h2 =>
    simp only [Option.ite_none_left_eq_some, Option.some.injEq, Prod.mk.injEq] at h
    obtain ⟨_, rfl, rfl⟩ := h
    rw [h2] at hs
    exact hs.symm
  · simp at h

/-- The pieces of a text make up the text. -/
theorem assemble_pieces (s : List Char) : assemble (pieces s) = s := by
  fun_induction pieces s with
  | case1 => rfl
  | case2 s name rest h _ ih =>
    have hr : s = name ++ '\x7d' :: rest := append_of_nameAt? h
    simp only [assemble, List.flatMap_cons] at ih ⊢
    rw [ih, hr]
    simp [Piece.written]
  | case3 s h ih =>
    simp only [assemble, List.flatMap_cons] at ih ⊢
    rw [ih]; rfl
  | case4 c s _ ih =>
    simp only [assemble, List.flatMap_cons] at ih ⊢
    rw [ih]; rfl

/-- Without a dollar sign every character stands for itself. -/
theorem pieces_of_no_dollar (s : List Char) (h : '$' ∉ s) : pieces s = s.map .literal := by
  fun_induction pieces s with
  | case1 => rfl
  | case2 => simp at h
  | case3 => simp at h
  | case4 c s _ ih =>
    simp only [List.mem_cons, not_or] at h
    simp [ih h.2]

theorem names_eq_nil_of_no_dollar (s : String) (h : '$' ∉ s.toList) : names s = [] := by
  simp only [names, pieces_of_no_dollar _ h, List.map_eq_nil_iff, List.filterMap_eq_nil_iff,
    List.mem_map]
  rintro _ ⟨c, _, rfl⟩
  rfl

end TopologySubmission.Template
