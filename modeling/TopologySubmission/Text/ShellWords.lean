/-!
# Words of a POSIX shell line

`splitWords` cuts a line into words as a POSIX shell does, without comments or expansions: blanks
(space, tab, line ends) part the words, single quotes keep everything, double quotes keep
everything but let a backslash escape itself and the quote, and a bare backslash keeps the next
character. `quoteWord` writes a word so that it is read back as that one word:

    splitWords (quoteWord w) = .ok [w]        (splitWords_quoteWord)
    splitWords (joinWords ws) = .ok ws        (splitWords_joinWords)
-/

namespace TopologySubmission.Text

/-! ## Algorithm -/

/-- What a line of words leaves open at its end. -/
inductive WordError where
  | noClosingQuotation
  | noEscapedCharacter
  deriving DecidableEq, Repr

def WordError.message : WordError → String
  | .noClosingQuotation => "No closing quotation"
  | .noEscapedCharacter => "No escaped character"

/-- What the next character of a line belongs to. -/
inductive WordMode where
  | bare
  | escaped
  | single
  | double
  | doubleEscaped

/-- The blanks that part words. -/
def isWordBlank (c : Char) : Bool := c == ' ' || c == '\t' || c == '\r' || c == '\n'

/-- Reads the rest of a line. The word begun so far, if any, is kept backwards. -/
def wordsFrom : WordMode → Option (List Char) → List Char → Except WordError (List (List Char))
  | .bare, word, [] => .ok (word.map List.reverse).toList
  | .bare, word, c :: r =>
    if isWordBlank c then
      match word with
      | none => wordsFrom .bare none r
      | some w => (wordsFrom .bare none r).map (w.reverse :: ·)
    else if c == '\\' then wordsFrom .escaped word r
    else if c == '\'' then wordsFrom .single (word.getD []) r
    else if c == '"' then wordsFrom .double (word.getD []) r
    else wordsFrom .bare (c :: word.getD []) r
  | .escaped, _, [] => .error .noEscapedCharacter
  | .escaped, word, c :: r => wordsFrom .bare (c :: word.getD []) r
  | .single, _, [] => .error .noClosingQuotation
  | .single, word, c :: r =>
    if c == '\'' then wordsFrom .bare word r else wordsFrom .single (c :: word.getD []) r
  | .double, _, [] => .error .noClosingQuotation
  | .double, word, c :: r =>
    if c == '"' then wordsFrom .bare word r
    else if c == '\\' then wordsFrom .doubleEscaped word r
    else wordsFrom .double (c :: word.getD []) r
  | .doubleEscaped, _, [] => .error .noEscapedCharacter
  | .doubleEscaped, word, c :: r =>
    if c == '\\' || c == '"' then wordsFrom .double (c :: word.getD []) r
    else wordsFrom .double (c :: '\\' :: word.getD []) r

/-- The words of a line. -/
def splitWords (line : String) : Except WordError (List String) :=
  (wordsFrom .bare none line.toList).map (·.map String.ofList)

/-- The characters that need no quotes in a word. -/
def isBareWordChar (c : Char) : Bool :=
  c.isAlphanum || "_@%+=:,./-".toList.contains c

/-- A character inside single quotes: a single quote closes them, stands between double quotes and
opens them again. -/
def inSingleQuotes (c : Char) : List Char :=
  if c == '\'' then ['\'', '"', '\'', '"', '\''] else [c]

/-- A word between single quotes. -/
def singleQuoted (word : List Char) : List Char :=
  '\'' :: word.flatMap inSingleQuotes ++ ['\'']

/-- The word as it is written in a line: bare if every character allows it. -/
def quoteWord (word : String) : String :=
  if !word.isEmpty && word.toList.all isBareWordChar then word
  else String.ofList (singleQuoted word.toList)

/-- A line of words. -/
def joinWords (words : List String) : String := " ".intercalate (words.map quoteWord)

/-! ## Lemmas -/

/-- A bare character is neither a blank nor a mark of the line. -/
theorem bare_of_isBareWordChar (c : Char) (h : isBareWordChar c = true) :
    isWordBlank c = false ∧ (c == '\\') = false ∧ (c == '\'') = false ∧ (c == '"') = false := by
  refine ⟨?_, ?_, ?_, ?_⟩
  · rw [Bool.eq_false_iff]; intro hc
    simp only [isWordBlank, Bool.or_eq_true, beq_iff_eq] at hc
    rcases hc with ((rfl | rfl) | rfl) | rfl <;> exact absurd h (by decide)
  all_goals
    rw [Bool.eq_false_iff]; intro hc
    rw [beq_iff_eq] at hc; subst hc
    exact absurd h (by decide)

theorem wordsFrom_bare_word (w word rest : List Char) (h : w.all isBareWordChar = true) :
    wordsFrom .bare (some word) (w ++ rest) = wordsFrom .bare (some (w.reverse ++ word)) rest := by
  induction w generalizing word with
  | nil => rfl
  | cons c r ih =>
    simp only [List.all_cons, Bool.and_eq_true] at h
    obtain ⟨h1, h2, h3, h4⟩ := bare_of_isBareWordChar c h.1
    simp [wordsFrom, h1, h2, h3, h4, ih _ h.2]

/-- Between single quotes every character is read as written, a quoted quote as itself. -/
theorem wordsFrom_single_quoted (w word rest : List Char) :
    wordsFrom .single (some word) (w.flatMap inSingleQuotes ++ rest) =
      wordsFrom .single (some (w.reverse ++ word)) rest := by
  induction w generalizing word with
  | nil => rfl
  | cons c r ih =>
    rw [List.flatMap_cons, List.append_assoc, List.reverse_cons, List.append_assoc,
      List.singleton_append, ← ih]
    by_cases hc : c = '\''
    · subst hc
      simp [inSingleQuotes, wordsFrom, isWordBlank]
    · simp [inSingleQuotes, wordsFrom, hc]

/-- A word written down is begun and not ended: what follows decides where it ends. -/
theorem wordsFrom_quoteWord (w : String) (rest : List Char) :
    wordsFrom .bare none ((quoteWord w).toList ++ rest) =
      wordsFrom .bare (some w.toList.reverse) rest := by
  unfold quoteWord
  split
  · next h =>
    simp only [Bool.and_eq_true, Bool.not_eq_true'] at h
    obtain ⟨hne, hall⟩ := h
    have hl : w.toList ≠ [] := by
      intro h0
      rw [String.toList_eq_nil_iff] at h0
      subst h0; simp at hne
    obtain ⟨c, r, hcr⟩ := List.exists_cons_of_ne_nil hl
    rw [hcr, List.all_cons, Bool.and_eq_true] at hall
    obtain ⟨h1, h2, h3, h4⟩ := bare_of_isBareWordChar c hall.1
    simp only [hcr, List.cons_append, wordsFrom, h1, h2, h3, h4, Bool.false_eq_true, if_false,
      Option.getD_none, List.reverse_cons]
    exact wordsFrom_bare_word r [c] rest hall.2
  · have key := wordsFrom_single_quoted w.toList [] ('\'' :: rest)
    simp only [String.toList_ofList, singleQuoted, List.cons_append, List.append_assoc,
      List.nil_append]
    simp [wordsFrom, isWordBlank, key]

/-- A word written down is read back as that one word. -/
theorem splitWords_quoteWord (w : String) : splitWords (quoteWord w) = .ok [w] := by
  have key := wordsFrom_quoteWord w []
  rw [List.append_nil] at key
  simp [splitWords, key, wordsFrom, Except.map]

/-- A line of words is read back as these words. -/
theorem splitWords_joinWords (words : List String) : splitWords (joinWords words) = .ok words := by
  induction words with
  | nil => rfl
  | cons w words ih =>
    cases words with
    | nil => exact splitWords_quoteWord w
    | cons v words =>
      have hline : (joinWords (w :: v :: words)).toList =
          (quoteWord w).toList ++ ' ' :: (joinWords (v :: words)).toList := by
        simp [joinWords, String.intercalate_cons_cons]
      have hblank : isWordBlank ' ' = true := by decide
      -- the blank ends the word that was begun
      unfold splitWords at ih ⊢
      rw [hline, wordsFrom_quoteWord, wordsFrom, if_pos hblank]
      cases hread : wordsFrom .bare none (joinWords (v :: words)).toList with
      | error e => simp [hread, Except.map] at ih
      | ok ws =>
        rw [hread] at ih
        simpa [Except.map] using ih

end TopologySubmission.Text
