import TopologySubmission.Failure.Basic
import TopologySubmission.Text.Blank

/-!
# Lines of a YAML text

The characters that a text may hold, the characters that end a line, and reading a single line end.
A carriage return with a line feed is one line end; the two separators of Unicode keep their own
character when a line end becomes part of a value, all others become a line feed.

    takeBreak reads at least one character or nothing      (length_takeBreak)
-/

namespace TopologySubmission.Yaml

/-! ## Algorithm -/

/-- Why a text yields no value: it is no YAML, or a value in it fails in its own way, which is no error
of a submission. -/
inductive Fault where
  | malformed
  | failed (f : Failure) (foreign : f.submissionError? = none)
  deriving Repr

/-- The character may stand in a text. -/
def isAllowed (c : Char) : Bool :=
  Text.inRanges [(0x09, 0x0A), (0x0D, 0x0D), (0x20, 0x7E), (0x85, 0x85), (0xA0, 0xD7FF),
    (0xE000, 0xFFFD), (0x10000, 0x10FFFF)] c.toNat

def nextLine : Char := Char.ofNat 0x85
def lineSeparator : Char := Char.ofNat 0x2028
def paragraphSeparator : Char := Char.ofNat 0x2029
def byteOrderMark : Char := Char.ofNat 0xFEFF

/-- The character ends a line. -/
def isBreak (c : Char) : Bool :=
  c == '\n' || c == '\r' || c == nextLine || c == lineSeparator || c == paragraphSeparator

/-- A space or a tab. -/
def isSpace (c : Char) : Bool := c == ' ' || c == '\t'

/-- The rest of a text is at a line end or at the end of the text. -/
def atLineEnd : List Char → Bool
  | [] => true
  | c :: _ => isBreak c

/-- The rest of a text is at a space, a line end or the end of the text. -/
def atSpaceOrEnd : List Char → Bool
  | [] => true
  | c :: _ => c == ' ' || isBreak c

/-- The rest of a text is at a space, a tab, a line end or the end of the text. -/
def atBlankOrEnd : List Char → Bool
  | [] => true
  | c :: _ => isSpace c || isBreak c

/-- Reads one line end: what it means in a value, and the rest. -/
def takeBreak : List Char → Option (Char × List Char)
  | '\r' :: '\n' :: r => some ('\n', r)
  | c :: r =>
    if c == '\n' || c == '\r' || c == nextLine then some ('\n', r)
    else if c == lineSeparator || c == paragraphSeparator then some (c, r)
    else none
  | [] => none

/-- Drops the spaces in front. -/
def skipSpaces (s : List Char) : List Char := s.dropWhile (· == ' ')

/-- Drops the rest of a line. -/
def skipLine (s : List Char) : List Char := s.dropWhile (!isBreak ·)

/-- Drops a comment, if one starts here. -/
def skipComment : List Char → List Char
  | '#' :: r => skipLine r
  | s => s

/-- Drops what may follow on a line that has ended: spaces, a comment and the line end. -/
def skipRestOfLine (s : List Char) : Except Fault (List Char) :=
  let s := skipComment (skipSpaces s)
  if atLineEnd s then .ok (((takeBreak s).map (·.2)).getD s) else .error .malformed

/-- A line of three hyphens or three dots, which ends a document. -/
def atDocumentMark (s : List Char) : Bool :=
  match s with
  | '-' :: '-' :: '-' :: r => atBlankOrEnd r
  | '.' :: '.' :: '.' :: r => atBlankOrEnd r
  | _ => false

/-- A letter or digit of ASCII. -/
def isWordChar (c : Char) : Bool := c.isAlphanum || c == '-' || c == '_'

/-! ## Lemmas -/

/-- A line end takes at least one character. -/
theorem length_takeBreak (s r : List Char) (c : Char) (h : takeBreak s = some (c, r)) :
    r.length < s.length := by
  unfold takeBreak at h
  split at h
  · simp only [Option.some.injEq, Prod.mk.injEq] at h
    obtain ⟨_, rfl⟩ := h
    simp only [List.length_cons]; omega
  · split at h
    · simp only [Option.some.injEq, Prod.mk.injEq] at h
      obtain ⟨_, rfl⟩ := h
      simp
    · split at h
      · simp only [Option.some.injEq, Prod.mk.injEq] at h
        obtain ⟨_, rfl⟩ := h
        simp
      · simp at h
  · simp at h

/-- Line ends may stand in a text. -/
theorem isAllowed_of_isBreak (c : Char) (h : isBreak c = true) : isAllowed c = true := by
  simp only [isBreak, Bool.or_eq_true, beq_iff_eq] at h
  rcases h with (((rfl | rfl) | rfl) | rfl) | rfl <;> decide

end TopologySubmission.Yaml
