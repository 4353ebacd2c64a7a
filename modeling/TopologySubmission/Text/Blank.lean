/-!
# Blanks: the white space of Unicode

`isBlank` holds of the characters that count as white space when a text is trimmed or a number is
read: the ASCII blanks with the four separators `U+001C` to `U+001F`, next line, the no-break
space, and the space, line and paragraph separators of Unicode.

Trimming keeps everything between the first and the last character that is not blank:

    trimLeft s is a suffix of s that starts with no blank      (trimLeft_suffix, head_trimLeft)
-/

namespace TopologySubmission.Text

/-! ## Algorithm -/

/-- The ranges of white space, both ends included. -/
def blankRanges : List (Nat × Nat) :=
  [(0x09, 0x0D), (0x1C, 0x20), (0x85, 0x85), (0xA0, 0xA0), (0x1680, 0x1680), (0x2000, 0x200A),
    (0x2028, 0x2029), (0x202F, 0x202F), (0x205F, 0x205F), (0x3000, 0x3000)]

/-- The number lies in one of the ranges, both ends included. -/
def inRanges (ranges : List (Nat × Nat)) (n : Nat) : Bool :=
  ranges.any fun r => r.1 ≤ n && n ≤ r.2

/-- White space in the sense of Unicode. -/
def isBlank (c : Char) : Bool := inRanges blankRanges c.toNat

/-- Drops the leading characters of a kind. -/
def trimLeft (drop : Char → Bool) (s : List Char) : List Char := s.dropWhile drop

/-- Drops the trailing characters of a kind. -/
def trimRight (drop : Char → Bool) (s : List Char) : List Char :=
  (s.reverse.dropWhile drop).reverse

/-- Drops the leading and trailing characters of a kind. -/
def trim (drop : Char → Bool) (s : List Char) : List Char := trimRight drop (trimLeft drop s)

/-- The text without the white space around it. -/
def strip (s : String) : String := String.ofList (trim isBlank s.toList)

/-- The text is empty or all white space. -/
def allBlank (s : String) : Bool := s.toList.all isBlank

/-! ## Lemmas -/

/-- Every blank of ASCII is white space here. -/
theorem isBlank_of_isWhitespace (c : Char) (h : c.isWhitespace = true) : isBlank c = true := by
  simp only [Char.isWhitespace, Bool.or_eq_true, decide_eq_true_eq] at h
  rcases h with ((rfl | rfl) | rfl) | rfl <;> decide

theorem trimLeft_suffix (drop : Char → Bool) (s : List Char) : trimLeft drop s <:+ s :=
  List.dropWhile_suffix drop

theorem head_trimLeft (drop : Char → Bool) (s : List Char) (c : Char)
    (h : (trimLeft drop s).head? = some c) : drop c = false := by
  induction s with
  | nil => simp [trimLeft] at h
  | cons d r ih =>
    rw [trimLeft, List.dropWhile_cons] at h
    split at h
    · exact ih h
    · next hd => simp only [List.head?_cons, Option.some.injEq] at h; subst h; simpa using hd

end TopologySubmission.Text
