/-!
# Texts that are close to a text

Two texts are compared by their longest common run, the first one where there are several, and then
in the same way by what stands before it and behind it. The characters that are matched make up a
part of both texts; texts are close if that part is six tenths or more.

    only candidates are named       (mem_of_mem_closest)
-/

namespace TopologySubmission.CloseMatch

/-! ## Algorithm -/

/-- The number of characters that two texts have in common at their start. -/
def commonRun : List Char → List Char → Nat
  | a :: r, b :: s => if a = b then commonRun r s + 1 else 0
  | _, _ => 0

/-- A run of equal characters: where it begins in either text, and its length. -/
structure Run where
  first : Nat
  second : Nat
  length : Nat
  deriving DecidableEq, Repr, Inhabited

/-- The longest run that begins at a place of the first text, unless one as long is known. -/
def longestAt (a b : List Char) (i : Nat) (best : Run) : Run :=
  (List.range b.length).foldl
    (fun best j =>
      let n := commonRun (a.drop i) (b.drop j)
      if best.length < n then ⟨i, j, n⟩ else best)
    best

/-- The longest common run; the first one in the first text, and then in the second one. -/
def longest (a b : List Char) : Run :=
  (List.range a.length).foldl (fun best i => longestAt a b i best) ⟨0, 0, 0⟩

/-- The number of matched characters, with at most `depth` runs inside each other. -/
def matchedWithin : Nat → List Char → List Char → Nat
  | 0, _, _ => 0
  | depth + 1, a, b =>
    let r := longest a b
    if r.length = 0 then 0
    else
      r.length + matchedWithin depth (a.take r.first) (b.take r.second) +
        matchedWithin depth (a.drop (r.first + r.length)) (b.drop (r.second + r.length))

/-- The number of matched characters of two texts. -/
def matched (a b : List Char) : Nat := matchedWithin a.length a b

/-- How close two texts are: the matched characters of both, among all characters of both. -/
structure Score where
  part : Nat
  total : Nat
  text : String

/-- How close a candidate is to a text. -/
def score (text candidate : String) : Score :=
  ⟨2 * matched candidate.toList text.toList, candidate.length + text.length, candidate⟩

/-- The texts are close. -/
def Score.isClose (s : Score) : Bool := 3 * s.total ≤ 5 * s.part

/-- The first candidate is to be named before the second. -/
def Score.notAfter (s t : Score) : Bool :=
  t.part * s.total < s.part * t.total ||
    (t.part * s.total == s.part * t.total && !decide (s.text < t.text))

/-- The most candidates that are named. -/
def maxCount : Nat := 3

/-- The candidates that are close to a text, the closest first. -/
def closest (text : String) (candidates : List String) : List String :=
  ((((candidates.map (score text)).filter Score.isClose).mergeSort Score.notAfter).take
    maxCount).map Score.text

/-! ## Lemmas -/

theorem commonRun_le (a b : List Char) : commonRun a b ≤ a.length := by
  induction a generalizing b with
  | nil => cases b <;> simp [commonRun]
  | cons x r ih =>
    cases b with
    | nil => simp [commonRun]
    | cons y s =>
      simp only [commonRun]
      split
      · have := ih s; simp only [List.length_cons]; omega
      · simp

/-- Only candidates are named. -/
theorem mem_of_mem_closest (text : String) (candidates : List String) (t : String)
    (h : t ∈ closest text candidates) : t ∈ candidates := by
  simp only [closest, List.mem_map] at h
  obtain ⟨s, hs, rfl⟩ := h
  have := List.mem_of_mem_take hs
  simp only [List.mem_mergeSort, List.mem_filter, List.mem_map] at this
  obtain ⟨⟨c, hc, rfl⟩, -⟩ := this
  exact hc

end TopologySubmission.CloseMatch
