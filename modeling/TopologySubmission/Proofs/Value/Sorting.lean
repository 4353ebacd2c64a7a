import TopologySubmission.Value.Order

/-!
# Sorting that can be computed

Rows are sorted by a recursion that is not structural, which does not compute inside proofs. The same
sort by structural recursion, on the first row to merge and on a bound for the length, gives the same
rows in every order, so runs that write keys in order can be computed:

    merge le xs ys = xs.merge ys le                         (merge_eq)
    sortByKey sorts within the length of its rows           (sortByKey_eq)
-/

namespace TopologySubmission

namespace Sorting

/-! ## Algorithm -/

variable {α : Type}

/-- Merges a first element, with the rest behind it, into a row. -/
def mergeFirst (le : α → α → Bool) (x : α) (rest : List α → List α) : List α → List α
  | [] => x :: rest []
  | y :: ys => if le x y then x :: rest (y :: ys) else y :: mergeFirst le x rest ys

/-- Merges two rows, the first row's elements before equal ones of the second. -/
def merge (le : α → α → Bool) : List α → List α → List α
  | [], ys => ys
  | x :: xs, ys => mergeFirst le x (merge le xs) ys

/-- Sorts rows of up to `n` elements. -/
def sortWithin (le : α → α → Bool) : Nat → List α → List α
  | 0, xs => xs
  | _ + 1, [] => []
  | _ + 1, [x] => [x]
  | n + 1, x :: y :: zs =>
    let half := ((x :: y :: zs).length + 1) / 2
    merge le (sortWithin le n ((x :: y :: zs).take half))
      (sortWithin le n ((x :: y :: zs).drop half))

/-! ## Lemmas -/

theorem merge_eq (le : α → α → Bool) (xs ys : List α) : merge le xs ys = xs.merge ys le := by
  induction xs generalizing ys with
  | nil => simp [merge]
  | cons x xs ih =>
    rw [merge]
    induction ys with
    | nil => simp [mergeFirst, ih]
    | cons y ys ihy => rw [mergeFirst, ih, ihy, List.cons_merge_cons]

theorem sortWithin_eq (le : α → α → Bool) (n : Nat) (xs : List α) (h : xs.length ≤ n) :
    sortWithin le n xs = xs.mergeSort le := by
  induction n generalizing xs with
  | zero =>
    obtain rfl : xs = [] := List.length_eq_zero_iff.mp (Nat.le_zero.mp h)
    rw [sortWithin, List.mergeSort_nil]
  | succ n ih =>
    cases xs with
    | nil => rw [sortWithin, List.mergeSort_nil]
    | cons x xs =>
      cases xs with
      | nil => rw [sortWithin, List.mergeSort_singleton]
      | cons y zs =>
        have hfirst : ((x :: y :: zs).take (((x :: y :: zs).length + 1) / 2)).length ≤ n := by
          simp only [List.length_take, List.length_cons] at h ⊢
          omega
        have hsecond : ((x :: y :: zs).drop (((x :: y :: zs).length + 1) / 2)).length ≤ n := by
          simp only [List.length_drop, List.length_cons] at h ⊢
          omega
        rw [sortWithin, ih _ hfirst, ih _ hsecond, merge_eq, List.mergeSort]
        simp only [List.MergeSort.Internal.splitInTwo_fst, List.MergeSort.Internal.splitInTwo_snd]

end Sorting

/-- Rows in the order of their keys, by a sort that can be computed. -/
theorem Value.sortByKey_eq {α : Type} (key : α → Value) :
    sortByKey key = fun rows => do
      checkNeighbours (rows.map key)
      return Sorting.sortWithin (fun x y => notAfter (key x) (key y)) rows.length rows := by
  funext rows
  rw [sortByKey, Sorting.sortWithin_eq _ _ _ (Nat.le_refl _)]

end TopologySubmission
