import TopologySubmission.Failure.Basic

/-!
# The order of keys

Keys are listed in order where a mapping is written down. Numbers and truth values compare by
value, texts by character, bytes by byte, dates and moments by the calendar. Keys of different
kinds have no order, nor do moments of which one alone knows its distance from universal time.

    sortByKey keeps exactly the rows it is given      (sortByKey_perm)
-/

namespace TopologySubmission

/-! ## Algorithm -/

namespace Value

/-- A number among values. -/
inductive Numeric where
  | int (n : Int)
  | real (x : Binary64)

def numeric? : Value → Option Numeric
  | .bool b => some (.int (if b then 1 else 0))
  | .int n => some (.int n)
  | .float x => some (.real x)
  | _ => none

def Numeric.lt : Numeric → Numeric → Bool
  | .int m, .int n => m < n
  | .int m, .real y => Binary64.intLt m y
  | .real x, .int n => Binary64.ltInt x n
  | .real x, .real y => Binary64.lt x y

/-- The failure of comparing two keys that have no order. -/
def noOrder (a b : Value) : Failure :=
  .wrongKind (.incomparable a.kindName b.kindName)

/-- The first key comes before the second. -/
def before (a b : Value) : Except Failure Bool :=
  match a, b with
  | .text s, .text t => .ok (s < t)
  | .bytes s, .bytes t => .ok (s < t)
  | .date s, .date t => .ok (s.ordinal < t.ordinal)
  | .moment s, .moment t =>
    match s.offset, t.offset with
    | none, none => .ok (s.wallMicroseconds < t.wallMicroseconds)
    | some p, some q =>
      .ok (s.wallMicroseconds - p * 1000000 < t.wallMicroseconds - q * 1000000)
    | _, _ => .error (.wrongKind .momentsIncomparable)
  | a, b =>
    match a.numeric?, b.numeric? with
    | some m, some n => .ok (m.lt n)
    | _, _ => .error (noOrder a b)

/-- The first failure among the comparisons of neighbours, if there is one. -/
def checkNeighbours : List Value → Except Failure Unit
  | a :: b :: rest => do
    let _ ← before b a
    checkNeighbours (b :: rest)
  | _ => .ok ()

/-- The first key does not come after the second. -/
def notAfter (a b : Value) : Bool :=
  match before b a with
  | .ok x => !x
  | .error _ => true

/-- Rows in the order of their keys, equal keys in the order given. -/
def sortByKey {α : Type} (key : α → Value) (rows : List α) : Except Failure (List α) := do
  checkNeighbours (rows.map key)
  return rows.mergeSort fun x y => notAfter (key x) (key y)

/-! ## Lemmas -/

/-- Sorting keeps exactly the rows it is given. -/
theorem sortByKey_perm {α : Type} (key : α → Value) (rows sorted : List α)
    (h : sortByKey key rows = .ok sorted) : sorted.Perm rows := by
  simp only [sortByKey] at h
  cases hc : checkNeighbours (rows.map key) with
  | error e => rw [hc] at h; simp [bind, Except.bind] at h
  | ok _ =>
    rw [hc] at h
    simp only [bind, Except.bind, pure, Except.pure, Except.ok.injEq] at h
    subst h
    exact List.mergeSort_perm _ _

/-- Texts have an order. -/
theorem checkNeighbours_texts (ks : List String) : checkNeighbours (ks.map .text) = .ok () := by
  induction ks with
  | nil => rfl
  | cons k ks ih =>
    cases ks with
    | nil => rfl
    | cons k' ks => exact ih

end Value

end TopologySubmission
