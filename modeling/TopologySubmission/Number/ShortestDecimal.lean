import TopologySubmission.Number.Binary64

/-!
# The shortest decimal of a binary number

`shortest m e` is the decimal `digits * 10 ^ exponent` with the fewest digits that rounds to the
number `m * 2 ^ e` again; of two such decimals it is the nearer one. The search goes through the
decimal grids from coarse to fine and tests the two neighbours of the number on each grid, in exact
integers, against the interval of values that round to the number.

`Binary64.text` writes that decimal: positional from `0.0001` up to below `10 ^ 16`, always with a
point, and otherwise with an exponent of a sign and at least two digits.
-/

namespace TopologySubmission.Binary64

/-! ## Algorithm -/

/-- The values that round to a number: `low`, the number itself and `high`, over one denominator,
and whether the ends belong to them. -/
structure RoundingInterval where
  low : Nat
  value : Nat
  high : Nat
  den : Nat
  closed : Bool

/-- The values that round to `m * 2 ^ e`. Below a power of two the numbers lie twice as close. -/
def roundingInterval (m : Nat) (e : Int) : RoundingInterval :=
  let unit := pow2 e
  let lowGap := if m = pow2 52 && minExponent < e then 1 else 2
  { low := (4 * m - lowGap) * unit, value := 4 * m * unit, high := (4 * m + 2) * unit,
    den := 4 * pow2 (-e), closed := m % 2 == 0 }

/-- The decimal `c * 10 ^ k` rounds to the number of the interval. -/
def RoundingInterval.contains (r : RoundingInterval) (k : Int) (c : Nat) : Bool :=
  let up := pow10 (-k)
  let unit := r.den * pow10 k
  if r.closed then r.low * up ≤ c * unit && c * unit ≤ r.high * up
  else r.low * up < c * unit && c * unit < r.high * up

/-- The neighbour of the value on the grid of `10 ^ k` that rounds to the number, if one does. -/
def gridHit? (r : RoundingInterval) (k : Int) : Option Nat :=
  let scaled := r.value * pow10 (-k)
  let unit := r.den * pow10 k
  let nearer := roundHalfEven scaled unit
  let below := scaled / unit
  let other := if nearer = below then below + 1 else below
  [nearer, other].find? (r.contains k)

/-- The first hit on a list of grids, with its grid. -/
def firstHit (r : RoundingInterval) : List Int → Option (Nat × Int)
  | [] => none
  | k :: ks =>
    match gridHit? r k with
    | some c => some (c, k)
    | none => firstHit r ks

/-- Moves zeros at the end of the digits into the exponent, at most `fuel` of them. -/
def dropZeros : Nat → Nat → Int → Nat × Int
  | 0, c, k => (c, k)
  | fuel + 1, c, k => if c % 10 = 0 && c ≠ 0 then dropZeros fuel (c / 10) (k + 1) else (c, k)

/-- The shortest decimal that rounds to `m * 2 ^ e`, as digits and an exponent of ten. -/
def shortest (m : Nat) (e : Int) : Nat × Int :=
  if m = 0 then (0, 0)
  else
    let r := roundingInterval m e
    let size (n : Nat) : Int := ((Nat.toDigits 10 n).length : Int)
    let top := size r.value - size r.den + 1
    match firstHit r ((List.range 20).map fun (n : Nat) => top - n) with
    | some (c, k) => dropZeros 20 c k
    | none => (0, 0)

/-- Digits with a point after the first `place` of them, filled up with zeros. -/
def positional (digits : List Char) (place : Int) : List Char :=
  if place ≤ 0 then '0' :: '.' :: List.replicate (-place).toNat '0' ++ digits
  else if (digits.length : Int) ≤ place then
    digits ++ List.replicate (place.toNat - digits.length) '0' ++ ['.', '0']
  else digits.take place.toNat ++ '.' :: digits.drop place.toNat

/-- Digits with a point after the first one, and an exponent. -/
def scientific (digits : List Char) (exponent : Int) : List Char :=
  let mantissa := match digits with
    | [] => []
    | [d] => [d]
    | d :: r => d :: '.' :: r
  let size := Nat.toDigits 10 exponent.natAbs
  let padded := if size.length < 2 then '0' :: size else size
  mantissa ++ 'e' :: (if exponent < 0 then '-' else '+') :: padded

/-- The text of a number. -/
def text : Binary64 → String
  | .nan => "nan"
  | .infinity s => if s then "-inf" else "inf"
  | .finite s m e =>
    let (c, k) := shortest m e
    let digits := Nat.toDigits 10 c
    let place := (digits.length : Int) + k
    let body :=
      if -4 < place && place ≤ 16 then positional digits place
      else scientific digits (place - 1)
    String.ofList (if s then '-' :: body else body)

example : text zero = "0.0" := by decide +kernel

/-! ## Lemmas -/

/-- A hit of the grid search rounds to the number. -/
theorem contains_of_gridHit? (r : RoundingInterval) (k : Int) (c : Nat)
    (h : gridHit? r k = some c) : r.contains k c = true := List.find?_some h

/-- The search stops at the first grid with a hit. -/
theorem firstHit_eq_some (r : RoundingInterval) (ks : List Int) (c : Nat) (k : Int)
    (h : firstHit r ks = some (c, k)) : k ∈ ks ∧ r.contains k c = true := by
  induction ks with
  | nil => simp [firstHit] at h
  | cons j js ih =>
    simp only [firstHit] at h
    split at h
    · next c' hj =>
      simp only [Option.some.injEq, Prod.mk.injEq] at h
      obtain ⟨rfl, rfl⟩ := h
      exact ⟨List.mem_cons_self, contains_of_gridHit? _ _ _ hj⟩
    · obtain ⟨h1, h2⟩ := ih h
      exact ⟨List.mem_cons_of_mem _ h1, h2⟩

end TopologySubmission.Binary64
