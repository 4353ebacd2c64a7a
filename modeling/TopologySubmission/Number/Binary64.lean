/-!
# Binary floating point numbers of 64 bits

A number is not-a-number, an infinity, or a sign with `mantissa * 2 ^ exponent`, where the mantissa
has at most 53 bits and the exponent is as small as that allows, down to `-1074`. Every operation
computes with exact integers and rounds once, to the nearest number and a tie to the even mantissa.

    rounded num den, for den > 0, is the number nearest to num / den
    truncate? is the integer part of a finite number
-/

namespace TopologySubmission

/-- A binary floating point number of 64 bits. -/
inductive Binary64 where
  | nan
  | infinity (negative : Bool)
  | finite (negative : Bool) (mantissa : Nat) (exponent : Int)
  deriving DecidableEq, Repr, Inhabited

namespace Binary64

/-! ## Algorithm -/

/-- The exponent of the smallest numbers. -/
def minExponent : Int := -1074

/-- The exponent of the largest numbers. -/
def maxExponent : Int := 971

/-- A power of two that is a natural number if the exponent is not negative, and one otherwise. -/
def pow2 (e : Int) : Nat := Nat.pow 2 e.toNat

/-- A power of ten that is a natural number if the exponent is not negative, and one otherwise. -/
def pow10 (e : Int) : Nat := Nat.pow 10 e.toNat

/-- The quotient rounded to the nearest integer, a tie to the even one. -/
def roundHalfEven (num den : Nat) : Nat :=
  let q := num / den
  let r := num % den
  if 2 * r < den then q
  else if den < 2 * r then q + 1
  else if q % 2 = 0 then q else q + 1

/-- Whether `num / den` is below `2 ^ e`. -/
def belowPow2 (num den : Nat) (e : Int) : Bool := num * pow2 (-e) < den * pow2 e

/-- The number nearest to `num / den` with the given sign, for a positive `den`. -/
def rounded (negative : Bool) (num den : Nat) : Binary64 :=
  if num = 0 then .finite negative 0 minExponent
  else
    let guess : Int := (num.log2 : Int) - den.log2
    let top := if belowPow2 num den guess then guess - 1 else guess
    let e := max (top - 52) minExponent
    let m := roundHalfEven (num * pow2 (-e)) (den * pow2 e)
    let (m, e) := if m = pow2 53 then (pow2 52, e + 1) else (m, e)
    if maxExponent < e then .infinity negative else .finite negative m e

def zero : Binary64 := .finite false 0 minExponent

/-- The number nearest to an integer; none if it is too large. -/
def ofInt? (n : Int) : Option Binary64 :=
  match rounded (n < 0) n.natAbs 1 with
  | .infinity _ => none
  | x => some x

/-- The number nearest to `digits * 10 ^ exponent`. Exponents far outside the range are decided
by the count of digits alone. -/
def ofDecimal (negative : Bool) (digits : Nat) (exponent : Int) : Binary64 :=
  let magnitude := ((Nat.toDigits 10 digits).length : Int) + exponent
  if digits = 0 || magnitude < -400 then .finite negative 0 minExponent
  else if 400 < magnitude then .infinity negative
  else rounded negative (digits * pow10 exponent) (pow10 (-exponent))

/-- A finite number as an exact fraction with a positive denominator. -/
def toFraction? : Binary64 → Option (Int × Nat)
  | .finite s m e =>
    let n : Int := m * pow2 e
    some (if s then -n else n, pow2 (-e))
  | _ => none

/-- The integer part of a finite number. -/
def truncate? (x : Binary64) : Option Int :=
  x.toFraction?.map fun f => Int.tdiv f.1 f.2

/-- The number is zero, of either sign. -/
def isZero : Binary64 → Bool
  | .finite _ m _ => m == 0
  | _ => false

/-- The number is zero or below; not-a-number is not. -/
def isZeroOrLess : Binary64 → Bool
  | .nan => false
  | .infinity s => s
  | .finite s m _ => s || m == 0

/-- The nearest number to an exact fraction; the sign of zero is given. -/
def ofFraction (zeroSign : Bool) (num : Int) (den : Nat) : Binary64 :=
  if num = 0 then .finite zeroSign 0 minExponent else rounded (num < 0) num.natAbs den

def isNegative : Binary64 → Bool
  | .nan => false
  | .infinity s => s
  | .finite s _ _ => s

/-- The number with the other sign. -/
def neg : Binary64 → Binary64
  | .nan => .nan
  | .infinity s => .infinity !s
  | .finite s m e => .finite (!s) m e

/-- The rounded sum. -/
def add (x y : Binary64) : Binary64 :=
  match x, y with
  | .nan, _ | _, .nan => .nan
  | .infinity s, .infinity t => if s == t then .infinity s else .nan
  | .infinity s, _ => .infinity s
  | _, .infinity t => .infinity t
  | .finite .., .finite .. =>
    match x.toFraction?, y.toFraction? with
    | some (a, b), some (c, d) =>
      ofFraction (x.isNegative && y.isNegative) (a * d + c * b) (b * d)
    | _, _ => .nan

/-- The rounded product. -/
def mul (x y : Binary64) : Binary64 :=
  let s := x.isNegative != y.isNegative
  match x, y with
  | .nan, _ | _, .nan => .nan
  | .infinity _, y => if y.isZero then .nan else .infinity s
  | x, .infinity _ => if x.isZero then .nan else .infinity s
  | .finite .., .finite .. =>
    match x.toFraction?, y.toFraction? with
    | some (a, b), some (c, d) => ofFraction s (a * c) (b * d)
    | _, _ => .nan

/-- Equality of value: not-a-number equals nothing, the two zeros are equal. -/
def valueEq (x y : Binary64) : Bool :=
  match x, y with
  | .nan, _ | _, .nan => false
  | x, y => x == y || (x.isZero && y.isZero)

/-- The number is the integer `n`. -/
def eqInt (x : Binary64) (n : Int) : Bool :=
  match x.toFraction? with
  | some (a, b) => a == n * b
  | none => false

/-- Strict order of value; not-a-number is below nothing and above nothing. -/
def lt (x y : Binary64) : Bool :=
  match x, y with
  | .nan, _ | _, .nan => false
  | .infinity s, .infinity t => s && !t
  | .infinity s, _ => s
  | _, .infinity t => !t
  | .finite .., .finite .. =>
    match x.toFraction?, y.toFraction? with
    | some (a, b), some (c, d) => a * d < c * b
    | _, _ => false

/-- Strict order between an integer and a number. -/
def intLt (n : Int) (y : Binary64) : Bool :=
  match y with
  | .nan => false
  | .infinity t => !t
  | .finite .. =>
    match y.toFraction? with
    | some (c, d) => n * d < c
    | none => false

/-- Strict order between a number and an integer. -/
def ltInt (x : Binary64) (n : Int) : Bool :=
  match x with
  | .nan => false
  | .infinity s => s
  | .finite .. =>
    match x.toFraction? with
    | some (a, b) => a < n * b
    | none => false

/-! ## Lemmas -/

theorem roundHalfEven_one (n : Nat) : roundHalfEven n 1 = n := by
  simp [roundHalfEven, Nat.mod_one]

/-- Rounding moves a quotient by half a unit at most. -/
theorem roundHalfEven_near (num den : Nat) (h : 0 < den) :
    2 * num ≤ 2 * den * roundHalfEven num den + den ∧
      2 * den * roundHalfEven num den ≤ 2 * num + den := by
  have hd := Nat.div_add_mod num den
  have hm := Nat.mod_lt num h
  have e : ∀ q, 2 * den * q = 2 * (den * q) := fun q => Nat.mul_assoc 2 den q
  have e1 : ∀ q, den * (q + 1) = den * q + den := fun q => Nat.mul_succ den q
  unfold roundHalfEven
  simp only
  split
  · rw [e]; omega
  · split
    · rw [e, e1]; omega
    · split
      · rw [e]; omega
      · rw [e, e1]; omega

end Binary64

end TopologySubmission
