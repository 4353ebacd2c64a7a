/-!
# Bytes written in base 64

Four characters write three bytes, and equals signs fill up the last group. Other characters do not
count. A group that ends after its first character, or is not filled up, is no base 64. Bytes are
written in lines of at most 76 characters, each with a line feed at its end.
-/

namespace TopologySubmission.Yaml

/-! ## Algorithm -/

/-- The value of a character of base 64. -/
def base64Value? (c : Char) : Option Nat :=
  if 'A' ≤ c && c ≤ 'Z' then some (c.toNat - 65)
  else if 'a' ≤ c && c ≤ 'z' then some (c.toNat - 71)
  else if c.isDigit then some (c.toNat + 4)
  else if c == '+' then some 62
  else if c == '/' then some 63
  else none

/-- Reads a group of which `place` characters, with the bits `left` still unused, were read, and
`fill` equals signs after them. -/
def base64From (place left fill : Nat) : List Char → Option (List UInt8)
  | [] => if place = 0 then some [] else none
  | c :: r =>
    if c == '=' then
      if 2 ≤ place && 4 ≤ place + fill + 1 then some []
      else base64From place left (if 2 ≤ place then fill + 1 else fill) r
    else
      match base64Value? c with
      | none => base64From place left fill r
      | some v =>
        match place with
        | 0 => base64From 1 v 0 r
        | 1 => (base64From 2 (v % 16) 0 r).map ((left * 4 + v / 16).toUInt8 :: ·)
        | 2 => (base64From 3 (v % 4) 0 r).map ((left * 16 + v / 4).toUInt8 :: ·)
        | _ => (base64From 0 0 0 r).map ((left * 64 + v).toUInt8 :: ·)

/-- The bytes that a text of base 64 writes. -/
def base64Bytes (s : List Char) : Option (List UInt8) := base64From 0 0 0 s

/-- The character that writes a value below 64. -/
def base64Char (v : Nat) : Char :=
  if v < 26 then Char.ofNat (v + 65)
  else if v < 52 then Char.ofNat (v + 71)
  else if v < 62 then Char.ofNat (v - 4)
  else if v = 62 then '+'
  else '/'

/-- Writes bytes in groups of four characters. -/
def base64Text : List UInt8 → List Char
  | [] => []
  | [a] => [base64Char (a.toNat / 4), base64Char (a.toNat % 4 * 16), '=', '=']
  | [a, b] =>
    [base64Char (a.toNat / 4), base64Char (a.toNat % 4 * 16 + b.toNat / 16),
      base64Char (b.toNat % 16 * 4), '=']
  | a :: b :: c :: r =>
    base64Char (a.toNat / 4) :: base64Char (a.toNat % 4 * 16 + b.toNat / 16) ::
      base64Char (b.toNat % 16 * 4 + c.toNat / 64) :: base64Char (c.toNat % 64) :: base64Text r

/-- The number of bytes in one line. -/
def base64LineBytes : Nat := 57

/-- Writes bytes line by line. -/
def base64Lines (b : List UInt8) : List Char :=
  if _h : b = [] then []
  else base64Text (b.take base64LineBytes) ++ '\n' :: base64Lines (b.drop base64LineBytes)
termination_by b.length
decreasing_by
  have := List.length_pos_iff.2 _h
  simp only [List.length_drop, base64LineBytes]
  omega

/-! ## Lemmas -/

theorem base64Value?_base64Char : ∀ v, v < 64 → base64Value? (base64Char v) = some v := by decide

theorem base64Value?_lt (c : Char) (n : Nat) (h : base64Value? c = some n) : n < 64 := by
  unfold base64Value? at h
  repeat' split at h
  all_goals simp only [Option.some.injEq, reduceCtorEq] at h
  all_goals try omega
  · next hc =>
    simp only [Bool.and_eq_true, decide_eq_true_eq] at hc
    have := hc.2
    rw [Char.le_def, UInt32.le_iff_toNat_le] at this
    change c.toNat ≤ 90 at this
    omega
  · next hc =>
    simp only [Bool.and_eq_true, decide_eq_true_eq] at hc
    have := hc.2
    rw [Char.le_def, UInt32.le_iff_toNat_le] at this
    change c.toNat ≤ 122 at this
    omega
  · next hc =>
    simp only [Char.isDigit, Bool.and_eq_true, decide_eq_true_eq] at hc
    have := hc.2
    rw [UInt32.le_iff_toNat_le] at this
    change c.toNat ≤ 57 at this
    omega

end TopologySubmission.Yaml
