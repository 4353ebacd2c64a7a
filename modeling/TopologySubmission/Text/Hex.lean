/-!
# Numbers in a fixed number of hexadecimal digits

`hex w n` is the last `w` hexadecimal digits of `n`, high digit first, in lower case; `readHex`
reads digits of either case back:

    a number of at most `w` digits is read back      (readHex_hex)
-/

namespace TopologySubmission.Text

/-! ## Algorithm -/

/-- A digit below sixteen, letters in lower case. -/
def hexDigit (d : Nat) : Char :=
  if d < 10 then Char.ofNat (48 + d) else Char.ofNat (87 + d)

/-- The last `w` hexadecimal digits of a number, high digit first. -/
def hex : Nat → Nat → List Char
  | 0, _ => []
  | w + 1, n => hex w (n / 16) ++ [hexDigit (n % 16)]

/-- The same digits with capital letters. -/
def hexUpper (w n : Nat) : List Char := (hex w n).map Char.toUpper

/-- The value of a hexadecimal digit of either case. -/
def hexValue? (c : Char) : Option Nat :=
  if '0' ≤ c && c ≤ '9' then some (c.toNat - 48)
  else if 'a' ≤ c && c ≤ 'f' then some (c.toNat - 87)
  else if 'A' ≤ c && c ≤ 'F' then some (c.toNat - 55)
  else none

/-- Reads hexadecimal digits onto a number read so far. -/
def readHexFrom : Nat → List Char → Option Nat
  | n, [] => some n
  | n, c :: r => (hexValue? c).bind fun d => readHexFrom (n * 16 + d) r

/-- The number that hexadecimal digits write. -/
def readHex (digits : List Char) : Option Nat := readHexFrom 0 digits

/-! ## Lemmas -/

theorem hexValue?_hexDigit : ∀ d, d < 16 → hexValue? (hexDigit d) = some d := by decide

theorem readHexFrom_append (n : Nat) (a b : List Char) :
    readHexFrom n (a ++ b) = (readHexFrom n a).bind fun m => readHexFrom m b := by
  induction a generalizing n with
  | nil => rfl
  | cons c r ih =>
    simp only [List.cons_append, readHexFrom]
    cases hexValue? c with
    | none => rfl
    | some d => simp [ih]

theorem length_hex (w n : Nat) : (hex w n).length = w := by
  induction w generalizing n with
  | zero => rfl
  | succ w ih => simp [hex, ih]

/-- A number of at most `w` digits is read back. -/
theorem readHex_hex (w n : Nat) (h : n < Nat.pow 16 w) : readHex (hex w n) = some n := by
  induction w generalizing n with
  | zero => simp at h; subst h; rfl
  | succ w ih =>
    have hq : n / 16 < Nat.pow 16 w := by
      rw [Nat.div_lt_iff_lt_mul (by decide)]; exact h
    have := ih _ hq
    simp only [readHex] at this
    simp only [readHex, hex, readHexFrom_append, this, Option.bind_some, readHexFrom,
      hexValue?_hexDigit _ (Nat.mod_lt n (by decide)), Option.some.injEq]
    omega

end TopologySubmission.Text
