import TopologySubmission.Number.Binary64
import TopologySubmission.Text.Blank
import TopologySubmission.Text.DecimalDigit
import TopologySubmission.Text.LetterCase

/-!
# Reading numbers from text

An integer is a sign and digits of its base, a real number a sign, digits with a point and an
exponent. Blanks may stand around both, digits of any script count, and a single underscore may
stand between two digits.

    digitRun reads a whole run of digits or nothing      (digitRun_length)
    readInt never answers a decimal of more than 4300 digits
-/

namespace TopologySubmission

open Text

/-! ## Algorithm -/

/-- Why a text is not an integer. -/
inductive NumeralError where
  | malformed
  | tooManyDigits (count : Nat)
  deriving DecidableEq, Repr

/-- The most digits that a decimal integer may have. -/
def maxDecimalDigits : Nat := 4300

/-- The blanks around a number: those of ASCII, without the separators, and those beyond it. -/
def isNumberBlank (c : Char) : Bool :=
  if c.toNat < 0x80 then c == ' ' || (0x09 ≤ c.toNat && c.toNat ≤ 0x0D) else isBlank c

/-- The values of a run of digits, with single underscores between digits. -/
def digitRun (digit? : Char → Option Nat) : List Char → Option (List Nat)
  | [] => none
  | [c] => (digit? c).map ([·])
  | c :: '_' :: r => (digit? c).bind fun d => (digitRun digit? r).map (d :: ·)
  | c :: r => (digit? c).bind fun d => (digitRun digit? r).map (d :: ·)

/-- The number that digits write in a base. -/
def ofDigits (base : Nat) (digits : List Nat) : Nat := digits.foldl (fun n d => n * base + d) 0

/-- A leading sign; true is minus. -/
def splitSign : List Char → Bool × List Char
  | '-' :: r => (true, r)
  | '+' :: r => (false, r)
  | s => (false, s)

/-- The letter that marks a base, for the bases that have one. -/
def baseLetter? : Nat → Option Char
  | 2 => some 'b'
  | 8 => some 'o'
  | 16 => some 'x'
  | _ => none

/-- The digits after a mark such as `0x`; an underscore may follow the mark. -/
def afterBaseMark (base : Nat) (s : List Char) : List Char :=
  match s, baseLetter? base with
  | '0' :: c :: r, some l =>
    if c.toLower = l then
      match r with
      | '_' :: d :: q => d :: q
      | _ => r
    else s
  | s, _ => s

/-- Reads a text as an integer of a base. -/
def readInt (base : Nat) (s : String) : Except NumeralError Int :=
  let (negative, body) := splitSign (trim isNumberBlank s.toList)
  match digitRun (baseDigit? base) (afterBaseMark base body) with
  | none => .error .malformed
  | some digits =>
    if base = 10 && maxDecimalDigits < digits.length then .error (.tooManyDigits digits.length)
    else
      let n : Int := ofDigits base digits
      .ok (if negative then -n else n)

/-- A run of digits or nothing at all. -/
def optionalRun (s : List Char) : Option (List Nat) :=
  if s.isEmpty then some [] else digitRun digitValue? s

/-- Reads a decimal without sign: digits, perhaps a point and more digits, perhaps an exponent. -/
def readDecimal (s : List Char) : Option (Nat × Int) :=
  let isE (c : Char) : Bool := c == 'e' || c == 'E'
  let mantissa := s.takeWhile (!isE ·)
  let exponent := s.dropWhile (!isE ·)
  let whole := mantissa.takeWhile (· != '.')
  let fraction := (mantissa.dropWhile (· != '.')).drop 1
  if whole.isEmpty && fraction.isEmpty then none
  else do
    let w ← optionalRun whole
    let f ← optionalRun fraction
    let e ← match exponent with
      | [] => some 0
      | _ :: r =>
        let (negative, digits) := splitSign r
        (digitRun digitValue? digits).map fun d =>
          let n : Int := ofDigits 10 d
          if negative then -n else n
    pure (ofDigits 10 (w ++ f), e - f.length)

/-- Reads a text as a real number. -/
def readFloat? (s : String) : Option Binary64 :=
  let (negative, body) := splitSign (trim isNumberBlank s.toList)
  let word := String.ofList (body.map Char.toLower)
  if word = "inf" || word = "infinity" then some (.infinity negative)
  else if word = "nan" then some .nan
  else (readDecimal body).map fun d => .ofDecimal negative d.1 d.2

/-! ## Lemmas -/

/-- Every digit of a run takes at least one character. -/
theorem digitRun_length (digit? : Char → Option Nat) (s : List Char) (ds : List Nat)
    (h : digitRun digit? s = some ds) : 0 < ds.length ∧ ds.length ≤ s.length := by
  fun_induction digitRun digit? s generalizing ds with
  | case1 => simp at h
  | case2 c =>
    obtain ⟨d, _, rfl⟩ := Option.map_eq_some_iff.1 h
    simp
  | case3 c r ih =>
    obtain ⟨d, _, hd⟩ := Option.bind_eq_some_iff.1 h
    obtain ⟨es, he, rfl⟩ := Option.map_eq_some_iff.1 hd
    have := ih es he
    simp only [List.length_cons]; omega
  | case4 c r _ _ ih =>
    obtain ⟨d, _, hd⟩ := Option.bind_eq_some_iff.1 h
    obtain ⟨es, he, rfl⟩ := Option.map_eq_some_iff.1 hd
    have := ih es he
    simp only [List.length_cons]; omega

end TopologySubmission
