import TopologySubmission.Failure.Basic
import TopologySubmission.Text.Hex

/-!
# Texts in JSON

A text is written in ASCII between double quotes. Quotes and backslashes get a backslash, the usual
control characters have short names, and every other character beyond printable ASCII is written by
its UTF-16 units, in four hexadecimal digits each. Reading takes any character but a control
character as it is.

    a character that stands for itself is read as itself      (textFrom_plain)
-/

namespace TopologySubmission.Json

/-! ## Algorithm -/

/-- Why a text is no JSON: the words for it and the number of characters left at the place, or a
value that fails in its own way, which is no error of a submission. -/
inductive Fault where
  | malformed (what : String) (left : Nat)
  | failed (f : Failure) (foreign : f.submissionError? = none)
  deriving Repr

/-- The short names of characters. -/
def shortNames : List (Char × Char) :=
  [('"', '"'), ('\\', '\\'), ('n', '\n'), ('r', '\r'), ('t', '\t'), ('f', Char.ofNat 0x0C),
    ('b', Char.ofNat 0x08)]

/-- A UTF-16 unit. -/
def writtenUnit (n : Nat) : List Char := '\\' :: 'u' :: Text.hex 4 n

/-- A character beyond the first plane starts with this unit and its high bits. -/
def highSurrogate (n : Nat) : Nat := 0xD800 + (n - 0x10000) / 0x400

/-- A character beyond the first plane ends with this unit and its low bits. -/
def lowSurrogate (n : Nat) : Nat := 0xDC00 + (n - 0x10000) % 0x400

/-- One character of a text. -/
def writtenChar (c : Char) : List Char :=
  match shortNames.find? (·.2 == c) with
  | some (name, _) => ['\\', name]
  | none =>
    if 0x20 ≤ c.toNat && c.toNat < 0x7F then [c]
    else if c.toNat < 0x10000 then writtenUnit c.toNat
    else writtenUnit (highSurrogate c.toNat) ++ writtenUnit (lowSurrogate c.toNat)

/-- A text in quotes. -/
def writtenText (s : String) : List Char := '"' :: s.toList.flatMap writtenChar ++ ['"']

/-- The character that a short name after a backslash stands for. -/
def namedChar? (name : Char) : Option Char :=
  if name == '/' then some '/' else shortNames.lookup name

/-- The unit is the first half of a character. -/
def isHighUnit (n : Nat) : Bool := 0xD800 ≤ n && n < 0xDC00

/-- The unit is the second half of a character. -/
def isLowUnit (n : Nat) : Bool := 0xDC00 ≤ n && n < 0xE000

/-- The character with a number; a lone half of a character has none. -/
def charOf (n : Nat) : Char := if 0xD800 ≤ n && n < 0xE000 then Char.ofNat 0xFFFD else Char.ofNat n

/-- The words for a text without its closing quote. -/
def unterminated (start : Nat) : Fault := .malformed "Unterminated string starting at" start

def badUnit (left : Nat) : Fault := .malformed "Invalid \\uXXXX escape" left

/-- Puts a character in front of a text that was read. -/
def consChar (c : Char) : Except Fault (List Char × List Char) →
    Except Fault (List Char × List Char)
  | .ok (cs, rest) => .ok (c :: cs, rest)
  | .error e => .error e

/-- Reads four hexadecimal digits, after which the text goes on. -/
def unit (s : List Char) : Except Fault (Nat × List Char) :=
  match s with
  | a :: b :: c :: d :: e :: r =>
    match Text.readHex [a, b, c, d] with
    | some n => .ok (n, e :: r)
    | none => .error (badUnit (s.length + 1))
  | _ => .error (badUnit (s.length + 1))

/-- What stands after the mark of a second unit, if one may follow. -/
def secondUnit? : List Char → Option (List Char)
  | '\\' :: 'u' :: r => if 4 < r.length then some r else none
  | _ => none

theorem length_unit {s r : List Char} {n : Nat} (h : unit s = .ok (n, r)) :
    r.length < s.length := by
  unfold unit at h
  split at h
  · split at h
    · simp only [Except.ok.injEq, Prod.mk.injEq] at h
      obtain ⟨_, rfl⟩ := h
      simp only [List.length_cons]; omega
    · simp at h
  · simp at h

theorem length_secondUnit? {s r : List Char} (h : secondUnit? s = some r) :
    r.length < s.length := by
  unfold secondUnit? at h
  split at h
  · simp only [Option.ite_none_right_eq_some, Option.some.injEq] at h
    obtain ⟨_, rfl⟩ := h
    simp only [List.length_cons]; omega
  · simp at h

/-- Reads a character that is written by one unit or two, from after the mark of the first. -/
def unitChar (s : List Char) : Except Fault (Char × { r : List Char // r.length < s.length }) :=
  match h : unit s with
  | .error e => .error e
  | .ok (n, rest) =>
    match h2 : if isHighUnit n then secondUnit? rest else none with
    | none => .ok (charOf n, ⟨rest, length_unit h⟩)
    | some after =>
      match h3 : unit after with
      | .error e => .error e
      | .ok (m, rest') =>
        if isLowUnit m then
          .ok (Char.ofNat (0x10000 + (n - 0xD800) * 0x400 + (m - 0xDC00)), ⟨rest', by
            have h4 := length_unit h
            have h5 := length_unit h3
            have h6 : secondUnit? rest = some after := by
              split at h2
              · exact h2
              · simp at h2
            have h7 := length_secondUnit? h6
            omega⟩)
        else .ok (charOf n, ⟨rest, length_unit h⟩)

/-- Reads a text from after its opening quote on, where `start` characters were left at the quote. -/
def textFrom (start : Nat) : List Char → Except Fault (List Char × List Char)
  | [] => .error (unterminated start)
  | c :: r =>
    if c == '"' then .ok ([], r)
    else if c == '\\' then
      match r with
      | [] => .error (unterminated start)
      | 'u' :: q =>
        match unitChar q with
        | .error e => .error e
        | .ok (x, ⟨rest, _⟩) => consChar x (textFrom start rest)
      | name :: q =>
        match namedChar? name with
        | some x => consChar x (textFrom start q)
        | none => .error (.malformed "Invalid \\escape" (q.length + 2))
    else if c.toNat ≤ 0x1F then
      .error (.malformed "Invalid control character at" (r.length + 1))
    else consChar c (textFrom start r)
termination_by s => s.length
decreasing_by all_goals simp only [List.length_cons]; omega

/-! ## Lemmas -/

/-- A character that stands for itself is read as itself. -/
theorem textFrom_plain (start : Nat) (c : Char) (r : List Char) (hq : c ≠ '"') (hb : c ≠ '\\')
    (hc : 0x1F < c.toNat) : textFrom start (c :: r) = consChar c (textFrom start r) := by
  have h : ¬ c.toNat ≤ 0x1F := by omega
  rw [textFrom.eq_def]
  simp [hq, hb, h]

end TopologySubmission.Json
