import TopologySubmission.Text.Hex
import TopologySubmission.Text.Printable

/-!
# Quoted texts in messages

A text inside a message is quoted so that its ends and its odd characters show. Single quotes are
used unless the text holds one and no double quote. The quote in use and the backslash get a
backslash; tab, line feed and carriage return have short names; every other character that is not
printable is written by its number, in two, four or eight hexadecimal digits.

Bytes are quoted in the same way after a `b`, all but the printable ASCII by number.
-/

namespace TopologySubmission.Text

/-! ## Algorithm -/

/-- The quote around a text: double only if the text has a single quote and no double one. -/
def quoteFor (s : List Char) : Char :=
  if s.contains '\'' && !s.contains '"' then '"' else '\''

/-- The escapes that a quoted text and quoted bytes share. -/
def escapeCommon (quote c : Char) : Option (List Char) :=
  if c == quote || c == '\\' then some ['\\', c]
  else if c == '\t' then some ['\\', 't']
  else if c == '\n' then some ['\\', 'n']
  else if c == '\r' then some ['\\', 'r']
  else none

/-- One character of a quoted text. -/
def quoteChar (quote c : Char) : List Char :=
  match escapeCommon quote c with
  | some e => e
  | none =>
    if isPrintable c then [c]
    else if c.toNat < 0x100 then '\\' :: 'x' :: hex 2 c.toNat
    else if c.toNat < 0x10000 then '\\' :: 'u' :: hex 4 c.toNat
    else '\\' :: 'U' :: hex 8 c.toNat

/-- The text in quotes. -/
def quoted (s : String) : String :=
  let q := quoteFor s.toList
  String.ofList (q :: s.toList.flatMap (quoteChar q) ++ [q])

/-- One byte of quoted bytes. -/
def quoteByte (quote : Char) (b : UInt8) : List Char :=
  let c := Char.ofNat b.toNat
  match escapeCommon quote c with
  | some e => e
  | none => if 0x20 ≤ b && b < 0x7F then [c] else '\\' :: 'x' :: hex 2 b.toNat

/-- The bytes in quotes, after a `b`. -/
def quotedBytes (bytes : List UInt8) : String :=
  let q := quoteFor (bytes.map fun b => Char.ofNat b.toNat)
  String.ofList ('b' :: q :: bytes.flatMap (quoteByte q) ++ [q])

/-! ## Lemmas -/

theorem quoteFor_eq (s : List Char) : quoteFor s = '"' ∨ quoteFor s = '\'' := by
  unfold quoteFor; split <;> simp

/-- A printable character other than the quote and the backslash stands for itself. -/
theorem quoteChar_plain (quote c : Char) (h : isPrintable c = true) (hq : c ≠ quote)
    (hb : c ≠ '\\') : quoteChar quote c = [c] := by
  have ht : c ≠ '\t' := by rintro rfl; exact absurd h (by decide)
  have hn : c ≠ '\n' := by rintro rfl; exact absurd h (by decide)
  have hr : c ≠ '\r' := by rintro rfl; exact absurd h (by decide)
  simp [quoteChar, escapeCommon, hq, hb, ht, hn, hr, h]

end TopologySubmission.Text
