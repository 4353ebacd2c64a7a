import TopologySubmission.Text.Hex

/-!
# File locators

`fileUri p` is the locator of the file at the absolute path `p`. Letters, digits, `_.-~` and the
slash stand for themselves; every other byte of the path is a percent sign and two capital
hexadecimal digits.
-/

namespace TopologySubmission.Text

/-! ## Algorithm -/

/-- The byte stands for itself in a locator. -/
def isUriByte (b : UInt8) : Bool :=
  let c := Char.ofNat b.toNat
  b < 0x80 && (c.isAlphanum || "_.-~/".toList.contains c)

/-- One byte of a locator. -/
def uriByte (b : UInt8) : List Char :=
  if isUriByte b then [Char.ofNat b.toNat] else '%' :: hexUpper 2 b.toNat

/-- The locator of the file at an absolute path. -/
def fileUri (path : String) : String :=
  "file://" ++ String.ofList (path.toUTF8.toList.flatMap uriByte)

/-! ## Lemmas -/

/-- A byte of a locator is written as itself or as three characters. -/
theorem length_uriByte (b : UInt8) :
    (uriByte b).length = if isUriByte b then 1 else 3 := by
  unfold uriByte
  split
  · rfl
  · simp [hexUpper, length_hex]

end TopologySubmission.Text
