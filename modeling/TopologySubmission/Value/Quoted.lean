import TopologySubmission.Number.Numeral
import TopologySubmission.Number.ShortestDecimal
import TopologySubmission.Text.Quoted
import TopologySubmission.Value.Basic

/-!
# Values in texts

`quoted` is the form of a value inside messages and inside other values; `plain` is the form of a
value that becomes part of a text. They differ for texts and dates, which `plain` writes without
quotes, and for a read-only mapping, which `plain` writes like the mapping that it shows. Inside other
values a read-only mapping shows its kind, as an empty set does everywhere. Read-only rows are in round
brackets, a row of one with a comma. An integer with too many digits is not to be written, nor is a
value that holds one.
-/

namespace TopologySubmission.Value

open Text

/-! ## Algorithm -/

mutual

/-- The form of a value inside a message. -/
def quoted : Value → String
  | .null => "None"
  | .bool b => if b then "True" else "False"
  | .int n => toString n
  | .float x => x.text
  | .text s => Text.quoted s
  | .bytes b => quotedBytes b
  | .date d => d.quoted
  | .moment t => t.quoted
  | .list xs => "[" ++ ", ".intercalate (quotedItems xs) ++ "]"
  | .tuple xs => "(" ++ ", ".intercalate (quotedItems xs) ++ (if xs.length = 1 then ",)" else ")")
  | .map es => "\x7b" ++ ", ".intercalate (quotedEntries es) ++ "\x7d"
  | .readOnlyMap es =>
    "mappingproxy(\x7b" ++ ", ".intercalate (quotedEntries es) ++ "\x7d)"
  | .set xs =>
    if xs.isEmpty then "set()" else "\x7b" ++ ", ".intercalate (quotedItems xs) ++ "\x7d"

/-- The forms of the values of a row. -/
def quotedItems : List Value → List String
  | [] => []
  | x :: xs => quoted x :: quotedItems xs

/-- The forms of the entries of a mapping. -/
def quotedEntries : Entries → List String
  | [] => []
  | (k, v) :: es => (quoted k ++ ": " ++ quoted v) :: quotedEntries es

end

mutual

/-- Every integer that the value holds has few enough digits to be written. -/
def isWritable : Value → Bool
  | .int n => (Nat.toDigits 10 n.natAbs).length ≤ maxDecimalDigits
  | .list xs => writableItems xs
  | .tuple xs => writableItems xs
  | .map es => writableEntries es
  | .readOnlyMap es => writableEntries es
  | .set xs => writableItems xs
  | _ => true

def writableItems : List Value → Bool
  | [] => true
  | x :: xs => isWritable x && writableItems xs

def writableEntries : Entries → Bool
  | [] => true
  | (k, v) :: es => isWritable k && isWritable v && writableEntries es

end

/-- The form of a value that becomes part of a text. -/
def plain : Value → String
  | .text s => s
  | .date d => d.text
  | .moment t => t.text
  | .readOnlyMap es => quoted (.map es)
  | v => quoted v

/-! ## Lemmas -/

@[simp] theorem plain_text (s : String) : plain (.text s) = s := rfl

end TopologySubmission.Value
