import TopologySubmission.Json.Text
import TopologySubmission.Value.Order
import TopologySubmission.Value.Quoted

/-!
# Values written as JSON

Rows and mappings are written on one line, with a blank after every comma and colon, and the entries
of a mapping in the order of their keys. Keys that are numbers, truth values or nothing are written
as texts. A value that JSON does not know is written as its text. An integer with too many digits is
not written at all. Values of any depth are written, as no limit on recursion is kept, and no text has
half of a surrogate pair to write.
-/

namespace TopologySubmission.Json

/-! ## Algorithm -/

/-- A real number; JSON knows words for those that are not finite. -/
def writtenReal (x : Binary64) : List Char :=
  match x with
  | .nan => "NaN".toList
  | .infinity s => (if s then "-Infinity" else "Infinity").toList
  | .finite .. => x.text.toList

/-- An integer, unless it has too many digits. -/
def writtenInteger (n : Int) : Except Failure (List Char) :=
  if (Nat.toDigits 10 n.natAbs).length ≤ maxDecimalDigits then .ok (toString n).toList
  else .error (.badValue .tooLongForText)

/-- A key as the text that it becomes. -/
def keyText (key : Value) : Except Failure String :=
  match key with
  | .text s => .ok s
  | .null => .ok "null"
  | .bool b => .ok (if b then "true" else "false")
  | .int n => (writtenInteger n).map String.ofList
  | .float x => .ok (String.ofList (writtenReal x))
  | v => .error (.wrongKind (.notAJsonKey v.kindName))

/-- Parts with a comma and a blank between them. -/
def joined : List (List Char) → List Char
  | [] => []
  | [p] => p
  | p :: ps => p ++ ',' :: ' ' :: joined ps

/-- An entry of a mapping with its value as JSON, if that can be written. -/
def writtenEntry (e : Value × Except Failure (List Char)) : Except Failure (List Char) := do
  return writtenText (← keyText e.1) ++ ':' :: ' ' :: (← e.2)

/-- A mapping with its values as JSON. The first failure in the order of the keys counts. -/
def writtenObject (es : List (Value × Except Failure (List Char))) :
    Except Failure (List Char) := do
  let sorted ← Value.sortByKey (·.1) es
  return '\x7b' :: joined (← sorted.mapM writtenEntry) ++ ['\x7d']

mutual

/-- A value as JSON. -/
def written : Value → Except Failure (List Char)
  | .null => .ok "null".toList
  | .bool b => .ok (if b then "true" else "false").toList
  | .int n => writtenInteger n
  | .float x => .ok (writtenReal x)
  | .text s => .ok (writtenText s)
  | .list xs => do return '[' :: joined (← writtenItems xs) ++ [']']
  | .tuple xs => do return '[' :: joined (← writtenItems xs) ++ [']']
  | .map es => writtenObject (writtenValues es)
  | v => do return writtenText (← v.asText)

def writtenItems : List Value → Except Failure (List (List Char))
  | [] => .ok []
  | x :: xs => do return (← written x) :: (← writtenItems xs)

/-- The entries of a mapping with their values as JSON. -/
def writtenValues : Entries → List (Value × Except Failure (List Char))
  | [] => []
  | (k, v) :: es => (k, written v) :: writtenValues es

end

/-- A mapping as a JSON document. -/
def document (es : Entries) : Except Failure String := do
  return String.ofList (← written (.map es))

end TopologySubmission.Json
