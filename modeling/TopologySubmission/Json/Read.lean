import TopologySubmission.Json.Text
import TopologySubmission.Value.Entries
import TopologySubmission.Value.Number

/-!
# Values read from JSON

A document is one value with blanks around it. A fault is reported with its words and its place. The
words `NaN`, `Infinity` and `-Infinity` are numbers too; of two entries with one key the later one
counts. Rows and mappings may lie in one another to any depth, as no limit on recursion is kept. A text
has no halves of surrogate pairs: one that is written by itself is read as the replacement character.
-/

namespace TopologySubmission.Json

/-! ## Algorithm -/

/-- A blank of JSON. -/
def isBlank (c : Char) : Bool := c == ' ' || c == '\t' || c == '\n' || c == '\r'

def skipBlanks (s : List Char) : List Char := s.dropWhile isBlank

def expectingValue (left : Nat) : Fault := .malformed "Expecting value" left

/-- The words that stand for values. -/
def wordValues : List (String × Value) :=
  [("null", .null), ("true", .bool true), ("false", .bool false), ("NaN", .float .nan),
    ("Infinity", .float (.infinity false)), ("-Infinity", .float (.infinity true))]

/-- Drops a word in front of a text. -/
def dropWord (word s : List Char) : Option (List Char) :=
  if word.isPrefixOf s then some (s.drop word.length) else none

/-- Reads one of the words. -/
def word? (s : List Char) : Option (Value × List Char) :=
  wordValues.findSome? fun w => (dropWord w.1.toList s).map fun rest => (w.2, rest)

/-- Takes the digits in front of a text. -/
def takeDigits (s : List Char) : List Char × List Char :=
  (s.takeWhile Char.isDigit, s.dropWhile Char.isDigit)

/-- The digits before the point: one zero, or digits that start with none. -/
def wholeDigits (s : List Char) : Option (List Char × List Char) :=
  match s with
  | '0' :: r => some (['0'], r)
  | c :: _ => if c.isDigit then some (takeDigits s) else none
  | [] => none

/-- A point with digits after it. -/
def fractionPart (s : List Char) : List Char × List Char :=
  match s with
  | '.' :: d :: r =>
    if d.isDigit then ('.' :: d :: (takeDigits r).1, (takeDigits r).2) else ([], s)
  | _ => ([], s)

/-- The mark of an exponent with its digits. -/
def exponentPart (s : List Char) : List Char × List Char :=
  match s with
  | e :: r =>
    if e == 'e' || e == 'E' then
      let (sign, q) := match r with
        | '+' :: q => (['+'], q)
        | '-' :: q => (['-'], q)
        | q => ([], q)
      if (takeDigits q).1.isEmpty then ([], s)
      else (e :: sign ++ (takeDigits q).1, (takeDigits q).2)
    else ([], s)
  | [] => ([], s)

/-- The value of a number that was read. -/
def numberValue (whole fraction exponent : List Char) : Except Failure Value :=
  let text := String.ofList (whole ++ fraction ++ exponent)
  if fraction.isEmpty && exponent.isEmpty then (Value.integerOfText 10 text).map .int
  else (Value.realOfText text).map .float

theorem numberValue_foreign (whole fraction exponent : List Char) :
    Failure.AreForeign (numberValue whole fraction exponent) := by
  unfold numberValue
  dsimp only
  split
  · exact .map _ (Value.integerOfText_foreign 10 _)
  · exact .map _ (Value.realOfText_foreign _)

/-- Reads a number. -/
def number (s : List Char) : Except Fault (Value × List Char) :=
  let (sign, body) := match s with
    | '-' :: r => (['-'], r)
    | r => ([], r)
  match wholeDigits body with
  | none => .error (expectingValue s.length)
  | some (whole, rest) =>
    let (fraction, rest) := fractionPart rest
    let (exponent, rest) := exponentPart rest
    (Failure.asFaults .failed (numberValue (sign ++ whole) fraction exponent)
      (numberValue_foreign _ _ _)).map (·, rest)

/-- Reads what stands between two parts of a row or a mapping: true if another part follows. -/
def separator (close : Char) (s : List Char) : Except Fault (Bool × List Char) :=
  match skipBlanks s with
  | [] => .error (.malformed "Expecting ',' delimiter" 0)
  | c :: r =>
    if c == close then .ok (false, r)
    else if c == ',' then .ok (true, skipBlanks r)
    else .error (.malformed "Expecting ',' delimiter" (r.length + 1))

/-- Reads the colon after a key. -/
def colon (s : List Char) : Except Fault (List Char) :=
  match skipBlanks s with
  | ':' :: r => .ok (skipBlanks r)
  | r => .error (.malformed "Expecting ':' delimiter" r.length)

/-- Reads the quote of a key and the key. -/
def key (s : List Char) : Except Fault (String × List Char) :=
  match s with
  | '"' :: r =>
    match textFrom s.length r with
    | .ok (cs, rest) => .ok (String.ofList cs, rest)
    | .error e => .error e
  | _ => .error (.malformed "Expecting property name enclosed in double quotes" s.length)

mutual

/-- Reads a value; at most `fuel` steps deep. -/
def value : Nat → List Char → Except Fault (Value × List Char)
  | 0, s => .error (expectingValue s.length)
  | fuel + 1, s =>
    match s with
    | [] => .error (expectingValue 0)
    | '"' :: r => do
      let (cs, rest) ← textFrom s.length r
      return (.text (String.ofList cs), rest)
    | '[' :: r =>
      match skipBlanks r with
      | ']' :: rest => .ok (.list [], rest)
      | r => do
        let (items, rest) ← items fuel r
        return (.list items, rest)
    | '\x7b' :: r =>
      match skipBlanks r with
      | '\x7d' :: rest => .ok (.map [], rest)
      | r => do
        let (es, rest) ← entries fuel r
        return (.map (Entries.ofList es), rest)
    | s =>
      match word? s with
      | some r => .ok r
      | none => number s

/-- Reads the values of a row and its end. -/
def items : Nat → List Char → Except Fault (List Value × List Char)
  | 0, s => .error (expectingValue s.length)
  | fuel + 1, s => do
    let (v, rest) ← value fuel s
    let (more, rest) ← separator ']' rest
    if more then
      let (vs, rest) ← items fuel rest
      return (v :: vs, rest)
    else return ([v], rest)

/-- Reads the entries of a mapping and its end. -/
def entries : Nat → List Char → Except Fault (Entries × List Char)
  | 0, s => .error (expectingValue s.length)
  | fuel + 1, s => do
    let (k, rest) ← key s
    let (v, rest) ← value fuel (← colon rest)
    let (more, rest) ← separator '\x7d' rest
    if more then
      let (es, rest) ← entries fuel rest
      return ((.text k, v) :: es, rest)
    else return ([(.text k, v)], rest)

end

/-- A document may not start with the mark of a byte order. -/
def checkMark (s : List Char) : Except Fault Unit :=
  if s.head? == some (Char.ofNat 0xFEFF) then
    .error (.malformed "Unexpected UTF-8 BOM (decode using utf-8-sig)" s.length)
  else .ok ()

/-- The value of a document. -/
def valueOf (s : List Char) : Except Fault Value := do
  checkMark s
  let (v, rest) ← value (2 * s.length + 2) (skipBlanks s)
  match skipBlanks rest with
  | [] => return v
  | r => throw (.malformed "Extra data" r.length)

/-- The value of a document, or the failure with its place. -/
def read (s : String) : Except Failure Value :=
  match valueOf s.toList with
  | .ok v => .ok v
  | .error (.failed f _) => .error f
  | .error (.malformed what left) => .error (.json ⟨what, s, s.toList.length - left⟩)

end TopologySubmission.Json
