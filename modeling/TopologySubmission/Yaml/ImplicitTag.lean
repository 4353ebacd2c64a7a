import TopologySubmission.Text.DecimalDigit
import TopologySubmission.Yaml.Line

/-!
# Tags of plain scalars

A plain scalar without a tag gets the tag of the first form that its text has: truth value, real
number, integer, merge mark, nothing, moment, value mark; any other is a text. Numbers may have
underscores and may be written to the base of sixty, integers to the bases two, eight and sixteen.
A line feed at the end of a text does not count.
-/

namespace TopologySubmission.Yaml

/-! ## Algorithm -/

/-- What a node stands for. -/
inductive Tag where
  | null
  | bool
  | int
  | float
  | binary
  | timestamp
  | omap
  | pairs
  | set
  | str
  | seq
  | map
  | merge
  | valueMark
  /-- A mapping that takes over entries from something that is no mapping. -/
  | brokenMap
  | unknown
  deriving DecidableEq, Repr, Inhabited

/-- The tags by their names. -/
def coreTags : List (String × Tag) :=
  [("null", .null), ("bool", .bool), ("int", .int), ("float", .float), ("binary", .binary),
    ("timestamp", .timestamp), ("omap", .omap), ("pairs", .pairs), ("set", .set), ("str", .str),
    ("seq", .seq), ("map", .map), ("merge", .merge), ("value", .valueMark)]

/-- The start of the full text of every tag that has a meaning. -/
def coreTagStart : String := "tag:yaml.org,2002:"

/-- The tag with a full text. -/
def Tag.ofText (s : List Char) : Tag :=
  ((coreTags.find? fun t => (coreTagStart ++ t.1).toList == s).map (·.2)).getD .unknown

def boolWords : List String :=
  ["yes", "Yes", "YES", "no", "No", "NO", "true", "True", "TRUE", "false", "False", "FALSE", "on",
    "On", "ON", "off", "Off", "OFF"]

def nullWords : List String := ["~", "null", "Null", "NULL", ""]

/-- A digit of ASCII or an underscore. -/
def isDigitOrLow (c : Char) : Bool := c.isDigit || c == '_'

/-- The text after a sign, if there is one. -/
def afterSign : List Char → List Char
  | '-' :: r => r
  | '+' :: r => r
  | s => s

/-- A decimal digit and then digits and underscores; the rest. -/
def afterDigits : List Char → Option (List Char)
  | c :: r => if c.isDigit then some (r.dropWhile isDigitOrLow) else none
  | [] => none

/-- Groups of a colon with one digit or two digits below sixty; their number and the rest. -/
def afterSixties : List Char → Nat × List Char
  | ':' :: a :: b :: r =>
    if b.isDigit then
      if '0' ≤ a && a ≤ '5' then
        let (n, rest) := afterSixties r
        (n + 1, rest)
      else (0, ':' :: a :: b :: r)
    else if a.isDigit then
      let (n, rest) := afterSixties (b :: r)
      (n + 1, rest)
    else (0, ':' :: a :: b :: r)
  | [':', a] => if a.isDigit then (1, []) else (0, [':', a])
  | s => (0, s)

/-- Nothing, or an exponent with a sign. -/
def isExponentOrEnd : List Char → Bool
  | [] => true
  | e :: sign :: d :: r =>
    (e == 'e' || e == 'E') && (sign == '+' || sign == '-') && (d :: r).all Char.isDigit
  | _ => false

/-- The form of a real number. -/
def isFloatForm (s : List Char) : Bool :=
  let body := afterSign s
  let pointed := match afterDigits body with
    | some ('.' :: r) => isExponentOrEnd (r.dropWhile isDigitOrLow)
    | some r =>
      match afterSixties r with
      | (0, _) => false
      | (_, '.' :: q) => q.all isDigitOrLow
      | _ => false
    | none => false
  let bare := match s with
    | '.' :: d :: r => d.isDigit && isExponentOrEnd (r.dropWhile isDigitOrLow)
    | _ => false
  let word := String.ofList body
  pointed || bare || [".inf", ".Inf", ".INF"].contains word ||
    [".nan", ".NaN", ".NAN"].contains (String.ofList s)

/-- One or more characters of a kind. -/
def isRun (kind : Char → Bool) (s : List Char) : Bool := !s.isEmpty && s.all kind

/-- The form of an integer. -/
def isIntForm (s : List Char) : Bool :=
  match afterSign s with
  | ['0'] => true
  | '0' :: 'b' :: r => isRun (fun c => c == '0' || c == '1' || c == '_') r
  | '0' :: 'x' :: r =>
    isRun (fun c => isDigitOrLow c || ('a' ≤ c && c ≤ 'f') || ('A' ≤ c && c ≤ 'F')) r
  | '0' :: r => isRun (fun c => ('0' ≤ c && c ≤ '7') || c == '_') r
  | body =>
    match afterDigits body with
    | some [] => true
    | some r =>
      match afterSixties r with
      | (0, _) => false
      | (_, rest) => rest.isEmpty
    | none => false

/-- The parts of a moment as they are written. -/
structure WrittenMoment where
  year : List Char
  month : List Char
  day : List Char
  time : Option (List Char × List Char × List Char) := none
  fraction : List Char := []
  universal : Bool := false
  zone : Option (Char × List Char × List Char) := none
  deriving Repr

/-- Takes `n` digits. -/
def exactDigits : Nat → List Char → Option (List Char × List Char)
  | 0, s => some ([], s)
  | n + 1, c :: r =>
    if c.isDigit then (exactDigits n r).map fun (ds, rest) => (c :: ds, rest) else none
  | _ + 1, [] => none

/-- Takes one digit or two. -/
def oneOrTwoDigits (s : List Char) : Option (List Char × List Char) :=
  exactDigits 2 s <|> exactDigits 1 s

/-- Takes a character. -/
def exactly (c : Char) : List Char → Option (List Char)
  | d :: r => if c == d then some r else none
  | [] => none

/-- Reads the minutes of a zone up to the end of the text. -/
def zoneMinutes : List Char → Option (List Char)
  | [] => some []
  | ':' :: r =>
    match exactDigits 2 r with
    | some (ds, []) => some ds
    | _ => none
  | _ => none

/-- Reads the zone of a moment up to the end of the text. -/
def zoneOf (m : WrittenMoment) (s : List Char) : Option WrittenMoment :=
  match s with
  | [] => some m
  | _ =>
    match s.dropWhile isSpace with
    | [] => some m
    | ['Z'] => some { m with universal := true }
    | sign :: r =>
      if sign == '+' || sign == '-' then do
        let (hours, rest) ← oneOrTwoDigits r
        let minutes ← zoneMinutes rest
        return { m with zone := some (sign, hours, minutes) }
      else none

/-- Drops what stands between the day and the time. -/
def afterDaySeparator : List Char → Option (List Char)
  | [] => none
  | c :: r =>
    if c == 'T' || c == 't' then some r
    else if isSpace c then some (r.dropWhile isSpace)
    else none

/-- Reads the time of a moment up to the end of the text. -/
def timeOf (m : WrittenMoment) (s : List Char) : Option WrittenMoment := do
  let (hour, s) ← oneOrTwoDigits (← afterDaySeparator s)
  let (minute, s) ← exactDigits 2 (← exactly ':' s)
  let (second, s) ← exactDigits 2 (← exactly ':' s)
  let m := { m with time := some (hour, minute, second) }
  match s with
  | '.' :: r => zoneOf { m with fraction := r.takeWhile Char.isDigit } (r.dropWhile Char.isDigit)
  | s => zoneOf m s

/-- Reads a day with or without a time. -/
def writtenMoment (s : List Char) : Option WrittenMoment := do
  let (year, s) ← exactDigits 4 s
  let (month, s) ← oneOrTwoDigits (← exactly '-' s)
  let (day, s) ← oneOrTwoDigits (← exactly '-' s)
  let m : WrittenMoment := { year, month, day }
  if s.isEmpty then return m else timeOf m s

/-- The form of a day with two digits for month and day, or of a moment. -/
def isTimestampForm (s : List Char) : Bool :=
  match writtenMoment s with
  | none => false
  | some m => m.time.isSome || (m.month.length == 2 && m.day.length == 2)

/-- The text without a line feed at its end. -/
def withoutLastBreak (s : List Char) : List Char :=
  match s.reverse with
  | '\n' :: r => r.reverse
  | _ => s

/-- The tag of a plain text. -/
def implicitTag (text : List Char) : Tag :=
  let s := withoutLastBreak text
  let word := String.ofList s
  if text.isEmpty then .null
  else if boolWords.contains word then .bool
  else if isFloatForm s then .float
  else if isIntForm s then .int
  else if word == "<<" then .merge
  else if nullWords.contains word && word != "" then .null
  else if isTimestampForm s then .timestamp
  else if word == "=" then .valueMark
  else .str

example : implicitTag "0o17".toList = .str := by decide

end TopologySubmission.Yaml
