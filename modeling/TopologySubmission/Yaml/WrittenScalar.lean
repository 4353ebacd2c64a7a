import TopologySubmission.Number.ShortestDecimal
import TopologySubmission.Text.Hex
import TopologySubmission.Value.Basic
import TopologySubmission.Yaml.Base64
import TopologySubmission.Yaml.ImplicitTag

/-!
# Writing scalars

A scalar is written plain where its text alone says what it is and nothing in the text is in the way.
Otherwise it goes between single quotes, or between double quotes with escapes where it holds more
than printable characters of ASCII. Bytes are written as a literal block of base 64. A line is
broken at a single space once it is longer than 80 columns.

    a text that reads as something else is never plain      (style_ne_plain)
-/

namespace TopologySubmission.Yaml

/-! ## Algorithm -/

/-- A text that is being written, and the column where it goes on. -/
structure Page where
  text : String := ""
  column : Nat := 0
  deriving Repr, Inhabited

namespace Page

/-- Writes on in the same line. -/
def put (p : Page) (s : String) : Page := ⟨p.text ++ s, p.column + s.length⟩

/-- Writes characters on in the same line. -/
def putChars (p : Page) (s : List Char) : Page := p.put (String.ofList s)

/-- Goes on to a column of the same line. -/
def padTo (p : Page) (column : Nat) : Page :=
  p.putChars (List.replicate (column - p.column) ' ')

/-- Ends the line. -/
def endLine (p : Page) : Page := ⟨p.text ++ "\n", 0⟩

/-- Goes to a column of a line of its own. -/
def freshLine (p : Page) (column : Nat) : Page :=
  (if p.column = 0 then p else p.endLine).padTo column

/-- Goes to a column of the next line. -/
def nextLine (p : Page) (column : Nat) : Page := p.endLine.padTo column

end Page

/-- The column after which a line is broken. -/
def lineWidth : Nat := 80

/-- A scalar to be written: what it stands for and its text. -/
structure Scalar where
  tag : Tag
  text : List Char
  deriving DecidableEq, Repr, Inhabited

namespace Scalar

/-- The ways to write a scalar. -/
inductive Style where
  | plain
  | single
  | double
  | literal
  deriving DecidableEq, Repr

/-- The character counts as blank beside a mark. -/
def isMarkBlank (c : Char) : Bool := c == Char.ofNat 0 || isSpace c || isBreak c

/-- Some two neighbours are related. -/
def anyNeighbours (rel : Char → Char → Bool) : List Char → Bool
  | a :: b :: r => rel a b || anyNeighbours rel (b :: r)
  | _ => false

/-- The characters that no plain scalar starts with. -/
def leadingMarks : List Char :=
  ['#', ',', '[', ']', '\x7b', '\x7d', '&', '*', '!', '|', '>', '\'', '"', '%', '@', '\x60']

/-- The start of the text has a meaning of its own. -/
def startsWithMark : List Char → Bool
  | [] => false
  | '-' :: '-' :: '-' :: _ => true
  | '.' :: '.' :: '.' :: _ => true
  | c :: r =>
    leadingMarks.contains c || ((c == '?' || c == '-') && (r.head?.map isMarkBlank).getD true)

/-- A colon or a number sign inside the text has a meaning of its own. -/
def holdsMark (s : List Char) : Bool :=
  s.getLast? == some ':' ||
    anyNeighbours (fun a b => (a == ':' && isMarkBlank b) || (b == '#' && isMarkBlank a)) s

/-- A character that is written as it is. -/
def isDirect (c : Char) : Bool := ' ' ≤ c && c ≤ '~'

/-- The text holds a line break other than a carriage return. -/
def isMultiline (s : List Char) : Bool := s.any fun c => isBreak c && c != '\r'

/-- The text starts or ends with a space or a line feed. -/
def hasOuterBlank (s : List Char) : Bool :=
  [s.head?, s.getLast?].any fun c => c == some ' ' || c == some '\n'

/-- A text that single quotes can hold. -/
def fitsSingle (s : List Char) : Bool :=
  s.all (fun c => isDirect c || c == '\n') &&
    !anyNeighbours (fun a b => (a == '\n' && b == ' ') || (a == ' ' && b == '\n')) s

/-- A text that needs no quotes. -/
def fitsPlain (s : List Char) : Bool :=
  fitsSingle s && !isMultiline s && !hasOuterBlank s && !startsWithMark s && !holdsMark s

/-- The way to write a scalar. -/
def style (s : Scalar) : Style :=
  if s.tag = .binary then if s.text.isEmpty then .double else .literal
  else if implicitTag s.text = s.tag && fitsPlain s.text then .plain
  else if fitsSingle s.text then .single
  else .double

/-- A tag in front of a scalar or a collection. -/
def tagText (t : Tag) : String :=
  "!!" ++ ((coreTags.find? fun e => e.2 = t).map (·.1)).getD "str"

/-- The tag has to be written. -/
def showsTag (s : Scalar) : Bool := s.style != .plain && s.tag != .str

/-- The characters with an escape of one letter. -/
def letterEscapes : List (Nat × Char) :=
  [(0x00, '0'), (0x07, 'a'), (0x08, 'b'), (0x09, 't'), (0x0A, 'n'), (0x0B, 'v'), (0x0C, 'f'),
    (0x0D, 'r'), (0x1B, 'e'), (0x22, '"'), (0x5C, '\\'), (0x85, 'N'), (0xA0, '_'), (0x2028, 'L'),
    (0x2029, 'P')]

/-- The escape of a character between double quotes. -/
def escape (c : Char) : List Char :=
  match letterEscapes.lookup c.toNat with
  | some l => ['\\', l]
  | none =>
    if c.toNat ≤ 0xFF then '\\' :: 'x' :: Text.hexUpper 2 c.toNat
    else if c.toNat ≤ 0xFFFF then '\\' :: 'u' :: Text.hexUpper 4 c.toNat
    else '\\' :: 'U' :: Text.hexUpper 8 c.toNat

/-- The character is escaped between double quotes. -/
def isEscaped (c : Char) : Bool := !isDirect c || c == '"' || c == '\\'

/-- What a run of a text is made of. -/
def sameRun (a b : Char) : Bool := (a == ' ') == (b == ' ') && (a == '\n') == (b == '\n')

/-- Writes a run. A single space between two runs may become a line end. -/
def putRun (indent : Nat) (fold inner : Bool) (double : Char → List Char) (p : Page)
    (run : List Char) : Page :=
  match run with
  | '\n' :: _ => (run.foldl (fun p _ => p.endLine) p.endLine).padTo indent
  | [' '] => if fold && inner && lineWidth < p.column then p.nextLine indent else p.put " "
  | _ => p.putChars (run.flatMap double)

/-- Writes the runs that follow the first one. -/
def putRuns (indent : Nat) (fold : Bool) (double : Char → List Char) (p : Page) :
    List (List Char) → Page
  | [] => p
  | [run] => putRun indent fold false double p run
  | run :: runs => putRuns indent fold double (putRun indent fold true double p run) runs

/-- Writes the runs of a text. -/
def putText (indent : Nat) (fold : Bool) (double : Char → List Char) (p : Page) (s : List Char) :
    Page :=
  match s.splitBy sameRun with
  | [] => p
  | run :: runs => putRuns indent fold double (putRun indent fold false double p run) runs

/-- A quote is written twice between single quotes. -/
def doubleQuote (c : Char) : List Char := if c = '\'' then ['\'', '\''] else [c]

/-- Breaks a line between double quotes. -/
def breakQuoted (indent : Nat) (spaceNext : Bool) (p : Page) : Page :=
  let p := (p.put "\\").nextLine indent
  if spaceNext then p.put "\\" else p

/-- Writes a text between double quotes. `first` says that nothing of it was written before, and
`fresh` that the last character was escaped. -/
def putQuoted (indent : Nat) (fold first fresh : Bool) (p : Page) : List Char → Page
  | [] => p
  | c :: r =>
    let mayBreak := fold && !first && !r.isEmpty
    if isEscaped c then
      let p := p.putChars (escape c)
      let p :=
        if mayBreak && lineWidth + 1 < p.column then
          breakQuoted indent (r.head? == some ' ') p
        else p
      putQuoted indent fold false true p r
    else
      let p :=
        if mayBreak && (c == ' ' || fresh) && lineWidth < p.column then
          breakQuoted indent (c == ' ') p
        else p
      putQuoted indent fold false false (p.putChars [c]) r

/-- Writes the lines of a literal block. -/
def putLines (indent : Nat) (p : Page) (s : List Char) : Page :=
  (s.splitOn '\n').dropLast.foldl (fun p line => ((p.padTo indent).putChars line).endLine) p

/-- Writes a scalar. Lines after the first one start at a column; lines are broken only where
`fold` allows it. -/
def put (s : Scalar) (indent : Nat) (fold : Bool) (p : Page) : Page :=
  match s.style with
  | .plain => putText indent fold (fun c => [c]) p s.text
  | .single => (putText indent fold doubleQuote (p.put "'") s.text).put "'"
  | .double => (putQuoted indent fold true true (p.put "\"") s.text).put "\""
  | .literal => putLines indent (p.put "|").endLine s.text

/-! ### Values as scalars -/

/-- The text of a real number, which always has a point. -/
def realText (x : Binary64) : List Char :=
  match x with
  | .nan => ".nan".toList
  | .infinity s => if s then "-.inf".toList else ".inf".toList
  | x =>
    let s := x.text.toList
    if s.contains '.' then s
    else s.takeWhile (· != 'e') ++ '.' :: '0' :: s.dropWhile (· != 'e')

/-- The scalar that a value without parts is. -/
def ofValue : Value → Scalar
  | .null => ⟨.null, "null".toList⟩
  | .bool b => ⟨.bool, (if b then "true" else "false").toList⟩
  | .int n => ⟨.int, (toString n).toList⟩
  | .float x => ⟨.float, realText x⟩
  | .text s => ⟨.str, s.toList⟩
  | .bytes b => ⟨.binary, base64Lines b⟩
  | .date d => ⟨.timestamp, d.text.toList⟩
  | .moment t => ⟨.timestamp, t.text.toList⟩
  | _ => ⟨.null, "null".toList⟩

end Scalar

/-! ## Lemmas -/

/-- A text that reads as something else is never plain. -/
theorem Scalar.style_ne_plain (s : Scalar) (h : implicitTag s.text ≠ s.tag) :
    s.style ≠ .plain := by
  unfold style
  split
  · split <;> simp
  · simp only [h, decide_false, Bool.false_and]
    split
    · contradiction
    · split <;> simp

end TopologySubmission.Yaml
