import TopologySubmission.Text.Hex
import TopologySubmission.Yaml.Line

/-!
# Quoted scalars of YAML

A scalar in single quotes keeps every character; a quote is written twice. In double quotes a
backslash starts an escape. In both, a line end with the blanks around it is folded into a space,
and every further empty line into a line feed; a line that looks like a document mark may not stand
inside quotes.
-/

namespace TopologySubmission.Yaml

/-! ## Algorithm -/

/-- Reads empty lines and the blanks in front of the next text. -/
def emptyLines (s : List Char) : Except Fault (List Char × List Char) :=
  if atDocumentMark s then .error .malformed
  else
    match h : takeBreak (s.dropWhile isSpace) with
    | none => .ok ([], s.dropWhile isSpace)
    | some (c, r) =>
      have : r.length < s.length :=
        Nat.lt_of_lt_of_le (length_takeBreak _ _ _ h) (List.dropWhile_suffix isSpace).length_le
      match emptyLines r with
      | .ok (cs, rest) => .ok (c :: cs, rest)
      | .error e => .error e
termination_by s.length

/-- What a line end and the empty lines after it mean inside quotes. -/
def foldBreaks (first : Char) (more : List Char) : List Char :=
  if first != '\n' then first :: more
  else if more.isEmpty then [' ']
  else more

/-- Reads blanks inside quotes, with the line ends among them. -/
def quotedBlanks (s : List Char) : Except Fault (List Char × List Char) :=
  let blanks := s.takeWhile isSpace
  let rest := s.dropWhile isSpace
  match takeBreak rest with
  | none => if rest.isEmpty then .error .malformed else .ok (blanks, rest)
  | some (c, r) => do
    let (more, rest) ← emptyLines r
    return (foldBreaks c more, rest)

/-- The characters that a letter after a backslash stands for. -/
def escapeChars : List (Char × Nat) :=
  [('0', 0x00), ('a', 0x07), ('b', 0x08), ('t', 0x09), ('\t', 0x09), ('n', 0x0A), ('v', 0x0B),
    ('f', 0x0C), ('r', 0x0D), ('e', 0x1B), (' ', 0x20), ('"', 0x22), ('\\', 0x5C), ('/', 0x2F),
    ('N', 0x85), ('_', 0xA0), ('L', 0x2028), ('P', 0x2029)]

/-- The number of hexadecimal digits after a letter that writes a character by its number. -/
def escapeDigits : List (Char × Nat) := [('x', 2), ('u', 4), ('U', 8)]

/-- The character with a number. -/
def characterOf (n : Nat) : Except Fault Char :=
  if 0x7FFFFFFF < n then .error (.failed (.overflow .characterNumber) rfl)
  else if 0x10FFFF < n then .error (.failed (.badValue .noSuchCharacter) rfl)
  else if n < 0xD800 || 0xDFFF < n then .ok (Char.ofNat n)
  else .ok (Char.ofNat 0xFFFD)

/-- Reads what follows a backslash. -/
def escaped (s : List Char) : Except Fault (List Char × List Char) :=
  match s with
  | [] => .error .malformed
  | c :: r =>
    match escapeChars.lookup c, escapeDigits.lookup c with
    | some n, _ => .ok ([Char.ofNat n], r)
    | none, some width =>
      if width ≤ r.length then
        match Text.readHex (r.take width) with
        | some n => do return ([← characterOf n], r.drop width)
        | none => .error .malformed
      else .error .malformed
    | none, none =>
      match takeBreak s with
      | some (_, r) => emptyLines r
      | none => .error .malformed

/-- Reads the rest of a scalar in quotes; at most `fuel` pieces. -/
def quotedFrom (double : Bool) : Nat → List Char → Except Fault (List Char × List Char)
  | 0, _ => .error .malformed
  | _, [] => .error .malformed
  | fuel + 1, c :: r =>
    let andThen (piece : Except Fault (List Char × List Char)) := do
      let (cs, rest) ← piece
      let (ds, rest) ← quotedFrom double fuel rest
      return (cs ++ ds, rest)
    if isSpace c || isBreak c then andThen (quotedBlanks (c :: r))
    else if double then
      if c == '"' then .ok ([], r)
      else if c == '\\' then andThen (escaped r)
      else andThen (.ok ([c], r))
    else
      match c, r with
      | '\'', '\'' :: r => andThen (.ok (['\''], r))
      | '\'', r => .ok ([], r)
      | c, r => andThen (.ok ([c], r))

/-- Reads a scalar in quotes, from after its first quote on. -/
def quotedScalar (double : Bool) (s : List Char) : Except Fault (List Char × List Char) :=
  quotedFrom double (s.length + 1) s

end TopologySubmission.Yaml
