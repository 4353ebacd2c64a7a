import TopologySubmission.Text.Hex
import TopologySubmission.Yaml.BlockScalar

/-!
# Tags, anchors and directives of YAML

A tag is written in full between angle brackets, or as a handle and a suffix; the handle stands for
the start of the full tag. An anchor names a node and an alias refers to it. A directive on a line of
its own, after a percent sign, states the version or declares a handle.
-/

namespace TopologySubmission.Yaml

/-! ## Algorithm -/

/-- A tag as it is written. -/
structure WrittenTag where
  handle : Option (List Char)
  suffix : List Char
  deriving DecidableEq, Repr

/-- A directive before a document. -/
inductive Directive where
  | version (major minor : Nat)
  | handle (name tagStart : List Char)
  | unknown
  deriving DecidableEq, Repr

/-- The characters of a tag that stand for themselves, beside letters and digits. -/
def isTagChar (c : Char) : Bool := c.isAlphanum || "-;/?:@&=+$,_.!~*'()[]".toList.contains c

/-- Reads bytes written as percent signs with two hexadecimal digits. -/
def percentBytes : List Char → Except Fault (List UInt8 × List Char)
  | '%' :: a :: b :: r =>
    match Text.readHex [a, b] with
    | some n => do
      let (bytes, rest) ← percentBytes r
      return (n.toUInt8 :: bytes, rest)
    | none => .error .malformed
  | '%' :: _ => .error .malformed
  | s => .ok ([], s)

/-- Reads the text of a tag; at most `fuel` pieces. -/
def tagPieces : Nat → List Char → Except Fault (List Char × List Char)
  | 0, s => .ok ([], s)
  | fuel + 1, s =>
    match s with
    | '%' :: _ => do
      let (bytes, rest) ← percentBytes s
      match String.fromUTF8? ⟨bytes.toArray⟩ with
      | some t =>
        let (more, rest) ← tagPieces fuel rest
        return (t.toList ++ more, rest)
      | none => .error .malformed
    | c :: r =>
      if isTagChar c then do
        let (more, rest) ← tagPieces fuel r
        return (c :: more, rest)
      else .ok ([], s)
    | [] => .ok ([], [])

/-- Reads the text of a tag, which is not empty. -/
def tagText (s : List Char) : Except Fault (List Char × List Char) := do
  let (text, rest) ← tagPieces (s.length + 1) s
  if rest.length < s.length then return (text, rest) else throw .malformed

/-- Reads a handle: an exclamation mark, perhaps with a word and a second mark after it. -/
def tagHandle (s : List Char) : Except Fault (List Char × List Char) :=
  match s with
  | '!' :: ' ' :: _ => .ok (['!'], s.drop 1)
  | '!' :: r =>
    match r.dropWhile isWordChar with
    | '!' :: rest => .ok ('!' :: r.takeWhile isWordChar ++ ['!'], rest)
    | _ => .error .malformed
  | _ => .error .malformed

/-- A second exclamation mark stands before the end of the word. -/
def hasHandle (s : List Char) : Bool :=
  (s.takeWhile fun c => !(c == ' ' || isBreak c)).contains '!'

/-- The rest of a text that may follow a tag. -/
def endTag (tag : WrittenTag) (rest : List Char) : Except Fault (WrittenTag × List Char) :=
  if atSpaceOrEnd rest then .ok (tag, rest) else .error .malformed

/-- Reads a tag, from after its exclamation mark on. -/
def tag (s : List Char) : Except Fault (WrittenTag × List Char) :=
  match s with
  | '<' :: r => do
    match ← tagText r with
    | (text, '>' :: rest) => endTag ⟨none, text⟩ rest
    | _ => throw .malformed
  | _ =>
    if atBlankOrEnd s then endTag ⟨none, ['!']⟩ s
    else if hasHandle s then do
      let (handle, rest) ← tagHandle ('!' :: s)
      let (suffix, rest) ← tagText rest
      endTag ⟨some handle, suffix⟩ rest
    else do
      let (suffix, rest) ← tagText s
      endTag ⟨some ['!'], suffix⟩ rest

/-- The rest of a text that may follow a name of a node. -/
def endsName : List Char → Bool
  | [] => true
  | c :: _ => isSpace c || isBreak c || "?:,]\x7d%@`".toList.contains c

/-- Reads the name of an anchor or an alias. -/
def nodeName (s : List Char) : Except Fault (List Char × List Char) :=
  let name := s.takeWhile isWordChar
  let rest := s.dropWhile isWordChar
  if name.isEmpty || !endsName rest then .error .malformed else .ok (name, rest)

/-- Reads a number of decimal digits. -/
def directiveNumber (s : List Char) : Except Fault (Nat × List Char) :=
  let digits := s.takeWhile Char.isDigit
  if digits.isEmpty then .error .malformed
  else .ok (digits.foldl (fun n c => n * 10 + (c.toNat - 48)) 0, s.dropWhile Char.isDigit)

/-- Reads the number of a version. -/
def versionDirective (s : List Char) : Except Fault (Directive × List Char) := do
  match ← directiveNumber (skipSpaces s) with
  | (major, '.' :: r) =>
    let (minor, rest) ← directiveNumber r
    if atSpaceOrEnd rest then return (.version major minor, rest) else throw .malformed
  | _ => throw .malformed

/-- Reads a handle and what it stands for. -/
def handleDirective (s : List Char) : Except Fault (Directive × List Char) := do
  match ← tagHandle (skipSpaces s) with
  | (name, ' ' :: r) =>
    let (tagStart, rest) ← tagText (skipSpaces r)
    if atSpaceOrEnd rest then return (.handle name tagStart, rest) else throw .malformed
  | _ => throw .malformed

/-- Reads a directive with the rest of its line, from after its percent sign on. -/
def directive (s : List Char) : Except Fault (Directive × List Char) := do
  let name := s.takeWhile isWordChar
  let rest := s.dropWhile isWordChar
  if name.isEmpty || !atSpaceOrEnd rest then throw .malformed
  let (d, rest) ←
    if name == "YAML".toList then versionDirective rest
    else if name == "TAG".toList then handleDirective rest
    else pure (.unknown, skipLine rest)
  return (d, ← skipRestOfLine rest)

end TopologySubmission.Yaml
