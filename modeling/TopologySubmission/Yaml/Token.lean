import TopologySubmission.Yaml.PlainScalar
import TopologySubmission.Yaml.QuotedScalar
import TopologySubmission.Yaml.Tag

/-!
# Tokens of YAML

A text is a row of tokens: marks, names, tags and scalars. Indentation becomes tokens too: a line
that is indented further than the collection around it opens a block collection, and a line that is
indented less closes one. A key on one line is known as a key only at its colon, so the place where a
key may have started is remembered, one place for every depth of flow collections, until the line
ends or the key grows too long.

    takeTokens reads at least one character with every step, or ends
-/

namespace TopologySubmission.Yaml

/-! ## Algorithm -/

/-- A token. -/
inductive Token where
  | directive (d : Directive)
  | documentStart
  | documentEnd
  | blockSequenceStart
  | blockMappingStart
  | blockEnd
  | flowSequenceStart
  | flowMappingStart
  | flowSequenceEnd
  | flowMappingEnd
  | blockEntry
  | flowEntry
  | key
  | value
  | alias (name : List Char)
  | anchor (name : List Char)
  | tag (t : WrittenTag)
  | scalar (text : List Char) (plain : Bool)
  deriving DecidableEq, Repr

/-- A place in a text: what is left, the characters before it, and the line and column. -/
structure Cursor where
  rest : List Char
  index : Nat := 0
  line : Nat := 0
  column : Nat := 0

namespace Cursor

/-- The place after the next character. -/
def step (c : Cursor) : Cursor :=
  match c.rest with
  | [] => c
  | x :: r =>
    if isBreak x && !(x == '\r' && r.head? == some '\n') then
      ⟨r, c.index + 1, c.line + 1, 0⟩
    else ⟨r, c.index + 1, c.line, if x == byteOrderMark then c.column else c.column + 1⟩

/-- The place after `n` characters. -/
def skip (c : Cursor) : Nat → Cursor
  | 0 => c
  | n + 1 => c.step.skip n

/-- The place where a given rest of the text starts. -/
def moveTo (c : Cursor) (rest : List Char) : Cursor := c.skip (c.rest.length - rest.length)

end Cursor

/-- A place where a key may have started. -/
structure KeyStart where
  depth : Nat
  token : Nat
  required : Bool
  index : Nat
  line : Nat
  column : Nat

/-- The longest key that is found at its colon alone. -/
def maxKeyLength : Nat := 1024

/-- The tokens so far and what the next ones depend on. -/
structure Reading where
  cursor : Cursor
  tokens : Array Token := #[]
  flowDepth : Nat := 0
  indent : Int := -1
  outerIndents : List Int := []
  keyAllowed : Bool := true
  keyStarts : List KeyStart := []

namespace Reading

def push (r : Reading) (t : Token) : Reading := { r with tokens := r.tokens.push t }

def inFlow (r : Reading) : Bool := r.flowDepth != 0

/-- Goes on at a given rest of the text. -/
def goTo (r : Reading) (rest : List Char) : Reading := { r with cursor := r.cursor.moveTo rest }

/-- Drops spaces, comments and line ends in front of a token; at most `fuel` lines. -/
def skipToToken : Nat → Reading → Reading
  | 0, r => r
  | fuel + 1, r =>
    let rest := skipComment (skipSpaces r.cursor.rest)
    let r := r.goTo rest
    match takeBreak rest with
    | none => r
    | some (_, after) =>
      let r := r.goTo after
      skipToToken fuel (if r.inFlow then r else { r with keyAllowed := true })

/-- Forgets the places where keys can no longer have started. -/
def dropStaleKeys (r : Reading) : Except Fault Reading :=
  let stale (k : KeyStart) : Bool :=
    k.line != r.cursor.line || maxKeyLength < r.cursor.index - k.index
  if r.keyStarts.any fun k => stale k && k.required then .error .malformed
  else .ok { r with keyStarts := r.keyStarts.filter (!stale ·) }

/-- Forgets the place where a key of this depth may have started. -/
def dropKey (r : Reading) : Except Fault Reading :=
  if r.keyStarts.any fun k => k.depth == r.flowDepth && k.required then .error .malformed
  else .ok { r with keyStarts := r.keyStarts.filter (·.depth != r.flowDepth) }

/-- Remembers that a key may start here. -/
def saveKey (r : Reading) : Except Fault Reading := do
  if r.keyAllowed then
    let r ← r.dropKey
    let k : KeyStart :=
      { depth := r.flowDepth, token := r.tokens.size
        required := !r.inFlow && r.indent == (r.cursor.column : Int), index := r.cursor.index
        line := r.cursor.line, column := r.cursor.column }
    return { r with keyStarts := k :: r.keyStarts }
  else return r

/-- Closes the block collections that are indented further than a column. -/
def closeBlocks (column : Int) (r : Reading) : Reading :=
  if r.inFlow then r
  else
    let closed := (r.indent :: r.outerIndents).takeWhile (column < ·)
    let open_ := (r.indent :: r.outerIndents).dropWhile (column < ·)
    { r with
      tokens := r.tokens ++ (closed.map fun _ => Token.blockEnd).toArray
      indent := open_.headD (-1), outerIndents := open_.tail }

/-- Opens a block collection at a column that is indented further than the one around it; the token
that opens it goes to a place among the tokens. -/
def openBlock (column : Nat) (place : Nat) (t : Token) (r : Reading) : Reading :=
  if r.indent < column then
    { r with
      tokens := r.tokens.insertIdxIfInBounds place t
      indent := column, outerIndents := r.indent :: r.outerIndents }
  else r

/-- Goes on after `n` characters, with a token for them. -/
def mark (n : Nat) (t : Token) (r : Reading) : Reading :=
  { r with tokens := r.tokens.push t, cursor := r.cursor.skip n }

/-- Reads a directive or the mark of a document, which close everything. -/
def closeAll (r : Reading) : Except Fault Reading := do
  let r ← (r.closeBlocks (-1)).dropKey
  return { r with keyAllowed := false }

/-- Opens a flow collection. -/
def openFlow (t : Token) (r : Reading) : Except Fault Reading := do
  let r ← r.saveKey
  return { r.mark 1 t with flowDepth := r.flowDepth + 1, keyAllowed := true }

/-- Closes a flow collection. -/
def closeFlow (t : Token) (r : Reading) : Except Fault Reading := do
  let r ← r.dropKey
  if r.flowDepth = 0 then throw .malformed
  return { r.mark 1 t with flowDepth := r.flowDepth - 1, keyAllowed := false }

/-- Reads a comma between the entries of a flow collection. -/
def flowEntry (r : Reading) : Except Fault Reading := do
  let r ← r.dropKey
  return { r.mark 1 .flowEntry with keyAllowed := true }

/-- In a block collection an entry may start only where a key may. -/
def openEntry (t : Token) (r : Reading) : Except Fault Reading :=
  if r.inFlow then .ok r
  else if r.keyAllowed then .ok (r.openBlock r.cursor.column r.tokens.size t)
  else .error .malformed

/-- Reads the hyphen of an entry. -/
def blockEntry (r : Reading) : Except Fault Reading := do
  let r ← (← r.openEntry .blockSequenceStart).dropKey
  return { r.mark 1 .blockEntry with keyAllowed := true }

/-- Reads the question mark of a key. -/
def explicitKey (r : Reading) : Except Fault Reading := do
  let r ← (← r.openEntry .blockMappingStart).dropKey
  return { r.mark 1 .key with keyAllowed := !r.inFlow }

/-- Reads the colon of a value: the key before it started where one may have started. -/
def value (r : Reading) : Except Fault Reading := do
  match r.keyStarts.find? (·.depth == r.flowDepth) with
  | some k =>
    let r := { r with
      keyStarts := r.keyStarts.filter (·.depth != r.flowDepth)
      tokens := r.tokens.insertIdxIfInBounds k.token .key }
    let r := if r.inFlow then r else r.openBlock k.column k.token .blockMappingStart
    return { r.mark 1 .value with keyAllowed := false }
  | none =>
    let r ← (← r.openEntry .blockMappingStart).dropKey
    return { r.mark 1 .value with keyAllowed := !r.inFlow }

/-- A node may start here and be a key. -/
def startNode (r : Reading) : Except Fault Reading := do
  let r ← r.saveKey
  return { r with keyAllowed := false }

/-- Adds a token that ends where a given rest starts. -/
def pushTo (t : Token) (rest : List Char) (r : Reading) : Reading := (r.push t).goTo rest

/-- Reads a node that stands on its own: an alias, an anchor, a tag or a scalar. -/
def node (r : Reading) : Except Fault Reading :=
  match r.cursor.rest with
  | '*' :: s => do
    let r ← r.startNode
    let (name, rest) ← nodeName s
    return r.pushTo (.alias name) rest
  | '&' :: s => do
    let r ← r.startNode
    let (name, rest) ← nodeName s
    return r.pushTo (.anchor name) rest
  | '!' :: s => do
    let r ← r.startNode
    let (t, rest) ← tag s
    return r.pushTo (.tag t) rest
  | '\'' :: s => do
    let r ← r.startNode
    let (text, rest) ← quotedScalar false s
    return r.pushTo (.scalar text false) rest
  | '"' :: s => do
    let r ← r.startNode
    let (text, rest) ← quotedScalar true s
    return r.pushTo (.scalar text false) rest
  | s =>
    if startsPlain r.inFlow s then do
      let r ← r.startNode
      let p := plainScalar r.inFlow r.indent s
      return { r.pushTo (.scalar p.text true) p.rest with keyAllowed := p.lineEnded }
    else .error .malformed

/-- Reads a block scalar. -/
def block (folded : Bool) (s : List Char) (r : Reading) : Except Fault Reading := do
  let r ← r.dropKey
  let (text, rest) ← blockScalar folded r.indent s
  return { r.pushTo (.scalar text false) rest with keyAllowed := true }

/-- The rest of the text is a mark that blanks must follow outside flow collections. -/
def followsMark (r : Reading) (s : List Char) : Bool := r.inFlow || atBlankOrEnd s

/-- Reads the next token, which is there. -/
def next (r : Reading) : Except Fault Reading :=
  let s := r.cursor.rest
  if r.cursor.column == 0 && s.head? == some '%' then do
    let r ← r.closeAll
    let (d, rest) ← directive (s.drop 1)
    return r.pushTo (.directive d) rest
  else if r.cursor.column == 0 && atDocumentMark s then do
    let r ← r.closeAll
    return r.mark 3 (if s.head? == some '-' then .documentStart else .documentEnd)
  else
    match s with
    | '[' :: _ => r.openFlow .flowSequenceStart
    | '\x7b' :: _ => r.openFlow .flowMappingStart
    | ']' :: _ => r.closeFlow .flowSequenceEnd
    | '\x7d' :: _ => r.closeFlow .flowMappingEnd
    | ',' :: _ => r.flowEntry
    | '-' :: t => if atBlankOrEnd t then r.blockEntry else r.node
    | '?' :: t => if r.followsMark t then r.explicitKey else r.node
    | ':' :: t => if r.followsMark t then r.value else r.node
    | '|' :: t => if r.inFlow then r.node else r.block false t
    | '>' :: t => if r.inFlow then r.node else r.block true t
    | _ => r.node

/-- Goes to the next token and closes what ends before it. -/
def approach (r : Reading) : Except Fault Reading := do
  let r ← (r.skipToToken (r.cursor.rest.length + 1)).dropStaleKeys
  return r.closeBlocks r.cursor.column

/-- Reads tokens until the text ends; at most `fuel` of them. -/
def takeTokens : Nat → Reading → Except Fault (Array Token)
  | 0, _ => .error .malformed
  | fuel + 1, r => do
    let r ← r.approach
    if r.cursor.rest.isEmpty then
      let r ← (r.closeBlocks (-1)).dropKey
      return r.tokens
    else takeTokens fuel (← r.next)

end Reading

/-- The tokens of a text. -/
def tokensOf (s : List Char) : Except Fault (List Token) :=
  let s' := if s.head? == some byteOrderMark then s.drop 1 else s
  if s.all isAllowed then do
    return (← Reading.takeTokens (s.length + 2) { cursor := { rest := s' } }).toList
  else .error .malformed

/-! ## Lemmas -/

/-- A text with a character that may not stand in one has no tokens. -/
theorem tokensOf_of_not_allowed (s : List Char) (h : s.all isAllowed = false) :
    tokensOf s = .error .malformed := by
  simp [tokensOf, h]

end TopologySubmission.Yaml
