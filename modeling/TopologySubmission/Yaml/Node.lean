import TopologySubmission.Yaml.ImplicitTag
import TopologySubmission.Yaml.Token

/-!
# Nodes of YAML

A document is a tree of nodes: scalars, sequences and mappings, each with its tag. `nodeOf` reads
the one document of a row of tokens. An alias stands for the node that its anchor names; inside that
node itself it is a loop.
-/

namespace TopologySubmission.Yaml

/-! ## Algorithm -/

/-- A node of a document. -/
inductive Node where
  | scalar (tag : Tag) (text : List Char)
  | sequence (tag : Tag) (items : List Node)
  | mapping (tag : Tag) (entries : List (Node × Node))
  | loop
  deriving Repr, Inhabited

/-- The tokens that are left, the nodes that are named so far and the handles of tags. A name without
a node belongs to a node that is still being read. -/
structure Feed where
  tokens : List Token
  names : List (List Char × Option Node) := []
  handles : List (List Char × List Char) := []

/-- Reads nodes from a feed. -/
abbrev Reader (α : Type) := StateT Feed (Except Fault) α

namespace Reader

/-- The text is no document. -/
def malformed {α : Type} : Reader α := throw .malformed

/-- The next token, if there is one. -/
def peek : Reader (Option Token) := do return (← get).tokens.head?

/-- Drops the next token. -/
def drop : Reader Unit := modify fun f => { f with tokens := f.tokens.tail }

/-- Drops the next token if it is a given one. -/
def accept (t : Token) : Reader Bool := do
  if (← peek) == some t then drop; return true
  else return false

/-- Drops the next token, which has to be a given one. -/
def expect (t : Token) : Reader Unit := do
  if !(← accept t) then malformed

/-- The next token is one of some, or there is none. -/
def isAt (ts : List Token) : Reader Bool := do
  match ← peek with
  | some t => return ts.contains t
  | none => return false

/-- The node of a scalar that is not written. -/
def empty : Node := .scalar .null []

/-- Replaces the handle of a tag by what it stands for. -/
def fullTag (t : WrittenTag) : Reader (List Char) := do
  match t.handle with
  | none => return t.suffix
  | some h =>
    match (← get).handles.lookup h with
    | some start => return start ++ t.suffix
    | none => malformed

/-- What stands in front of a node. -/
structure Properties where
  anchor : Option (List Char) := none
  tag : Option (List Char) := none

/-- Reads the anchor and the tag in front of a node, in either order. -/
def properties : Reader Properties := do
  match ← peek with
  | some (.anchor a) =>
    drop
    match ← peek with
    | some (.tag t) => drop; return ⟨some a, some (← fullTag t)⟩
    | _ => return ⟨some a, none⟩
  | some (.tag t) =>
    drop
    match ← peek with
    | some (.anchor a) => drop; return ⟨some a, some (← fullTag t)⟩
    | _ => return ⟨none, some (← fullTag t)⟩
  | _ => return {}

/-- The tag in front of a node says that the text decides. -/
def Properties.isOpen (p : Properties) : Bool := p.tag == none || p.tag == some ['!']

/-- The tag of a scalar. -/
def Properties.scalarTag (p : Properties) (text : List Char) (plain : Bool) : Tag :=
  match p.tag with
  | some ['!'] => implicitTag text
  | some t => Tag.ofText t
  | none => if plain then implicitTag text else .str

/-- The tag of a collection. -/
def Properties.collectionTag (p : Properties) (default : Tag) : Tag :=
  match p.tag with
  | some t => if p.isOpen then default else Tag.ofText t
  | none => default

/-- Names the node that is about to be read. A name is given once. -/
def openName (p : Properties) : Reader Unit := do
  match p.anchor with
  | none => pure ()
  | some a =>
    if ((← get).names.lookup a).isSome then malformed
    modify fun f => { f with names := (a, none) :: f.names }

/-- Names a node that has been read. -/
def closeName (p : Properties) (n : Node) : Reader Node := do
  match p.anchor with
  | none => return n
  | some a =>
    modify fun f => { f with names := (a, some n) :: f.names }
    return n

/-- The node that a name stands for. -/
def named (a : List Char) : Reader Node := do
  match (← get).names.lookup a with
  | some (some n) => return n
  | some none => return .loop
  | none => malformed

mutual

/-- Reads a node; block collections and entries without indent only where they may stand. -/
def node : Nat → Bool → Bool → Reader Node
  | 0, _, _ => malformed
  | fuel + 1, inBlock, indentless => do
    if let some (.alias a) := ← peek then
      drop
      return ← named a
    let p ← properties
    openName p
    match ← peek with
    | some .blockEntry =>
      if indentless then
        closeName p (.sequence (p.collectionTag .seq) (← indentlessItems fuel))
      else bare p
    | some (.scalar text plain) =>
      drop
      closeName p (.scalar (p.scalarTag text plain) text)
    | some .flowSequenceStart =>
      drop
      closeName p (.sequence (p.collectionTag .seq) (← flowItems fuel true))
    | some .flowMappingStart =>
      drop
      closeName p (.mapping (p.collectionTag .map) (← flowEntries fuel true))
    | some .blockSequenceStart =>
      if inBlock then
        drop
        closeName p (.sequence (p.collectionTag .seq) (← blockItems fuel))
      else bare p
    | some .blockMappingStart =>
      if inBlock then
        drop
        closeName p (.mapping (p.collectionTag .map) (← blockEntries fuel))
      else bare p
    | _ => bare p

/-- A node of which only an anchor or a tag is written. -/
def bare (p : Properties) : Reader Node := do
  if p.anchor.isNone && p.tag.isNone then malformed
  else if p.isOpen then closeName p (.scalar (implicitTag []) [])
  else closeName p (.scalar (p.scalarTag [] false) [])

/-- Reads the entries of a block sequence and its end. -/
def blockItems : Nat → Reader (List Node)
  | 0 => malformed
  | fuel + 1 => do
    if ← accept .blockEntry then
      let n ← if ← isAt [.blockEntry, .blockEnd] then pure empty else node fuel true false
      return n :: (← blockItems fuel)
    else
      expect .blockEnd
      return []

/-- Reads the entries of a block sequence that is not indented. -/
def indentlessItems : Nat → Reader (List Node)
  | 0 => malformed
  | fuel + 1 => do
    if ← accept .blockEntry then
      let n ← if ← isAt [.blockEntry, .key, .value, .blockEnd] then pure empty
        else node fuel true false
      return n :: (← indentlessItems fuel)
    else return []

/-- Reads the entries of a block mapping and its end. -/
def blockEntries : Nat → Reader (List (Node × Node))
  | 0 => malformed
  | fuel + 1 => do
    if ← accept .key then
      let k ← if ← isAt [.key, .value, .blockEnd] then pure empty else node fuel true true
      let v ← blockValue fuel
      return (k, v) :: (← blockEntries fuel)
    else
      expect .blockEnd
      return []

/-- Reads the value of an entry of a block mapping. -/
def blockValue : Nat → Reader Node
  | 0 => malformed
  | fuel + 1 => do
    if ← accept .value then
      if ← isAt [.key, .value, .blockEnd] then return empty else node fuel true true
    else return empty

/-- Reads the entries of a flow sequence and its end. -/
def flowItems : Nat → Bool → Reader (List Node)
  | 0, _ => malformed
  | fuel + 1, isFirst => do
    if ← accept .flowSequenceEnd then return []
    if !isFirst then expect .flowEntry
    if ← accept .key then
      let k ← if ← isAt [.value, .flowEntry, .flowSequenceEnd] then pure empty
        else node fuel false false
      let v ← if ← accept .value then
          if ← isAt [.flowEntry, .flowSequenceEnd] then pure empty else node fuel false false
        else pure empty
      return .mapping .map [(k, v)] :: (← flowItems fuel false)
    else if ← accept .flowSequenceEnd then return []
    else
      let n ← node fuel false false
      return n :: (← flowItems fuel false)

/-- Reads the entries of a flow mapping and its end. -/
def flowEntries : Nat → Bool → Reader (List (Node × Node))
  | 0, _ => malformed
  | fuel + 1, isFirst => do
    if ← accept .flowMappingEnd then return []
    if !isFirst then expect .flowEntry
    if ← accept .key then
      let k ← if ← isAt [.value, .flowEntry, .flowMappingEnd] then pure empty
        else node fuel false false
      let v ← if ← accept .value then
          if ← isAt [.flowEntry, .flowMappingEnd] then pure empty else node fuel false false
        else pure empty
      return (k, v) :: (← flowEntries fuel false)
    else if ← accept .flowMappingEnd then return []
    else
      let n ← node fuel false false
      return (n, empty) :: (← flowEntries fuel false)

end

/-- The handles that every document knows. -/
def coreHandles : List (List Char × List Char) :=
  [(['!'], ['!']), (['!', '!'], coreTagStart.toList)]

/-- Reads the directives in front of a document. -/
def directives : Nat → Bool → List (List Char × List Char) →
    Reader (List (List Char × List Char))
  | 0, _, handles => return handles
  | fuel + 1, versioned, handles => do
    match ← peek with
    | some (.directive d) =>
      drop
      match d with
      | .version major _ =>
        if versioned || major != 1 then malformed else directives fuel true handles
      | .handle name start =>
        if (handles.lookup name).isSome then malformed
        else directives fuel versioned ((name, start) :: handles)
      | .unknown => directives fuel versioned handles
    | _ => return handles

/-- Drops the marks after a document. -/
def dropEnds : Nat → Reader Unit
  | 0 => pure ()
  | fuel + 1 => do
    if ← accept .documentEnd then dropEnds fuel else pure ()

/-- Reads the content of a document whose mark has been read. -/
def content (fuel : Nat) : Reader Node := do
  match ← peek with
  | none => return empty
  | some (.directive _) | some .documentStart | some .documentEnd => return empty
  | _ => node fuel true false

/-- Reads the only document of the tokens, if there is one. -/
def document (fuel : Nat) : Reader (Option Node) := do
  let root ← match ← peek with
    | none => return none
    | some (.directive _) | some .documentStart =>
      let handles ← directives fuel false []
      expect .documentStart
      modify fun f => { f with handles := handles ++ coreHandles }
      content fuel
    | _ =>
      modify fun f => { f with handles := coreHandles }
      node fuel true false
  dropEnds fuel
  if (← peek).isSome then malformed
  return some root

end Reader

/-- The node of the only document of a text, if the text holds one. -/
def nodeOf (s : List Char) : Except Fault (Option Node) := do
  let tokens ← tokensOf s
  let (n, _) ← (Reader.document (4 * tokens.length + 8)).run { tokens }
  return n

end TopologySubmission.Yaml
