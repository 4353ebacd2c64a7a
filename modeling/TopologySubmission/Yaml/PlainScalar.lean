import TopologySubmission.Yaml.Line

/-!
# Plain scalars of YAML

A plain scalar has no quotes. It ends before a comment, before a colon with a blank after it, before
a mark of a flow collection it stands in, at a document mark and at a line that is not indented far
enough. Line ends inside it are folded as inside quotes.
-/

namespace TopologySubmission.Yaml

/-! ## Algorithm -/

/-- A mark of a flow collection. -/
def isFlowMark (c : Char) : Bool :=
  c == ',' || c == '[' || c == ']' || c == '\x7b' || c == '\x7d'

/-- A plain scalar may start with the rest of this text. -/
def startsPlain (inFlow : Bool) : List Char → Bool
  | [] => false
  | c :: r =>
    (!(isSpace c || isBreak c) && !("-?:,[]\x7b\x7d#&*!|>'\"%@`".toList.contains c)) ||
      (!atBlankOrEnd r && (c == '-' || (!inFlow && (c == '?' || c == ':'))))

/-- A colon that ends a plain scalar; what follows the colon decides. -/
def endsAtColon (inFlow : Bool) : List Char → Bool
  | [] => true
  | c :: _ => isSpace c || isBreak c || (inFlow && isFlowMark c)

/-- Reads a run of plain characters. -/
def plainRun (inFlow : Bool) : List Char → List Char × List Char
  | [] => ([], [])
  | c :: r =>
    if isSpace c || isBreak c || (c == ':' && endsAtColon inFlow r) ||
        (inFlow && (isFlowMark c || c == '?')) then ([], c :: r)
    else
      let (cs, rest) := plainRun inFlow r
      (c :: cs, rest)

/-- Reads empty lines between the lines of a plain scalar: the line ends, the rest, and how far the
next text is indented; nothing at a document mark, which ends the scalar. -/
def plainEmptyLines : Nat → Nat → List Char → Option (List Char × List Char × Nat)
  | 0, _, _ => none
  | fuel + 1, indent, s =>
    match s with
    | ' ' :: r => plainEmptyLines fuel (indent + 1) r
    | s =>
      match takeBreak s with
      | none => some ([], s, indent)
      | some (c, r) =>
        if atDocumentMark r then none
        else (plainEmptyLines fuel 0 r).map fun (cs, rest, n) => (c :: cs, rest, n)

/-- The rest of a text from the line after empty lines on, where a document mark stands. -/
def dropToDocumentMark : Nat → List Char → List Char
  | 0, s => s
  | fuel + 1, s =>
    match takeBreak (skipSpaces s) with
    | none => s
    | some (_, r) => if atDocumentMark r then r else dropToDocumentMark fuel r

/-- What follows a run of plain characters. -/
inductive PlainGap where
  /-- The scalar ends here. -/
  | done
  /-- Blanks within a line. -/
  | blanks (text : List Char)
  /-- Line ends, and how far the next line is indented. -/
  | lines (text : List Char) (indent : Nat)

/-- Reads what follows a run of plain characters; the flag says that a line has ended. -/
def plainGap (s : List Char) : PlainGap × List Char × Bool :=
  let blanks := s.takeWhile (· == ' ')
  let rest := s.dropWhile (· == ' ')
  match takeBreak rest with
  | none => (if blanks.isEmpty then .done else .blanks blanks, rest, false)
  | some (first, r) =>
    if atDocumentMark r then (.done, r, true)
    else
      match plainEmptyLines (r.length + 1) 0 r with
      | none => (.done, dropToDocumentMark r.length r, true)
      | some (more, rest, indent) =>
        let text := if first != '\n' then first :: more
          else if more.isEmpty then [' '] else more
        (.lines text indent, rest, true)

/-- A plain scalar: its text, the rest, and whether a line has ended after it. -/
structure PlainScalar where
  text : List Char
  rest : List Char
  lineEnded : Bool

/-- Reads a plain scalar whose lines need an indent. At most `fuel` runs are read. -/
def plainFrom (inFlow : Bool) (indent : Int) : Nat → List Char → PlainScalar
  | 0, s => ⟨[], s, false⟩
  | fuel + 1, s =>
    match plainRun inFlow s with
    | ([], _) => ⟨[], s, false⟩
    | (run, rest) =>
      match plainGap rest with
      | (.done, rest, ended) => ⟨run, rest, ended⟩
      | (.blanks gap, rest, ended) => continueAfter fuel run gap rest ended true
      | (.lines gap n, rest, ended) =>
        continueAfter fuel run gap rest ended (inFlow || indent ≤ n)
where
  /-- Goes on after a gap, which belongs to the scalar only if more of the scalar follows. -/
  continueAfter (fuel : Nat) (run gap rest : List Char) (ended goesOn : Bool) : PlainScalar :=
    if !goesOn || rest.head? == some '#' then ⟨run, rest, ended⟩
    else
      let more := plainFrom inFlow indent fuel rest
      if more.text.isEmpty then ⟨run, rest, ended⟩
      else ⟨run ++ gap ++ more.text, more.rest, more.lineEnded⟩

/-- Reads a plain scalar inside a collection of a given indent. -/
def plainScalar (inFlow : Bool) (parentIndent : Int) (s : List Char) : PlainScalar :=
  plainFrom inFlow (parentIndent + 1) (s.length + 1) s

/-! ## Lemmas -/

/-- A run of plain characters and the rest make up the text. -/
theorem plainRun_append (inFlow : Bool) (s : List Char) :
    (plainRun inFlow s).1 ++ (plainRun inFlow s).2 = s := by
  fun_induction plainRun inFlow s with
  | case1 => rfl
  | case2 => rfl
  | case3 c r _ cs rest h ih => simp_all

end TopologySubmission.Yaml
