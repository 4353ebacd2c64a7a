import TopologySubmission.Text.DecimalDigit
import TopologySubmission.Yaml.Line

/-!
# Block scalars of YAML

A block scalar is the lines below its mark that are indented far enough: as they are after `|`, with
single line ends folded into spaces after `>`. What follows the mark may give the indent and says
whether the line ends at the end are dropped, clipped to one or kept.
-/

namespace TopologySubmission.Yaml

/-! ## Algorithm -/

/-- What happens to the line ends at the end of a block scalar. -/
inductive Chomping where
  | drop
  | clip
  | keep
  deriving DecidableEq, Repr

/-- What stands between the mark of a block scalar and its first line. -/
structure BlockHeader where
  chomping : Chomping := .clip
  indent : Option Nat := none
  deriving DecidableEq, Repr

/-- A sign that says what happens to the line ends at the end. -/
def chompingSign? : Char → Option Chomping
  | '+' => some .keep
  | '-' => some .drop
  | _ => none

/-- A digit of ASCII. -/
def asciiDigit? (c : Char) : Option Nat := if c.isDigit then some (c.toNat - 48) else none

/-- Reads the sign and the digit after the mark, in either order. The digit is not zero. -/
def blockHeader (s : List Char) : Except Fault (BlockHeader × List Char) :=
  let (sign, s1) := match s with
    | c :: r => match chompingSign? c with
      | some k => (some k, r)
      | none => (none, s)
    | [] => (none, s)
  let (digit, s2) := match s1 with
    | c :: r => match asciiDigit? c with
      | some d => (some d, r)
      | none => (none, s1)
    | [] => (none, s1)
  let (sign, s3) := match sign, digit, s2 with
    | none, some _, c :: r => match chompingSign? c with
      | some k => (some k, r)
      | none => (none, s2)
    | sign, _, _ => (sign, s2)
  if digit == some 0 || !atSpaceOrEnd s3 then .error .malformed
  else .ok (⟨sign.getD .clip, digit⟩, s3)

/-- Drops at most `n` spaces; the number of those dropped. -/
def dropIndent : Nat → List Char → Nat × List Char
  | n + 1, ' ' :: r =>
    let (k, rest) := dropIndent n r
    (k + 1, rest)
  | _, s => (0, s)

/-- Line ends, where the text goes on, and how far its line is indented there. -/
structure BlockGap where
  breaks : List Char
  rest : List Char
  column : Nat

/-- Reads empty lines in front of a line of the scalar. -/
def blockGap (indent : Nat) : Nat → List Char → BlockGap
  | 0, s => ⟨[], s, 0⟩
  | fuel + 1, s =>
    let (n, rest) := dropIndent indent s
    match takeBreak rest with
    | none => ⟨[], rest, n⟩
    | some (c, r) =>
      let gap := blockGap indent fuel r
      { gap with breaks := c :: gap.breaks }

/-- Reads empty lines of any indent; the largest indent is found on the way. -/
def firstGap : Nat → List Char → BlockGap × Nat
  | 0, s => (⟨[], s, 0⟩, 0)
  | fuel + 1, s =>
    let n := (s.takeWhile (· == ' ')).length
    let rest := skipSpaces s
    match takeBreak rest with
    | none => (⟨[], rest, n⟩, n)
    | some (c, r) =>
      let (gap, widest) := firstGap fuel r
      ({ gap with breaks := c :: gap.breaks }, max n widest)

/-- A rest that starts with a blank. -/
def startsBlank : List Char → Bool
  | c :: _ => isSpace c
  | [] => false

/-- The lines of a block scalar: their text, the line end of the last one, what follows it. -/
structure BlockLines where
  text : List Char
  lastBreak : List Char
  gap : BlockGap

/-- Reads the lines of a block scalar from a gap on. -/
def blockLines (folded : Bool) (indent : Nat) : Nat → BlockGap → BlockLines
  | 0, gap => ⟨[], [], gap⟩
  | fuel + 1, gap =>
    if gap.column != indent || gap.rest.isEmpty then ⟨[], [], gap⟩
    else
      let line := gap.rest.takeWhile (!isBreak ·)
      let after := gap.rest.dropWhile (!isBreak ·)
      let (lineBreak, after) := match takeBreak after with
        | some (c, r) => ([c], r)
        | none => ([], after)
      let next := blockGap indent (after.length + 1) after
      if next.column == indent && !next.rest.isEmpty then
        let joint :=
          if folded && lineBreak == ['\n'] && !startsBlank gap.rest && !startsBlank next.rest then
            if next.breaks.isEmpty then [' '] else []
          else lineBreak
        let more := blockLines folded indent fuel next
        ⟨gap.breaks ++ line ++ joint ++ more.text, more.lastBreak, more.gap⟩
      else ⟨gap.breaks ++ line, lineBreak, next⟩

/-- Reads a block scalar, from after its mark on, inside a collection of a given indent. -/
def blockScalar (folded : Bool) (parentIndent : Int) (s : List Char) :
    Except Fault (List Char × List Char) := do
  let (header, s) ← blockHeader s
  let s ← skipRestOfLine s
  let least := max 1 (parentIndent + 1).toNat
  let fuel := s.length + 1
  let (gap, indent) := match header.indent with
    | some n => (blockGap (least + n - 1) fuel s, least + n - 1)
    | none =>
      let (gap, widest) := firstGap fuel s
      (gap, max least widest)
  let lines := blockLines folded indent fuel gap
  let ending := match header.chomping with
    | .drop => []
    | .clip => lines.lastBreak
    | .keep => lines.lastBreak ++ lines.gap.breaks
  return (lines.text ++ ending, lines.gap.rest)

/-! ## Lemmas -/

/-- Dropping an indent drops spaces alone. -/
theorem dropIndent_append (n : Nat) (s : List Char) :
    List.replicate (dropIndent n s).1 ' ' ++ (dropIndent n s).2 = s := by
  fun_induction dropIndent n s with
  | case1 n r k rest h ih =>
    rw [h] at ih
    simp only at ih
    simp [List.replicate_succ, ih]
  | case2 => rfl

end TopologySubmission.Yaml
