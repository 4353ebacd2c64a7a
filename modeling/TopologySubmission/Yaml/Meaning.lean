import TopologySubmission.Value.Entries
import TopologySubmission.Value.Number
import TopologySubmission.Yaml.Base64
import TopologySubmission.Yaml.Node

/-!
# What YAML nodes mean

A scalar means the value that its tag asks for, a sequence a row, a mapping a mapping or a set. A
merge key takes over the entries of other mappings, in front of the mapping's own. A scalar that does
not fit its tag fails in the words of what it was read as; of several faults in a document the one
that comes first counts, where a collection is filled after the collections that stand beside it.
-/

namespace TopologySubmission.Yaml

/-! ## Algorithm -/

namespace Node

def tag : Node → Tag
  | .scalar t _ => t
  | .sequence t _ => t
  | .mapping t _ => t
  | .loop => .unknown

/-- The entries that the value of a merge key adds, of several mappings those of the last first. -/
def mergeSource : Node → Option (List (Node × Node))
  | .mapping .brokenMap _ => none
  | .mapping _ es => some es
  | .sequence _ items =>
    items.foldl (fun acc n => match acc, n with
      | none, _ => none
      | some _, .mapping .brokenMap _ => none
      | some es, .mapping _ fs => some (fs ++ es)
      | some _, _ => none) (some [])
  | _ => none

/-- A key that marks the value of its mapping is a text where the mapping is used as such. -/
def plainKey : Node → Node
  | .scalar .valueMark s => .scalar .str s
  | n => n

/-- Carries out the merge keys of a mapping. -/
def mergeEntries (es : List (Node × Node)) : Option (List (Node × Node)) := do
  let own := es.filter fun e => e.1.tag != .merge
  let sources ← (es.filter fun e => e.1.tag == .merge).mapM fun e => mergeSource e.2
  return sources.flatten ++ own.map fun e => (plainKey e.1, e.2)

mutual

/-- Carries out all merge keys. -/
def merged : Node → Node
  | .scalar t s => .scalar t s
  | .sequence t items => .sequence t (mergedItems items)
  | .mapping t es =>
    match mergeEntries (mergedEntries es) with
    | some es => .mapping t es
    | none => .mapping .brokenMap []
  | .loop => .loop

def mergedItems : List Node → List Node
  | [] => []
  | n :: ns => merged n :: mergedItems ns

def mergedEntries : List (Node × Node) → List (Node × Node)
  | [] => []
  | (k, v) :: es => (merged k, merged v) :: mergedEntries es

end

mutual

/-- The text of a scalar, or of the marked value of a mapping. -/
def text : Node → Except Fault (List Char)
  | .scalar _ s => .ok s
  | .mapping _ es => markedText es
  | _ => .error .malformed

def markedText : List (Node × Node) → Except Fault (List Char)
  | [] => .error .malformed
  | (k, v) :: es => if k.tag == .valueMark then text v else markedText es

end

end Node

/-- The words of truth values. -/
def truthWords : List (String × Bool) :=
  [("yes", true), ("no", false), ("true", true), ("false", false), ("on", true), ("off", false)]

def truthValue (s : String) : Except Fault Value :=
  match truthWords.lookup (Text.lower s) with
  | some b => .ok (.bool b)
  | none => .error (.failed (.missingKey (.text (Text.lower s))) rfl)

/-- Splits a text at a character. -/
def splitAt (c : Char) (s : List Char) : List String := (s.splitOn c).map String.ofList

/-- A sign in front of a text that is not empty; true is minus. -/
def signOf : List Char → Except Fault (Bool × List Char)
  | [] => .error (.failed .emptyText rfl)
  | '-' :: r => .ok (true, r)
  | '+' :: r => .ok (false, r)
  | s => .ok (false, s)

/-- The number that digits to the base of sixty write. -/
def fromSixties (digits : List Int) : Int := digits.foldl (fun n d => n * 60 + d) 0

/-- The integer that a text writes, without its sign. -/
def integerBody (s : List Char) : Except Fault Int :=
  match s with
  | [] => .error (.failed .emptyText rfl)
  | ['0'] => .ok 0
  | '0' :: 'b' :: r => written 2 (String.ofList r)
  | '0' :: 'x' :: r => written 16 (String.ofList r)
  | '0' :: r => written 8 (String.ofList ('0' :: r))
  | s =>
    if s.contains ':' then
      Failure.asFaults .failed ((splitAt ':' s).mapM (Value.integerOfText 10) |>.map fromSixties)
        (.map _ (.mapM (Value.integerOfText_foreign 10) _))
    else written 10 (String.ofList s)
where
  written (base : Nat) (s : String) : Except Fault Int :=
    Failure.asFaults .failed (Value.integerOfText base s) (Value.integerOfText_foreign base s)

def integerValue (s : List Char) : Except Fault Value := do
  let (negative, body) ← signOf (s.filter (· != '_'))
  let n ← integerBody body
  return .int (if negative then -n else n)

/-- The real number that digits to the base of sixty write, the last digit first. -/
def realFromSixties : Binary64 → Int → List Binary64 → Except Failure Binary64
  | sum, _, [] => .ok sum
  | sum, base, d :: ds => do
    let b ← Value.realOfInteger base
    realFromSixties (sum.add (d.mul b)) (base * 60) ds

theorem realFromSixties_foreign (sum : Binary64) (base : Int) (ds : List Binary64) :
    Failure.AreForeign (realFromSixties sum base ds) := by
  induction ds generalizing sum base with
  | nil => exact .ok sum
  | cons d ds ih => exact .bind (Value.realOfInteger_foreign base) fun b => ih _ _

def realValue (s : List Char) : Except Fault Value := do
  let lowered := (Text.lower (String.ofList (s.filter (· != '_')))).toList
  let (negative, body) ← signOf lowered
  let word := String.ofList body
  let x ←
    if word == ".inf" then pure (.infinity false)
    else if word == ".nan" then pure .nan
    else if body.contains ':' then
      Failure.asFaults .failed (do
        let digits ← (splitAt ':' body).mapM Value.realOfText
        realFromSixties .zero 1 digits.reverse)
        (.bind (.mapM Value.realOfText_foreign _) fun digits =>
          realFromSixties_foreign .zero 1 digits.reverse)
    else Failure.asFaults .failed (Value.realOfText word) (Value.realOfText_foreign word)
  return .float (if negative then x.neg else x)

/-- The number that digits of ASCII write. -/
def naturalOf (s : List Char) : Nat := s.foldl (fun n c => n * 10 + (c.toNat - 48)) 0

/-- The microseconds that the digits of a fraction write. -/
def microsecondsOf (s : List Char) : Nat :=
  let six := s.take 6
  naturalOf (six ++ List.replicate (6 - six.length) '0')

/-- The distance from universal time that a moment is written with. -/
def WrittenMoment.offset (m : WrittenMoment) : Option Int :=
  match m.zone with
  | some (sign, hours, minutes) =>
    let seconds : Int := (naturalOf hours * 60 + naturalOf minutes) * 60
    some (if sign == '-' then -seconds else seconds)
  | none => if m.universal then some 0 else none

/-- The day or the moment that is written. -/
def WrittenMoment.value (m : WrittenMoment) : Except CalendarError Value :=
  let year := naturalOf m.year
  let month := naturalOf m.month
  let day := naturalOf m.day
  match m.time with
  | none => (Date.check year month day).map .date
  | some (hour, minute, second) =>
    (Moment.check year month day (naturalOf hour) (naturalOf minute) (naturalOf second)
      (microsecondsOf m.fraction) m.offset).map .moment

def momentValue (s : List Char) : Except Fault Value :=
  match writtenMoment (withoutLastBreak s) with
  | none => .error (.failed (.noSuchPart "NoneType" "groupdict") rfl)
  | some m =>
    match m.value with
    | .ok v => .ok v
    | .error e => .error (.failed (.badValue (.calendar e)) rfl)

def bytesValue (s : List Char) : Except Fault Value :=
  if s.all (·.toNat < 0x80) then
    match base64Bytes s with
    | some b => .ok (.bytes b)
    | none => .error .malformed
  else .error .malformed

namespace Node

/-- The node is filled with other nodes after it was made. -/
def isFilled : Node → Bool
  | .loop => true
  | n => [Tag.seq, .map, .set, .omap, .pairs, .brokenMap].contains n.tag

/-- The value of a node that is not filled. -/
def scalarValue (n : Node) : Except Fault Value := do
  match n.tag with
  | .null => let _ ← n.text; return .null
  | .bool => truthValue (String.ofList (← n.text))
  | .int => integerValue (← n.text)
  | .float => realValue (← n.text)
  | .binary => bytesValue (← n.text)
  | .timestamp => momentValue (← n.text)
  | .str => return .text (String.ofList (← n.text))
  | _ => throw .malformed

/-- What is done when a collection is filled. -/
inductive Filling where
  | make (n : Node)
  | useAsKey (n : Node)
  | refuse

/-- The steps that fill a pair of a row of pairs. -/
def pairFilling : Node → List Filling
  | .mapping _ [(k, v)] => [.make k, .make v]
  | _ => [.refuse]

/-- The steps that fill a collection. -/
def fillings : Node → List Filling
  | .sequence .seq items => items.map .make
  | .sequence .omap items => items.flatMap pairFilling
  | .sequence .pairs items => items.flatMap pairFilling
  | .mapping .map es => es.flatMap fun e => [.make e.1, .useAsKey e.1, .make e.2]
  | .mapping .set es => es.flatMap fun e => [.make e.1, .useAsKey e.1, .make e.2]
  | .loop => []
  | _ => [.refuse]

/-- The fault of one step, if it has one. -/
def Filling.fault? : Filling → Option Fault
  | .make n =>
    if n.isFilled then none
    else match n.scalarValue with
      | .ok _ => none
      | .error e => some e
  | .useAsKey n => if n.isFilled then some .malformed else none
  | .refuse => some .malformed

/-- The collections that are made in some steps. -/
def Filling.made : Filling → List Node
  | .make n => if n.isFilled then [n] else []
  | _ => []

/-- The first fault when collections are filled one after the other and then the collections that
they hold, down to a depth. -/
def firstFault : Nat → List Node → Option Fault
  | 0, _ => none
  | depth + 1, ns =>
    let steps := ns.flatMap fillings
    match steps.findSome? Filling.fault? with
    | some e => some e
    | none =>
      match steps.flatMap Filling.made with
      | [] => none
      | inner => firstFault depth inner

mutual

/-- The depth of a node. -/
def depth : Node → Nat
  | .scalar _ _ => 1
  | .sequence _ items => depthItems items + 1
  | .mapping _ es => depthEntries es + 1
  | .loop => 1

def depthItems : List Node → Nat
  | [] => 0
  | n :: ns => max (depth n) (depthItems ns)

def depthEntries : List (Node × Node) → Nat
  | [] => 0
  | (k, v) :: es => max (max (depth k) (depth v)) (depthEntries es)

end

/-- Puts a member into a set. -/
def addMember (members : List Value) (v : Value) : List Value :=
  if members.any (·.same v) then members else members ++ [v]

mutual

/-- The value of a node without faults. A node that holds itself has no value. -/
def value : Node → Except Fault Value
  | .loop => .error (.failed .tooDeep rfl)
  | .sequence t items =>
    match t with
    | .seq => do return .list (← values items)
    | .omap | .pairs => do return .list (← pairValues items)
    | _ => scalarValue (.sequence t items)
  | .mapping t es =>
    match t with
    | .map => do return .map (Entries.ofList (← entryValues es))
    | .set => do return .set ((← keyValues es).foldl addMember [])
    | _ => scalarValue (.mapping t es)
  | .scalar t s => scalarValue (.scalar t s)

def values : List Node → Except Fault (List Value)
  | [] => .ok []
  | n :: ns => do return (← value n) :: (← values ns)

def pairValues : List Node → Except Fault (List Value)
  | [] => .ok []
  | .mapping _ es :: ns => do
    let row ← entryValues es
    return row.map (fun e => Value.tuple [e.1, e.2]) ++ (← pairValues ns)
  | _ :: ns => pairValues ns

def entryValues : List (Node × Node) → Except Fault Entries
  | [] => .ok []
  | (k, v) :: es => do return (← value k, ← value v) :: (← entryValues es)

/-- The members of a set, which drops the values of its entries. -/
def keyValues : List (Node × Node) → Except Fault (List Value)
  | [] => .ok []
  | (k, _) :: es => do return (← value k) :: (← keyValues es)

end

/-- The first fault of a node. -/
def fault? (n : Node) : Option Fault :=
  if n.isFilled then firstFault (n.depth + 1) [n] else (Filling.make n).fault?

/-- The node means a row or a mapping. -/
def isCollection (n : Node) : Bool := [Tag.seq, .map, .omap, .pairs].contains n.tag

end Node

/-- The node of the only document of a text, if there is one, with all faults found. -/
def load (s : String) : Except Fault (Option Node) := do
  match ← nodeOf s.toList with
  | none => return none
  | some n =>
    let n := n.merged
    match n.fault? with
    | some e => throw e
    | none => return some n

/-- The value of the only document of a text; nothing if it holds none. -/
def read (s : String) : Except Fault Value := do
  match ← load s with
  | none => return .null
  | some n => n.value

end TopologySubmission.Yaml
