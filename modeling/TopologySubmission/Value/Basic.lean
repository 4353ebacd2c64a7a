import TopologySubmission.Calendar.Moment
import TopologySubmission.Number.Binary64

/-!
# Values of settings and definitions

A setting or a part of a topology definition is a `Value`: nothing, a truth value, a number, a
text, bytes, a date, a moment, a row of values, a mapping or a set. Rows and mappings come in two
kinds each, one that can be changed and one that is read only; they show differently in messages.

Two values are the `same` if they are equal as values: truth values count as the numbers 0 and 1,
whole real numbers equal integers, mappings may list their entries in any order. Keys of a mapping
are told apart by `same`.
-/

namespace TopologySubmission

/-! ## Algorithm -/

/-- A value of a setting or of a part of a topology definition. -/
inductive Value where
  | null
  | bool (b : Bool)
  | int (n : Int)
  | float (x : Binary64)
  | text (s : String)
  | bytes (b : List UInt8)
  | date (d : Date)
  | moment (t : Moment)
  | list (items : List Value)
  | tuple (items : List Value)
  | map (entries : List (Value × Value))
  | readOnlyMap (entries : List (Value × Value))
  | set (items : List Value)
  deriving Repr, Inhabited

/-- The entries of a mapping in their order. -/
abbrev Entries := List (Value × Value)

namespace Value

/-- The number that a truth value or an integer stands for. -/
def asInt? : Value → Option Int
  | .bool b => some (if b then 1 else 0)
  | .int n => some n
  | _ => none

/-- Equality of two values neither of which holds other values. -/
def sameScalar (a b : Value) : Bool :=
  match a, b with
  | .null, .null => true
  | .text s, .text t => s == t
  | .bytes s, .bytes t => s == t
  | .date s, .date t => s == t
  | .moment s, .moment t => s.same t
  | .float x, .float y => x.valueEq y
  | a, b =>
    match a.asInt?, b.asInt? with
    | some m, some n => m == n
    | some m, none => match b with
      | .float y => y.eqInt m
      | _ => false
    | none, some n => match a with
      | .float x => x.eqInt n
      | _ => false
    | none, none => false

mutual

/-- Equality of value. -/
def same : Value → Value → Bool
  | .list xs, .list ys => sameItems xs ys
  | .tuple xs, .tuple ys => sameItems xs ys
  | .map es, .map fs => es.length == fs.length && sameEntries es fs
  | .map es, .readOnlyMap fs => es.length == fs.length && sameEntries es fs
  | .readOnlyMap es, .map fs => es.length == fs.length && sameEntries es fs
  | .readOnlyMap es, .readOnlyMap fs => es.length == fs.length && sameEntries es fs
  | .set xs, .set ys => xs.length == ys.length && sameMembers xs ys
  | a, b => sameScalar a b
termination_by structural a => a

/-- Two rows are equal place by place. -/
def sameItems : List Value → List Value → Bool
  | [], [] => true
  | x :: xs, y :: ys => same x y && sameItems xs ys
  | _, _ => false
termination_by structural a => a

/-- Every entry has an equal one among the others. -/
def sameEntries : Entries → Entries → Bool
  | [], _ => true
  | (k, v) :: es, fs => fs.any (fun f => same k f.1 && same v f.2) && sameEntries es fs
termination_by structural a => a

/-- Every member has an equal one among the others. -/
def sameMembers : List Value → List Value → Bool
  | [], _ => true
  | x :: xs, ys => ys.any (fun y => same x y) && sameMembers xs ys
termination_by structural a => a

end

/-- The value counts as true: it is not nothing, false, zero or empty. -/
def isTruthy : Value → Bool
  | .null => false
  | .bool b => b
  | .int n => n != 0
  | .float x => !x.isZero
  | .text s => !s.isEmpty
  | .bytes b => !b.isEmpty
  | .date _ => true
  | .moment _ => true
  | .list xs => !xs.isEmpty
  | .tuple xs => !xs.isEmpty
  | .map es => !es.isEmpty
  | .readOnlyMap es => !es.isEmpty
  | .set xs => !xs.isEmpty

mutual

/-- The value can be a key: it holds nothing that could be changed. -/
def isKey : Value → Bool
  | .list _ => false
  | .map _ => false
  | .readOnlyMap _ => false
  | .set _ => false
  | .tuple xs => allKeys xs
  | _ => true

/-- Every one of the values can be a key. -/
def allKeys : List Value → Bool
  | [] => true
  | x :: xs => isKey x && allKeys xs

end

/-- The entries of a mapping of either kind. -/
def entries? : Value → Option Entries
  | .map es => some es
  | .readOnlyMap es => some es
  | _ => none

/-- A text or nothing. -/
def text? : Value → Option String
  | .text s => some s
  | _ => none

/-- The word for the kind of a value in messages. -/
def kindName : Value → String
  | .null => "NoneType"
  | .bool _ => "bool"
  | .int _ => "int"
  | .float _ => "float"
  | .text _ => "str"
  | .bytes _ => "bytes"
  | .date _ => "date"
  | .moment _ => "datetime"
  | .list _ => "list"
  | .tuple _ => "tuple"
  | .map _ => "dict"
  | .readOnlyMap _ => "mappingproxy"
  | .set _ => "set"

/-! ## Lemmas -/

/-- Texts are the same value exactly if they are equal. -/
@[simp] theorem same_text (s t : String) : same (.text s) (.text t) = (s == t) := rfl

/-- A text is never the same value as something else. -/
theorem same_text_left (s : String) (v : Value) (h : same (.text s) v = true) : v = .text s := by
  cases v with
  | text t => simp only [same_text, beq_iff_eq] at h; subst h; rfl
  | _ => simp [same, sameScalar, asInt?] at h

theorem same_text_right (s : String) (v : Value) (h : same v (.text s) = true) : v = .text s := by
  cases v with
  | text t => simp only [same_text, beq_iff_eq] at h; subst h; rfl
  | _ => simp [same, sameScalar, asInt?] at h

end Value

end TopologySubmission
