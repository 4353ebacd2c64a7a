import TopologySubmission.Failure.Basic
import TopologySubmission.Value.Members

/-!
# Topologies

A `Topology` is the job that is submitted: its id, its name, by which a running job is known, and
its body: components of two kinds, spouts and bolts, and settings of its own. The body is frozen:
its rows and mappings are read only. `thaw` undoes `freeze` on what can be written in a definition:

    thaw (freeze v) = v  for a value of changeable rows and mappings      (thaw_freeze)
-/

namespace TopologySubmission

/-! ## Algorithm -/

namespace Value

mutual

/-- The value with read-only rows and mappings. -/
def freeze : Value → Value
  | .map es => .readOnlyMap (freezeEntries es)
  | .readOnlyMap es => .readOnlyMap (freezeEntries es)
  | .list xs => .tuple (freezeItems xs)
  | .tuple xs => .tuple (freezeItems xs)
  | v => v

def freezeItems : List Value → List Value
  | [] => []
  | x :: xs => freeze x :: freezeItems xs

/-- Keys are never frozen, since nothing in a key can change. -/
def freezeEntries : Entries → Entries
  | [] => []
  | (k, v) :: es => (k, freeze v) :: freezeEntries es

end

mutual

/-- The value with rows and mappings that can be changed in place of read-only ones. -/
def thaw : Value → Value
  | .map es => .map (thawEntries es)
  | .readOnlyMap es => .map (thawEntries es)
  | .tuple xs => .list (thawItems xs)
  | v => v

def thawItems : List Value → List Value
  | [] => []
  | x :: xs => thaw x :: thawItems xs

def thawEntries : Entries → Entries
  | [] => []
  | (k, v) :: es => (k, thaw v) :: thawEntries es

end

mutual

/-- The value holds no read-only rows and mappings. -/
def isThawed : Value → Bool
  | .map es => thawedEntries es
  | .readOnlyMap _ => false
  | .list xs => thawedItems xs
  | .tuple _ => false
  | _ => true

def thawedItems : List Value → Bool
  | [] => true
  | x :: xs => isThawed x && thawedItems xs

def thawedEntries : Entries → Bool
  | [] => true
  | (_, v) :: es => isThawed v && thawedEntries es

end

end Value

/-- A job to be submitted. -/
structure Topology where
  id : Value
  name : String
  body : Value
  deriving Repr, Inhabited

namespace Topology

/-- The kinds of components, in the order in which they are packed. -/
def componentKinds : List String := ["spouts", "bolts"]

/-- The characters of the name of a topology. -/
def isNameChar (c : Char) : Bool := c.isAlphanum || c == '_' || c == '.' || c == '-'

/-- A line of one or more characters of names; a line feed may end it. -/
def isNameLine (s : List Char) : Bool :=
  match s.dropWhile isNameChar with
  | [] | ['\n'] => !(s.takeWhile isNameChar).isEmpty
  | _ => false

/-- A text that names a topology. It becomes a name in stores, so it is neither of the two names
that stand for directories. -/
def isName (s : String) : Bool := isNameLine s.toList && s != "." && s != ".."

/-- The name that a value is, for a value that is true. -/
def checkName : Value → Except Failure String
  | .text s =>
    if isName s then .ok s
    else .error (.definition ("Invalid topology name '" ++ s ++
      "'. Only letters, digits, '_', '.' and '-' are allowed."))
  | .bytes _ => .error (.wrongKind .bytesForText)
  | v => .error (.wrongKind (.searched v.kindName))

/-- The topology with an id, a name and a body. -/
def make (id name body : Value) : Except Failure Topology := do
  if !id.isTruthy then throw (.definition "Topology id is required")
  if !name.isTruthy then throw (.definition "Topology name is required")
  return { id, name := ← checkName name, body := body.freeze }

/-- The part of the body with a name, or a default. -/
def part (t : Topology) (name : String) (default : Value) : Except Failure Value :=
  match t.body.entries? with
  | some es => .ok ((es.getText? name).getD default)
  | none => .error (.noSuchPart t.body.kindName "get")

/-- The name and the parallelism of a component. -/
def component (v : Value) : Except Failure (Value × Value) :=
  match v.entries? with
  | none => .error (.noSuchPart v.kindName "get")
  | some es =>
    match es.getText? "name" with
    | none => .error (.missingKey (.text "name"))
    | some name =>
      if name.isKey then .ok (name, (es.getText? "parallelism").getD (.int 1))
      else .error (.wrongKind (.notAKey name.kindName))

/-- The components of one kind, put after those found so far. -/
def componentsOf (t : Topology) (found : Entries) (kind : String) : Except Failure Entries := do
  let parts ← (← (← t.part kind (.tuple [])).members).mapM component
  return found.merge parts

/-- The components with their parallelism, the spouts first. A component named again takes the
later parallelism. -/
def components (t : Topology) : Except Failure Entries :=
  componentKinds.foldlM t.componentsOf []

/-- The settings of the topology's own. -/
def settings (t : Topology) : Except Failure Value := t.part "config" (.readOnlyMap [])

/-- The topology as one mapping. -/
def toEntries (t : Topology) : Except Failure Entries :=
  match t.body.entries? with
  | some es =>
    .ok (Entries.merge [(.text "id", t.id), (.text "name", .text t.name)] (Value.thawEntries es))
  | none => .error (.wrongKind (.unusable t.body.kindName "a mapping"))

end Topology

/-! ## Lemmas -/

namespace Value

theorem freeze_map (es : Entries) : (map es).freeze = .readOnlyMap (freezeEntries es) := by rw [freeze]

mutual

theorem thaw_freeze : ∀ v : Value, v.isThawed = true → thaw (freeze v) = v
  | .map es, h => by
    simp only [isThawed] at h
    simp only [freeze, thaw, thawEntries_freezeEntries es h]
  | .list xs, h => by
    simp only [isThawed] at h
    simp only [freeze, thaw, thawItems_freezeItems xs h]
  | .readOnlyMap _, h => by simp [isThawed] at h
  | .tuple _, h => by simp [isThawed] at h
  | .null, _ | .bool _, _ | .int _, _ | .float _, _ | .text _, _ | .bytes _, _ | .date _, _
  | .moment _, _ | .set _, _ => rfl

theorem thawItems_freezeItems : ∀ xs : List Value, thawedItems xs = true →
    thawItems (freezeItems xs) = xs
  | [], _ => rfl
  | x :: xs, h => by
    simp only [thawedItems, Bool.and_eq_true] at h
    simp only [freezeItems, thawItems, thaw_freeze x h.1, thawItems_freezeItems xs h.2]

theorem thawEntries_freezeEntries : ∀ es : Entries, thawedEntries es = true →
    thawEntries (freezeEntries es) = es
  | [], _ => rfl
  | (k, v) :: es, h => by
    simp only [thawedEntries, Bool.and_eq_true] at h
    simp only [freezeEntries, thawEntries, thaw_freeze v h.1, thawEntries_freezeEntries es h.2]

end

end Value

end TopologySubmission
