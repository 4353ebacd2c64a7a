import TopologySubmission.Topology.Basic

/-!
# Definitions of topologies

`ofDefinition` turns a mapping into a topology: the two lists of components are always there, every
component has a name and a positive parallelism, one unless it says otherwise, and the settings are
a mapping. The id and the name are the texts of whatever stands for them, unless an integer in it has
too many digits for a text.
-/

namespace TopologySubmission.Topology

/-! ## Algorithm -/

/-- The parallelism of a component, a whole number above zero. -/
def parallelism? : Value → Option Int
  | .int n => if 1 ≤ n then some n else none
  | _ => none

/-- A component of a definition with its parallelism written out. -/
def completeComponent (kind : String) (v : Value) : Except Failure Value :=
  match v.entries? with
  | none => .error (.definition ("Every entry in '" ++ kind ++ "' needs a name"))
  | some es =>
    match es.getText? "name" with
    | none => .error (.definition ("Every entry in '" ++ kind ++ "' needs a name"))
    | some name =>
      match parallelism? ((es.getText? "parallelism").getD (.int 1)) with
      | some n => .ok (.map (es.insertText "parallelism" (.int n)))
      | none => do
        let shown ← name.asText
        throw (.definition ("Component '" ++ shown ++ "': parallelism must be a positive integer"))

/-- The components of one kind, completed. -/
def completeKind (body : Entries) (kind : String) : Except Failure Entries :=
  match (body.getText? kind).getD (.list []) with
  | .list xs => do return body.insertText kind (.list (← xs.mapM (completeComponent kind)))
  | _ => .error (.definition ("'" ++ kind ++ "' must be a list"))

/-- The keys that are not part of the body. -/
def isHeading (key : Value) : Bool := key.same (.text "id") || key.same (.text "name")

/-- The text of a value that is true, or the empty text. -/
def headingText (es : Entries) (key : String) : Except Failure String :=
  match es.getText? key with
  | some v => if v.isTruthy then v.asText else .ok ""
  | none => .ok ""

/-- The topology of a definition. -/
def ofDefinition (v : Value) : Except Failure Topology :=
  match v.entries? with
  | none => .error (.definition "Topology definition must be a mapping")
  | some es => do
    let body ← componentKinds.foldlM completeKind (es.filter fun e => !isHeading e.1)
    if (((body.getText? "config").getD (.map [])).entries?).isNone then
      throw (.definition "'config' must be a mapping")
    let id ← headingText es "id"
    let name ← headingText es "name"
    make (.text id) (.text name) (.map body)

/-! ## Lemmas -/

theorem parallelism?_pos (v : Value) (n : Int) (h : parallelism? v = some n) : 1 ≤ n := by
  unfold parallelism? at h
  split at h
  · split at h
    · simp_all
    · simp at h
  · simp at h

end TopologySubmission.Topology
