import TopologySubmission.Json.Read
import TopologySubmission.Json.Write
import TopologySubmission.Plugin.Interface
import TopologySubmission.Site.PathSetting

/-!
# The state in local files

This state manager keeps one JSON file for every node, in one directory for each kind of node below a
root directory. A topology runs when its topology node is there. A node is written beside its place
first and then moved there, so that a reader never sees half of it.

    the nodes of one kind are in one directory, under the names of their topologies  (nodePath_eq)
-/

namespace TopologySubmission

/-! ## Algorithm -/

/-- The directory for the nodes of a kind. -/
def NodeKind.directory : NodeKind → String
  | .topology => "topologies"
  | .executionState => "executionstate"
  | .packingPlan => "packingplans"

/-- All kinds of nodes. -/
def NodeKind.all : List NodeKind := [.topology, .executionState, .packingPlan]

/-- What the state manager has in hand: its root, and whether it answers running checks. -/
structure LocalStore where
  root : Option Path := none
  answers : Bool := false
  deriving Repr, Inhabited

namespace LocalStore

/-- The failure of a use before there is a root. -/
def notInitialized : Failure := .misuse (.notInitialized "State manager")

/-- The place of a node below a root. -/
def nodePath (root : Path) (kind : NodeKind) (name : String) : Path :=
  (root.child kind.directory).child name

/-- Makes a directory for every kind of node. -/
def makeTree (root : Path) : List NodeKind → Act Site Unit
  | [] => pure ()
  | kind :: kinds => do
    Site.makeDirs (root.child kind.directory)
    makeTree root kinds

/-- Makes the root ready: its directories are made, or it must be there. -/
def prepareRoot (settings : Settings) (root : Path) : Act Site Unit := do
  if settings.flag Key.stateMakesTree true then makeTree root NodeKind.all
  else if ← Site.isDir? root then pure ()
  else Act.fail (.system (.missingStateRoot root.text))

/-- The JSON text of a node. -/
def nodeText (v : Value) : Except Failure String := do Json.document (← v.asEntries)

/-- Writes a node: beside its place first, and then there. -/
def writeNode (p : Path) (v : Value) : Act Site Unit := do
  Site.makeDirs p.parent
  if p.name = "" then Act.fail (.badValue (.emptyName p.text))
  else
    let beside := p.withName ("." ++ p.name ++ ".tmp")
    let text ← Act.ofExcept (nodeText v)
    Site.writeText beside text
    Site.move beside p

/-- Reads a node; nothing if it is not there. -/
def readNode (p : Path) : Act Site Value := do
  if ← Site.exists? p then
    let text ← Site.readText p
    Act.ofExcept (Json.read text)
  else return .null

/-- Whether a node is there, as the answer of a running check. -/
def checkNode (p : Path) : Act Site CheckAnswer := do
  match ← Act.attempt (Site.exists? p) with
  | .ok b => return .finished (.bool b)
  | .error f => return .stopped (.failure f)

section Manager

variable {σ : Type} (site : Part σ Site) (own : Part σ LocalStore)

/-- Makes the root ready and begins to answer running checks. -/
def configure (settings : Settings) : Act σ Unit := do
  let root ← Act.within site (Site.pathSetting settings Key.stateRoot)
  Act.within own (Act.change fun s => { s with root := some root })
  Act.within site (prepareRoot settings root)
  Act.within own (Act.change fun s => { s with answers := true })
  Act.log .debug ("Local state manager rooted at " ++ root.text)

/-- The place of a node. -/
def locate (kind : NodeKind) (name : String) : Act σ Path := do
  match (← Act.within own Act.world).root with
  | some root => return nodePath root kind name
  | none => Act.fail notInitialized

/-- Whether a topology runs. -/
def runningCheck (name : String) : Act σ CheckAnswer := do
  if (← Act.within own Act.world).answers then
    let p ← locate own .topology name
    Act.within site (checkNode p)
  else Act.fail notInitialized

/-- The state manager that keeps its nodes in files of the site. -/
def manager : StateManager σ where
  configure := configure site own
  runningCheck := runningCheck site own
  setNode kind v name := do
    let p ← locate own kind name
    Act.within site (writeNode p v)
  getNode kind name := do
    let p ← locate own kind name
    Act.within site (readNode p)
  deleteNode kind name := do
    let p ← locate own kind name
    Act.within site (Site.removeIfThere p)
  close := Act.within own (Act.change fun s => { s with answers := false })

end Manager

/-! ## Lemmas -/

/-- The name of a topology is the name of its nodes. -/
theorem nodePath_eq (root : Path) (kind : NodeKind) (name : String)
    (h : Path.ofText name = ⟨"", [name]⟩) :
    nodePath root kind name = { root with names := root.names ++ [kind.directory, name] } := by
  have hd : Path.ofText kind.directory = ⟨"", [kind.directory]⟩ := by cases kind <;> decide
  simp [nodePath, Path.child, Path.join, h, hd, Path.isAbsolute]

/-- Nodes of different kinds are in different directories. -/
theorem directory_injective (a b : NodeKind) (h : a.directory = b.directory) : a = b := by
  cases a <;> cases b <;> simp [NodeKind.directory] at h <;> rfl

end LocalStore

end TopologySubmission
