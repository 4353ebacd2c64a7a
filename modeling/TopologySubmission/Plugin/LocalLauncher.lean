import TopologySubmission.Plugin.Interface
import TopologySubmission.Plugin.LaunchManifest
import TopologySubmission.Site.PathSetting

/-!
# Launching on one host

This launcher registers a topology with the state manager and writes a manifest for the scheduler of
the host. It remembers what it registered. Undoing retracts exactly that, the newest first, and goes
on when a retraction fails; what failed is reported at the end. The topology node marks the job as
running, so it is registered last and retracted first.

    what is undone is what was registered, newest first       (retractAll)
-/

namespace TopologySubmission

/-! ## Algorithm -/

/-- Something that a launch registered under the name of a topology, or a file that it wrote. -/
inductive Registration where
  | node (kind : NodeKind) (name : String)
  | manifest (path : Path)
  deriving DecidableEq, Repr

/-- The words for a registration. -/
def Registration.words : Registration → String
  | .node .executionState _ => "execution state"
  | .node .packingPlan _ => "packing plan"
  | .node .topology _ => "topology"
  | .manifest _ => "launch manifest"

/-- What the launcher has in hand. The newest registration is the first. -/
structure LocalLauncher where
  settings : Settings := {}
  runtime : Option Runtime := none
  workingDir : Option Path := none
  registrations : List Registration := []
  deriving Repr, Inhabited

namespace LocalLauncher

/-- The failure of a use before there is a topology. -/
def notInitialized : Failure := .misuse (.notInitialized "Launcher")

/-- The state of a topology that a user submitted. -/
def submittedState (s : Site) (settings : Settings) (r : Runtime) (user : String) : Entries :=
  [(.text "topology_name", .text r.topology.name), (.text "topology_id", r.topology.id),
    (.text "submission_time", .int s.now), (.text "submission_user", .text user),
    (.text "cluster", settings.get Key.cluster), (.text "role", settings.get Key.role),
    (.text "environ", settings.get Key.environ), (.text "package_uri", r.packageUri)]

/-- The state of a topology that was submitted. The user must be known. -/
def executionState (s : Site) (settings : Settings) (r : Runtime) : Except Failure Entries := do
  return submittedState s settings r (← s.user)

section Launching

variable {σ : Type} (site : Part σ Site) (own : Part σ LocalLauncher)

/-- What the launcher has in hand now. -/
def inHand : Act σ LocalLauncher := Act.within own Act.world

/-- Changes what the launcher has in hand. -/
def remember (f : LocalLauncher → LocalLauncher) : Act σ Unit := Act.within own (Act.change f)

/-- Remembers a registration. -/
def registered (r : Registration) : Act σ Unit :=
  remember own fun l => { l with registrations := r :: l.registrations }

/-- Learns what to launch and where. -/
def configure (settings : Settings) (runtime : Runtime) : Act σ Unit := do
  remember own fun l => { l with settings, runtime := some runtime }
  let dir ← Act.within site (Site.pathSetting settings Key.workingDirectory)
  remember own fun l => { l with workingDir := some dir }

/-- The working directory, which must be known. -/
def knownDir : Option Path → Act σ Path
  | some p => pure p
  | none => Act.fail (.wrongKind .notAPath)

/-- Registers a node. -/
def register (access : StateAccess σ) (kind : NodeKind) (es : Entries) (name : String) :
    Act σ Unit := do
  access.setNode kind (.map es) name
  registered own (.node kind name)

/-- Writes the manifest in a directory. The directory is made before the text of the manifest is. -/
def storeManifest (dir : Path) (state : Entries) (plan : PackingPlan) : Act Site Unit := do
  Site.makeDirs dir
  let text ← Act.ofExcept ((← Act.world).yaml.dump state plan)
  Site.writeText (dir.child LaunchManifest.fileName) text

/-- Writes the manifest; its place. -/
def writeManifest (state : Entries) (plan : PackingPlan) : Act σ Path := do
  let dir ← knownDir (← inHand own).workingDir
  let manifest := dir.child LaunchManifest.fileName
  Act.within site (storeManifest dir state plan)
  registered own (.manifest manifest)
  return manifest

/-- Registers all that belongs to a plan. -/
def registerAll (access : StateAccess σ) (settings : Settings) (r : Runtime)
    (plan : PackingPlan) : Act σ Unit := do
  let name := r.topology.name
  let state ← Act.ofExcept (executionState (← Act.within site Act.world) settings r)
  register own access .executionState state name
  register own access .packingPlan plan.toEntries name
  let manifest ← writeManifest site own state plan
  register own access .topology (← Act.ofExcept r.topology.toEntries) name
  Act.log .info ("Launched " ++ name ++ " with " ++ toString plan.containers.length ++
    " containers, manifest at " ++ manifest.text)

/-- Packs the topology and registers it; whether there was anything to launch. -/
def launch (access : StateAccess σ) (packing : Packing σ) : Act σ Value := do
  let l ← inHand own
  match l.runtime with
  | none => Act.fail notInitialized
  | some r =>
    packing.configure l.settings
    let plan ← packing.pack r.topology
    if plan.instanceCount = 0 then
      Act.log .error ("Packing plan for " ++ r.topology.name ++ " has no instances")
      return .bool false
    else
      registerAll site own access l.settings r plan
      return .bool true

/-- Retracts one registration. -/
def retract (access : StateAccess σ) : Registration → Act σ Unit
  | .node kind name => access.deleteNode kind name
  | .manifest p => Act.within site (Site.removeIfThere p)

/-- Retracts registrations, the newest first; what failed. -/
def retractAll (access : StateAccess σ) (name : String) :
    List Registration → Act σ (List String)
  | [] => pure []
  | r :: rs => do
    remember own fun l => { l with registrations := rs }
    Act.log .info ("Retracting " ++ r.words ++ " of " ++ name)
    match ← Act.attempt (retract site access r) with
    | .ok () => retractAll access name rs
    | .error f =>
      Act.log .error ("Failed to retract " ++ r.words ++ " of " ++ name ++ ": " ++ f.message)
      let failures ← retractAll access name rs
      return (r.words ++ ": " ++ f.message) :: failures

/-- Retracts every registration. -/
def undo (access : StateAccess σ) : Act σ Unit := do
  let l ← inHand own
  let name := (l.runtime.map (·.topology.name)).getD ""
  match ← retractAll site own access name l.registrations with
  | [] => pure ()
  | failures =>
    Act.fail (.ofClass .undoFailed
      ("Could not retract launch of " ++ name ++ ": " ++ "; ".intercalate failures))

/-- The launcher that registers with a state manager what a packing plans. -/
def launcher (access : StateAccess σ) (packing : Packing σ) : Launcher σ where
  configure := configure site own
  launch := launch site own access packing
  undo := undo site own access
  close := pure ()

end Launching

end LocalLauncher

end TopologySubmission
