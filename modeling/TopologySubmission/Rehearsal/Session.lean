import TopologySubmission.Rehearsal.Faults
import TopologySubmission.Submission.Attempt

/-!
# Sessions with built-in plugins

A session holds a site and built-in plugins that are called one by one, with faults. A new plugin may
take the place of an old one; a launcher goes on with the state manager and the packing that it was
configured with.

    the newest state manager is the current one      (currentStore_addStore)
-/

namespace TopologySubmission

/-! ## Algorithm -/

/-- A state manager with its faults, and the faults of the access that launchers have to it. -/
structure StoreDesk where
  store : LocalStore := {}
  faults : Faults := []
  accessFaults : Faults := []
  deriving Inhabited

/-- A site with built-in plugins. State managers and packings are numbered, the newest one last. -/
structure Session where
  site : Site
  stores : List StoreDesk := [{}]
  packings : List Faults := [[]]
  uploader : UploaderState := .toDirectory {}
  uploaderFaults : Faults := []
  launcher : LocalLauncher := {}
  launcherFaults : Faults := []
  /-- The state manager and the packing that the launcher was configured with. -/
  launcherStore : Nat := 0
  launcherPacking : Nat := 0

namespace Session

def sitePart : Part Session Site := ⟨Session.site, fun s t => { s with site := t }⟩

/-- What the state manager with a number has in hand. -/
def storePart (n : Nat) : Part Session LocalStore where
  get s := (s.stores.getD n {}).store
  set s t := { s with stores := s.stores.modify n fun d => { d with store := t } }

def uploaderPart : Part Session UploaderState :=
  ⟨Session.uploader, fun s u => { s with uploader := u }⟩

def launcherPart : Part Session LocalLauncher :=
  ⟨Session.launcher, fun s l => { s with launcher := l }⟩

/-- The number of the current state manager. -/
def currentStore (s : Session) : Nat := s.stores.length - 1

/-- The number of the current packing. -/
def currentPacking (s : Session) : Nat := s.packings.length - 1

/-- The state manager with a number. -/
def stateManager (s : Session) (n : Nat) : StateManager Session :=
  (s.stores.getD n {}).faults.ofStateManager (LocalStore.manager sitePart (storePart n))

/-- The access to the state manager with a number. -/
def access (s : Session) (n : Nat) : StateAccess Session :=
  (s.stores.getD n {}).accessFaults.ofAccess (s.stateManager n).access

/-- The packing with a number. -/
def packing (s : Session) (n : Nat) : Packing Session :=
  (s.packings.getD n []).ofPacking RoundRobin.packing

/-- The uploader. -/
def currentUploader (s : Session) : Uploader Session :=
  s.uploaderFaults.ofUploader (s.uploader.uploader sitePart uploaderPart)

/-- The launcher, with the state manager and the packing that it was configured with. Configuring it
gives it the current ones. -/
def currentLauncher (s : Session) : Launcher Session :=
  let l := LocalLauncher.launcher sitePart launcherPart (s.access s.launcherStore)
    (s.packing s.launcherPacking)
  s.launcherFaults.ofLauncher
    { l with
      configure := fun settings runtime => do
        Act.change fun w =>
          { w with launcherStore := s.currentStore, launcherPacking := s.currentPacking }
        l.configure settings runtime }

/-! ### New plugins -/

/-- Adds a state manager, which becomes the current one. -/
def addStore (s : Session) : Session := { s with stores := s.stores ++ [{}] }

/-- Puts a new plugin in the place of the one with its role. -/
def renew (s : Session) (b : BuiltIn) : Session :=
  match b.role with
  | .stateManager => s.addStore
  | .packing => { s with packings := s.packings ++ [[]] }
  | .launcher => { s with launcher := {}, launcherFaults := [] }
  | .uploader => { s with uploader := UploaderState.fresh b, uploaderFaults := [] }

/-- Changes the faults of the current plugin of a role. -/
def changeFaults (s : Session) (r : Role) (f : Faults → Faults) : Session :=
  match r with
  | .stateManager =>
    { s with
      stores := s.stores.modify s.currentStore fun d => { d with faults := f d.faults } }
  | .packing => { s with packings := s.packings.modify s.currentPacking f }
  | .launcher => { s with launcherFaults := f s.launcherFaults }
  | .uploader => { s with uploaderFaults := f s.uploaderFaults }

/-- Changes the faults of the access to the current state manager. -/
def changeAccessFaults (s : Session) (f : Faults → Faults) : Session :=
  { s with
    stores := s.stores.modify s.currentStore fun d => { d with accessFaults := f d.accessFaults } }

/-! ### Attempts -/

/-- The faults of the plugins of one attempt, by role. -/
abbrev AttemptFaults := List (Role × PluginCall × Stop)

/-- The faults for a role; a later one counts over an earlier one. -/
def faultsOf (fs : AttemptFaults) (r : Role) : Faults :=
  fs.foldl (fun f e => if e.1 = r then f.add e.2.1 e.2.2 else f) []

/-- The changes of plugins that faults make. -/
def changesOf {σ : Type} (fs : AttemptFaults) : PluginChanges σ where
  stateManager := (faultsOf fs .stateManager).ofStateManager
  packing := (faultsOf fs .packing).ofPacking
  launcher := (faultsOf fs .launcher).ofLauncher
  uploader := (faultsOf fs .uploader).ofUploader

/-- Performs an attempt on the site with new plugins that have faults. -/
def submit (settings : Settings) (topology : Topology) (fs : AttemptFaults) :
    Act Session Outcome :=
  Act.within sitePart do
    let selection ← Registry.builtIn.select settings
    Workshop.submit settings topology selection (changesOf fs)

/-! ## Lemmas -/

/-- The state manager that was added last is the current one. -/
theorem currentStore_addStore (s : Session) : s.addStore.currentStore = s.stores.length := by
  simp [addStore, currentStore]

end Session

end TopologySubmission
