import TopologySubmission.Plugin.LocalLauncher
import TopologySubmission.Plugin.LocalStore
import TopologySubmission.Plugin.LocalUploader
import TopologySubmission.Plugin.Registry
import TopologySubmission.Plugin.RoundRobin
import TopologySubmission.Plugin.ScpUploader

/-!
# The plugins of the program itself

For every role there is a plugin that needs no other package: state in local files, launching on one
host, packing in turn, and uploading into a local directory or with `scp`. A `Workshop` is a site
with the plugins of one attempt at work in it.

    every role has a plugin of its own       (exists_builtIn)
-/

namespace TopologySubmission

/-! ## Algorithm -/

/-- The plugins of the program itself. -/
inductive BuiltIn where
  | localStore
  | localLauncher
  | roundRobin
  | localUploader
  | scpUploader
  deriving DecidableEq, Repr, Inhabited

namespace BuiltIn

/-- All of them. -/
def all : List BuiltIn := [.localStore, .localLauncher, .roundRobin, .localUploader, .scpUploader]

/-- The identifier in configurations. -/
def identifier : BuiltIn → String
  | .localStore => "localfs"
  | .localLauncher => "local"
  | .roundRobin => "round_robin"
  | .localUploader => "localfs"
  | .scpUploader => "scp"

/-- The name in messages. -/
def className : BuiltIn → String
  | .localStore => "LocalFileSystemStateManager"
  | .localLauncher => "LocalLauncher"
  | .roundRobin => "RoundRobinPacking"
  | .localUploader => "LocalFileSystemUploader"
  | .scpUploader => "ScpUploader"

/-- The role that the plugin plays. -/
def role : BuiltIn → Role
  | .localStore => .stateManager
  | .localLauncher => .launcher
  | .roundRobin => .packing
  | .localUploader => .uploader
  | .scpUploader => .uploader

/-- A built-in plugin as one that was made. -/
def made {α : Type} (plugin : BuiltIn → α) (b : BuiltIn) : Made α :=
  ⟨b.className, [b.role], plugin b⟩

/-- The plugin with an identifier for a role. -/
def find? (r : Role) (id : String) : Option BuiltIn :=
  all.find? fun b => b.role = r && b.identifier = id

end BuiltIn

namespace Registry

/-- The registry of the built-in plugins, each with what stands for it. To make one changes nothing. -/
def builtInAs {σ α : Type} (plugin : BuiltIn → α) : Registry σ α :=
  let make (b : BuiltIn) : Act σ (Made α) := return b.made plugin
  BuiltIn.all.foldl (fun r b => r.register b.role b.identifier (make b)) {}

/-- The registry of the built-in plugins. -/
def builtIn {σ : Type} : Registry σ BuiltIn := builtInAs id

end Registry

/-- An uploader with what it has in hand. -/
inductive UploaderState where
  | toDirectory (u : LocalUploader)
  | toHost (u : ScpUploader)
  deriving Repr, Inhabited

namespace UploaderState

/-- The state of an uploader that was just made. -/
def fresh : BuiltIn → UploaderState
  | .scpUploader => .toHost {}
  | _ => .toDirectory {}

/-- What an uploader into a directory has in hand. -/
def directoryPart : Part UploaderState LocalUploader where
  get
    | .toDirectory u => u
    | .toHost _ => {}
  set _ u := .toDirectory u

/-- What an uploader to another host has in hand. -/
def hostPart : Part UploaderState ScpUploader where
  get
    | .toHost u => u
    | .toDirectory _ => {}
  set _ u := .toHost u

/-- The uploader of a kind, in a world with its state. -/
def uploader {σ : Type} (site : Part σ Site) (own : Part σ UploaderState) :
    UploaderState → Uploader σ
  | .toDirectory _ => LocalUploader.uploader site (own.trans directoryPart)
  | .toHost _ => ScpUploader.uploader site (own.trans hostPart)

end UploaderState

/-- A site with the plugins of one attempt. -/
structure Workshop where
  site : Site
  store : LocalStore := {}
  uploader : UploaderState := .toDirectory {}
  launcher : LocalLauncher := {}

namespace Workshop

def sitePart : Part Workshop Site := ⟨Workshop.site, fun w s => { w with site := s }⟩

def storePart : Part Workshop LocalStore := ⟨Workshop.store, fun w s => { w with store := s }⟩

def uploaderPart : Part Workshop UploaderState :=
  ⟨Workshop.uploader, fun w u => { w with uploader := u }⟩

def launcherPart : Part Workshop LocalLauncher :=
  ⟨Workshop.launcher, fun w l => { w with launcher := l }⟩

/-- A workshop on a site for a selection of plugins. -/
def start (site : Site) (s : Registry.Selection BuiltIn) : Workshop :=
  { site, uploader := UploaderState.fresh s.uploader.plugin }

/-- The state manager of a workshop. -/
def stateManager : StateManager Workshop := LocalStore.manager sitePart storePart

/-- The plugins of a workshop, of which some calls may be changed. -/
def pluginsWith (store : StateManager Workshop) (packing : Packing Workshop)
    (kind : UploaderState) : Plugins Workshop where
  stateManager := store
  launcher := LocalLauncher.launcher sitePart launcherPart store.access packing
  packing := packing
  uploader := kind.uploader sitePart uploaderPart

/-- The plugins of a workshop. -/
def plugins (w : Workshop) : Plugins Workshop :=
  pluginsWith stateManager RoundRobin.packing w.uploader

end Workshop

/-! ## Lemmas -/

/-- Every role has a built-in plugin. -/
theorem exists_builtIn (r : Role) : ∃ b : BuiltIn, b.role = r := by
  cases r
  · exact ⟨.localStore, rfl⟩
  · exact ⟨.localLauncher, rfl⟩
  · exact ⟨.roundRobin, rfl⟩
  · exact ⟨.localUploader, rfl⟩

/-- The built-in plugins are known by their identifiers. -/
theorem has_builtIn {σ : Type} (b : BuiltIn) :
    (Registry.builtIn : Registry σ BuiltIn).has b.role b.identifier = true := by
  cases b <;> rfl

end TopologySubmission
