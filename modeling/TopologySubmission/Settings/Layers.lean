import TopologySubmission.Settings.Expand
import TopologySubmission.Settings.Flatten
import TopologySubmission.Settings.Overrides
import TopologySubmission.Site.Files
import TopologySubmission.Topology.Basic

/-!
# The layers of the settings

The settings of a submission come from layers, of which a later one overrides an earlier one: the
defaults, the files of the cluster, the command line, and the topology. `build` puts the layers
together, replaces the placeholders and checks that nothing required is missing.
-/

namespace TopologySubmission.Settings

/-! ## Algorithm -/

/-- A text with a placeholder for a name. -/
def placeholder (name : String) : String := "$\x7b" ++ name ++ "\x7d"

/-- The directory where the state and the topologies of a user are kept. -/
def dataHome : String := placeholder "HOME" ++ "/.herondata"

/-- The place of a topology below a directory. -/
def topologyPlace : String :=
  "/" ++ placeholder "CLUSTER" ++ "/" ++ placeholder "ROLE" ++ "/" ++ placeholder "TOPOLOGY"

/-- The settings that hold unless another layer says otherwise. -/
def defaults : Entries :=
  [(.text Key.bin, .text (placeholder "HERON_HOME" ++ "/bin")),
    (.text Key.lib, .text (placeholder "HERON_HOME" ++ "/lib")),
    (.text Key.stateManagerClass, .text "localfs"),
    (.text Key.launcherClass, .text "local"),
    (.text Key.packingClass, .text "round_robin"),
    (.text Key.uploaderClass, .text "localfs"),
    (.text Key.stateRoot, .text (dataHome ++ "/repository/state/" ++ placeholder "CLUSTER")),
    (.text Key.stateMakesTree, .bool true),
    (.text Key.uploadDirectory, .text (dataHome ++ "/repository/topologies" ++ topologyPlace)),
    (.text Key.workingDirectory, .text (dataHome ++ "/topologies" ++ topologyPlace))]

/-- The files of a cluster, of which a later one overrides an earlier one. -/
def clusterFiles : List String :=
  ["cluster.yaml", "defaults.yaml", "statemgr.yaml", "packing.yaml", "scheduler.yaml",
    "uploader.yaml"]

/-- The settings that the value of a file makes. -/
def ofFileValue (p : Path) (v : Value) : Except Failure Entries :=
  match v with
  | .null => .ok []
  | v =>
    match v.entries? with
    | some es => flattenKeys es
    | none => .error (.configuration ("Config file " ++ p.text ++ " must contain a mapping"))

/-- The failure of reading a file, in the words of the settings. -/
def fileFailure (p : Path) (f : Failure) : Failure :=
  if f.isSystem || f.kind == .undecodable then
    .configuration ("Failed to read config file " ++ p.text ++ ": " ++ f.message)
  else f

/-- The settings of a YAML text of a file. -/
def ofFileText (load : Yaml.Loader) (p : Path) (s : String) : Except Failure Entries :=
  match load s with
  | .ok v => ofFileValue p v
  | .error (.failed f _) => .error f
  | .error (.noYaml words) =>
    .error (.configuration ("Invalid YAML syntax in " ++ p.text ++ ": " ++ words))

/-- The settings of one file; a missing one has none. -/
def loadFile (p : Path) : Act Site Entries := do
  if ← Site.exists? p then
    match ← Act.attempt (Site.readText p) with
    | .ok s => Act.ofExcept (ofFileText (← Act.world).yaml.load p s)
    | .error f => Act.fail (fileFailure p f)
  else
    Act.log .debug ("Config file not present, skipping: " ++ p.text)
    return []

/-- The directory of the files: a relative one lies below the home of the program. -/
def configPath (home conf : String) : Act Site Path := do
  let p ← Site.resolveHome (Path.ofText conf)
  if p.isAbsolute then return p
  else return (← Site.resolveHome (Path.ofText home)).join p

/-- The settings of files in a directory, added one after the other. -/
def loadFiles (dir : Path) (found : Entries) : List String → Act Site Entries
  | [] => return found
  | name :: names => do
    let es ← loadFile (dir.child name)
    loadFiles dir (found.merge es) names

/-- The settings of the files of a cluster. -/
def loadCluster (home conf : String) : Act Site Entries := do
  let dir ← configPath home conf
  if ← Site.isDir? dir then
    let base ← Site.resolveHome (Path.ofText home)
    loadFiles dir [(.text Key.home, .text base.text), (.text Key.conf, .text dir.text)]
      clusterFiles
  else Act.fail (.configuration ("Config path is not a directory: " ++ dir.text))

/-- The defaults with the files of a cluster over them. -/
def loadDefaults (home conf : String) : Act Site Settings := do
  return (({} : Settings).putAll defaults).putAll (← loadCluster home conf)

/-- The settings of the command line. -/
def commandLine (cluster role environ : Value) (overrides : Entries) : Settings :=
  ((((({} : Settings).put Key.cluster cluster).put Key.role role).put Key.environ environ).putAll
    overrides)

/-- A file that is a plain archive of classes, by its name. -/
def packageType (jar : String) : String :=
  if ".jar".toList.isSuffixOf (Path.ofText jar).name.toList then "jar" else "tar"

/-- The settings that a topology and its files make. -/
def ofTopology (package jar definition : String) (t : Topology) : Settings :=
  ((((((({} : Settings).put Key.topologyId t.id).put Key.topologyName (.text t.name)).put
    Key.definitionFile (.text definition)).put Key.packageFile (.text package)).put
    Key.jarFile (.text jar)).put Key.packageType (.text (packageType jar)))

/-- What the settings of a submission are made from. -/
structure Request where
  home : String
  conf : String
  cluster : Value
  role : Value
  environ : Value
  package : String
  jar : String
  definition : String
  topology : Topology
  overrides : Entries := []
  /-- The variables that placeholders may name; those of the site unless given. -/
  environment : Option Environment := none

/-- The layers of the settings, one over the other. -/
def mergeLayers (base : Settings) (r : Request) : Settings :=
  (base.putAll (commandLine r.cluster r.role r.environ r.overrides).entries).putAll
    (ofTopology r.package r.jar r.definition r.topology).entries

/-- The settings of a submission. -/
def build (r : Request) : Act Site Settings := do
  let merged := mergeLayers (← loadDefaults r.home r.conf) r
  let env := r.environment.getD (.ofTexts (← Act.world).environment)
  let s ← Act.ofExcept (merged.expand env defaultPasses)
  Act.ofExcept s.validate
  return s

end TopologySubmission.Settings
