/-!
# The keys of the settings

Every key that a submission reads or sets, by the part of the program that it belongs to, and the
list of the keys that must have a value before a submission starts.
-/

namespace TopologySubmission.Key

/-! ## Command line -/

def cluster : String := "heron.config.cluster"
def role : String := "heron.config.role"
def environ : String := "heron.config.environ"

/-! ## Directories -/

def home : String := "heron.directory.home"
def conf : String := "heron.directory.conf"
def bin : String := "heron.directory.bin"
def lib : String := "heron.directory.lib"

/-! ## Topology -/

def topologyId : String := "heron.topology.id"
def topologyName : String := "heron.topology.name"
def definitionFile : String := "heron.topology.definition.file"
def packageFile : String := "heron.topology.package.file"
def jarFile : String := "heron.topology.jar.file"
def packageType : String := "heron.topology.package.type"

/-! ## Names of plugins -/

def stateManagerClass : String := "heron.class.state.manager"
def launcherClass : String := "heron.class.launcher"
def packingClass : String := "heron.class.packing.algorithm"
def uploaderClass : String := "heron.class.uploader"

/-! ## Plugins -/

def stateRoot : String := "heron.statemgr.root.path"
def stateMakesTree : String := "heron.statemgr.localfs.is.initialize.file.tree"
def uploadDirectory : String := "heron.uploader.localfs.file.system.directory"
def scpOptions : String := "heron.uploader.scp.command.options"
def scpConnection : String := "heron.uploader.scp.command.connection"
def sshOptions : String := "heron.uploader.ssh.command.options"
def sshConnection : String := "heron.uploader.ssh.command.connection"
def scpDirectory : String := "heron.uploader.scp.dir.path"
def scpTimeout : String := "heron.uploader.scp.command.timeout.sec"
def workingDirectory : String := "heron.launcher.local.working.directory"

/-! ## One attempt -/

def runtimeTopology : String := "heron.runtime.topology.definition"
def runtimeAdaptor : String := "heron.runtime.scheduler.state.manager.adaptor"
def runtimePackage : String := "heron.runtime.topology.package.uri"
def runtimeLauncher : String := "heron.runtime.launcher.class.instance"
def runtimePacking : String := "heron.runtime.packing.class.instance"

/-- The keys that must have a value, in the order in which missing ones are listed. -/
def required : List String :=
  [cluster, role, environ, home, conf, topologyId, topologyName, packageFile, stateManagerClass,
    launcherClass, packingClass, uploaderClass]

end TopologySubmission.Key
