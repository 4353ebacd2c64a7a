import TopologySubmission.CommandLine.Help
import TopologySubmission.CommandLine.LogSetup
import TopologySubmission.Settings.Layers
import TopologySubmission.Submission.Attempt
import TopologySubmission.Topology.Load

/-!
# The program

The program submits one topology. It loads the definition, builds the settings, makes the plugins
and performs the attempt. It ends with zero when the topology was submitted and with one otherwise.
A failure that no part of the program foresees ends the program as it is.

    a command line that cannot be used changes nothing       (run_of_usageError)
-/

namespace TopologySubmission.CommandLine

/-! ## Algorithm -/

/-- How the program ends and what it shows. -/
structure Ending where
  code : Nat := 0
  output : String := ""
  errors : String := ""
  deriving DecidableEq, Repr, Inhabited

namespace Ending

/-- The program ends after it has shown a text. -/
def shows (text : String) : Ending := { output := text }

/-- The program ends with a complaint. -/
def complains (text : String) : Ending := { code := 1, errors := text }

/-- What an outcome ends with. -/
def ofOutcome (o : Outcome) : Ending :=
  if o.success then
    shows ("✓ " ++ o.topologyName ++ " submitted (" ++ o.packageUri.plain ++ ")\n")
  else
    complains ("✗ " ++ o.topologyName ++ " failed during " ++ o.failedStageText ++ ": " ++
      ((o.error.map (·.message)).getD "None") ++ "\n")

end Ending

/-- What an attempt needs. -/
structure Preparation where
  settings : Settings
  topology : Topology
  selection : Registry.Selection BuiltIn

/-- What the settings are made from. -/
def settingsRequest (o : Options) (t : Topology) (overrides : Entries) : Settings.Request where
  home := o.home
  conf := o.configPath
  cluster := .text o.cluster
  role := .text o.role
  environ := .text o.environment
  package := o.package
  jar := o.jar
  definition := o.definition
  topology := t
  overrides := overrides

/-- Loads the definition, builds the settings and makes the plugins. -/
def prepare (o : Options) : Act Site Preparation := do
  let topology ← Topology.load o.definition
  let overrides ← Act.ofExcept (Overrides.parse o.overrides)
  let settings ← Settings.build (settingsRequest o topology overrides)
  Act.log .debug "Static config loaded successfully"
  Act.log .debug settings.dump
  let selection ← Registry.builtIn.select settings
  return { settings, topology, selection }

/-- Submits the topology that options name. -/
def submit (o : Options) : Act Site Ending := do
  match ← Act.attempt (prepare o) with
  | .ok p => return Ending.ofOutcome (← Workshop.submit p.settings p.topology p.selection)
  | .error f =>
    if f.isA .fatal then
      Act.log .error
        ("Failed to prepare submission from " ++ o.definition ++ ": " ++ f.message)
      return Ending.complains ("✗ Submission aborted: " ++ f.message ++ "\n")
    else Act.fail f

/-- The ending of an act that may be broken off at the keyboard. -/
def orAborted (a : Act Site Ending) : Act Site Ending := fun s =>
  match a.run s with
  | (.error (.interrupt (.keyboard _)), t) => (.ok (Ending.complains "\nAborted!\n"), t)
  | r => r

/-- Runs the program, under the name that its usage shows, with arguments. -/
def run (program : String) (arguments : List String) : Act Site Ending :=
  match readRequest arguments with
  | .error e => return Ending.complains (e.text program)
  | .ok .showHelp => return Ending.shows (helpText program)
  | .ok .showVersion => return Ending.shows versionText
  | .ok (.submit o) => orAborted ((LogSetup.ofVerbose o.verbose).apply (submit o))

/-! ## Lemmas -/

/-- A command line that cannot be used changes nothing. -/
theorem run_of_usageError (program : String) (arguments : List String) (e : UsageError)
    (h : readRequest arguments = .error e) (s : Scene Site) :
    Act.run (run program arguments) s = (.ok (Ending.complains (e.text program)), s) := by
  simp [run, h]

end TopologySubmission.CommandLine
