import TopologySubmission.Plugin.BuiltIn
import TopologySubmission.Submission.Submitter

/-!
# An attempt on a site

An attempt with the built-in plugins is performed in a workshop on the site. What it leaves behind is
the site; the plugins are new for every attempt.
-/

namespace TopologySubmission

/-! ## Algorithm -/

/-- Changes of plugins, one for each role. -/
structure PluginChanges (σ : Type) where
  stateManager : StateManager σ → StateManager σ := id
  packing : Packing σ → Packing σ := id
  launcher : Launcher σ → Launcher σ := id
  uploader : Uploader σ → Uploader σ := id

namespace Workshop

/-- The plugins of a workshop with changes. The launcher works with the changed state manager and
the changed packing. -/
def changedPlugins (w : Workshop) (c : PluginChanges Workshop) : Plugins Workshop :=
  let p := pluginsWith (c.stateManager stateManager) (c.packing RoundRobin.packing) w.uploader
  { p with launcher := c.launcher p.launcher, uploader := c.uploader p.uploader }

/-- Performs an attempt on a site with the selected plugins, some of which may be changed. -/
def submit (settings : Settings) (topology : Topology) (selection : Registry.Selection BuiltIn)
    (changes : PluginChanges Workshop := {}) : Act Site Outcome := do
  let start := Workshop.start (← Act.world) selection
  let s : Submitter Workshop :=
    { settings, topology, plugins := start.changedPlugins changes
      timeout := Submitter.defaultTimeout }
  Act.within ⟨fun _ => s.begin start, fun _ p => p.world.site⟩ s.submit

end Workshop

end TopologySubmission
