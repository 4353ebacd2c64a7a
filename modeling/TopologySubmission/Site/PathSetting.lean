import TopologySubmission.Settings.Basic
import TopologySubmission.Site.Files

/-!
# Paths in settings

A setting that is a path must be a text. A leading tilde stands for a home directory of the site.
-/

namespace TopologySubmission.Site

/-! ## Algorithm -/

/-- The path that a value writes. -/
def pathOf (v : Value) : Act Site Path :=
  match v with
  | .text s => resolveHome (Path.ofText s)
  | v => Act.fail (.wrongKind (.unusable v.kindName "a path"))

/-- The path that a setting writes. -/
def pathSetting (s : Settings) (key : String) : Act Site Path := do
  pathOf (← Act.ofExcept (s.item key))

/-! ## Lemmas -/

/-- A setting without a value is no path. -/
theorem run_pathSetting_missing (s : Settings) (key : String) (c : Scene Site)
    (h : s.get? key = none) :
    Act.run (pathSetting s key) c = (.error (.failure (.missingKey (.text key))), c) := by
  simp [pathSetting, Settings.item, h, Act.run_bind, Act.ofExcept]

end TopologySubmission.Site
