import TopologySubmission.Plugin.Interface

/-!
# Plugins with faults

A rehearsal makes chosen calls of a plugin fail, to see what an attempt makes of it. All other calls
are as before.

    guard is the call itself unless there is a fault for it      (guard_of_lookup_eq_none)
-/

namespace TopologySubmission

/-! ## Algorithm -/

/-- The calls of plugins. -/
inductive PluginCall where
  | configure
  | runningCheck
  /-- The bounded running check that launchers may ask for. -/
  | runningState
  | setNode (kind : NodeKind)
  | getNode (kind : NodeKind)
  | deleteNode (kind : NodeKind)
  | uploadPackage
  | launch
  | pack
  | undo
  | close
  deriving DecidableEq, Repr

/-- How calls stop that have a fault. -/
abbrev Faults := List (PluginCall × Stop)

namespace Faults

variable {σ α : Type}

/-- A call, unless it has a fault. -/
def guard (f : Faults) (c : PluginCall) (a : Act σ α) : Act σ α :=
  match f.lookup c with
  | some s => Act.stop s
  | none => a

/-- Takes the fault of a call away. -/
def without (f : Faults) (c : PluginCall) : Faults := f.filter fun e => e.1 ≠ c

/-- Gives a call a fault. -/
def add (f : Faults) (c : PluginCall) (s : Stop) : Faults := (c, s) :: f.without c

/-- A state manager with faults. -/
def ofStateManager (f : Faults) (m : StateManager σ) : StateManager σ where
  configure s := f.guard .configure (m.configure s)
  runningCheck n := f.guard .runningCheck (m.runningCheck n)
  setNode k v n := f.guard (.setNode k) (m.setNode k v n)
  getNode k n := f.guard (.getNode k) (m.getNode k n)
  deleteNode k n := f.guard (.deleteNode k) (m.deleteNode k n)
  close := f.guard .close m.close

/-- Access to a state manager with faults. -/
def ofAccess (f : Faults) (a : StateAccess σ) : StateAccess σ where
  runningState n t := f.guard .runningState (a.runningState n t)
  setNode k v n := f.guard (.setNode k) (a.setNode k v n)
  getNode k n := f.guard (.getNode k) (a.getNode k n)
  deleteNode k n := f.guard (.deleteNode k) (a.deleteNode k n)

/-- An uploader with faults. -/
def ofUploader (f : Faults) (u : Uploader σ) : Uploader σ where
  configure s := f.guard .configure (u.configure s)
  uploadPackage := f.guard .uploadPackage u.uploadPackage
  undo := f.guard .undo u.undo
  close := f.guard .close u.close

/-- A launcher with faults. -/
def ofLauncher (f : Faults) (l : Launcher σ) : Launcher σ where
  configure s r := f.guard .configure (l.configure s r)
  launch := f.guard .launch l.launch
  undo := f.guard .undo l.undo
  close := f.guard .close l.close

/-- A packing with faults. -/
def ofPacking (f : Faults) (p : Packing σ) : Packing σ where
  configure s := f.guard .configure (p.configure s)
  pack t := f.guard .pack (p.pack t)
  close := f.guard .close p.close

/-! ## Lemmas -/

theorem guard_of_lookup_eq_none (f : Faults) (c : PluginCall) (a : Act σ α)
    (h : f.lookup c = none) : f.guard c a = a := by
  simp [guard, h]

/-- A call that was given a fault stops with it. -/
theorem guard_add (f : Faults) (c : PluginCall) (s : Stop) (a : Act σ α) :
    (f.add c s).guard c a = Act.stop s := by
  simp [guard, add]

end Faults

end TopologySubmission
