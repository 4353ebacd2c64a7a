import TopologySubmission.Plugin.Interface
import TopologySubmission.Rehearsal.Faults

/-!
# Plugins that follow a script

A rehearsal may use plugins that do nothing but give the answers of a script. A call that the script
does not mention answers nothing; a running check that it does not mention answers that the topology
does not run.
-/

namespace TopologySubmission

/-! ## Algorithm -/

/-- What a call of a scripted plugin does. -/
inductive ScriptedAnswer where
  | gives (v : Value)
  | check (c : CheckAnswer)
  | stops (s : Stop)
  deriving Repr

/-- The answers of the calls of one plugin. -/
abbrev Script := List (PluginCall × ScriptedAnswer)

namespace Script

variable {σ : Type}

/-- The answer of a call. -/
def answer (s : Script) (c : PluginCall) : Act σ Value :=
  match s.lookup c with
  | some (.gives v) => pure v
  | some (.check _) => pure .null
  | some (.stops e) => Act.stop e
  | none => pure .null

/-- A call whose answer does not count. -/
def perform (s : Script) (c : PluginCall) : Act σ Unit := do
  let _ ← s.answer c
  pure ()

/-- The answer of a running check. -/
def checkAnswer (s : Script) : Act σ CheckAnswer :=
  match s.lookup .runningCheck with
  | some (.check c) => pure c
  | some (.gives v) => pure (.finished v)
  | some (.stops e) => Act.stop e
  | none => pure (.finished (.bool false))

/-- A state manager that follows a script. -/
def stateManager (s : Script) : StateManager σ where
  configure _ := s.perform .configure
  runningCheck _ := s.checkAnswer
  setNode k _ _ := s.perform (.setNode k)
  getNode k _ := s.answer (.getNode k)
  deleteNode k _ := s.perform (.deleteNode k)
  close := s.perform .close

/-- An uploader that follows a script. -/
def uploader (s : Script) : Uploader σ where
  configure _ := s.perform .configure
  uploadPackage := s.answer .uploadPackage
  undo := s.perform .undo
  close := s.perform .close

/-- A launcher that follows a script. -/
def launcher (s : Script) : Launcher σ where
  configure _ _ := s.perform .configure
  launch := s.answer .launch
  undo := s.perform .undo
  close := s.perform .close

/-- A packing that follows a script; its plans are empty. -/
def packing (s : Script) : Packing σ where
  configure _ := s.perform .configure
  pack _ := do
    s.perform .pack
    return { id := "", containers := [] }
  close := s.perform .close

/-- The plugins of four scripts. -/
def plugins (stateManager launcher packing uploader : Script) : Plugins σ where
  stateManager := stateManager.stateManager
  launcher := launcher.launcher
  packing := packing.packing
  uploader := uploader.uploader

/-! ## Lemmas -/

/-- A scripted call changes nothing. -/
theorem run_answer_snd (s : Script) (c : PluginCall) (t : Scene σ) :
    (Act.run (s.answer c) t).2 = t := by
  unfold answer
  split <;> rfl

end Script

end TopologySubmission
