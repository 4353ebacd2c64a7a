import TopologySubmission.Submission.Submitter

/-!
# How the calls of an attempt end

A visit is a call together with the scene in which it was made, so what the plugin answered can be
read off it: `ending` is the answer or the stop, `passed` says that the attempt may go on after it.
Every function of the submitter that calls plugins is described by the visits it makes:

    call          one visit, and what the plugin answers          (run_call_eq)
    tolerate      one visit; only an interrupt stops it            (run_tolerate)
-/

namespace TopologySubmission

/-! ## Calls -/

namespace Call

/-- The stage whose success a call decides. -/
def stage? : Call → Option Stage
  | .configureState => some .init
  | .runningCheck _ => some .validating
  | .configureUploader | .uploadPackage => some .uploading
  | .configureLauncher _ | .launch => some .launching
  | _ => none

def isUndo : Call → Bool
  | .undoUploader | .undoLauncher => true
  | _ => false

def isClose : Call → Bool
  | .closeUploader | .closeLauncher | .closePacking | .closeState => true
  | _ => false

/-- The words for the plugin that is undone or closed. -/
def who : Call → String
  | .undoUploader | .closeUploader => "uploader"
  | .undoLauncher | .closeLauncher => "launcher"
  | .closePacking => "packing"
  | _ => "state manager"

/-- A call of a stage neither undoes nor closes. -/
theorem of_stage? {k : Call} (h : k.stage? ≠ none) : k.isUndo = false ∧ k.isClose = false := by
  cases k <;> first | exact ⟨rfl, rfl⟩ | exact absurd rfl h

/-- Undoing belongs to no stage and closes nothing. -/
theorem of_isUndo {k : Call} (h : k.isUndo = true) : k.stage? = none ∧ k.isClose = false := by
  cases k <;> first | exact ⟨rfl, rfl⟩ | cases h

/-- Closing belongs to no stage and undoes nothing. -/
theorem of_isClose {k : Call} (h : k.isClose = true) : k.stage? = none ∧ k.isUndo = false := by
  cases k <;> first | exact ⟨rfl, rfl⟩ | cases h

end Call

/-! ## Endings -/

namespace Submitter

variable {σ α : Type} (s : Submitter σ)

/-- An act without a result, as an act that answers nothing. -/
def silent (a : Act σ Unit) : Act σ Value := (fun _ => .null) <$> a

/-- What the plugin does at a call. A running check is waited for. -/
def act : Call → Act σ Value
  | .configureState => silent (s.plugins.stateManager.configure s.settings)
  | .runningCheck name => s.plugins.stateManager.askRunning name s.timeout
  | .closeState => silent s.plugins.stateManager.close
  | .configureUploader => silent (s.plugins.uploader.configure s.settings)
  | .uploadPackage => s.plugins.uploader.uploadPackage
  | .undoUploader => silent s.plugins.uploader.undo
  | .closeUploader => silent s.plugins.uploader.close
  | .configureLauncher runtime => silent (s.plugins.launcher.configure s.settings runtime)
  | .launch => s.plugins.launcher.launch
  | .undoLauncher => silent s.plugins.launcher.undo
  | .closeLauncher => silent s.plugins.launcher.close
  | .closePacking => silent s.plugins.packing.close

/-- How a call ended. -/
def ending (v : Visit σ) : Except Stop Value := (Act.run (s.act v.call) v.scene).1

/-- The failure that a call ended in. -/
def failure? (v : Visit σ) : Option Failure :=
  match s.ending v with
  | .error (.failure f) => some f
  | _ => none

/-- The interrupt that a call ended in. -/
def interrupt? (v : Visit σ) : Option Interrupt :=
  match s.ending v with
  | .error (.interrupt i) => some i
  | _ => none

/-- The answer lets an attempt go on: a running check must say that nothing runs, an upload and a
launch that they did their work. -/
def accepts : Call → Value → Bool
  | .runningCheck _, .null => false
  | .runningCheck _, x => !x.isTruthy
  | .uploadPackage, x | .launch, x => x.isTruthy
  | _, _ => true

/-- The call ended with an answer after which an attempt goes on. -/
def passed (v : Visit σ) : Bool :=
  match s.ending v with
  | .ok x => accepts v.call x
  | .error _ => false

/-! ## Lemmas -/

theorem passed_iff (v : Visit σ) :
    s.passed v = true ↔ ∃ x, s.ending v = .ok x ∧ accepts v.call x = true := by
  unfold passed
  cases s.ending v <;> simp

theorem interrupt?_eq_some_iff (v : Visit σ) (i : Interrupt) :
    s.interrupt? v = some i ↔ s.ending v = .error (.interrupt i) := by
  unfold interrupt?
  split <;> simp_all

theorem failure?_eq_some_iff (v : Visit σ) (f : Failure) :
    s.failure? v = some f ↔ s.ending v = .error (.failure f) := by
  unfold failure?
  split <;> simp_all

theorem passed_of_ending_error {v : Visit σ} {e : Stop} (h : s.ending v = .error e) :
    s.passed v = false := by
  unfold passed
  rw [h]

theorem run_silent (a : Act σ Unit) (t : Scene σ) :
    (Act.run (silent a) t).1 = (Act.run a t).1.map fun _ => .null := by
  unfold silent
  rw [Act.run_map]
  rcases Act.run a t with ⟨_ | _, t'⟩ <;> rfl

/-- A running check that is waited for gives a value only if it finished with that value. -/
theorem run_askRunning_eq_ok_iff (m : StateManager σ) (name : String) (timeout x : Value)
    (t : Scene σ) :
    (Act.run (m.askRunning name timeout) t).1 = .ok x ↔
      (Act.run (m.runningCheck name) t).1 = .ok (.finished x) := by
  unfold StateManager.askRunning
  rw [Act.run_bind]
  rcases Act.run (m.runningCheck name) t with ⟨e | a, t'⟩
  · simp
  · cases a <;> simp [CheckAnswer.await]

end Submitter

/-! ## Scenes of an attempt -/

section
variable {σ : Type}

/-- The visit that a call makes in a scene of an attempt. -/
def Scene.visit (c : Scene (Progress σ)) (k : Call) : Visit σ := ⟨k, ⟨c.world.world, c.log⟩⟩

/-- An attempt after further visits, which left the plugins in some world. -/
def Progress.after (p : Progress σ) (vs : List (Visit σ)) (w : σ) : Progress σ :=
  { p with world := w, calls := p.calls ++ vs.map Visit.call, visits := p.visits ++ vs }

theorem Progress.after_nil (p : Progress σ) : p.after [] p.world = p := by
  simp [Progress.after]

theorem Progress.after_after (p : Progress σ) (vs us : List (Visit σ)) (w x : σ) :
    (p.after vs w).after us x = p.after (vs ++ us) x := by
  simp [Progress.after]

end

namespace Submitter

variable {σ α : Type} (s : Submitter σ)

theorem run_call_eq (k : Call) (a : Act σ α) (c : Scene (Progress σ)) :
    Act.run (call k a) c =
      ((Act.run a (c.visit k).scene).1,
        ⟨c.world.after [c.visit k] (Act.run a (c.visit k).scene).2.world,
          (Act.run a (c.visit k).scene).2.log⟩) := rfl

/-- How a call ends that may fail: an interrupt passes. -/
def halt (v : Visit σ) : Except Stop Unit :=
  match s.interrupt? v with
  | some i => .error (.interrupt i)
  | none => .ok ()

/-- The outcome after a call whose failure is recorded. -/
def noted (note : Call → Failure → Outcome → Outcome) (o : Outcome) (v : Visit σ) : Outcome :=
  match s.failure? v with
  | some f => note v.call f o
  | none => o

theorem run_tolerate (k : Call) (a : Act σ Unit) (note : Call → Failure → Outcome → Outcome)
    (line : Failure → String) (h : s.act k = silent a) (c : Scene (Progress σ)) :
    ∃ w l, Act.run (tolerate k a (note k) line) c =
      (s.halt (c.visit k),
        ⟨{ c.world.after [c.visit k] w with
            outcome := s.noted note c.world.outcome (c.visit k) }, l⟩) := by
  have he : s.ending (c.visit k) = (Act.run a (c.visit k).scene).1.map fun _ => .null := by
    rw [← run_silent, ← h]
    rfl
  unfold tolerate halt noted interrupt? failure?
  rw [Act.run_bind, Act.run_attempt, run_call_eq, he]
  -- a failure of the plugin is recorded here; it does not leave this act
  rcases Act.run a (c.visit k).scene with ⟨(f | i) | _, t⟩
  · refine ⟨t.world, t.log ++ [⟨.error, line f⟩], ?_⟩
    simp only [Except.map, record, Act.run_bind, Act.run_change, Act.run_log]
    rfl
  · exact ⟨t.world, t.log, rfl⟩
  · exact ⟨t.world, t.log, rfl⟩

variable {s}

theorem halt_eq_ok {v : Visit σ} (h : s.interrupt? v = none) : s.halt v = .ok () := by
  unfold halt
  rw [h]

theorem halt_eq_interrupt {v : Visit σ} {i : Interrupt} (h : s.interrupt? v = some i) :
    s.halt v = .error (.interrupt i) := by
  unfold halt
  rw [h]

end Submitter

end TopologySubmission
