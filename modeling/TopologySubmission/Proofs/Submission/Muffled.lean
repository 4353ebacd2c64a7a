import TopologySubmission.Proofs.Submission.Visit

/-!
# Failures to undo or to close change nothing else

A plugin is muffled when it swallows its failure to undo or to close and logs what the submitter
would have logged. The attempt with muffled plugins is the attempt itself, and only the errors of
undoing or closing are missing in its outcome:

    Mirrors g a b    in a scene with another outcome, b does what a does
    s.muffled        mirrors s in a whole attempt                        (run_submit_muffled)
-/

namespace TopologySubmission

/-! ## Algorithm -/

/-- An outcome without the errors of undoing, or without those of closing. -/
def Outcome.forget (undo close : Bool) (o : Outcome) : Outcome :=
  { o with
    undoErrors := if undo then [] else o.undoErrors
    cleanupErrors := if close then [] else o.cleanupErrors }

/-- A scene of an attempt with another outcome. -/
def Scene.alter {σ : Type} (g : Outcome → Outcome) (c : Scene (Progress σ)) :
    Scene (Progress σ) :=
  ⟨{ c.world with outcome := g c.world.outcome }, c.log⟩

namespace Submitter

variable {σ α β : Type} (s : Submitter σ)

/-- Swallows a failure and logs a line about it. -/
def muffle (line : Failure → String) (a : Act σ Unit) : Act σ Unit := do
  match ← Act.attempt a with
  | .ok () => pure ()
  | .error f => Act.log .error (line f)

/-- Muffles an act, if that is asked for. -/
def muffleIf (b : Bool) (line : Failure → String) (a : Act σ Unit) : Act σ Unit :=
  if b then muffle line a else a

/-- The submitter with plugins that are muffled when they undo, or when they close. -/
def muffled (undo close : Bool) : Submitter σ :=
  { s with plugins :=
    { stateManager :=
        { s.plugins.stateManager with
          close := muffleIf close (closeLine "state manager") s.plugins.stateManager.close }
      uploader :=
        { s.plugins.uploader with
          undo := muffleIf undo (s.undoLine "uploader") s.plugins.uploader.undo
          close := muffleIf close (closeLine "uploader") s.plugins.uploader.close }
      launcher :=
        { s.plugins.launcher with
          undo := muffleIf undo (s.undoLine "launcher") s.plugins.launcher.undo
          close := muffleIf close (closeLine "launcher") s.plugins.launcher.close }
      packing :=
        { s.plugins.packing with
          close := muffleIf close (closeLine "packing") s.plugins.packing.close } } }

/-- In a scene with another outcome the second act does what the first one does. -/
def Mirrors (g : Outcome → Outcome) (a b : Act (Progress σ) α) : Prop :=
  ∀ c, Act.run b (c.alter g) = ((Act.run a c).1, (Act.run a c).2.alter g)

/-! ## Lemmas -/

/-- A muffled act ends in no failure. -/
theorem run_muffle_fst (line : Failure → String) (a : Act σ Unit) (t : Scene σ) (f : Failure) :
    (Act.run (muffle line a) t).1 ≠ .error (.failure f) := by
  unfold muffle
  rw [Act.run_bind, Act.run_attempt]
  rcases Act.run a t with ⟨(f | i) | u, t'⟩ <;> simp

variable {s}

theorem failure?_eq_none_of_muffle {line : Failure → String} {a : Act σ Unit} {v : Visit σ}
    (h : s.act v.call = silent (muffle line a)) : s.failure? v = none := by
  rw [Option.eq_none_iff_forall_ne_some]
  intro f hf
  rw [failure?_eq_some_iff] at hf
  unfold ending at hf
  rw [h, run_silent] at hf
  have := run_muffle_fst line a v.scene
  generalize (Act.run (muffle line a) v.scene).1 = r at hf this
  cases r with
  | ok u => cases hf
  | error e => exact this f (by simpa [Except.map] using hf)

/-- Muffled plugins do not fail to undo. -/
theorem failure?_muffled_undo (close : Bool) {v : Visit σ} (h : v.call.isUndo = true) :
    (s.muffled true close).failure? v = none := by
  obtain ⟨k, t⟩ := v
  cases k <;> first | exact failure?_eq_none_of_muffle rfl | cases h

/-- Muffled plugins do not fail to close. -/
theorem failure?_muffled_close (undo : Bool) {v : Visit σ} (h : v.call.isClose = true) :
    (s.muffled undo true).failure? v = none := by
  obtain ⟨k, t⟩ := v
  cases k <;> first | exact failure?_eq_none_of_muffle rfl | cases h

variable {g : Outcome → Outcome}

namespace Mirrors

theorem bind {a b : Act (Progress σ) α} {f h : α → Act (Progress σ) β} (hab : Mirrors g a b)
    (hfh : ∀ x, Mirrors g (f x) (h x)) : Mirrors g (a >>= f) (b >>= h) := by
  intro c
  rw [Act.run_bind, Act.run_bind, hab c]
  rcases Act.run a c with ⟨e | x, d⟩
  · rfl
  · exact hfh x d

theorem attempt {a b : Act (Progress σ) α} (hab : Mirrors g a b) :
    Mirrors g (Act.attempt a) (Act.attempt b) := by
  intro c
  rw [Act.run_attempt, Act.run_attempt, hab c]
  rcases Act.run a c with ⟨(f | i) | x, d⟩ <;> rfl

theorem ensure {a b : Act (Progress σ) α} {a' b' : Act (Progress σ) Unit} (hab : Mirrors g a b)
    (hab' : Mirrors g a' b') : Mirrors g (Act.ensure a a') (Act.ensure b b') := by
  intro c
  rw [Act.run_ensure, Act.run_ensure, hab c, hab' (Act.run a c).2]
  rcases Act.run a' (Act.run a c).2 with ⟨e | u, d⟩ <;> rfl

theorem pure (x : α) : Mirrors (σ := σ) g (Pure.pure x) (Pure.pure x) := fun _ => rfl

theorem fail (f : Failure) : Mirrors (σ := σ) (α := α) g (Act.fail f) (Act.fail f) := fun _ => rfl

theorem log (l : Level) (t : String) : Mirrors (σ := σ) g (Act.log l t) (Act.log l t) :=
  fun _ => rfl

theorem ite {p q : Bool} {a b a' b' : Act (Progress σ) α} (h : q = p) (hab : Mirrors g a b)
    (hab' : Mirrors g a' b') : Mirrors g (if p then a else a') (if q then b else b') := by
  rw [h]
  by_cases hp : p = true
  · rw [if_pos hp, if_pos hp]
    exact hab
  · rw [if_neg hp, if_neg hp]
    exact hab'

/-- An act that looks at the world first. -/
theorem world {f h : Progress σ → Act (Progress σ) α}
    (hfh : ∀ p, Mirrors g (f p) (h { p with outcome := g p.outcome })) :
    Mirrors g (Act.world >>= f) (Act.world >>= h) := by
  intro c
  rw [Act.run_bind, Act.run_bind, Act.run_world, Act.run_world]
  exact hfh c.world c

theorem change {f h : Progress σ → Progress σ}
    (hfh : ∀ p, h { p with outcome := g p.outcome } =
      { f p with outcome := g (f p).outcome }) :
    Mirrors g (Act.change f) (Act.change h) := by
  intro c
  rw [Act.run_change, Act.run_change]
  exact congrArg (fun p => (Except.ok (), Scene.mk p c.log)) (hfh c.world)

/-- A call is made in the same scene of the plugins. -/
theorem call (k : Call) (a : Act σ α) :
    Mirrors g (Submitter.call k a) (Submitter.call k a) := fun _ => rfl

theorem setWorld {p q : Progress σ} (h : q = { p with outcome := g p.outcome }) :
    Mirrors g (Act.setWorld p) (Act.setWorld q) := by
  intro c
  rw [h]
  rfl

theorem record {f : Outcome → Outcome} (h : ∀ o, g (f o) = f (g o)) :
    Mirrors (σ := σ) g (Submitter.record f) (Submitter.record f) :=
  change fun p => by rw [h]

/-- A failure that is recorded where the other outcome keeps its records. -/
theorem tolerate {note : Failure → Outcome → Outcome} (h : ∀ f o, g (note f o) = note f (g o))
    (k : Call) (a : Act σ Unit) (line : Failure → String) :
    Mirrors g (Submitter.tolerate k a note line) (Submitter.tolerate k a note line) := by
  refine (call k a).attempt.bind fun r => ?_
  cases r with
  | ok u => exact pure ()
  | error f => exact (record (h f)).bind fun _ => log _ _

/-- A failure that is recorded where the other outcome has no records. -/
theorem tolerate_muffle {note : Failure → Outcome → Outcome} (h : ∀ f o, g (note f o) = g o)
    (k : Call) (a : Act σ Unit) (line : Failure → String) :
    Mirrors g (Submitter.tolerate k a note line)
      (Submitter.tolerate k (muffle line a) note line) := by
  intro c
  unfold Submitter.tolerate muffle
  simp only [Act.run_bind, Act.run_attempt, run_call_eq]
  rw [show (c.alter g).visit k = c.visit k from rfl]
  -- the plugin logs the line that the submitter would log, so both scenes agree
  rcases Act.run a (c.visit k).scene with ⟨(f | i) | u, t⟩
  · simp [Submitter.record, Act.run_bind, Scene.alter, Progress.after, h]
  · rfl
  · rfl

end Mirrors

section
variable {undo close : Bool}

theorem mirrors_enter (next : Stage) :
    Mirrors (Outcome.forget undo close) (s.enter next) (s.enter next) :=
  Mirrors.world fun _ => (Mirrors.log _ _).bind fun _ => Mirrors.setWorld rfl

theorem mirrors_recordFailure (e : SubmissionError) :
    Mirrors (Outcome.forget undo close) (s.recordFailure e) (s.recordFailure e) := by
  refine Mirrors.world fun p => ?_
  dsimp only
  refine Mirrors.bind (Mirrors.record ?_) fun _ => Mirrors.log _ _
  intro o
  rfl

/-- An error that is recorded if it is of some class, and else goes on. -/
theorem mirrors_recover (kind : ErrorClass) (f : Failure) :
    Mirrors (Outcome.forget undo close)
      (match f.submissionError? with
        | some e => if e.kind.isA kind then s.recordFailure e else Act.fail f
        | none => Act.fail f)
      (match f.submissionError? with
        | some e => if e.kind.isA kind then s.recordFailure e else Act.fail f
        | none => Act.fail f) := by
  cases f.submissionError? with
  | none => exact Mirrors.fail f
  | some e => exact Mirrors.ite rfl (mirrors_recordFailure e) (Mirrors.fail f)

theorem mirrors_configureState :
    Mirrors (Outcome.forget undo close) s.configureState s.configureState := by
  refine (Mirrors.call _ _).attempt.bind fun r => ?_
  cases r with
  | ok u => exact Mirrors.pure ()
  | error f => exact Mirrors.fail _

theorem mirrors_validate : Mirrors (Outcome.forget undo close) s.validate s.validate := by
  refine (Mirrors.call _ _).bind fun r => ?_
  cases r with
  | notRunning => exact Mirrors.pure ()
  | running => exact Mirrors.fail _
  | timedOut => exact Mirrors.fail _

theorem mirrors_demand {a : Act (Progress σ) Value} (h : Mirrors (Outcome.forget undo close) a a)
    (kind : ErrorClass) (failed : String) :
    Mirrors (Outcome.forget undo close) (demand kind failed a) (demand kind failed a) := by
  refine h.attempt.bind fun r => ?_
  cases r with
  | error f => exact Mirrors.fail _
  | ok v => exact Mirrors.ite rfl (Mirrors.pure v) (Mirrors.fail _)

theorem mirrors_upload : Mirrors (Outcome.forget undo close) s.upload s.upload :=
  mirrors_demand ((Mirrors.call _ _).bind fun _ => Mirrors.call _ _) _ _

theorem mirrors_launch (uri : Value) :
    Mirrors (Outcome.forget undo close) (s.launch uri) (s.launch uri) :=
  (mirrors_demand ((Mirrors.call _ _).bind fun _ => (Mirrors.change fun _ => rfl).bind fun _ =>
    Mirrors.call _ _) _ _).bind fun _ => Mirrors.pure ()

theorem mirrors_uploadAndLaunch :
    Mirrors (Outcome.forget undo close) s.uploadAndLaunch s.uploadAndLaunch := by
  refine mirrors_upload.bind fun uri => ?_
  refine Mirrors.bind (Mirrors.record fun _ => rfl) fun _ => ?_
  exact (mirrors_enter _).bind fun _ => mirrors_launch uri

theorem mirrors_commit : Mirrors (Outcome.forget undo close) s.commit s.commit := by
  refine mirrors_uploadAndLaunch.attempt.bind fun r => ?_
  cases r with
  | ok u => exact Mirrors.bind (Mirrors.record fun _ => rfl) fun _ => mirrors_enter _
  | error f => exact mirrors_recover _ f

/-! ### The muffled submitter -/

theorem mirrors_undo (k : Call) (a : Act σ Unit) (who : String) :
    Mirrors (Outcome.forget undo close) (s.undo who k a)
      ((s.muffled undo close).undo who k (muffleIf undo (s.undoLine who) a)) := by
  cases undo with
  | false =>
    refine Mirrors.tolerate ?_ k a _
    intro f o
    rfl
  | true =>
    refine Mirrors.tolerate_muffle ?_ k a _
    intro f o
    rfl

theorem mirrors_close (k : Call) (a : Act σ Unit) (who : String) :
    Mirrors (Outcome.forget undo close) (Submitter.close who k a)
      (Submitter.close who k (muffleIf close (closeLine who) a)) := by
  cases close with
  | false =>
    refine Mirrors.tolerate ?_ k a _
    intro f o
    rfl
  | true =>
    refine Mirrors.tolerate_muffle ?_ k a _
    intro f o
    rfl

theorem mirrors_rollback :
    Mirrors (Outcome.forget undo close) s.rollback (s.muffled undo close).rollback :=
  (Mirrors.log _ _).bind fun _ => (mirrors_undo _ _ _).bind fun _ => mirrors_undo _ _ _

/-- What is done when no commitment was reached. -/
theorem mirrors_rollbackUnlessCommitted :
    Mirrors (Outcome.forget undo close) s.rollbackUnlessCommitted
      (s.muffled undo close).rollbackUnlessCommitted := by
  refine Mirrors.world fun p => Mirrors.ite rfl (Mirrors.pure ()) ?_
  refine Mirrors.bind (Mirrors.record fun _ => rfl) fun _ => (mirrors_enter _).bind fun _ => ?_
  exact mirrors_rollback

theorem mirrors_start :
    Mirrors (Outcome.forget undo close) s.start (s.muffled undo close).start := by
  refine Mirrors.world fun p => Mirrors.ite rfl (Mirrors.fail _) (Mirrors.setWorld ?_)
  cases undo <;> cases close <;> rfl

theorem mirrors_stages :
    Mirrors (Outcome.forget undo close) s.stages (s.muffled undo close).stages := by
  refine mirrors_configureState.bind fun _ => (mirrors_enter _).bind fun _ => ?_
  refine mirrors_validate.bind fun _ => (Mirrors.log _ _).bind fun _ => ?_
  exact (mirrors_enter _).bind fun _ => mirrors_commit.ensure mirrors_rollbackUnlessCommitted

theorem mirrors_guardedStages :
    Mirrors (Outcome.forget undo close) s.guardedStages (s.muffled undo close).guardedStages := by
  refine mirrors_stages.attempt.bind fun r => ?_
  cases r with
  | ok u => exact Mirrors.pure ()
  | error f => exact mirrors_recover _ f

theorem mirrors_closeLauncher :
    Mirrors (Outcome.forget undo close) s.closeLauncher (s.muffled undo close).closeLauncher := by
  refine Mirrors.world fun p => Mirrors.ite rfl ?_ (Mirrors.pure ())
  exact (mirrors_close _ _ _).bind fun _ => mirrors_close _ _ _

theorem mirrors_finish :
    Mirrors (Outcome.forget undo close) s.finish (s.muffled undo close).finish := by
  refine Mirrors.bind ?_ fun _ => mirrors_enter _
  refine (mirrors_close _ _ _).bind fun _ => mirrors_closeLauncher.bind fun _ => ?_
  exact mirrors_close _ _ _

theorem mirrors_report (o : Outcome) :
    Mirrors (Outcome.forget undo close) (s.report o) (s.report (o.forget undo close)) := by
  exact Mirrors.ite rfl (Mirrors.log _ _) (Mirrors.log _ _)

/-- The attempt with muffled plugins is the attempt itself, but for the errors it records. -/
theorem run_submit_muffled (w : σ) (log : List Record) :
    Act.run (s.muffled undo close).submit ⟨s.begin w, log⟩ =
      ((Act.run s.submit ⟨s.begin w, log⟩).1.map (Outcome.forget undo close),
        (Act.run s.submit ⟨s.begin w, log⟩).2.alter (Outcome.forget undo close)) := by
  have hbegin : (⟨s.begin w, log⟩ : Scene (Progress σ)) =
      Scene.alter (Outcome.forget undo close) ⟨s.begin w, log⟩ := by
    cases undo <;> cases close <;> rfl
  unfold submit
  rw [hbegin, Act.run_bind, Act.run_bind, mirrors_start, ← hbegin]
  rcases Act.run s.start ⟨s.begin w, log⟩ with ⟨e | u, c⟩
  · rfl
  dsimp only
  rw [Act.run_bind, Act.run_bind, (mirrors_guardedStages.ensure mirrors_finish) c]
  rcases Act.run (Act.ensure s.guardedStages s.finish) c with ⟨e | u, d⟩
  · rfl
  dsimp only
  rw [Act.run_bind, Act.run_bind, Act.run_world, Act.run_world]
  dsimp only
  have hreport : Act.run
      ((s.muffled undo close).report (d.alter (Outcome.forget undo close)).world.outcome)
        (d.alter (Outcome.forget undo close)) =
      ((Act.run (s.report d.world.outcome) d).1,
        (Act.run (s.report d.world.outcome) d).2.alter (Outcome.forget undo close)) :=
    mirrors_report d.world.outcome d
  rw [Act.run_bind, Act.run_bind, hreport]
  rcases Act.run (s.report d.world.outcome) d with ⟨e | u, d'⟩
  · rfl
  · rfl

theorem world_submit_muffled (w : σ) (log : List Record) :
    (Act.run (s.muffled undo close).submit ⟨s.begin w, log⟩).2.world =
      { (Act.run s.submit ⟨s.begin w, log⟩).2.world with
        outcome := (Act.run s.submit ⟨s.begin w, log⟩).2.world.outcome.forget undo close } :=
  congrArg (fun x => x.2.world) (run_submit_muffled w log)

end

end Submitter

end TopologySubmission
