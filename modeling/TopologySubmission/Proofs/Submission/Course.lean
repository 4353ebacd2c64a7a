import TopologySubmission.Proofs.Submission.Row

/-!
# The course of an attempt

On its way to a commitment an attempt makes six calls, and it makes each one only after the calls
before it passed (`Course`). Each stage makes the next one or two of them. It goes on if its last
call passed; else it stops, with an error of its own or with the interrupt of that call (`Follows`):

    configureState    the first call                        (run_configureState)
    validate          the second call                       (run_validate)
    upload            the third and the fourth call         (run_upload)
    launch            the fifth and the sixth call          (run_launch)
-/

namespace TopologySubmission

/-! ## Stages -/

namespace Stage

/-- The stages from the beginning to a stage on the way to a commitment. -/
def path : Stage → List Stage
  | .init => [.init]
  | .validating => [.init, .validating]
  | .uploading => [.init, .validating, .uploading]
  | .launching => [.init, .validating, .uploading, .launching]
  | .committed => [.init, .validating, .uploading, .launching, .committed]
  | .rollingBack | .closed => []

/-- The class of the errors of a stage. -/
def errorClass : Stage → ErrorClass
  | .uploading => .uploadFailed
  | .launching => .launchFailed
  | _ => .validationRejected

/-- The stage after so many calls that passed. -/
def afterCalls : Nat → Stage
  | 0 => .init
  | 1 => .validating
  | 2 | 3 => .uploading
  | 4 | 5 => .launching
  | _ => .committed

end Stage

namespace Submitter

variable {σ α : Type} (s : Submitter σ)

/-! ## The six calls -/

/-- The calls on the way to a commitment, for a package at a place. -/
def plan (uri : Value) : List Call :=
  [.configureState, .runningCheck s.name, .configureUploader, .uploadPackage,
    .configureLauncher (s.runtime uri), .launch]

/-- The place of the package: what the fourth call answered. -/
def locator (vs : List (Visit σ)) : Value :=
  match vs[3]? with
  | some v => (s.ending v).toOption.getD .null
  | none => .null

/-- The calls made so far are the first ones of the plan, and all but the last one passed. -/
structure Course (vs : List (Visit σ)) : Prop where
  planned : vs.map Visit.call <+: s.plan (s.locator vs)
  passed : ∀ v ∈ vs.dropLast, s.passed v = true

/-- The attempt after calls that passed. -/
def standing (vs : List (Visit σ)) (w : σ) : Progress σ where
  world := w
  stage := Stage.afterCalls vs.length
  launcherReady := decide (5 ≤ vs.length)
  started := true
  calls := vs.map Visit.call
  visits := vs
  outcome :=
    { topologyName := s.name
      success := decide (vs.length = 6)
      stage := Stage.afterCalls vs.length
      packageUri := s.locator vs
      history := (Stage.afterCalls vs.length).path }

/-- The error that ends the stage of a call. -/
def Blames (v : Visit σ) (e : SubmissionError) : Prop :=
  ∃ g, v.call.stage? = some g ∧ e.kind = g.errorClass ∧
    (e.stage = none ∨ e.stage = some g.text) ∧ (e.topology = none ∨ e.topology = some s.name)

/-- The error names the stage of the call and the topology. -/
def Reported (v : Visit σ) (e : SubmissionError) : Prop :=
  ∃ g, v.call.stage? = some g ∧ e.kind = g.errorClass ∧ e.stage = some g.text ∧
    e.topology = some s.name

/-- What a stage makes of its last call: it goes on if the call passed, an interrupt breaks it off,
and else it stops with an error of its own. -/
def Follows (v : Visit σ) : Except Stop α → Prop
  | .ok _ => s.passed v = true
  | .error (.interrupt i) => s.interrupt? v = some i
  | .error (.failure f) =>
    s.passed v = false ∧ s.interrupt? v = none ∧ ∃ e, f = .submission e ∧ s.Blames v e

/-! ## The functions of the stages -/

variable {s}

theorem passed_of_ending {v : Visit σ} {x : Value} (h : s.ending v = .ok x)
    (ha : accepts v.call x = true) : s.passed v = true :=
  (s.passed_iff v).mpr ⟨x, h, ha⟩

theorem not_passed_of_follows_error {v : Visit σ} {e : Stop}
    (h : s.Follows v (.error e : Except Stop α)) : s.passed v = false := by
  cases e with
  | failure f => exact h.1
  | interrupt i => exact s.passed_of_ending_error ((s.interrupt?_eq_some_iff v i).mp h)

/-- A call that ended in a failure ends its stage with an error. -/
theorem follows_failure {v : Visit σ} {f : Failure} {e : SubmissionError}
    (h : s.ending v = .error (.failure f)) (he : s.Blames v e) :
    s.Follows v (.error (.failure (.submission e)) : Except Stop α) := by
  refine ⟨s.passed_of_ending_error h, ?_, e, rfl, he⟩
  unfold interrupt?
  rw [h]

/-- A call whose answer does not let the attempt go on ends its stage with an error. -/
theorem follows_refusal {v : Visit σ} {x : Value} {e : SubmissionError} (h : s.ending v = .ok x)
    (ha : accepts v.call x = false) (he : s.Blames v e) :
    s.Follows v (.error (.failure (.submission e)) : Except Stop α) := by
  refine ⟨?_, ?_, e, rfl, he⟩
  · unfold passed
    rw [h]
    exact ha
  · unfold interrupt?
    rw [h]

theorem follows_interrupt {v : Visit σ} {i : Interrupt} (h : s.ending v = .error (.interrupt i)) :
    s.Follows v (.error (.interrupt i) : Except Stop α) :=
  (s.interrupt?_eq_some_iff v i).mpr h

theorem run_configureState (c : Scene (Progress σ)) :
    ∃ r w l, Act.run s.configureState c =
        (r, ⟨c.world.after [c.visit .configureState] w, l⟩) ∧
      s.Follows (c.visit .configureState) r := by
  have he : s.ending (c.visit .configureState) = _ := run_silent _ _
  unfold configureState
  rw [Act.run_bind, Act.run_attempt, run_call_eq]
  revert he
  rcases Act.run (s.plugins.stateManager.configure s.settings) (c.visit .configureState).scene
    with ⟨(f | i) | _, t⟩ <;> intro he
  · exact ⟨_, t.world, t.log, rfl, follows_failure he ⟨.init, rfl, rfl, .inr rfl, .inr rfl⟩⟩
  · exact ⟨_, t.world, t.log, rfl, follows_interrupt he⟩
  · exact ⟨_, t.world, t.log, rfl, passed_of_ending he rfl⟩

/-- What the value says that a running check finished with. -/
def said : Value → RunningState
  | .null => .timedOut
  | x => if x.isTruthy then .running else .notRunning

theorem accepts_runningCheck_iff (name : String) (x : Value) :
    accepts (.runningCheck name) x = true ↔ said x = .notRunning := by
  cases x <;> simp [accepts, said]

theorem run_runningState_fst (m : StateManager σ) (name : String) (timeout : Value)
    (t : Scene σ) :
    (Act.run (m.runningState name timeout) t).1 =
      match (Act.run (m.askRunning name timeout) t).1 with
      | .ok x => .ok (said x)
      | .error (.failure _) => .ok .timedOut
      | .error (.interrupt i) => .error (.interrupt i) := by
  unfold StateManager.runningState
  rw [Act.run_bind, Act.run_attempt]
  rcases Act.run (m.askRunning name timeout) t with ⟨(f | i) | x, t'⟩
  · rfl
  · rfl
  · cases x <;> rfl

theorem run_validate (c : Scene (Progress σ)) :
    ∃ r w l, Act.run s.validate c =
        (r, ⟨c.world.after [c.visit (.runningCheck s.name)] w, l⟩) ∧
      s.Follows (c.visit (.runningCheck s.name)) r := by
  have hb : ∀ m, s.Blames (c.visit (.runningCheck s.name))
      { kind := .validationRejected, message := m } :=
    fun m => ⟨.validating, rfl, rfl, .inl rfl, .inl rfl⟩
  have hr := run_runningState_fst s.plugins.stateManager s.name s.timeout
    (c.visit (.runningCheck s.name)).scene
  rw [show (Act.run (s.plugins.stateManager.askRunning s.name s.timeout)
    (c.visit (.runningCheck s.name)).scene).1 = s.ending (c.visit (.runningCheck s.name))
    from rfl] at hr
  unfold validate
  rw [Act.run_bind, run_call_eq]
  generalize Act.run (s.plugins.stateManager.runningState s.name s.timeout)
    (c.visit (.runningCheck s.name)).scene = a at hr ⊢
  obtain ⟨r, t⟩ := a
  cases hx : s.ending (c.visit (.runningCheck s.name)) with
  | error e =>
    rw [hx] at hr
    cases e with
    | failure f =>
      subst hr
      exact ⟨_, t.world, t.log, rfl, follows_failure hx (hb _)⟩
    | interrupt i =>
      subst hr
      exact ⟨_, t.world, t.log, rfl, follows_interrupt hx⟩
  | ok x =>
    have ha := accepts_runningCheck_iff s.name x
    replace hr : r = .ok (said x) := by
      rw [hx] at hr
      exact hr
    have refused (h : said x ≠ .notRunning) :
        accepts (c.visit (.runningCheck s.name)).call x = false :=
      Bool.eq_false_iff.mpr fun h' => h (ha.mp h')
    cases hs : said x with
    | notRunning =>
      rw [hs] at hr
      subst hr
      exact ⟨.ok (), t.world, t.log, rfl, passed_of_ending hx (ha.mpr hs)⟩
    | running =>
      rw [hs] at hr
      subst hr
      exact ⟨_, t.world, t.log, rfl, follows_refusal hx (refused (by rw [hs]; decide)) (hb _)⟩
    | timedOut =>
      rw [hs] at hr
      subst hr
      exact ⟨_, t.world, t.log, rfl, follows_refusal hx (refused (by rw [hs]; decide)) (hb _)⟩

/-- A stage that goes on without the answer follows the same call. -/
theorem follows_map {β : Type} {v : Visit σ} {r : Except Stop α} (h : s.Follows v r)
    (f : α → β) : s.Follows v (r.map f) := by
  rcases r with (_ | _) | _ <;> exact h

/-- A stage that demands an answer follows the last call that it makes. -/
theorem run_demand {v : Visit σ} {r : Except Stop Value} {a : Act (Progress σ) Value}
    {c d : Scene (Progress σ)} (hrun : Act.run a c = (r, d)) (hv : s.ending v = r)
    (ha : ∀ x, r = .ok x → accepts v.call x = x.isTruthy) (kind : ErrorClass) (failed : String)
    (hb : ∀ e : SubmissionError, e.kind = kind → e.stage = none → e.topology = none →
      s.Blames v e) :
    ∃ r' : Except Stop Value, Act.run (demand kind failed a) c = (r', d) ∧ s.Follows v r' ∧
      ∀ x, r' = .ok x → r = .ok x := by
  unfold demand
  rw [Act.run_bind, Act.run_attempt, hrun]
  rcases r with (f | i) | x
  · exact ⟨_, rfl, follows_failure hv (hb _ rfl rfl rfl), by simp⟩
  · exact ⟨_, rfl, follows_interrupt hv, by simp⟩
  · have hx := ha x rfl
    by_cases ht : x.isTruthy = true
    · refine ⟨.ok x, ?_, passed_of_ending hv (by rw [hx, ht]), fun y h => h⟩
      simp [ht]
    · refine ⟨.error (.failure (.ofClass kind (failed ++ "."))), ?_,
        follows_refusal hv (by rw [hx, Bool.eq_false_iff.mpr ht]) (hb _ rfl rfl rfl), by simp⟩
      simp [ht]

theorem run_upload (c : Scene (Progress σ)) :
    (∃ e w l, Act.run s.upload c =
        (.error e, ⟨c.world.after [c.visit .configureUploader] w, l⟩) ∧
      s.Follows (c.visit .configureUploader) (.error e : Except Stop Value)) ∨
    s.passed (c.visit .configureUploader) = true ∧ ∃ u r w l, u.call = .uploadPackage ∧
      Act.run s.upload c = (r, ⟨c.world.after [c.visit .configureUploader, u] w, l⟩) ∧
      s.Follows u r ∧ ∀ uri, r = .ok uri → s.ending u = .ok uri := by
  have he : s.ending (c.visit .configureUploader) = _ := run_silent _ _
  have hrun : Act.run s.tryUpload c = _ := Act.run_bind _ _ _
  rw [run_call_eq] at hrun
  revert he hrun
  rcases Act.run (s.plugins.uploader.configure s.settings) (c.visit .configureUploader).scene
    with ⟨e | _, t⟩ <;> intro he hrun
  · obtain ⟨r, hr, hf, ho⟩ := run_demand hrun he (by simp) .uploadFailed
      "Failed to upload package" fun e hk hs ht => ⟨.uploading, rfl, hk, .inl hs, .inl ht⟩
    cases r with
    | ok x => exact absurd (ho x rfl) (by simp)
    | error e' => exact .inl ⟨e', t.world, t.log, hr, hf⟩
  · let d : Scene (Progress σ) := ⟨c.world.after [c.visit .configureUploader] t.world, t.log⟩
    simp only [run_call_eq] at hrun
    obtain ⟨r, hr, hf, ho⟩ := run_demand (v := d.visit .uploadPackage) hrun rfl (fun _ _ => rfl)
      .uploadFailed "Failed to upload package" fun e hk hs ht =>
        ⟨.uploading, rfl, hk, .inl hs, .inl ht⟩
    rw [Progress.after_after] at hr
    exact .inr ⟨passed_of_ending he rfl, d.visit .uploadPackage, r, _, _, rfl, hr, hf, ho⟩

theorem run_launch (uri : Value) (c : Scene (Progress σ)) :
    (∃ e w l, Act.run (s.launch uri) c =
        (.error e, ⟨c.world.after [c.visit (.configureLauncher (s.runtime uri))] w, l⟩) ∧
      s.Follows (c.visit (.configureLauncher (s.runtime uri))) (.error e : Except Stop Unit)) ∨
    s.passed (c.visit (.configureLauncher (s.runtime uri))) = true ∧
      ∃ u r w l, u.call = .launch ∧
        Act.run (s.launch uri) c =
          (r, ⟨{ c.world.after [c.visit (.configureLauncher (s.runtime uri)), u] w with
            launcherReady := true }, l⟩) ∧
        s.Follows u r := by
  have he : s.ending (c.visit (.configureLauncher (s.runtime uri))) = _ := run_silent _ _
  have hrun : Act.run (s.tryLaunch uri) c = _ := Act.run_bind _ _ _
  have hl : Act.run (s.launch uri) c = _ := Act.run_bind _ _ _
  rw [run_call_eq] at hrun
  revert he hrun
  rcases Act.run (s.plugins.launcher.configure s.settings (s.runtime uri))
    (c.visit (.configureLauncher (s.runtime uri))).scene with ⟨e | _, t⟩ <;> intro he hrun
  · obtain ⟨r, hr, hf, ho⟩ := run_demand hrun he (by simp) .launchFailed
      "Failed to launch topology" fun e hk hs ht => ⟨.launching, rfl, hk, .inl hs, .inl ht⟩
    cases r with
    | ok x => exact absurd (ho x rfl) (by simp)
    | error e' =>
      rw [hr] at hl
      exact .inl ⟨e', t.world, t.log, hl, follows_map hf fun _ => ()⟩
  · let d : Scene (Progress σ) := ⟨{ c.world.after
      [c.visit (.configureLauncher (s.runtime uri))] t.world with launcherReady := true }, t.log⟩
    simp only [Act.run_bind, Act.run_change, run_call_eq] at hrun
    obtain ⟨r, hr, hf, ho⟩ := run_demand (v := d.visit .launch) hrun rfl (fun _ _ => rfl)
      .launchFailed "Failed to launch topology" fun e hk hs ht =>
        ⟨.launching, rfl, hk, .inl hs, .inl ht⟩
    rw [hr] at hl
    let t' := (Act.run s.plugins.launcher.launch (d.visit .launch).scene).2
    refine .inr ⟨passed_of_ending he rfl, d.visit .launch, r.map fun _ => (), t'.world, t'.log, rfl,
      ?_, follows_map hf _⟩
    rw [hl]
    cases r <;> simp [Except.map, Progress.after, d, t']

end Submitter

end TopologySubmission
