import TopologySubmission.Proofs.Submission.Course

/-!
# How an attempt passes

Up to the point where it is closed, an attempt passes in one of three ways (`Passage`):

    committed     all six calls passed
    refused       configuring the state or the running check did not pass; nothing is undone
    rolledBack    a later call did not pass; the uploader and the launcher are undone

    s.guardedStages passes in one of these ways                     (passage_guardedStages)
-/

namespace TopologySubmission

namespace Submitter

variable {σ : Type} (s : Submitter σ)

/-! ## Algorithm -/

/-- The error that is recorded for a call that did not pass; none for an interrupt. -/
def Recorded (v : Visit σ) : Option SubmissionError → Prop
  | none => s.interrupt? v ≠ none
  | some e => s.interrupt? v = none ∧ s.Reported v e

/-- The attempt after a call that did not pass. -/
def fallen (vs : List (Visit σ)) (v : Visit σ) (failedStage : Option Stage)
    (error : Option SubmissionError) (w : σ) : Progress σ :=
  let p := (s.standing vs w).after [v] w
  { p with outcome := { p.outcome with failedStage, error } }

/-- The attempt after a call that did not pass, and after what was undone. -/
def rolled (vs : List (Visit σ)) (v : Visit σ) (us : List (Visit σ))
    (error : Option SubmissionError) (w : σ) : Progress σ :=
  let p := s.fallen vs v (some (Stage.afterCalls vs.length)) error w
  { p.after us w with
    stage := .rollingBack
    outcome := { p.outcome.enter .rollingBack with undoErrors := us.filterMap s.undoError? } }

/-- The ways of an attempt before it is closed: the calls of the stages, the calls that undo, how it
ends, and what has become of it. -/
inductive Passage :
    List (Visit σ) → List (Visit σ) → Except Stop Unit → Progress σ → Prop
  | committed {vs : List (Visit σ)} {w : σ} :
      s.Course vs → (∀ v ∈ vs, s.passed v = true) → vs.length = 6 →
      Passage vs [] (.ok ()) (s.standing vs w)
  | refused {vs : List (Visit σ)} {v : Visit σ} {error : Option SubmissionError} {w : σ} :
      s.Course (vs ++ [v]) → s.passed v = false → vs.length < 2 → s.Recorded v error →
      Passage (vs ++ [v]) [] (s.halt v)
        (s.fallen vs v (error.map fun _ => Stage.afterCalls vs.length) error w)
  | rolledBack {vs : List (Visit σ)} {v : Visit σ} {us : List (Visit σ)} {r : Except Stop Unit}
      {error : Option SubmissionError} {w : σ} :
      s.Course (vs ++ [v]) → s.passed v = false → 2 ≤ vs.length → s.Recorded v error →
      s.Row [.undoUploader, .undoLauncher] us r →
      Passage (vs ++ [v]) us (do r; s.halt v) (s.rolled vs v us error w)

variable {s}

/-! ## The course -/

theorem course_of_calls {vs : List (Visit σ)}
    (h : vs.map Visit.call = (s.plan (s.locator vs)).take vs.length)
    (hp : ∀ v ∈ vs.dropLast, s.passed v = true) : s.Course vs :=
  ⟨h ▸ List.take_prefix _ _, hp⟩

theorem Course.length_le {vs : List (Visit σ)} (h : s.Course vs) : vs.length ≤ 6 := by
  have := h.planned.length_le
  rwa [List.length_map] at this

theorem Course.passed_init {vs : List (Visit σ)} {v : Visit σ} (h : s.Course (vs ++ [v])) :
    ∀ u ∈ vs, s.passed u = true := by
  have := h.passed
  rwa [List.dropLast_concat] at this

theorem Course.planned_init {vs : List (Visit σ)} {v : Visit σ} (h : s.Course (vs ++ [v])) :
    vs.map Visit.call <+: s.plan (s.locator (vs ++ [v])) :=
  ((List.prefix_append vs [v]).map Visit.call).trans h.planned

theorem Course.length_init_lt {vs : List (Visit σ)} {v : Visit σ} (h : s.Course (vs ++ [v])) :
    vs.length < 6 := by
  have := h.length_le
  rw [List.length_append] at this
  exact this

/-- The calls before the last one of a course do not launch. -/
theorem Course.call_ne_launch {vs : List (Visit σ)} {u v : Visit σ} (h : s.Course (vs ++ [v]))
    (hu : u ∈ vs) : u.call ≠ .launch := by
  intro hl
  have hlength : (vs.map Visit.call).length ≤ 5 := by
    rw [List.length_map]
    exact Nat.le_of_lt_succ h.length_init_lt
  have := (List.prefix_take_iff.mpr ⟨h.planned_init, hlength⟩).subset (List.mem_map_of_mem hu)
  rw [hl] at this
  simp [plan] at this

/-- The next call of a course belongs to the stage that the attempt is in. -/
theorem Course.stage?_eq {vs : List (Visit σ)} {v : Visit σ} (h : s.Course (vs ++ [v])) :
    v.call.stage? = some (Stage.afterCalls vs.length) := by
  have hk : (s.plan (s.locator (vs ++ [v])))[vs.length]? = some v.call := by
    rw [List.prefix_iff_getElem?.mp h.planned vs.length (by simp)]
    simp
  generalize vs.length = n at hk
  rcases n with _ | _ | _ | _ | _ | _ | n <;> simp [plan] at hk <;> rw [← hk] <;> rfl

/-- The errors of the first two calls leave nothing to roll back. -/
theorem isA_fatal {n : Nat} (h : n < 2) : (Stage.afterCalls n).errorClass.isA .fatal = true := by
  rcases n with _ | _ | n
  · rfl
  · rfl
  · omega

/-- The errors of the other calls leave something to roll back. -/
theorem isA_compensable {n : Nat} (h : 2 ≤ n) (h' : n < 6) :
    (Stage.afterCalls n).errorClass.isA .compensable = true := by
  rcases n with _ | _ | _ | _ | _ | _ | n
  · omega
  · omega
  · rfl
  · rfl
  · rfl
  · rfl
  · omega

/-! ## Going on and recording -/

theorem run_enter (next : Stage) (c : Scene (Progress σ)) :
    Act.run (s.enter next) c =
      (.ok (), ⟨{ c.world with stage := next, outcome := c.world.outcome.enter next },
        c.log ++ [⟨.debug, s.name ++ ": " ++ c.world.stage.text ++ " -> " ++ next.text⟩]⟩) := by
  unfold enter
  simp only [Act.run_bind, Act.run_world, Act.run_log, Act.run_setWorld]

theorem run_record (f : Outcome → Outcome) (c : Scene (Progress σ)) :
    Act.run (record f) c = (.ok (), ⟨{ c.world with outcome := f c.world.outcome }, c.log⟩) := rfl

theorem run_recordFailure (e : SubmissionError) (c : Scene (Progress σ)) :
    Act.run (s.recordFailure e) c =
      (.ok (), ⟨{ c.world with
        outcome := c.world.outcome.failWith c.world.stage
          { e with
            stage := e.stage <|> some c.world.stage.text
            topology := e.topology <|> some s.name } }, c.log ++ [⟨.error, e.message⟩]⟩) := by
  unfold recordFailure
  simp only [Act.run_bind, Act.run_world, run_record, Act.run_log]

theorem Blames.kind_eq {v : Visit σ} {e : SubmissionError} {g : Stage} (h : s.Blames v e)
    (hg : v.call.stage? = some g) : e.kind = g.errorClass := by
  obtain ⟨g', hg', hk, -⟩ := h
  obtain rfl : g' = g := by simpa [hg'] using hg
  exact hk

theorem reported_of_blames {v : Visit σ} {e : SubmissionError} {g : Stage} (h : s.Blames v e)
    (hg : v.call.stage? = some g) :
    s.Reported v { e with
      stage := e.stage <|> some g.text
      topology := e.topology <|> some s.name } := by
  obtain ⟨g', hg', hk, hs, ht⟩ := h
  obtain rfl : g' = g := by simpa [hg'] using hg
  refine ⟨g', hg', hk, ?_, ?_⟩
  · rcases hs with hs | hs <;> simp [hs]
  · rcases ht with ht | ht <;> simp [ht]

/-! ## Uploading and launching -/

/-- The stages come to a call that does not pass, or to the last one. -/
def ReachesCall (s : Submitter σ) (a : Act (Progress σ) Unit) (c : Scene (Progress σ)) : Prop :=
  ∃ vs v r x l, Act.run a c = (r, ⟨(s.standing vs x).after [v] x, l⟩) ∧ s.Course (vs ++ [v]) ∧
    s.Follows v r ∧ 2 ≤ vs.length ∧ (r = .ok () → vs.length = 5)

section
variable {a b : Visit σ} (ha : a.call = .configureState) (hb : b.call = .runningCheck s.name)
  (pa : s.passed a = true) (pb : s.passed b = true)

include ha hb pa pb

theorem reachesCall_launch {v u : Visit σ} (hv : v.call = .configureUploader)
    (hu : u.call = .uploadPackage) (pv : s.passed v = true) (pu : s.passed u = true) {uri : Value}
    (hl : s.ending u = .ok uri) (c : Scene (Progress σ)) {w : σ}
    (hc : c.world = s.standing [a, b, v, u] w) : s.ReachesCall (s.launch uri) c := by
  have hloc : ∀ qs : List (Visit σ), s.locator (a :: b :: v :: u :: qs) = uri := by
    simp [locator, hl, Except.toOption]
  have hq : (c.visit (.configureLauncher (s.runtime uri))).call =
    .configureLauncher (s.runtime uri) := rfl
  rcases run_launch uri c with ⟨e, x, l, hr, hf⟩ | ⟨pq, z, r, x, l, hz, hr, hf⟩
  · refine ⟨[a, b, v, u], _, .error e, x, l, ?_, course_of_calls ?_ ?_, hf, by simp, by simp⟩
    · rw [hr, hc]
      rfl
    · simp [hloc, plan, ha, hb, hv, hu, hq]
    · simp [pa, pb, pv, pu]
  · generalize c.visit (.configureLauncher (s.runtime uri)) = q at hq pq hr
    refine ⟨[a, b, v, u, q], z, r, x, l, ?_, course_of_calls ?_ ?_, hf, by simp, by simp⟩
    · rw [hr, hc]
      simp [standing, Progress.after, hloc, Stage.afterCalls]
    · simp [hloc, plan, ha, hb, hv, hu, hq, hz]
    · simp [pa, pb, pv, pu, pq]

theorem reachesCall_uploadAndLaunch (c : Scene (Progress σ)) {w : σ}
    (hc : c.world = s.standing [a, b] w) : s.ReachesCall s.uploadAndLaunch c := by
  unfold uploadAndLaunch
  have hv : (c.visit .configureUploader).call = .configureUploader := rfl
  rcases run_upload c with ⟨e, x, l, hr, hf⟩ | ⟨pv, u, r, x, l, hu, hr, hf, ho⟩
  · refine ⟨[a, b], c.visit .configureUploader, .error e, x, l, ?_, course_of_calls ?_ ?_,
      follows_map hf fun _ => (), by simp, by simp⟩
    · rw [Act.run_bind_error hr, hc]
      rfl
    · simp [plan, ha, hb, hv]
    · simp [pa, pb]
  generalize c.visit .configureUploader = v at hv pv hr
  cases r with
  | error e =>
    refine ⟨[a, b, v], u, .error e, x, l, ?_, course_of_calls ?_ ?_, follows_map hf fun _ => (),
      by simp, by simp⟩
    · rw [Act.run_bind_error hr, hc]
      rfl
    · simp [plan, ha, hb, hv, hu]
    · simp [pa, pb, pv]
  | ok uri =>
    have hl := ho uri rfl
    unfold ReachesCall
    rw [Act.run_bind_ok hr, Act.run_bind_ok (run_record _ _), Act.run_bind_ok (run_enter _ _)]
    refine reachesCall_launch ha hb pa pb hv hu pv hf hl _ (w := x) ?_
    simp [hc, standing, Progress.after, Outcome.enter, Stage.afterCalls, Stage.path, locator, hl,
      Except.toOption]

omit ha hb pa pb in
/-- The attempt stands committed after the sixth call. -/
theorem standing_concat {vs : List (Visit σ)} (h : vs.length = 5) (v : Visit σ) (w : σ) :
    ({ (s.standing vs w).after [v] w with
        stage := .committed
        outcome := { (s.standing vs w).outcome with success := true }.enter .committed } :
      Progress σ) = s.standing (vs ++ [v]) w := by
  have hl : s.locator (vs ++ [v]) = s.locator vs := by
    unfold locator
    rw [List.getElem?_append_left (by omega)]
  simp [standing, Progress.after, Outcome.enter, hl, h, Stage.afterCalls, Stage.path]

omit ha hb pa pb in
/-- An attempt whose error is recorded before the sixth call has passed. -/
theorem failWith_standing {vs : List (Visit σ)} (h : vs.length < 6) (v : Visit σ) (w : σ)
    (e : SubmissionError) :
    ({ (s.standing vs w).after [v] w with
        outcome := (s.standing vs w).outcome.failWith (Stage.afterCalls vs.length) e } :
      Progress σ) = s.fallen vs v (some (Stage.afterCalls vs.length)) (some e) w := by
  have hs : decide (vs.length = 6) = false := decide_eq_false (by omega)
  simp [fallen, standing, Progress.after, Outcome.failWith, hs]

/-- Committing comes to an end after the sixth call, or at the first of the last four calls that
does not pass. -/
theorem run_commit (c : Scene (Progress σ)) {w : σ} (hc : c.world = s.standing [a, b] w) :
    (∃ vs x l, Act.run s.commit c = (.ok (), ⟨s.standing vs x, l⟩) ∧ s.Course vs ∧
      (∀ v ∈ vs, s.passed v = true) ∧ vs.length = 6) ∨
    ∃ vs v error x l, Act.run s.commit c =
        (s.halt v, ⟨s.fallen vs v (error.map fun _ => Stage.afterCalls vs.length) error x, l⟩) ∧
      s.Course (vs ++ [v]) ∧ s.passed v = false ∧ 2 ≤ vs.length ∧ s.Recorded v error := by
  obtain ⟨vs, v, r, x, l, hrun, hcourse, hf, h2, h5⟩ :=
    reachesCall_uploadAndLaunch ha hb pa pb c hc
  have hlen := hcourse.length_init_lt
  unfold commit
  cases r with
  | ok u =>
    have h5 := h5 rfl
    refine .inl ⟨vs ++ [v], x, ?okLog, ?okRun, hcourse, ?passed, by simp [h5]⟩
    case okRun =>
      rw [Act.run_bind_ok (Act.run_attempt_ok hrun), Act.run_bind_ok (run_record _ _), run_enter]
      exact congrArg (fun p => (Except.ok (), Scene.mk p _)) (standing_concat h5 v x)
    case passed =>
      intro u hu
      rcases List.mem_append.mp hu with hu | hu
      · exact hcourse.passed_init u hu
      · rw [List.mem_singleton.mp hu]
        exact hf
  | error e =>
    cases e with
    | interrupt i =>
      have hi : s.interrupt? v = some i := hf
      refine .inr ⟨vs, v, none, x, l, ?_, hcourse, not_passed_of_follows_error hf, h2, ?_⟩
      · rw [Act.run_bind_error (Act.run_attempt_interrupt hrun), halt_eq_interrupt hi]
        rfl
      · rw [Recorded, hi]
        simp
    | failure f =>
      obtain ⟨hp, hi, e, rfl, hbl⟩ := hf
      have hg := hcourse.stage?_eq
      have hk : e.kind.isA .compensable = true := by
        rw [hbl.kind_eq hg]
        exact isA_compensable h2 hlen
      refine .inr ⟨vs, v, some _, x, ?errorLog, ?errorRun, hcourse, hp, h2, hi,
        reported_of_blames hbl hg⟩
      case errorRun =>
        rw [Act.run_bind_ok (Act.run_attempt_failure hrun), halt_eq_ok hi]
        simp only [Failure.submissionError?, if_pos hk, run_recordFailure]
        exact congrArg (fun p => (Except.ok (), Scene.mk p _)) (failWith_standing hlen v x _)

end

/-! ## Rolling back -/

theorem run_rollbackUnlessCommitted {vs : List (Visit σ)} {v : Visit σ}
    {error : Option SubmissionError} {w : σ} (h : vs.length < 6) (c : Scene (Progress σ))
    (hc : c.world = s.fallen vs v (error.map fun _ => Stage.afterCalls vs.length) error w) :
    ∃ us r x l, s.Row [.undoUploader, .undoLauncher] us r ∧
      Act.run s.rollbackUnlessCommitted c = (r, ⟨s.rolled vs v us error x, l⟩) := by
  have hs : c.world.outcome.success = false := by
    rw [hc]
    exact decide_eq_false (by omega)
  obtain ⟨us, r, x, l, hrow, hrun⟩ := s.runsRow_rollback
    ⟨{ c.world with
        stage := .rollingBack
        outcome := { c.world.outcome with
          failedStage := c.world.outcome.failedStage <|> some c.world.stage }.enter .rollingBack },
      c.log ++ [⟨.debug, s.name ++ ": " ++ c.world.stage.text ++ " -> " ++
        Stage.rollingBack.text⟩]⟩
  refine ⟨us, r, x, l, hrow, ?_⟩
  unfold rollbackUnlessCommitted
  rw [Act.run_bind_ok (Act.run_world c), if_neg (by rw [hs]; decide),
    Act.run_bind_ok (run_record _ _), Act.run_bind_ok (run_enter _ _)]
  refine hrun.trans (congrArg (fun p => (r, Scene.mk p l)) ?_)
  rw [foldl_noteUndo, hc]
  cases error <;>
    simp [rolled, fallen, standing, Progress.after, Outcome.enter]

theorem run_rollbackUnlessCommitted_success {c : Scene (Progress σ)}
    (h : c.world.outcome.success = true) : Act.run s.rollbackUnlessCommitted c = (.ok (), c) := by
  unfold rollbackUnlessCommitted
  rw [Act.run_bind_ok (Act.run_world c), if_pos h, Act.run_pure]

/-- Rolling back ends with an interrupt or not at all. -/
theorem Row.ne_failure {ks : List Call} {vs : List (Visit σ)} {r : Except Stop Unit}
    (h : s.Row ks vs r) (f : Failure) : r ≠ .error (.failure f) := by
  induction h with
  | done => simp
  | next _ _ _ ih => exact ih
  | broken => simp

theorem halt_ne_failure (v : Visit σ) (f : Failure) : s.halt v ≠ .error (.failure f) := by
  unfold halt
  split <;> simp

/-! ## The stages together -/

theorem run_guardedStages_of {c d : Scene (Progress σ)} {r : Except Stop Unit}
    (h : Act.run s.stages c = (r, d)) (hr : ∀ f, r ≠ .error (.failure f)) :
    Act.run s.guardedStages c = (r, d) := by
  unfold guardedStages
  rcases r with (f | i) | u
  · exact absurd rfl (hr f)
  · exact Act.run_bind_error (Act.run_attempt_interrupt h) _
  · exact Act.run_bind_ok (Act.run_attempt_ok h) _

/-- One of the first two calls did not pass. -/
theorem passage_refused {vs : List (Visit σ)} {v : Visit σ} {e : Stop} {w : σ} {l : List Record}
    {c : Scene (Progress σ)}
    (hrun : Act.run s.stages c = (.error e, ⟨(s.standing vs w).after [v] w, l⟩))
    (hcourse : s.Course (vs ++ [v])) (hf : s.Follows v (.error e : Except Stop Unit))
    (h : vs.length < 2) :
    ∃ ws us, s.Passage ws us (Act.run s.guardedStages c).1
      (Act.run s.guardedStages c).2.world := by
  refine ⟨vs ++ [v], [], ?_⟩
  cases e with
  | interrupt i =>
    have hi : s.interrupt? v = some i := hf
    have hr : s.Recorded v none := by
      rw [Recorded, hi]
      simp
    rw [run_guardedStages_of hrun (by simp), ← halt_eq_interrupt hi]
    exact .refused hcourse (not_passed_of_follows_error hf) h hr
  | failure f =>
    obtain ⟨hp, hi, e, rfl, hbl⟩ := hf
    have hg := hcourse.stage?_eq
    have hk : e.kind.isA .fatal = true := by
      rw [hbl.kind_eq hg]
      exact isA_fatal h
    have he := failWith_standing (s := s) (show vs.length < 6 by omega) v w
      { e with
        stage := e.stage <|> some (Stage.afterCalls vs.length).text
        topology := e.topology <|> some s.name }
    have hr : s.Recorded v (some _) := ⟨hi, reported_of_blames hbl hg⟩
    unfold guardedStages
    rw [Act.run_bind_ok (Act.run_attempt_failure hrun)]
    simp only [Failure.submissionError?, if_pos hk, run_recordFailure]
    rw [← halt_eq_ok hi]
    refine cast (congrArg (s.Passage (vs ++ [v]) [] (s.halt v)) he.symm) ?_
    exact .refused hcourse hp h hr

/-- Rolling back what was not committed, and what becomes of an attempt then. -/
theorem passage_rolledBack {a : Act (Progress σ) Unit} {vs : List (Visit σ)} {v : Visit σ}
    {error : Option SubmissionError} {w : σ} {l : List Record} {c : Scene (Progress σ)}
    (hrun : Act.run a c =
      (s.halt v, ⟨s.fallen vs v (error.map fun _ => Stage.afterCalls vs.length) error w, l⟩))
    (hcourse : s.Course (vs ++ [v])) (hp : s.passed v = false) (h : 2 ≤ vs.length)
    (hr : s.Recorded v error) :
    ∃ us r d, Act.run (Act.ensure a s.rollbackUnlessCommitted) c = (r, d) ∧
      s.Passage (vs ++ [v]) us r d.world ∧ ∀ f, r ≠ .error (.failure f) := by
  have hlen := hcourse.length_init_lt
  obtain ⟨us, r, x, m, hrow, hback⟩ := run_rollbackUnlessCommitted hlen
    ⟨s.fallen vs v (error.map fun _ => Stage.afterCalls vs.length) error w, l⟩ rfl
  refine ⟨us, (do r; s.halt v), ⟨s.rolled vs v us error x, m⟩, ?_,
    .rolledBack hcourse hp h hr hrow, ?_⟩
  · rw [Act.run_ensure, hrun, hback]
    cases r <;> rfl
  · intro f
    cases r with
    | ok u => exact halt_ne_failure v f
    | error e => exact hrow.ne_failure f

theorem passage_guardedStages (c : Scene (Progress σ)) {w : σ} (hc : c.world = s.standing [] w) :
    ∃ vs us, s.Passage vs us (Act.run s.guardedStages c).1
      (Act.run s.guardedStages c).2.world := by
  have ha : (c.visit .configureState).call = .configureState := rfl
  obtain ⟨r, x, l, hr, hf⟩ := run_configureState (s := s) c
  generalize c.visit .configureState = a at ha hr hf
  rw [hc] at hr
  have hca : s.Course [a] := course_of_calls (by simp [plan, ha]) (by simp)
  cases r with
  -- nothing to roll back has been done yet: a refusal goes straight to the guard
  | error e => exact passage_refused (w := x) (Act.run_bind_error hr _) hca hf (by simp)
  | ok u =>
    have pa : s.passed a = true := hf
    let d : Scene (Progress σ) := ⟨s.standing [a] x, l ++ [⟨.debug, s.name ++ ": " ++
      Stage.init.text ++ " -> " ++ Stage.validating.text⟩]⟩
    have hb : (d.visit (.runningCheck s.name)).call = .runningCheck s.name := rfl
    obtain ⟨r', y, m, hr', hf'⟩ := run_validate (s := s) d
    generalize d.visit (.runningCheck s.name) = b at hb hr' hf'
    have hcb : s.Course [a, b] := course_of_calls (by simp [plan, ha, hb]) (by simp [pa])
    have hab : Act.run s.stages c = Act.run (do
        s.validate
        Act.log .info ("Topology " ++ s.name ++ " to be submitted")
        s.enter .uploading
        Act.ensure s.commit s.rollbackUnlessCommitted) d := by
      unfold stages
      rw [Act.run_bind_ok hr, Act.run_bind_ok (run_enter _ _)]
      rfl
    cases r' with
    | error e =>
      rw [Act.run_bind_error hr'] at hab
      have hrun : Act.run s.stages c = (.error e, ⟨(s.standing [a] y).after [b] y, m⟩) := hab
      exact passage_refused hrun hcb hf' (by simp)
    | ok u =>
      have pb : s.passed b = true := hf'
      rw [Act.run_bind_ok hr', Act.run_bind_ok (Act.run_log _ _ _),
        Act.run_bind_ok (run_enter _ _)] at hab
      replace hab : ∃ log, Act.run s.stages c = Act.run
          (Act.ensure s.commit s.rollbackUnlessCommitted) ⟨s.standing [a, b] y, log⟩ := ⟨_, hab⟩
      obtain ⟨log, hab⟩ := hab
      -- from here on whatever is not committed is rolled back
      rcases run_commit ha hb pa pb ⟨s.standing [a, b] y, log⟩ rfl with
        ⟨vs, z, k, hrun, hcourse, hall, h6⟩ | ⟨vs, v, error, z, k, hrun, hcourse, hp, h2, hrec⟩
      · rw [Act.run_ensure, hrun, run_rollbackUnlessCommitted_success (decide_eq_true h6)] at hab
        refine ⟨vs, [], ?_⟩
        rw [run_guardedStages_of hab (by simp)]
        exact .committed hcourse hall h6
      · obtain ⟨us, r, t, hback, hpass, hne⟩ := passage_rolledBack hrun hcourse hp h2 hrec
        rw [hback] at hab
        refine ⟨vs ++ [v], us, ?_⟩
        rw [run_guardedStages_of hab hne]
        exact hpass

end Submitter

end TopologySubmission
