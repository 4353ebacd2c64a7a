import TopologySubmission.Proofs.Submission.Attempt
import TopologySubmission.Proofs.Submission.Muffled

/-!
# Releasing the plugins

At the end of every attempt the plugins that are in use are closed in a row. A failure to close is
recorded and the row goes on; only an interrupt of a call that closes breaks it off, and then the
rest of the plugins is not closed and the attempt does not come to its last stage:

    the launcher is in use once it was configured          (Attempted.launcherReady_eq)
    the attempt is closed unless closing is interrupted    (Attempted.stage_eq_closed_iff)
-/

namespace TopologySubmission

namespace Submitter

variable {σ : Type} (s : Submitter σ)

/-! ## Algorithm -/

/-- The call configured the launcher. -/
def readiesLauncher (v : Visit σ) : Bool :=
  match v.call with
  | .configureLauncher _ => (s.ending v).isOk
  | _ => false

/-- The calls that close come last and are those of all plugins in use; the attempt is closed. -/
def Released (p : Progress σ) : Prop :=
  p.stage = .closed ∧ ∃ others,
    p.calls = others ++ closings (p.visits.any s.readiesLauncher) ∧
      ∀ k ∈ others, k.isClose = false

variable {s}

/-! ## Lemmas -/

theorem readiesLauncher_eq_false {v : Visit σ} (h : v.call.stage? ≠ some .launching) :
    s.readiesLauncher v = false := by
  unfold readiesLauncher
  split
  · next hk => exact absurd (by rw [hk]; rfl) h
  · rfl

/-- A call that did not pass did not configure the launcher. -/
theorem readiesLauncher_of_not_passed {v : Visit σ} (h : s.passed v = false) :
    s.readiesLauncher v = false := by
  -- every answer of this call is accepted, so it can only have stopped
  unfold readiesLauncher
  split
  · next rt hk =>
    unfold passed at h
    rw [hk] at h
    cases he : s.ending v with
    | error e => rfl
    | ok x =>
      rw [he] at h
      cases h
  · rfl

/-- Of the calls of a plan that passed, the fifth one configured the launcher. -/
theorem any_readiesLauncher {vs : List (Visit σ)} {uri : Value}
    (hc : vs.map Visit.call <+: s.plan uri) (hp : ∀ v ∈ vs, s.passed v = true) :
    vs.any s.readiesLauncher = decide (5 ≤ vs.length) := by
  by_cases h : 5 ≤ vs.length
  · rw [decide_eq_true h, List.any_eq_true]
    have hk : vs[4].call = .configureLauncher (s.runtime uri) := by
      have := List.prefix_iff_getElem?.mp hc 4 (by rw [List.length_map]; omega)
      simpa [plan, eq_comm] using this
    obtain ⟨x, hx, -⟩ := (s.passed_iff vs[4]).mp (hp _ (List.getElem_mem _))
    refine ⟨vs[4], List.getElem_mem _, ?_⟩
    unfold readiesLauncher
    rw [hk, hx]
    rfl
  · rw [decide_eq_false h, List.any_eq_false]
    intro v hv
    have hcalls : vs.map Visit.call <+: (s.plan uri).take 4 :=
      List.prefix_take_iff.mpr ⟨hc, by rw [List.length_map]; omega⟩
    have hk := hcalls.subset (List.mem_map_of_mem hv)
    have hstage : v.call.stage? ≠ some .launching := by
      generalize v.call = k at hk
      simp only [plan, List.take_succ_cons, List.take_zero, List.mem_cons, List.not_mem_nil,
        or_false] at hk
      rcases hk with rfl | rfl | rfl | rfl <;> simp [Call.stage?]
    rw [readiesLauncher_eq_false hstage]
    decide

theorem Passage.launcherReady_eq {vs us : List (Visit σ)} {r : Except Stop Unit} {p : Progress σ}
    (h : s.Passage vs us r p) : p.launcherReady = vs.any s.readiesLauncher := by
  cases h with
  | committed hc hp h6 => exact (any_readiesLauncher hc.planned hp).symm
  | refused hc hp =>
    rw [List.any_append, any_readiesLauncher hc.planned_init hc.passed_init]
    simp [readiesLauncher_of_not_passed hp, fallen, standing, Progress.after]
  | rolledBack hc hp =>
    rw [List.any_append, any_readiesLauncher hc.planned_init hc.passed_init]
    simp [readiesLauncher_of_not_passed hp, rolled, fallen, standing, Progress.after]

theorem Passage.stage_ne_closed {vs us : List (Visit σ)} {r : Except Stop Unit} {p : Progress σ}
    (h : s.Passage vs us r p) : p.stage ≠ .closed := by
  have hn (n : Nat) : Stage.afterCalls n ≠ .closed := by
    rcases n with _ | _ | _ | _ | _ | _ | n
    all_goals simp [Stage.afterCalls]
  cases h with
  | committed => exact hn _
  | refused => exact hn _
  | rolledBack => exact Stage.noConfusion

namespace Attempted

variable {r : Except Stop Outcome} {p : Progress σ}

/-- The launcher is in use once a call configured it. -/
theorem launcherReady_eq (a : s.Attempted r p) :
    a.before.launcherReady = p.visits.any s.readiesLauncher := by
  have hrest : (a.undone ++ a.closed).any s.readiesLauncher = false := by
    rw [List.any_eq_false]
    intro v hv
    rw [readiesLauncher_eq_false (by rw [a.stage?_eq_none hv]; simp)]
    decide
  rw [a.passage.launcherReady_eq, a.visits_eq, List.append_assoc, List.any_append, hrest,
    Bool.or_false]

/-- The attempt is closed unless closing is interrupted. -/
theorem stage_eq_closed_iff (a : s.Attempted r p) :
    p.stage = .closed ↔ ∀ v ∈ a.closed, s.interrupt? v = none := by
  have hstage : p.stage = _ := congrArg Progress.stage a.progress_eq
  rw [hstage, ← a.row.eq_ok_iff]
  unfold Submitter.shut
  cases a.shut with
  | ok u => exact iff_of_true rfl rfl
  | error e => exact iff_of_false a.passage.stage_ne_closed (by simp)

theorem isClose_eq_false (a : s.Attempted r p) {v : Visit σ} (hv : v ∈ a.stages ++ a.undone) :
    v.call.isClose = false := by
  rcases List.mem_append.mp hv with hv | hv
  · exact (Call.of_stage? (a.stage?_ne_none hv)).2
  · exact (Call.of_isUndo (a.isUndo hv)).2

theorem filter_isClose (a : s.Attempted r p) :
    p.visits.filter (fun v => v.call.isClose) = a.closed := by
  have hbefore : (a.stages ++ a.undone).filter (fun v => v.call.isClose) = [] := by
    rw [List.filter_eq_nil_iff]
    intro v hv
    rw [a.isClose_eq_false hv]
    decide
  have hclosed : a.closed.filter (fun v => v.call.isClose) = a.closed := by
    rw [List.filter_eq_self]
    exact fun v => a.isClose
  rw [a.visits_eq, List.filter_append, hbefore, hclosed, List.nil_append]

/-- No call before the row of those that close is one of them. -/
theorem others_isClose (a : s.Attempted r p) :
    ∀ k ∈ a.stages.map Visit.call ++ a.undone.map Visit.call, k.isClose = false := by
  rw [← List.map_append]
  exact List.forall_mem_map.mpr fun v hv => a.isClose_eq_false hv

theorem closed_ne_nil (a : s.Attempted r p) : a.closed ≠ [] := by
  intro h
  have hrow := a.row
  rw [h] at hrow
  cases hrow

/-- All plugins in use are closed, and the attempt with them, unless closing is interrupted. -/
theorem released_iff (a : s.Attempted r p) :
    s.Released p ↔ ∀ v ∈ a.closed, s.interrupt? v = none := by
  constructor
  · rintro ⟨hstage, -⟩
    exact a.stage_eq_closed_iff.mp hstage
  · intro h
    refine ⟨a.stage_eq_closed_iff.mpr h, a.stages.map Visit.call ++ a.undone.map Visit.call, ?_, ?_⟩
    · have hrow := a.row
      rw [hrow.eq_ok_iff.mpr h, a.launcherReady_eq] at hrow
      rw [← hrow.calls_eq]
      exact a.calls_split
    · exact a.others_isClose

end Attempted

/-- The release of the plugins, in every attempt: the calls that close come last, in a row that
begins with the uploader. All plugins in use are closed and the attempt comes to its last stage if
and only if no call that closes is interrupted. Each failure to close is recorded once, and the
attempt is the same as one in which nothing fails to close, but for these records. -/
theorem submit_releases_iff (w : σ) (log : List Record) :
    let p := (Act.run s.submit ⟨s.begin w, log⟩).2.world
    let q := (Act.run (s.muffled false true).submit ⟨s.begin w, log⟩).2.world
    (s.Released p ↔ ∀ v ∈ p.visits, v.call.isClose = true → s.interrupt? v = none) ∧
    (∃ others closes, p.calls = others ++ closes ∧ (∀ k ∈ others, k.isClose = false) ∧
      closes ≠ [] ∧ closes <+: closings (p.visits.any s.readiesLauncher)) ∧
    p.outcome.cleanupErrors =
      (p.visits.filter fun v => v.call.isClose).filterMap s.closeError? ∧
    (∀ v ∈ q.visits, v.call.isClose = true → (s.muffled false true).failure? v = none) ∧
    q.calls = p.calls ∧ q.stage = p.stage ∧ q.outcome = { p.outcome with cleanupErrors := [] } := by
  intro p q
  obtain ⟨a⟩ := attempted_submit (s := s) w log
  have hmuffled : q = { p with outcome := p.outcome.forget false true } :=
    world_submit_muffled w log
  refine ⟨?released, ⟨_, _, a.calls_split, a.others_isClose, ?begun, ?row⟩, ?recorded, ?quiet,
    ?calls, ?stage, ?outcome⟩
  case released =>
    rw [a.released_iff, ← a.filter_isClose]
    simp only [List.mem_filter, and_imp]
    rfl
  case begun =>
    simpa using a.closed_ne_nil
  case row =>
    rw [← a.launcherReady_eq]
    exact a.row.calls_isPrefix
  case recorded =>
    rw [show p.visits.filter (fun v => v.call.isClose) = _ from a.filter_isClose,
      show p.outcome = _ from a.outcome_eq]
  case quiet =>
    intro v _ hv
    exact failure?_muffled_close false hv
  case calls =>
    rw [hmuffled]
  case stage =>
    rw [hmuffled]
  case outcome =>
    rw [hmuffled]
    rfl

/-- A keyboard interrupt while the uploader is closed leaves the state manager open, and the attempt
does not come to its last stage. -/
theorem submit_close_interrupted :
    let s := rehearsed [] [(.launch, .gives (.bool true))] []
      [(.uploadPackage, .gives (.text "pkg://store/job1")),
        (.close, .stops (.interrupt (.keyboard "")))]
    let p := (Act.run s.submit ⟨s.begin (), []⟩).2.world
    p.calls.filter Call.isClose = [.closeUploader] ∧ p.stage ≠ .closed :=
  ⟨rfl, by decide⟩

end Submitter

end TopologySubmission
