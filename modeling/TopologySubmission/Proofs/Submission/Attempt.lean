import TopologySubmission.Proofs.Submission.Passage
import TopologySubmission.Rehearsal.Script

/-!
# A whole attempt

An attempt passes in one of the ways of `Passage`, and then what is in use is closed, however it
passed. The visits of the attempt are those of the stages, those that undo and those that close, in
this order:

    s.submit    passes, closes, and answers the outcome                  (attempted_submit)
-/

namespace TopologySubmission

namespace Submitter

variable {σ : Type} (s : Submitter σ)

/-! ## Algorithm -/

/-- The attempt after the calls that close; it is closed unless one of them was interrupted. -/
def shut (p : Progress σ) (cs : List (Visit σ)) (r : Except Stop Unit) (w : σ) : Progress σ :=
  let q := { p.after cs w with
    outcome := { p.outcome with cleanupErrors := cs.filterMap s.closeError? } }
  match r with
  | .ok _ => { q with stage := .closed, outcome := q.outcome.enter .closed }
  | .error _ => q

/-- What is left of an attempt: how it ends and its progress. -/
structure Attempted (r : Except Stop Outcome) (p : Progress σ) where
  /-- The visits of the stages. -/
  stages : List (Visit σ)
  /-- The visits that undo. -/
  undone : List (Visit σ)
  /-- The visits that close. -/
  closed : List (Visit σ)
  /-- How the attempt ended before it was closed. -/
  passed : Except Stop Unit
  /-- The attempt before it was closed. -/
  before : Progress σ
  /-- How closing ended. -/
  shut : Except Stop Unit
  world : σ
  passage : s.Passage stages undone passed before
  row : s.Row (closings before.launcherReady) closed shut
  progress_eq : p = s.shut before closed shut world
  result_eq : r = do shut; passed; pure p.outcome

/-- A submitter of a small topology whose plugins follow scripts. -/
def rehearsed (stateManager launcher packing uploader : Script) : Submitter Unit where
  settings := {}
  topology := { id := .text "wordcount-1", name := "wordcount", body := .map [] }
  plugins := Script.plugins stateManager launcher packing uploader
  timeout := defaultTimeout

variable {s}

/-! ## Lemmas -/

theorem run_start (w : σ) (log : List Record) :
    Act.run s.start ⟨s.begin w, log⟩ = (.ok (), ⟨s.standing [] w, log⟩) := rfl

theorem run_report_fst (o : Outcome) (c : Scene (Progress σ)) :
    ∃ l, Act.run (s.report o) c = (.ok (), ⟨c.world, l⟩) := by
  unfold report
  split
  · exact ⟨_, rfl⟩
  · exact ⟨_, rfl⟩

namespace Passage

variable {vs us : List (Visit σ)} {r : Except Stop Unit} {p : Progress σ}

theorem course (h : s.Passage vs us r p) : s.Course vs := by
  cases h with
  | committed hc => exact hc
  | refused hc => exact hc
  | rolledBack hc => exact hc

theorem visits_eq (h : s.Passage vs us r p) : p.visits = vs ++ us := by
  cases h with
  | committed => exact (List.append_nil _).symm
  | refused => exact (List.append_nil _).symm
  | rolledBack => rfl

theorem calls_eq (h : s.Passage vs us r p) : p.calls = (vs ++ us).map Visit.call := by
  cases h <;> simp [standing, fallen, rolled, Progress.after]

theorem isUndo_of_mem (h : s.Passage vs us r p) {v : Visit σ} (hv : v ∈ us) :
    v.call.isUndo = true := by
  cases h with
  | committed => cases hv
  | refused => cases hv
  | rolledBack _ _ _ _ hrow =>
    have := hrow.calls_mem hv
    simp only [List.mem_cons, List.not_mem_nil, or_false] at this
    rcases this with h | h <;> rw [h] <;> rfl

theorem cleanupErrors_eq (h : s.Passage vs us r p) : p.outcome.cleanupErrors = [] := by
  cases h <;> rfl

/-- An attempt that succeeds made all six calls, they passed, and nothing was undone. -/
theorem of_success (h : s.Passage vs us r p) (hs : p.outcome.success = true) :
    r = .ok () ∧ us = [] ∧ vs.length = 6 ∧ ∀ v ∈ vs, s.passed v = true := by
  cases h with
  | committed _ hp h6 => exact ⟨rfl, rfl, h6, hp⟩
  | @refused ws v error w hc =>
    have hne := Nat.ne_of_lt hc.length_init_lt
    simp [fallen, standing, Progress.after, hne] at hs
  | @rolledBack ws v us r' error w hc =>
    have hne := Nat.ne_of_lt hc.length_init_lt
    simp [rolled, fallen, standing, Progress.after, Outcome.enter, hne] at hs

end Passage

theorem Course.stage?_ne_none {vs : List (Visit σ)} (h : s.Course vs) {v : Visit σ} (hv : v ∈ vs) :
    v.call.stage? ≠ none := by
  have := h.planned.subset (List.mem_map_of_mem hv)
  generalize v.call = k at this
  simp only [plan, List.mem_cons, List.not_mem_nil, or_false] at this
  rcases this with rfl | rfl | rfl | rfl | rfl | rfl <;> exact Option.some_ne_none _

theorem shut_visits (p : Progress σ) (cs : List (Visit σ)) (r : Except Stop Unit) (w : σ) :
    (s.shut p cs r w).visits = p.visits ++ cs := by
  unfold shut
  split <;> rfl

theorem shut_calls (p : Progress σ) (cs : List (Visit σ)) (r : Except Stop Unit) (w : σ) :
    (s.shut p cs r w).calls = p.calls ++ cs.map Visit.call := by
  unfold shut
  split <;> rfl

namespace Attempted

variable {r : Except Stop Outcome} {p : Progress σ}

theorem visits_eq (a : s.Attempted r p) : p.visits = a.stages ++ a.undone ++ a.closed :=
  calc p.visits
    _ = a.before.visits ++ a.closed :=
      (congrArg Progress.visits a.progress_eq).trans (shut_visits _ _ _ _)
    _ = a.stages ++ a.undone ++ a.closed := by rw [a.passage.visits_eq]

/-- The calls are those of the stages, those that undo and those that close. -/
theorem calls_split (a : s.Attempted r p) :
    p.calls = a.stages.map Visit.call ++ a.undone.map Visit.call ++ a.closed.map Visit.call :=
  calc p.calls
    _ = a.before.calls ++ a.closed.map Visit.call :=
      (congrArg Progress.calls a.progress_eq).trans (shut_calls _ _ _ _)
    _ = a.stages.map Visit.call ++ a.undone.map Visit.call ++ a.closed.map Visit.call := by
      rw [a.passage.calls_eq, List.map_append]

theorem calls_eq (a : s.Attempted r p) : p.calls = p.visits.map Visit.call := by
  rw [a.calls_split, a.visits_eq, List.map_append, List.map_append]

theorem stage?_ne_none (a : s.Attempted r p) {v : Visit σ} (hv : v ∈ a.stages) :
    v.call.stage? ≠ none :=
  a.passage.course.stage?_ne_none hv

theorem isUndo (a : s.Attempted r p) {v : Visit σ} (hv : v ∈ a.undone) : v.call.isUndo = true :=
  a.passage.isUndo_of_mem hv

theorem isClose (a : s.Attempted r p) {v : Visit σ} (hv : v ∈ a.closed) : v.call.isClose = true :=
  isClose_of_mem_closings _ (a.row.calls_mem hv)

/-- The calls after those of the stages belong to no stage. -/
theorem stage?_eq_none (a : s.Attempted r p) {v : Visit σ} (hv : v ∈ a.undone ++ a.closed) :
    v.call.stage? = none := by
  rcases List.mem_append.mp hv with hv | hv
  · exact (Call.of_isUndo (a.isUndo hv)).1
  · exact (Call.of_isClose (a.isClose hv)).1

/-- A visit of the call of a stage is one of those of the stages. -/
theorem mem_stages (a : s.Attempted r p) {v : Visit σ} (hv : v ∈ p.visits)
    (hs : v.call.stage? ≠ none) : v ∈ a.stages := by
  rw [a.visits_eq, List.append_assoc] at hv
  rcases List.mem_append.mp hv with hv | hv
  · exact hv
  · exact absurd (a.stage?_eq_none hv) hs

theorem mem_visits (a : s.Attempted r p) {v : Visit σ} (hv : v ∈ a.stages) : v ∈ p.visits := by
  rw [a.visits_eq, List.append_assoc]
  exact List.mem_append_left _ hv

theorem filter_isUndo (a : s.Attempted r p) :
    p.visits.filter (fun v => v.call.isUndo) = a.undone := by
  have hs : a.stages.filter (fun v => v.call.isUndo) = [] := by
    rw [List.filter_eq_nil_iff]
    intro v hv
    rw [(Call.of_stage? (a.stage?_ne_none hv)).1]
    decide
  have hu : a.undone.filter (fun v => v.call.isUndo) = a.undone := by
    rw [List.filter_eq_self]
    exact fun v => a.isUndo
  have hc : a.closed.filter (fun v => v.call.isUndo) = [] := by
    rw [List.filter_eq_nil_iff]
    intro v hv
    rw [(Call.of_isClose (a.isClose hv)).2]
    decide
  rw [a.visits_eq, List.filter_append, List.filter_append, hs, hu, hc, List.nil_append,
    List.append_nil]

/-- The outcome of an attempt that was closed, or whose closing was broken off. -/
theorem outcome_eq (a : s.Attempted r p) :
    p.outcome = { a.before.outcome with
      cleanupErrors := a.closed.filterMap s.closeError?
      history := a.before.outcome.history ++ if a.shut.isOk then [.closed] else [] } := by
  refine (congrArg Progress.outcome a.progress_eq).trans ?_
  unfold Submitter.shut
  cases a.shut with
  | ok u => rfl
  | error e => exact congrArg (fun h => { a.before.outcome with
      cleanupErrors := a.closed.filterMap s.closeError?, history := h }) (List.append_nil _).symm

/-- An attempt answers its outcome. -/
theorem outcome_of_result (a : s.Attempted r p) {o : Outcome} (h : r = .ok o) : p.outcome = o := by
  have hresult := h.symm.trans a.result_eq
  cases hshut : a.shut with
  | error e =>
    rw [hshut] at hresult
    cases hresult
  | ok _ =>
    cases hpassed : a.passed with
    | error e =>
      rw [hshut, hpassed] at hresult
      cases hresult
    | ok _ =>
      rw [hshut, hpassed] at hresult
      exact (Except.ok.inj hresult).symm

end Attempted

/-- A new submitter's attempt. -/
theorem attempted_submit (w : σ) (log : List Record) :
    Nonempty (s.Attempted (Act.run s.submit ⟨s.begin w, log⟩).1
      (Act.run s.submit ⟨s.begin w, log⟩).2.world) := by
  obtain ⟨vs, us, hpass⟩ := passage_guardedStages (s := s) ⟨s.standing [] w, log⟩ rfl
  generalize hg : Act.run s.guardedStages ⟨s.standing [] w, log⟩ = g at hpass
  obtain ⟨r, c⟩ := g
  -- closing begins where the stages left the world, however they ended
  obtain ⟨cs, r', x, l, hrow, hclose⟩ := s.runsRow_cleanup c
  have hfinish : ∃ m, Act.run s.finish c = (r', ⟨s.shut c.world cs r' x, m⟩) := by
    rw [foldl_noteClose, hpass.cleanupErrors_eq] at hclose
    unfold finish
    cases r' with
    | error e => exact ⟨l, Act.run_bind_error hclose _⟩
    | ok u => exact ⟨_, (Act.run_bind_ok hclose _).trans (run_enter _ _)⟩
  obtain ⟨m, hfinish⟩ := hfinish
  have hensure : Act.run (Act.ensure s.guardedStages s.finish) ⟨s.standing [] w, log⟩ =
      ((do r'; r), ⟨s.shut c.world cs r' x, m⟩) := by
    rw [Act.run_ensure, hg, hfinish]
    cases r' <;> rfl
  obtain ⟨k, hreport⟩ := run_report_fst (s := s) (s.shut c.world cs r' x).outcome
    ⟨s.shut c.world cs r' x, m⟩
  have hsubmit : ∃ n, Act.run s.submit ⟨s.begin w, log⟩ =
      ((do r'; r; pure (s.shut c.world cs r' x).outcome), ⟨s.shut c.world cs r' x, n⟩) := by
    unfold submit
    rw [Act.run_bind_ok (run_start w log)]
    cases r' with
    | error e => exact ⟨m, Act.run_bind_error hensure _⟩
    | ok u =>
      cases r with
      | error e => exact ⟨m, Act.run_bind_error hensure _⟩
      | ok u =>
        rw [Act.run_bind_ok hensure, Act.run_bind_ok (Act.run_world _), Act.run_bind_ok hreport]
        exact ⟨k, rfl⟩
  obtain ⟨n, hsubmit⟩ := hsubmit
  rw [hsubmit]
  exact ⟨vs, us, cs, r, c.world, r', x, hpass, hrow, rfl, rfl⟩

end Submitter

end TopologySubmission
