import Mathlib.Data.List.Forall2
import TopologySubmission.Proofs.Submission.Attempt
import TopologySubmission.Proofs.Submission.Muffled

/-!
# Rolling back

An attempt that called the uploader and was not committed undoes the uploader and then the launcher,
once each, between the calls of the stages and those that close; no other attempt undoes anything:

    such an attempt is rolled back           (Passage.row_undone)
    no other attempt is                      (Passage.undone_eq_nil)
    each failure to undo is recorded once    (forall₂_recordsUndo)
-/

namespace TopologySubmission

namespace Submitter

variable {σ : Type} (s : Submitter σ)

/-! ## Algorithm -/

/-- The error that is recorded for a call that undoes: the plugin's own if it reports a failed undo,
else a new one about its failure. Both are given the stage and the topology. -/
def RecordsUndo (v : Visit σ) (e : SubmissionError) : Prop :=
  ∃ f, s.failure? v = some f ∧
    ((∃ g, f.submissionError? = some g ∧ g.kind = .undoFailed ∧
        e = { g with stage := some "rolling_back", topology := some s.name }) ∨
      (∀ g, f.submissionError? = some g → g.kind ≠ .undoFailed) ∧
        e = { kind := .undoFailed, message := v.call.who ++ " undo failed: " ++ f.message,
              stage := some "rolling_back", topology := some s.name })

variable {s}

/-! ## Lemmas -/

theorem recordsUndo_undoError {v : Visit σ} {f : Failure} (h : s.failure? v = some f) :
    s.RecordsUndo v (s.undoError v.call.who f) := by
  refine ⟨f, h, ?_⟩
  unfold undoError
  cases hg : f.submissionError? with
  | none => exact .inr ⟨by simp, rfl⟩
  | some g =>
    by_cases hk : g.kind = .undoFailed
    · left
      refine ⟨g, rfl, hk, ?_⟩
      simp [hk, Stage.text]
    · right
      refine ⟨?_, ?_⟩
      · intro g' hg'
        rw [← Option.some.inj hg']
        exact hk
      · simp [hk, Stage.text]

/-- Each call that failed to undo is recorded once, in the order of the calls. -/
theorem forall₂_recordsUndo (vs : List (Visit σ)) :
    List.Forall₂ s.RecordsUndo (vs.filter fun v => (s.failure? v).isSome)
      (vs.filterMap s.undoError?) := by
  induction vs with
  | nil => exact .nil
  | cons v vs ih =>
    cases hf : s.failure? v with
    | none => simpa [undoError?, hf] using ih
    | some f =>
      have := List.Forall₂.cons (recordsUndo_undoError hf) ih
      simpa [undoError?, hf] using this

namespace Passage

variable {vs us : List (Visit σ)} {r : Except Stop Unit} {p : Progress σ}

theorem undoErrors_eq (h : s.Passage vs us r p) :
    p.outcome.undoErrors = us.filterMap s.undoError? := by
  cases h <;> rfl

/-- An attempt that has called the uploader and was not committed is rolled back. -/
theorem row_undone (h : s.Passage vs us r p) (hu : Call.configureUploader ∈ vs.map Visit.call)
    (hn : .committed ∉ p.outcome.history) : ∃ r', s.Row [.undoUploader, .undoLauncher] us r' := by
  cases h with
  | committed _ _ h6 =>
    refine absurd ?_ hn
    simp [standing, h6, Stage.afterCalls, Stage.path]
  | @refused ws v _ _ hc _ h2 _ =>
    have hcalls : (ws ++ [v]).map Visit.call <+: [.configureState, .runningCheck s.name] :=
      List.prefix_of_prefix_length_le hc.planned ⟨_, rfl⟩ (by simp; omega)
    have := hcalls.subset hu
    simp at this
  | rolledBack _ _ _ _ hrow => exact ⟨_, hrow⟩

/-- No other attempt is undone. -/
theorem undone_eq_nil (h : s.Passage vs us r p)
    (hn : ¬ (Call.configureUploader ∈ vs.map Visit.call ∧ .committed ∉ p.outcome.history)) :
    us = [] := by
  cases h with
  | committed => rfl
  | refused => rfl
  | @rolledBack ws v us r' error w hc _ h2 _ _ =>
    refine absurd ⟨?_, ?_⟩ hn
    · have hcalls : [.configureState, .runningCheck s.name, .configureUploader] <+:
          (ws ++ [v]).map Visit.call :=
        List.prefix_of_prefix_length_le ⟨_, rfl⟩ hc.planned (by simp; omega)
      exact hcalls.subset (by simp)
    · have hlen := hc.length_init_lt
      show Stage.committed ∉ (Stage.afterCalls ws.length).path ++ [.rollingBack]
      generalize ws.length = n at h2 hlen
      rcases n with _ | _ | _ | _ | _ | _ | n
      · omega
      · omega
      · decide
      · decide
      · decide
      · decide
      · omega

end Passage

namespace Attempted

variable {r : Except Stop Outcome} {p : Progress σ}

/-- Closing does not commit an attempt. -/
theorem committed_mem_iff (a : s.Attempted r p) :
    .committed ∈ p.outcome.history ↔ .committed ∈ a.before.outcome.history := by
  rw [a.outcome_eq]
  cases a.shut <;> simp [Except.isOk, Except.toBool]

theorem configureUploader_mem_iff (a : s.Attempted r p) :
    Call.configureUploader ∈ p.calls ↔ Call.configureUploader ∈ a.stages.map Visit.call := by
  rw [a.calls_eq, a.visits_eq, List.append_assoc, List.map_append, List.mem_append]
  refine or_iff_left ?_
  intro h
  obtain ⟨v, hv, hk⟩ := List.mem_map.mp h
  have := a.stage?_eq_none hv
  rw [hk] at this
  cases this

theorem undoErrors_eq (a : s.Attempted r p) :
    p.outcome.undoErrors = a.undone.filterMap s.undoError? := by
  rw [a.outcome_eq]
  exact a.passage.undoErrors_eq

theorem undone_calls (a : s.Attempted r p)
    (h : ∀ v ∈ p.visits, v.call.isUndo = true → s.interrupt? v = none)
    (hu : Call.configureUploader ∈ p.calls) (hn : .committed ∉ p.outcome.history) :
    a.undone.map Visit.call = [.undoUploader, .undoLauncher] := by
  rw [a.configureUploader_mem_iff] at hu
  rw [a.committed_mem_iff] at hn
  obtain ⟨r', hrow⟩ := a.passage.row_undone hu hn
  have hok : r' = .ok () := by
    rw [hrow.eq_ok_iff]
    intro v hv
    refine h v ?_ (a.isUndo hv)
    rw [a.visits_eq]
    exact List.mem_append_left _ (List.mem_append_right _ hv)
  rw [hok] at hrow
  exact hrow.calls_eq

theorem undone_eq_nil (a : s.Attempted r p)
    (h : Call.configureUploader ∉ p.calls ∨ .committed ∈ p.outcome.history) : a.undone = [] := by
  rw [a.configureUploader_mem_iff, a.committed_mem_iff] at h
  refine a.passage.undone_eq_nil ?_
  rintro ⟨hu, hn⟩
  exact h.elim (fun h => h hu) hn

end Attempted

/-- Rolling back, in every attempt whose calls that undo are not interrupted: the uploader and then
the launcher are undone, once each and between the calls of the stages and those that close, if and
only if the uploader was called and the attempt was not committed. Each failure to undo is recorded
once, and the attempt is the same as one in which nothing fails to undo, but for these records. -/
theorem submit_rolls_back (w : σ) (log : List Record)
    (h : ∀ v ∈ (Act.run s.submit ⟨s.begin w, log⟩).2.world.visits, v.call.isUndo = true →
      s.interrupt? v = none) :
    let p := (Act.run s.submit ⟨s.begin w, log⟩).2.world
    let q := (Act.run (s.muffled true false).submit ⟨s.begin w, log⟩).2.world
    (Call.configureUploader ∈ p.calls → .committed ∉ p.outcome.history →
      ∃ before after, p.calls = before ++ [.undoUploader, .undoLauncher] ++ after ∧
        (∀ k ∈ before, k.stage? ≠ none) ∧ ∀ k ∈ after, k.isClose = true) ∧
    (Call.configureUploader ∉ p.calls ∨ .committed ∈ p.outcome.history →
      ∀ k ∈ p.calls, k.isUndo = false) ∧
    List.Forall₂ s.RecordsUndo
      ((p.visits.filter fun v => v.call.isUndo).filter fun v => (s.failure? v).isSome)
      p.outcome.undoErrors ∧
    (∀ v ∈ q.visits, v.call.isUndo = true → (s.muffled true false).failure? v = none) ∧
    q.calls = p.calls ∧ q.outcome = { p.outcome with undoErrors := [] } := by
  intro p q
  obtain ⟨a⟩ := attempted_submit (s := s) w log
  have hmuffled : q = { p with outcome := p.outcome.forget true false } :=
    world_submit_muffled w log
  refine ⟨?rolledBack, ?kept, ?recorded, ?quiet, ?calls, ?outcome⟩
  case rolledBack =>
    intro hu hn
    refine ⟨a.stages.map Visit.call, a.closed.map Visit.call, ?_, ?_, ?_⟩
    · rw [← a.undone_calls h hu hn]
      exact a.calls_split
    · exact List.forall_mem_map.mpr fun v hv => a.stage?_ne_none hv
    · exact List.forall_mem_map.mpr fun v hv => a.isClose hv
  case kept =>
    intro hn
    rw [show p.calls = _ from a.calls_split, a.undone_eq_nil hn, List.map_nil, List.append_nil,
      List.forall_mem_append]
    constructor
    · exact List.forall_mem_map.mpr fun v hv => (Call.of_stage? (a.stage?_ne_none hv)).1
    · exact List.forall_mem_map.mpr fun v hv => (Call.of_isClose (a.isClose hv)).2
  case recorded =>
    rw [show p.visits.filter (fun v => v.call.isUndo) = _ from a.filter_isUndo,
      show p.outcome.undoErrors = _ from a.undoErrors_eq]
    exact forall₂_recordsUndo a.undone
  case quiet =>
    intro v _ hv
    exact failure?_muffled_undo false hv
  case calls =>
    rw [hmuffled]
  case outcome =>
    rw [hmuffled]
    rfl

/-- A launch that is refused is rolled back, although nothing can be undone. -/
theorem submit_rolls_back_refused_launch :
    let s := rehearsed []
      [(.launch, .gives (.bool false)), (.undo, .stops (.failure (.reported .runtime "gone")))] []
      [(.uploadPackage, .gives (.text "pkg://store/job1")),
        (.undo, .stops (.failure (.reported (.submission .undoFailed) "busy")))]
    let p := (Act.run s.submit ⟨s.begin (), []⟩).2.world
    (∀ v ∈ p.visits, v.call.isUndo = true → s.interrupt? v = none) ∧
    (∃ before after, p.calls = before ++ [.undoUploader, .undoLauncher] ++ after ∧
      (∀ k ∈ before, k.stage? ≠ none) ∧ ∀ k ∈ after, k.isClose = true) ∧
    p.outcome.undoErrors.length = 2 := by
  intro s p
  have h : ∀ v ∈ p.visits, v.call.isUndo = true → s.interrupt? v = none := by
    rintro ⟨k, t⟩ - -
    cases k <;> rfl
  obtain ⟨hrolled, -, hrecorded, -⟩ := submit_rolls_back () [] h
  refine ⟨h, hrolled ?_ (by decide), ?_⟩
  · exact .tail _ (.tail _ (.head _))
  · rw [← hrecorded.length_eq]
    decide +kernel

end Submitter

end TopologySubmission
