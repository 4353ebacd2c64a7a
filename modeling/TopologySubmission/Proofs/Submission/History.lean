import TopologySubmission.Proofs.Submission.Attempt

/-!
# The history of an attempt

An attempt that is not interrupted ends with an outcome. Its history tells either that all six calls
of the plan passed, or which of them is the first that did not:

    Commits vs o      the outcome after six calls that passed
    Fails vs v g o    the outcome after the calls vs, and v of the stage g that did not pass
    every outcome is of one of these kinds                             (Attempted.settled)
-/

namespace TopologySubmission

namespace Submitter

variable {σ : Type} (s : Submitter σ)

/-! ## Algorithm -/

/-- The history of an attempt that is committed. -/
def committedHistory : List Stage :=
  [.init, .validating, .uploading, .launching, .committed, .closed]

/-- The history of an attempt that fails in a stage: there is something to roll back only once the
upload has begun. -/
def failedHistory (g : Stage) : List Stage :=
  g.path ++ (if g = .uploading ∨ g = .launching then [.rollingBack] else []) ++ [.closed]

/-- The entries of an outcome agree on whether the attempt is committed. -/
structure Agrees (o : Outcome) : Prop where
  success : o.success = true ↔ o.history = committedHistory
  exitCode : o.exitCode = 0 ↔ o.history = committedHistory
  failedStage : o.failedStage = none ↔ o.history = committedHistory
  error : o.error = none ↔ o.history = committedHistory

/-- The outcome of an attempt whose calls of the stages all passed. -/
structure Commits (vs : List (Visit σ)) (o : Outcome) : Prop where
  passed : ∀ v ∈ vs, s.passed v = true
  length : vs.length = 6
  history : o.history = committedHistory
  stage : o.stage = .committed
  success : o.success = true
  failedStage : o.failedStage = none
  error : o.error = none
  place : o.packageUri = s.locator vs

/-- The outcome of an attempt whose first call that did not pass belongs to a stage. -/
structure Fails (vs : List (Visit σ)) (v : Visit σ) (g : Stage) (o : Outcome) : Prop where
  call : v.call.stage? = some g
  passed : s.passed v = false
  history : o.history = failedHistory g
  stage : ∃ l, o.history = l ++ [o.stage, .closed]
  success : o.success = false
  failedStage : o.failedStage = some g
  error : ∃ e, o.error = some e ∧ e.kind = g.errorClass ∧ e.stage = some g.text ∧
    e.topology = some s.name
  place : o.packageUri = s.locator vs

/-- The first call on the way to a commitment that did not pass, and its stage. -/
def StopsAt (vs : List (Visit σ)) (v : Visit σ) (g : Stage) : Prop :=
  ∃ before after uri, vs = before ++ v :: after ∧
    before.map Visit.call ++ [v.call] <+: s.plan uri ∧ v.call.stage? = some g ∧
    (∀ u ∈ before, s.passed u = true) ∧ s.passed v = false

variable {s}

/-! ## Lemmas -/

/-- A stage before the upload fails without a rollback. -/
theorem failedHistory_refused {n : Nat} (h : n < 2) :
    failedHistory (Stage.afterCalls n) = (Stage.afterCalls n).path ++ [.closed] ∧
      ∃ l, (Stage.afterCalls n).path ++ [.closed] = l ++ [Stage.afterCalls n, .closed] := by
  rcases n with _ | _ | n
  · exact ⟨rfl, [], rfl⟩
  · exact ⟨rfl, [.init], rfl⟩
  · omega

/-- The upload and the launch fail with a rollback. -/
theorem failedHistory_rolledBack {n : Nat} (h : 2 ≤ n) (h' : n < 6) :
    failedHistory (Stage.afterCalls n) =
      (Stage.afterCalls n).path ++ [.rollingBack] ++ [.closed] := by
  rcases n with _ | _ | _ | _ | _ | _ | n
  · omega
  · omega
  · rfl
  · rfl
  · rfl
  · rfl
  · omega

theorem Fails.history_ne {vs : List (Visit σ)} {v : Visit σ} {g : Stage} {o : Outcome}
    (h : s.Fails vs v g o) : o.history ≠ committedHistory := by
  have hg := h.call
  rw [h.history]
  cases hk : v.call <;> rw [hk] at hg <;> cases hg <;> decide

theorem Commits.agrees {vs : List (Visit σ)} {o : Outcome} (h : s.Commits vs o) : Agrees o where
  success := ⟨fun _ => h.history, fun _ => h.success⟩
  exitCode := ⟨fun _ => h.history, fun _ => o.exitCode_eq_zero_iff.mpr h.success⟩
  failedStage := ⟨fun _ => h.history, fun _ => h.failedStage⟩
  error := ⟨fun _ => h.history, fun _ => h.error⟩

theorem Fails.agrees {vs : List (Visit σ)} {v : Visit σ} {g : Stage} {o : Outcome}
    (h : s.Fails vs v g o) : Agrees o := by
  have hs : o.success ≠ true := by rw [h.success]; decide
  have hf : o.failedStage ≠ none := by rw [h.failedStage]; exact Option.some_ne_none g
  obtain ⟨e, he, -⟩ := h.error
  have he : o.error ≠ none := by rw [he]; exact Option.some_ne_none e
  constructor
  · exact iff_of_false hs h.history_ne
  · rw [o.exitCode_eq_zero_iff]
    exact iff_of_false hs h.history_ne
  · exact iff_of_false hf h.history_ne
  · exact iff_of_false he h.history_ne

/-- The error that was recorded for the call that did not pass. -/
theorem Reported.of_stage {v : Visit σ} {e : SubmissionError} {g : Stage} (h : s.Reported v e)
    (hg : v.call.stage? = some g) :
    e.kind = g.errorClass ∧ e.stage = some g.text ∧ e.topology = some s.name := by
  obtain ⟨g', hg', hk, hs, ht⟩ := h
  obtain rfl : g' = g := by simpa [hg'] using hg
  exact ⟨hk, hs, ht⟩

namespace Passage

variable {vs us : List (Visit σ)} {r : Except Stop Unit} {p : Progress σ}

/-- Only an interrupt keeps an attempt from its end. -/
theorem eq_ok (h : s.Passage vs us r p) (hi : ∀ v ∈ vs ++ us, s.interrupt? v = none) :
    r = .ok () := by
  cases h with
  | committed => rfl
  | refused => exact halt_eq_ok (hi _ (by simp))
  | @rolledBack ws v us r' error w _ _ _ _ hrow =>
    have hr : r' = .ok () := hrow.eq_ok_iff.mpr fun u hu => hi u (by simp [hu])
    rw [hr]
    exact halt_eq_ok (hi v (by simp))

/-- An attempt that is not interrupted commits or fails in the stage of its last call. -/
theorem settled (h : s.Passage vs us r p) (hi : ∀ v ∈ vs, s.interrupt? v = none)
    (errors : List String) :
    s.Commits vs { p.outcome with
        cleanupErrors := errors, history := p.outcome.history ++ [.closed] } ∨
      ∃ ws v g, vs = ws ++ [v] ∧ s.Fails ws v g { p.outcome with
        cleanupErrors := errors, history := p.outcome.history ++ [.closed] } := by
  cases h with
  | committed _ hp h6 =>
    left
    have hg : Stage.afterCalls vs.length = .committed := by rw [h6]; rfl
    exact ⟨hp, h6, by simp [standing, hg]; rfl, hg, decide_eq_true h6, rfl, rfl, rfl⟩
  | @refused ws v error w hc hp h2 hrec =>
    right
    cases error with
    | none => exact absurd (hi v (by simp)) hrec
    | some e =>
      obtain ⟨hh, l, hl⟩ := failedHistory_refused h2
      refine ⟨ws, v, Stage.afterCalls ws.length, rfl, hc.stage?_eq, hp, hh.symm, ⟨l, hl⟩, ?_, rfl,
        ⟨e, rfl, hrec.2.of_stage hc.stage?_eq⟩, rfl⟩
      exact decide_eq_false (by omega)
  | @rolledBack ws v us r' error w hc hp h2 hrec hrow =>
    right
    cases error with
    | none => exact absurd (hi v (by simp)) hrec
    | some e =>
      have hlen := hc.length_init_lt
      refine ⟨ws, v, Stage.afterCalls ws.length, rfl, hc.stage?_eq, hp,
        (failedHistory_rolledBack h2 hlen).symm, ⟨(Stage.afterCalls ws.length).path, ?_⟩, ?_, rfl,
        ⟨e, rfl, hrec.2.of_stage hc.stage?_eq⟩, rfl⟩
      · exact List.append_assoc _ _ _
      · exact decide_eq_false (by omega)

end Passage

/-- The place of the package is what the upload answered. -/
theorem locator_iff {vs : List (Visit σ)} {place : Value}
    (hc : vs.map Visit.call <+: s.plan place) (hp : ∀ v ∈ vs, s.passed v = true) (uri : Value) :
    s.locator vs = uri ∧ uri ≠ .null ↔
      ∃ v ∈ vs, v.call = .uploadPackage ∧ s.ending v = .ok uri ∧ uri.isTruthy = true := by
  constructor
  · rintro ⟨hl, hn⟩
    unfold locator at hl
    cases hv : vs[3]? with
    | none =>
      rw [hv] at hl
      exact absurd hl.symm hn
    | some v =>
      have hmem : v ∈ vs := List.mem_of_getElem? hv
      have hcall : v.call = .uploadPackage := by
        have hlen : 3 < (vs.map Visit.call).length := by
          rw [List.length_map]
          exact (List.getElem?_eq_some_iff.mp hv).1
        have := List.prefix_iff_getElem?.mp hc 3 hlen
        simpa [plan, (List.getElem?_eq_some_iff.mp hv).2, eq_comm] using this
      obtain ⟨x, hx, hacc⟩ := (s.passed_iff v).mp (hp v hmem)
      rw [hcall] at hacc
      rw [hv] at hl
      simp only [hx, Except.toOption, Option.getD_some] at hl
      subst hl
      exact ⟨v, hmem, hcall, hx, hacc⟩
  · rintro ⟨v, hmem, hcall, hx, ht⟩
    refine ⟨?_, ?_⟩
    · have h3 : vs[3]? = some v := by
        obtain ⟨i, hi, hv⟩ := List.getElem_of_mem hmem
        have hlen : i < (vs.map Visit.call).length := by rwa [List.length_map]
        have hk := List.prefix_iff_getElem?.mp hc i hlen
        rw [List.getElem_map, hv, hcall] at hk
        -- only the fourth call of a plan uploads
        rcases i with _ | _ | _ | _ | _ | _ | i
        all_goals simp [plan] at hk
        rw [List.getElem?_eq_some_iff]
        exact ⟨hi, hv⟩
      unfold locator
      rw [h3]
      simp [hx, Except.toOption]
    · rintro rfl
      cases ht

namespace Attempted

variable {r : Except Stop Outcome} {p : Progress σ}

theorem shut_eq_ok (a : s.Attempted r p) (h : ∀ v ∈ p.visits, s.interrupt? v = none) :
    a.shut = .ok () := by
  rw [a.row.eq_ok_iff]
  intro v hv
  refine h v ?_
  rw [a.visits_eq]
  exact List.mem_append_right _ hv

theorem result_eq_ok (a : s.Attempted r p) (h : ∀ v ∈ p.visits, s.interrupt? v = none) :
    r = .ok p.outcome := by
  have hp : a.passed = .ok () := by
    refine a.passage.eq_ok ?_
    intro v hv
    refine h v ?_
    rw [a.visits_eq]
    exact List.mem_append_left _ hv
  refine a.result_eq.trans ?_
  rw [a.shut_eq_ok h, hp]
  rfl

theorem settled (a : s.Attempted r p) (h : ∀ v ∈ p.visits, s.interrupt? v = none) :
    s.Commits a.stages p.outcome ∨
      ∃ vs v g, a.stages = vs ++ [v] ∧ s.Fails vs v g p.outcome := by
  have hi : ∀ v ∈ a.stages, s.interrupt? v = none := by
    intro v hv
    refine h v ?_
    rw [a.visits_eq, List.append_assoc]
    exact List.mem_append_left _ hv
  rw [a.outcome_eq, a.shut_eq_ok h]
  exact a.passage.settled hi _

/-- An upload with a place is one of the calls that passed. -/
theorem exists_upload_iff (a : s.Attempted r p) {vs : List (Visit σ)}
    (hin : ∀ v ∈ a.stages, s.passed v = true → v ∈ vs) (hsub : ∀ v ∈ vs, v ∈ a.stages)
    (uri : Value) :
    (∃ v ∈ vs, v.call = .uploadPackage ∧ s.ending v = .ok uri ∧ uri.isTruthy = true) ↔
      ∃ v ∈ p.visits, v.call = .uploadPackage ∧ s.ending v = .ok uri ∧ uri.isTruthy = true := by
  constructor
  · rintro ⟨v, hv, h⟩
    exact ⟨v, a.mem_visits (hsub v hv), h⟩
  · rintro ⟨v, hv, hk, he, ht⟩
    have hs : v ∈ a.stages := a.mem_stages hv (by rw [hk]; exact Option.some_ne_none _)
    have hp : s.passed v = true := (s.passed_iff v).mpr ⟨uri, he, by rw [hk]; exact ht⟩
    exact ⟨v, hin v hs hp, hk, he, ht⟩

/-- All calls of the plan were made and passed. -/
theorem all_passed (a : s.Attempted r p) (h : s.Commits a.stages p.outcome) :
    ∀ k ∈ s.plan (s.locator a.stages), ∃ v ∈ p.visits, v.call = k ∧ s.passed v = true := by
  have hcalls : a.stages.map Visit.call = s.plan (s.locator a.stages) :=
    a.passage.course.planned.eq_of_length (by rw [List.length_map, h.length]; rfl)
  intro k hk
  rw [← hcalls] at hk
  obtain ⟨v, hv, rfl⟩ := List.mem_map.mp hk
  exact ⟨v, a.mem_visits hv, rfl, h.passed v hv⟩

theorem stopsAt (a : s.Attempted r p) {vs : List (Visit σ)} {v : Visit σ} {g : Stage}
    (hvs : a.stages = vs ++ [v]) (h : s.Fails vs v g p.outcome) : s.StopsAt p.visits v g := by
  have hc := a.passage.course
  rw [hvs] at hc
  refine ⟨vs, a.undone ++ a.closed, s.locator (vs ++ [v]), ?_, ?_, h.call, hc.passed_init,
    h.passed⟩
  · rw [a.visits_eq, hvs]
    simp
  · have := hc.planned
    rwa [List.map_append] at this

end Attempted

/-- A launch that passed is no visit of an attempt that failed. -/
theorem Fails.launch_ne {vs : List (Visit σ)} {v u : Visit σ} {g : Stage} {o : Outcome}
    (h : s.Fails vs v g o) (hc : s.Course (vs ++ [v])) (hu : u ∈ vs ++ [v])
    (hp : s.passed u = true) : u.call ≠ .launch := by
  rcases List.mem_append.mp hu with hu | hu
  · exact hc.call_ne_launch hu
  · rw [List.mem_singleton.mp hu, h.passed] at hp
    cases hp

/-- The history of every attempt that is not interrupted: it ends with an outcome that is committed
if and only if all six calls of the plan were made and passed, and else tells the stage of the first
one that did not. The other entries of the outcome say the same. -/
theorem submit_history (w : σ) (log : List Record)
    (h : ∀ v ∈ (Act.run s.submit ⟨s.begin w, log⟩).2.world.visits, s.interrupt? v = none) :
    let p := (Act.run s.submit ⟨s.begin w, log⟩).2.world
    let o := p.outcome
    (Act.run s.submit ⟨s.begin w, log⟩).1 = .ok o ∧
    (o.history = committedHistory ↔
      ∃ uri, ∀ k ∈ s.plan uri, ∃ v ∈ p.visits, v.call = k ∧ s.passed v = true) ∧
    (o.history ≠ committedHistory → ∃ v g e, s.StopsAt p.visits v g ∧
      o.history = failedHistory g ∧ o.failedStage = some g ∧ o.error = some e ∧
      e.kind = g.errorClass ∧ e.stage = some g.text ∧ e.topology = some s.name) ∧
    (∃ l, o.history = l ++ [o.stage, .closed]) ∧
    Agrees o ∧
    ∀ uri, o.packageUri = uri ∧ uri ≠ .null ↔
      ∃ v ∈ p.visits, v.call = .uploadPackage ∧ s.ending v = .ok uri ∧ uri.isTruthy = true := by
  intro p o
  obtain ⟨a⟩ := attempted_submit (s := s) w log
  have hc := a.passage.course
  refine ⟨a.result_eq_ok h, ?_⟩
  rcases a.settled h with hcom | ⟨vs, v, g, hvs, hfail⟩
  · refine ⟨iff_of_true hcom.history ⟨s.locator a.stages, a.all_passed hcom⟩,
      fun hne => absurd hcom.history hne, ⟨[.init, .validating, .uploading, .launching], ?_⟩,
      hcom.agrees, fun uri => ?_⟩
    · rw [show o.history = committedHistory from hcom.history, show o.stage = _ from hcom.stage]
      rfl
    · rw [show o.packageUri = _ from hcom.place, locator_iff hc.planned hcom.passed uri]
      exact a.exists_upload_iff (fun v hv _ => hv) (fun v hv => hv) uri
  · obtain ⟨e, he, hkind, hstage, htopology⟩ := hfail.error
    rw [hvs] at hc
    refine ⟨iff_of_false hfail.history_ne ?_, fun _ => ⟨v, g, e, a.stopsAt hvs hfail, hfail.history,
      hfail.failedStage, he, hkind, hstage, htopology⟩, hfail.stage, hfail.agrees, fun uri => ?_⟩
    · rintro ⟨uri, hall⟩
      obtain ⟨u, hu, hk, hp⟩ := hall .launch (by simp [plan])
      have hmem : u ∈ a.stages := a.mem_stages hu (by rw [hk]; exact Option.some_ne_none _)
      rw [hvs] at hmem
      exact hfail.launch_ne hc hmem hp hk
    · rw [show o.packageUri = _ from hfail.place, locator_iff hc.planned_init hc.passed_init uri]
      refine a.exists_upload_iff ?_ ?_ uri
      · intro u hu hp
        rw [hvs] at hu
        rcases List.mem_append.mp hu with hu | hu
        · exact hu
        · rw [List.mem_singleton.mp hu, hfail.passed] at hp
          cases hp
      · intro u hu
        rw [hvs]
        exact List.mem_append_left _ hu

/-- An attempt in which everything passes is committed. -/
theorem submit_history_of_launched :
    let s := rehearsed [] [(.launch, .gives (.bool true))] []
      [(.uploadPackage, .gives (.text "pkg://store/job1"))]
    let p := (Act.run s.submit ⟨s.begin (), []⟩).2.world
    (∀ v ∈ p.visits, s.interrupt? v = none) ∧ p.outcome.history = committedHistory := by
  intro s p
  have h : ∀ v ∈ p.visits, s.interrupt? v = none := by
    rintro ⟨k, t⟩ -
    cases k <;> rfl
  obtain ⟨-, -, -, -, hagrees, -⟩ := submit_history () [] h
  exact ⟨h, hagrees.success.mp rfl⟩

end Submitter

end TopologySubmission
