import TopologySubmission.Proofs.Submission.Attempt

/-!
# The order of the calls

Nothing is uploaded or launched, and nothing of it is undone or closed, unless the topology is known
not to run; and nothing is launched that has no place:

    a guarded call comes after a running check that says no    (Attempted.confirmed)
    a call that launches comes after an upload with a place    (Course.uploaded)
-/

namespace TopologySubmission

/-! ## Algorithm -/

namespace Call

/-- A call of the launcher, of the packing, or of the uploader unless it closes it. -/
def isGuarded : Call → Bool
  | .configureState | .runningCheck _ | .closeUploader | .closeState => false
  | _ => true

/-- A call that marks how far the attempt is. -/
def isLandmark : Call → Bool
  | .configureState | .runningCheck _ | .uploadPackage | .launch => true
  | _ => false

end Call

namespace Submitter

variable {σ : Type} (s : Submitter σ)

/-- The state manager was configured, and its running check finished with a value that is neither
nothing nor counts as true. -/
def Confirmed (vs : List (Visit σ)) : Prop :=
  (∃ u ∈ vs, u.call = .configureState ∧ ∃ x, s.ending u = .ok x) ∧
  ∃ u ∈ vs, u.call = .runningCheck s.name ∧ ∃ x,
    (Act.run (s.plugins.stateManager.runningCheck s.name) u.scene).1 = .ok (.finished x) ∧
      x ≠ .null ∧ x.isTruthy = false

/-- The package was uploaded to a place. -/
def Uploaded (vs : List (Visit σ)) (uri : Value) : Prop :=
  ∃ u ∈ vs, u.call = .uploadPackage ∧ s.ending u = .ok uri ∧ uri.isTruthy = true

variable {s}

/-! ## Lemmas -/

theorem prefix_of_not_mem {α : Type} {l m r : List α} {a : α} (h : l ++ [a] <+: m ++ r)
    (ha : a ∉ r) : l ++ [a] <+: m := by
  rcases List.prefix_or_prefix_of_prefix h (List.prefix_append m r) with h' | h'
  · exact h'
  · rcases List.prefix_concat_iff.mp h' with rfl | ⟨t, rfl⟩
    · exact List.prefix_refl _
    · rw [List.append_assoc, List.prefix_append_right_inj] at h
      exact absurd (h.subset (by simp)) ha

/-- What the first three calls of a course are. -/
theorem Course.opening {a b c : Visit σ} {vs : List (Visit σ)} (h : s.Course (a :: b :: c :: vs)) :
    a.call = .configureState ∧ b.call = .runningCheck s.name ∧ c.call = .configureUploader := by
  have := h.planned
  simp only [plan, List.map_cons, List.cons_prefix_cons] at this
  exact ⟨this.1, this.2.1, this.2.2.1⟩

theorem accepts_runningCheck_eq (name : String) (x : Value) :
    accepts (.runningCheck name) x = true ↔ x ≠ .null ∧ x.isTruthy = false := by
  cases x <;> simp [accepts]

theorem ending_runningCheck {v : Visit σ} (hv : v.call = .runningCheck s.name) (x : Value) :
    s.ending v = .ok x ↔
      (Act.run (s.plugins.stateManager.runningCheck s.name) v.scene).1 = .ok (.finished x) := by
  unfold ending
  rw [hv]
  exact run_askRunning_eq_ok_iff _ _ _ x _

/-- The topology is known not to run if and only if the first two calls passed. -/
theorem confirmed_iff (vs : List (Visit σ)) :
    s.Confirmed vs ↔ (∃ u ∈ vs, u.call = .configureState ∧ s.passed u = true) ∧
      ∃ u ∈ vs, u.call = .runningCheck s.name ∧ s.passed u = true := by
  unfold Confirmed
  refine and_congr ?_ ?_
  · refine exists_congr fun u => and_congr_right fun _ => and_congr_right fun hu => ?_
    rw [passed_iff, hu]
    simp [accepts]
  · refine exists_congr fun u => and_congr_right fun _ => and_congr_right fun hu => ?_
    rw [passed_iff, hu]
    simp only [ending_runningCheck hu, accepts_runningCheck_eq]

namespace Passage

variable {vs us : List (Visit σ)} {r : Except Stop Unit} {p : Progress σ}

/-- Either the first two calls passed and the uploader was called, or one of them did not pass,
nothing else was called and nothing is to be undone. -/
theorem opening (h : s.Passage vs us r p) :
    (∃ a b c ws, vs = a :: b :: c :: ws ∧ s.passed a = true ∧ s.passed b = true) ∨
      vs.length ≤ 2 ∧ us = [] ∧ p.launcherReady = false ∧ ∃ v ∈ vs, s.passed v = false := by
  cases h with
  | committed _ hp h6 =>
    rcases vs with _ | ⟨a, _ | ⟨b, _ | ⟨c, ws⟩⟩⟩
    · simp at h6
    · simp at h6
    · simp at h6
    · exact .inl ⟨a, b, c, ws, rfl, hp a (by simp), hp b (by simp)⟩
  | @refused qs v error w _ hv h2 =>
    refine .inr ⟨by simp; omega, rfl, ?_, v, by simp, hv⟩
    exact decide_eq_false (by omega)
  | @rolledBack qs v _ _ _ _ hc _ h2 =>
    have hp := hc.passed_init
    rcases qs with _ | ⟨a, _ | ⟨b, ws⟩⟩
    · simp at h2
    · simp at h2
    · cases ws with
      | nil => exact .inl ⟨a, b, v, [], rfl, hp a (by simp), hp b (by simp)⟩
      | cons c ws => exact .inl ⟨a, b, c, ws ++ [v], rfl, hp a (by simp), hp b (by simp)⟩

end Passage

/-- The calls that come before a call that launches have a place for the package. -/
theorem Course.uploaded {ws vs : List (Visit σ)} {v : Visit σ} (h : s.Course ws)
    (hp : vs ++ [v] <+: ws) (hv : v.call.stage? = some .launching) :
    ∃ uri, s.Uploaded vs uri ∧
      ∀ rt, v.call = .configureLauncher rt → rt = s.runtime uri ∧ rt.packageUri = uri := by
  have hcalls : vs.map Visit.call ++ [v.call] <+: s.plan (s.locator ws) := by
    have := (hp.map Visit.call).trans h.planned
    rwa [List.map_append] at this
  have hpass : ∀ u ∈ vs, s.passed u = true := by
    intro u hu
    obtain ⟨t, rfl⟩ := hp
    refine h.passed u ?_
    rw [List.append_assoc, List.dropLast_append_of_ne_nil (by simp)]
    exact List.mem_append_left _ hu
  rcases vs with _ | ⟨a, _ | ⟨b, _ | ⟨c, _ | ⟨u, vs⟩⟩⟩⟩
  all_goals
    simp only [plan, List.map_cons, List.map_nil, List.nil_append, List.cons_append,
      List.cons_prefix_cons] at hcalls
  · rw [hcalls.1] at hv
    cases hv
  · rw [hcalls.2.1] at hv
    cases hv
  · rw [hcalls.2.2.1] at hv
    cases hv
  · rw [hcalls.2.2.2.1] at hv
    cases hv
  · obtain ⟨-, -, -, hu, htail⟩ := hcalls
    obtain ⟨uri, hend, hacc⟩ := (s.passed_iff u).mp (hpass u (by simp))
    rw [hu] at hacc
    have hloc : s.locator ws = uri := by
      obtain ⟨t, rfl⟩ := hp
      simp [locator, hend, Except.toOption]
    refine ⟨uri, ⟨u, by simp, hu, hend, hacc⟩, ?_⟩
    intro rt hrt
    rw [hrt, hloc] at htail
    have hrun : rt = s.runtime uri := by
      rcases vs with _ | ⟨q, _ | ⟨z, vs⟩⟩ <;> simp [List.cons_prefix_cons] at htail
      exact htail
    exact ⟨hrun, by rw [hrun]; rfl⟩

namespace Attempted

variable {r : Except Stop Outcome} {p : Progress σ}

/-- What was called in an attempt that was not allowed to go on. -/
theorem calls_refused (a : s.Attempted r p) (hlen : a.stages.length ≤ 2) (hus : a.undone = [])
    (hready : a.before.launcherReady = false) {k : Call} (hk : k ∈ p.calls) :
    k.isGuarded = false := by
  rw [a.calls_split, hus, List.map_nil, List.append_nil] at hk
  rcases List.mem_append.mp hk with hk | hk
  · have hplan : a.stages.map Visit.call <+: (s.plan (s.locator a.stages)).take 2 :=
      List.prefix_take_iff.mpr ⟨a.passage.course.planned, by rwa [List.length_map]⟩
    have := hplan.subset hk
    simp only [plan, List.take_succ_cons, List.take_zero, List.mem_cons, List.not_mem_nil,
      or_false] at this
    rcases this with rfl | rfl <;> rfl
  · have := a.row.calls_isPrefix.subset hk
    rw [hready] at this
    simp only [closings, List.mem_cons, List.not_mem_nil, or_false, Bool.false_eq_true,
      if_false, List.nil_append] at this
    rcases this with rfl | rfl <;> rfl

/-- A guarded call comes after the first two calls, which passed. -/
theorem confirmed (a : s.Attempted r p) {vs : List (Visit σ)} {v : Visit σ}
    (h : vs ++ [v] <+: p.visits) (hv : v.call.isGuarded = true) : s.Confirmed vs := by
  rcases a.passage.opening with ⟨u, z, c, ws, hws, pu, pz⟩ | ⟨hlen, hus, hready, -⟩
  · have hcourse := a.passage.course
    rw [a.visits_eq, hws] at h
    rw [hws] at hcourse
    obtain ⟨hu, hz, -⟩ := hcourse.opening
    -- the first two calls are not guarded, so both come before this one
    rcases vs with _ | ⟨x, _ | ⟨y, vs⟩⟩
    all_goals simp only [List.nil_append, List.cons_append, List.cons_prefix_cons] at h
    · rw [h.1, hu] at hv
      cases hv
    · rw [h.2.1, hz] at hv
      cases hv
    · rw [h.1, h.2.1, confirmed_iff]
      exact ⟨⟨u, by simp, hu, pu⟩, z, by simp, hz, pz⟩
  · have hmem : v.call ∈ p.calls := by
      rw [a.calls_eq]
      exact List.mem_map_of_mem (h.subset (by simp))
    rw [a.calls_refused hlen hus hready hmem] at hv
    cases hv

/-- Once the topology is known not to run, the uploader is called. -/
theorem configureUploader_mem (a : s.Attempted r p) (h : s.Confirmed p.visits) :
    Call.configureUploader ∈ p.calls := by
  have hc := a.passage.course
  rcases a.passage.opening with ⟨u, z, c, ws, hws, -, -⟩ | ⟨hlen, -, -, v, hv, pv⟩
  · rw [hws] at hc
    rw [a.calls_split, hws, ← hc.opening.2.2]
    simp
  · exfalso
    rw [confirmed_iff] at h
    obtain ⟨⟨x, hx, hxk, px⟩, y, hy, hyk, py⟩ := h
    replace hx := a.mem_stages hx (by rw [hxk]; exact Option.some_ne_none _)
    replace hy := a.mem_stages hy (by rw [hyk]; exact Option.some_ne_none _)
    have hplan := hc.planned
    generalize a.stages = vs at hx hy hv hplan hlen
    rcases vs with _ | ⟨u, _ | ⟨z, _ | ⟨q, vs⟩⟩⟩
    · cases hv
    · simp only [plan, List.map_cons, List.cons_prefix_cons] at hplan
      rw [List.mem_singleton.mp hy, hplan.1] at hyk
      cases hyk
    · simp only [plan, List.map_cons, List.cons_prefix_cons] at hplan
      simp only [List.mem_cons, List.not_mem_nil, or_false] at hx hy hv
      have hxu : x = u := hx.resolve_right (by rintro rfl; rw [hplan.2.1] at hxk; cases hxk)
      have hyz : y = z := hy.resolve_left (by rintro rfl; rw [hplan.1] at hyk; cases hyk)
      rcases hv with rfl | rfl
      · rw [← hxu, px] at pv
        cases pv
      · rw [← hyz, py] at pv
        cases pv
    · simp at hlen

/-- The calls after those of the stages mark nothing. -/
theorem landmarks_isPrefix (a : s.Attempted r p) :
    p.calls.filter Call.isLandmark <+:
      [.configureState, .runningCheck s.name, .uploadPackage, .launch] := by
  have hrest : ((a.undone ++ a.closed).map Visit.call).filter Call.isLandmark = [] := by
    rw [List.filter_eq_nil_iff]
    refine List.forall_mem_map.mpr fun v hv => ?_
    have hstage := a.stage?_eq_none hv
    generalize v.call = k at hstage
    cases k <;> simp_all [Call.stage?, Call.isLandmark]
  rw [a.calls_split, List.append_assoc, ← List.map_append, List.filter_append, hrest,
    List.append_nil]
  exact a.passage.course.planned.filter _

/-- What is given to the launcher is about the place of an upload made before. -/
theorem uploaded (a : s.Attempted r p) {vs : List (Visit σ)} {v : Visit σ}
    (h : vs ++ [v] <+: p.visits) (hv : v.call.stage? = some .launching) :
    ∃ uri, s.Uploaded vs uri ∧
      ∀ rt, v.call = .configureLauncher rt → rt = s.runtime uri ∧ rt.packageUri = uri := by
  rw [a.visits_eq, List.append_assoc] at h
  refine a.passage.course.uploaded (prefix_of_not_mem h ?_) hv
  intro hmem
  rw [a.stage?_eq_none hmem] at hv
  cases hv

end Attempted

/-- The guard against a second submission, in every attempt: the uploader, the launcher and the
packing are called only once the topology is known not to run, and then the uploader is called; the
launcher is given the place of an uploaded package; and the attempt asks, uploads and launches in
this order and at most once. -/
theorem submit_calls_guarded (w : σ) (log : List Record) :
    let p := (Act.run s.submit ⟨s.begin w, log⟩).2.world
    p.calls = p.visits.map Visit.call ∧
    (∀ vs v, vs ++ [v] <+: p.visits → v.call.isGuarded = true → s.Confirmed vs) ∧
    (s.Confirmed p.visits → Call.configureUploader ∈ p.calls) ∧
    (∀ vs v, vs ++ [v] <+: p.visits → v.call.stage? = some .launching →
      ∃ uri, s.Uploaded vs uri ∧
        ∀ rt, v.call = .configureLauncher rt → rt = s.runtime uri ∧ rt.packageUri = uri) ∧
    p.calls.filter Call.isLandmark <+:
      [.configureState, .runningCheck s.name, .uploadPackage, .launch] := by
  intro p
  obtain ⟨a⟩ := attempted_submit (s := s) w log
  exact ⟨a.calls_eq, fun vs v => a.confirmed, a.configureUploader_mem, fun vs v => a.uploaded,
    a.landmarks_isPrefix⟩

end Submitter

end TopologySubmission
