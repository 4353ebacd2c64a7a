import TopologySubmission.Proofs.Submission.Visit

/-!
# Rows of undoing and closing

Undoing and closing call one plugin after another, and a failure of one call does not keep the
next one from being made. Only an interrupt breaks the row off:

    rollback    undoes the uploader, then the launcher                        (runsRow_rollback)
    cleanup     closes the uploader, the launcher and its packing if the
                launcher is ready, then the state manager                     (runsRow_cleanup)
-/

namespace TopologySubmission

namespace Submitter

variable {σ : Type} (s : Submitter σ)

/-- Calls that are made in a row; an interrupted one is the last. -/
inductive Row : List Call → List (Visit σ) → Except Stop Unit → Prop
  | done : Row [] [] (.ok ())
  | next {k : Call} {ks : List Call} {v : Visit σ} {vs : List (Visit σ)} {r : Except Stop Unit} :
      v.call = k → s.interrupt? v = none → Row ks vs r → Row (k :: ks) (v :: vs) r
  | broken {k : Call} {ks : List Call} {v : Visit σ} {i : Interrupt} :
      v.call = k → s.interrupt? v = some i → Row (k :: ks) [v] (.error (.interrupt i))

namespace Row

variable {s} {ks ls : List Call} {vs us : List (Visit σ)} {r : Except Stop Unit} {e : Stop}

theorem single (k : Call) (v : Visit σ) (hv : v.call = k) : s.Row [k] [v] (s.halt v) := by
  unfold halt
  cases hi : s.interrupt? v with
  | none => exact .next hv hi .done
  | some i => exact .broken hv hi

theorem append (h : s.Row ks vs (.ok ())) (h' : s.Row ls us r) :
    s.Row (ks ++ ls) (vs ++ us) r := by
  generalize hr : (Except.ok () : Except Stop Unit) = r₁ at h
  induction h with
  | done => exact h'
  | next hv hi _ ih => exact .next hv hi (ih hr)
  | broken => cases hr

theorem append_left (h : s.Row ks vs (.error e)) (ls : List Call) :
    s.Row (ks ++ ls) vs (.error e) := by
  generalize hr : (Except.error e : Except Stop Unit) = r₁ at h
  induction h with
  | done => cases hr
  | next hv hi _ ih => exact .next hv hi (ih hr)
  | broken hv hi => exact .broken hv hi

/-- The calls of a row are the first ones of those that were to be made. -/
theorem calls_isPrefix (h : s.Row ks vs r) : vs.map Visit.call <+: ks := by
  induction h with
  | done => exact List.prefix_refl _
  | next hv _ _ ih =>
    subst hv
    exact List.cons_prefix_cons.mpr ⟨rfl, ih⟩
  | broken hv _ =>
    subst hv
    exact List.cons_prefix_cons.mpr ⟨rfl, List.nil_prefix⟩

/-- A row comes to its end if and only if no call was interrupted. -/
theorem eq_ok_iff (h : s.Row ks vs r) : r = .ok () ↔ ∀ v ∈ vs, s.interrupt? v = none := by
  induction h with
  | done => simp
  | next _ hi _ ih => simp [hi, ih]
  | broken _ hi => simp [hi]

/-- A row that came to its end made all its calls. -/
theorem calls_eq (h : s.Row ks vs (.ok ())) : vs.map Visit.call = ks := by
  generalize hr : (Except.ok () : Except Stop Unit) = r₁ at h
  induction h with
  | done => rfl
  | next hv _ _ ih => rw [List.map_cons, hv, ih hr]
  | broken => cases hr

theorem calls_mem (h : s.Row ks vs r) {v : Visit σ} (hv : v ∈ vs) : v.call ∈ ks :=
  h.calls_isPrefix.subset (List.mem_map_of_mem hv)

end Row

/-! ## Acts that make a row of calls -/

/-- An act that makes a row of calls whose failures are recorded. -/
def RunsRow (ks : List Call) (note : Call → Failure → Outcome → Outcome)
    (a : Act (Progress σ) Unit) (c : Scene (Progress σ)) : Prop :=
  ∃ vs r w l, s.Row ks vs r ∧
    Act.run a c =
      (r, ⟨{ c.world.after vs w with outcome := vs.foldl (s.noted note) c.world.outcome }, l⟩)

variable {s} {ks ls : List Call} {note : Call → Failure → Outcome → Outcome}

theorem runsRow_nil (c : Scene (Progress σ)) : s.RunsRow [] note (pure ()) c := by
  refine ⟨[], .ok (), c.world.world, c.log, .done, ?_⟩
  rw [Act.run_pure, Progress.after_nil]
  rfl

theorem runsRow_tolerate (note : Call → Failure → Outcome → Outcome) (k : Call) (a : Act σ Unit)
    (line : Failure → String) (h : s.act k = silent a) (c : Scene (Progress σ)) :
    s.RunsRow [k] note (tolerate k a (note k) line) c := by
  obtain ⟨w, l, hrun⟩ := s.run_tolerate k a note line h c
  exact ⟨[c.visit k], s.halt (c.visit k), w, l, Row.single k _ rfl, hrun⟩

/-- Two rows in a row: the second one is begun with the launcher as ready as before. -/
theorem RunsRow.bind {a b : Act (Progress σ) Unit} {c : Scene (Progress σ)}
    (h : s.RunsRow ks note a c)
    (h' : ∀ d : Scene (Progress σ), d.world.launcherReady = c.world.launcherReady →
      s.RunsRow ls note b d) :
    s.RunsRow (ks ++ ls) note (do a; b) c := by
  obtain ⟨vs, r, w, l, hrow, hrun⟩ := h
  unfold RunsRow
  rw [Act.run_bind, hrun]
  cases r with
  -- the second row is not begun
  | error e => exact ⟨vs, .error e, w, l, hrow.append_left ls, rfl⟩
  | ok u =>
    obtain ⟨us, r', x, m, hrow', hrun'⟩ := h' ⟨{ c.world.after vs w with
      outcome := vs.foldl (s.noted note) c.world.outcome }, l⟩ rfl
    refine ⟨vs ++ us, r', x, m, hrow.append hrow', ?_⟩
    simp only [hrun', List.foldl_append]
    simp [Progress.after]

variable (s)

/-! ## Undoing -/

/-- Records the error of a failure to undo. -/
def noteUndo (k : Call) (f : Failure) (o : Outcome) : Outcome :=
  { o with undoErrors := o.undoErrors ++ [s.undoError k.who f] }

/-- The error that is recorded for a call that undoes. -/
def undoError? (v : Visit σ) : Option SubmissionError :=
  (s.failure? v).map (s.undoError v.call.who)

theorem foldl_noteUndo (vs : List (Visit σ)) (o : Outcome) :
    vs.foldl (s.noted s.noteUndo) o =
      { o with undoErrors := o.undoErrors ++ vs.filterMap s.undoError? } := by
  induction vs generalizing o with
  | nil => simp
  | cons v vs ih =>
    rw [List.foldl_cons, ih]
    unfold noted
    cases hf : s.failure? v with
    | none => simp [undoError?, hf]
    | some f => simp [undoError?, hf, noteUndo]

theorem runsRow_rollback (c : Scene (Progress σ)) :
    s.RunsRow [.undoUploader, .undoLauncher] s.noteUndo s.rollback c := by
  have h := (runsRow_tolerate s.noteUndo .undoUploader s.plugins.uploader.undo
    (s.undoLine "uploader") rfl ⟨c.world, c.log ++ [⟨.warning,
      "Rolling back submission of topology " ++ s.name⟩]⟩).bind fun d _ =>
    runsRow_tolerate s.noteUndo .undoLauncher s.plugins.launcher.undo (s.undoLine "launcher") rfl d
  unfold rollback
  unfold RunsRow at h ⊢
  rw [Act.run_bind, Act.run_log]
  exact h

/-! ## Closing -/

/-- Records the error of a failure to close. -/
def noteClose (k : Call) (f : Failure) (o : Outcome) : Outcome :=
  { o with cleanupErrors := o.cleanupErrors ++ [closeError k.who f] }

/-- The error that is recorded for a call that closes. -/
def closeError? (v : Visit σ) : Option String := (s.failure? v).map (closeError v.call.who)

theorem foldl_noteClose (vs : List (Visit σ)) (o : Outcome) :
    vs.foldl (s.noted noteClose) o =
      { o with cleanupErrors := o.cleanupErrors ++ vs.filterMap s.closeError? } := by
  induction vs generalizing o with
  | nil => simp
  | cons v vs ih =>
    rw [List.foldl_cons, ih]
    unfold noted
    cases hf : s.failure? v with
    | none => simp [closeError?, hf]
    | some f => simp [closeError?, hf, noteClose]

/-- The calls that close what is in use. -/
def closings (launcherReady : Bool) : List Call :=
  .closeUploader :: ((if launcherReady then [.closeLauncher, .closePacking] else []) ++
    [.closeState])

theorem isClose_of_mem_closings {launcherReady : Bool} :
    ∀ k ∈ closings launcherReady, k.isClose = true := by
  cases launcherReady <;> decide

theorem runsRow_closeLauncher (c : Scene (Progress σ)) :
    s.RunsRow (if c.world.launcherReady then [.closeLauncher, .closePacking] else []) noteClose
      s.closeLauncher c := by
  unfold closeLauncher RunsRow
  simp only [Act.run_bind, Act.run_world]
  by_cases hr : c.world.launcherReady = true
  · simp only [if_pos hr]
    exact (runsRow_tolerate noteClose .closeLauncher s.plugins.launcher.close
      (closeLine "launcher") rfl c).bind fun d _ =>
      runsRow_tolerate noteClose .closePacking s.plugins.packing.close (closeLine "packing") rfl d
  · simp only [if_neg hr]
    exact runsRow_nil c

theorem runsRow_cleanup (c : Scene (Progress σ)) :
    s.RunsRow (closings c.world.launcherReady) noteClose s.cleanup c := by
  refine (runsRow_tolerate noteClose .closeUploader s.plugins.uploader.close
    (closeLine "uploader") rfl c).bind fun d hd => ?_
  rw [← hd]
  exact (s.runsRow_closeLauncher d).bind fun e _ =>
    runsRow_tolerate noteClose .closeState s.plugins.stateManager.close
      (closeLine "state manager") rfl e

end Submitter

end TopologySubmission
