import TopologySubmission.Proofs.Act.Ends
import TopologySubmission.Proofs.Submission.Attempt

/-!
# The plugins' world changes in calls only

Each call of an attempt finds the world as the call before it left it, and what is left at the end is
what the last call left:

    Linked w vs x     the visits lead from the world w to the world x
    s.submit          links its visits, from the world in which it begins       (linked_submit)
-/

namespace TopologySubmission

namespace Submitter

variable {σ α β : Type} (s : Submitter σ)

/-! ## Algorithm -/

/-- The world that the plugin left after a visit. -/
def left (v : Visit σ) : σ := (Act.run (s.act v.call) v.scene).2.world

/-- Visits that lead from one world to another. -/
inductive Linked : σ → List (Visit σ) → σ → Prop
  | nil (w : σ) : Linked w [] w
  | cons {w x : σ} {v : Visit σ} {vs : List (Visit σ)} :
      v.scene.world = w → Linked (s.left v) vs x → Linked w (v :: vs) x

/-- The act makes visits that lead from the world in which it begins to the one that it leaves. -/
def Links (a : Act (Progress σ) α) : Prop :=
  ∀ c, ∃ vs, (Act.run a c).2.world.visits = c.world.visits ++ vs ∧
    s.Linked c.world.world vs (Act.run a c).2.world.world

variable {s}

/-! ## Lemmas -/

namespace Linked

variable {w x y : σ} {vs us : List (Visit σ)}

theorem append (h : s.Linked w vs x) (h' : s.Linked x us y) : s.Linked w (vs ++ us) y := by
  induction h with
  | nil => exact h'
  | cons hv _ ih => exact .cons hv (ih h')

theorem eq_of_nil (h : s.Linked w [] x) : x = w := by
  cases h
  rfl

theorem of_cons {v : Visit σ} (h : s.Linked w (v :: vs) x) :
    v.scene.world = w ∧ s.Linked (s.left v) vs x := by
  cases h with
  | cons hv hrest => exact ⟨hv, hrest⟩

theorem split (h : s.Linked w (vs ++ us) y) : ∃ x, s.Linked w vs x ∧ s.Linked x us y := by
  induction vs generalizing w with
  | nil => exact ⟨w, .nil w, h⟩
  | cons v vs ih =>
    obtain ⟨hv, hrest⟩ := of_cons h
    obtain ⟨x, hx, hy⟩ := ih hrest
    exact ⟨x, .cons hv hx, hy⟩

/-- What each visit keeps is kept by all of them. -/
theorem keeps {P : σ → Prop} (h : s.Linked w vs x)
    (hstep : ∀ v ∈ vs, P v.scene.world → P (s.left v)) (hw : P w) : P x := by
  induction h with
  | nil => exact hw
  | cons hv _ ih =>
    refine ih (fun u hu => hstep u (List.mem_cons_of_mem _ hu)) ?_
    exact hstep _ List.mem_cons_self (hv ▸ hw)

end Linked

/-! ### Calls whose ways of ending are known -/

section
variable {v : Visit σ} {done : Value → σ → Prop} {failed : σ → Prop}

theorem interrupt?_of_ends (h : Act.Ends (s.act v.call) v.scene.world done failed) :
    s.interrupt? v = none := by
  unfold interrupt? ending
  rcases h.of_run v.scene.log with ⟨x, d, hr, -⟩ | ⟨f, d, hr, -⟩ <;> rw [hr]

theorem left_of_ends {P : σ → Prop}
    (h : Act.Ends (s.act v.call) v.scene.world (fun _ w => P w) P) : P (s.left v) :=
  h.world v.scene.log

/-- A call that passed is done. -/
theorem done_of_passed {k : Call} {w : σ} (hp : s.passed v = true) (hk : v.call = k)
    (hw : v.scene.world = w) (h : Act.Ends (s.act k) w done failed) :
    ∃ x, s.ending v = .ok x ∧ accepts k x = true ∧ done x (s.left v) := by
  subst hk hw
  obtain ⟨x, hx, ha⟩ := (s.passed_iff v).mp hp
  refine ⟨x, hx, ha, ?_⟩
  unfold ending at hx
  unfold left
  rcases h.of_run v.scene.log with ⟨y, d, hr, hd⟩ | ⟨f, d, hr, -⟩ <;> rw [hr] at hx ⊢
  · cases hx
    exact hd
  · cases hx

/-- A call that did not pass failed, or it is done with an answer after which no attempt goes on. -/
theorem of_not_passed (hp : s.passed v = false)
    (h : Act.Ends (s.act v.call) v.scene.world done failed) :
    (∃ x, accepts v.call x = false ∧ done x (s.left v)) ∨ failed (s.left v) := by
  unfold passed ending at hp
  unfold left
  rcases h.of_run v.scene.log with ⟨x, d, hr, hd⟩ | ⟨f, d, hr, hd⟩ <;> rw [hr] at hp ⊢
  · exact .inl ⟨x, hp, hd⟩
  · exact .inr hd

theorem ends_silent {a : Act σ Unit} {w : σ} {P Q : σ → Prop}
    (h : Act.Ends a w (fun _ v => P v) Q) : Act.Ends (silent a) w (fun _ v => P v) Q := .map h

end

namespace Links

theorem quiet {a : Act (Progress σ) α} (h : ∀ c, (Act.run a c).2.world.visits = c.world.visits ∧
    (Act.run a c).2.world.world = c.world.world) : s.Links a := fun c =>
  ⟨[], by rw [(h c).1, List.append_nil], by rw [(h c).2]; exact .nil _⟩

theorem pure (x : α) : s.Links (Pure.pure x) := quiet fun _ => ⟨rfl, rfl⟩

theorem fail (f : Failure) : s.Links (Act.fail f : Act (Progress σ) α) := quiet fun _ => ⟨rfl, rfl⟩

theorem log (l : Level) (t : String) : s.Links (Act.log l t) := quiet fun _ => ⟨rfl, rfl⟩

theorem record (f : Outcome → Outcome) : s.Links (Submitter.record f) := quiet fun _ => ⟨rfl, rfl⟩

theorem enter (next : Stage) : s.Links (s.enter next) := quiet fun c => by
  rw [run_enter]
  exact ⟨rfl, rfl⟩

theorem recordFailure (e : SubmissionError) : s.Links (s.recordFailure e) := quiet fun c => by
  rw [run_recordFailure]
  exact ⟨rfl, rfl⟩

theorem bind {a : Act (Progress σ) α} {f : α → Act (Progress σ) β} (ha : s.Links a)
    (hf : ∀ x, s.Links (f x)) : s.Links (a >>= f) := by
  intro c
  obtain ⟨vs, hvs, hlinked⟩ := ha c
  rw [Act.run_bind]
  rcases hr : Act.run a c with ⟨e | x, d⟩ <;> rw [hr] at hvs hlinked
  · exact ⟨vs, hvs, hlinked⟩
  · obtain ⟨us, hus, hlinked'⟩ := hf x d
    exact ⟨vs ++ us, by rw [← List.append_assoc, ← hvs]; exact hus, hlinked.append hlinked'⟩

/-- An act that looks at the world first. -/
theorem world {f : Progress σ → Act (Progress σ) α} (hf : ∀ p, s.Links (f p)) :
    s.Links (Act.world >>= f) :=
  bind (quiet fun _ => ⟨rfl, rfl⟩) hf

theorem attempt {a : Act (Progress σ) α} (ha : s.Links a) : s.Links (Act.attempt a) := by
  intro c
  obtain ⟨vs, hvs, hlinked⟩ := ha c
  rw [Act.run_attempt]
  rcases hr : Act.run a c with ⟨(f | i) | x, d⟩ <;> rw [hr] at hvs hlinked <;>
    exact ⟨vs, hvs, hlinked⟩

theorem ensure {a : Act (Progress σ) α} {b : Act (Progress σ) Unit} (ha : s.Links a)
    (hb : s.Links b) : s.Links (Act.ensure a b) := by
  intro c
  obtain ⟨vs, hvs, hlinked⟩ := ha c
  obtain ⟨us, hus, hlinked'⟩ := hb (Act.run a c).2
  refine ⟨vs ++ us, ?_, ?_⟩ <;> rw [Act.run_ensure]
  · rw [hvs, List.append_assoc] at hus
    rcases hr : Act.run b (Act.run a c).2 with ⟨e | u, d⟩ <;> rw [hr] at hus <;> exact hus
  · have := hlinked.append hlinked'
    rcases hr : Act.run b (Act.run a c).2 with ⟨e | u, d⟩ <;> rw [hr] at this <;> exact this

theorem ite {p : Prop} [Decidable p] {a b : Act (Progress σ) α} (ha : s.Links a)
    (hb : s.Links b) : s.Links (if p then a else b) := by
  by_cases h : p
  · rwa [if_pos h]
  · rwa [if_neg h]

/-- A call is one visit, if the plugin does at it what it does at the visit. -/
theorem call {k : Call} {a : Act σ α}
    (h : ∀ t, (Act.run a t).2.world = (Act.run (s.act k) t).2.world) :
    s.Links (Submitter.call k a) := fun c =>
  ⟨[c.visit k], rfl, .cons rfl (by rw [run_call_eq]; exact h _ ▸ .nil _)⟩

theorem call_silent {k : Call} {a : Act σ Unit} (h : s.act k = silent a) :
    s.Links (Submitter.call k a) := call fun t => by
  rw [h]
  unfold silent
  rw [Act.run_map]
  rcases Act.run a t with ⟨_ | _, t'⟩ <;> rfl

theorem tolerate {k : Call} {a : Act σ Unit} (h : s.act k = silent a)
    (note : Failure → Outcome → Outcome) (line : Failure → String) :
    s.Links (Submitter.tolerate k a note line) := by
  refine (call_silent h).attempt.bind fun r => ?_
  cases r with
  | ok u => exact pure ()
  | error f => exact (record _).bind fun _ => log _ _

end Links

/-! ### The functions of the submitter -/

theorem links_configureState : s.Links s.configureState := by
  refine (Links.call_silent rfl).attempt.bind fun r => ?_
  cases r with
  | ok u => exact .pure ()
  | error f => exact .fail _

/-- To wait for the answer of a running check is to ask, but for the log. -/
theorem world_runningState (m : StateManager σ) (name : String) (timeout : Value) (t : Scene σ) :
    (Act.run (m.runningState name timeout) t).2.world =
      (Act.run (m.askRunning name timeout) t).2.world := by
  unfold StateManager.runningState
  rw [Act.run_bind, Act.run_attempt]
  rcases Act.run (m.askRunning name timeout) t with ⟨(f | i) | x, t'⟩
  · rfl
  · rfl
  · cases x <;> rfl

theorem links_validate : s.Links s.validate := by
  refine (Links.call fun t => world_runningState _ _ _ t).bind fun r => ?_
  cases r with
  | notRunning => exact .pure ()
  | running => exact .fail _
  | timedOut => exact .fail _

theorem links_demand {a : Act (Progress σ) Value} (h : s.Links a) (kind : ErrorClass)
    (failed : String) : s.Links (demand kind failed a) := by
  refine h.attempt.bind fun r => ?_
  cases r with
  | error f => exact .fail _
  | ok v => exact .ite (.pure v) (.fail _)

theorem links_upload : s.Links s.upload :=
  links_demand ((Links.call_silent rfl).bind fun _ => .call fun _ => rfl) _ _

theorem links_launch (uri : Value) : s.Links (s.launch uri) :=
  (links_demand ((Links.call_silent rfl).bind fun _ => (Links.quiet fun _ => ⟨rfl, rfl⟩).bind
    fun _ => .call fun _ => rfl) _ _).bind fun _ => .pure ()

/-- An error that is recorded if it is of some class, and else goes on. -/
theorem links_recover (kind : ErrorClass) (f : Failure) :
    s.Links (match f.submissionError? with
      | some e => if e.kind.isA kind then s.recordFailure e else Act.fail f
      | none => Act.fail f) := by
  cases f.submissionError? with
  | none => exact .fail f
  | some e => exact .ite (.recordFailure e) (.fail f)

theorem links_commit : s.Links s.commit := by
  refine Links.bind (Links.attempt ?_) fun r => ?_
  · refine links_upload.bind fun uri => (Links.record _).bind fun _ => ?_
    exact (Links.enter _).bind fun _ => links_launch uri
  · cases r with
    | ok u => exact (Links.record _).bind fun _ => .enter _
    | error f => exact links_recover _ f

theorem links_rollbackUnlessCommitted : s.Links s.rollbackUnlessCommitted := by
  refine .world fun p => .ite (.pure ()) ((Links.record _).bind fun _ => ?_)
  refine (Links.enter _).bind fun _ => (Links.log _ _).bind fun _ => ?_
  exact (Links.tolerate rfl _ _).bind fun _ => .tolerate rfl _ _

theorem links_guardedStages : s.Links s.guardedStages := by
  refine Links.bind (Links.attempt ?_) fun r => ?_
  · refine links_configureState.bind fun _ => (Links.enter _).bind fun _ => ?_
    refine links_validate.bind fun _ => (Links.log _ _).bind fun _ => ?_
    exact (Links.enter _).bind fun _ => links_commit.ensure links_rollbackUnlessCommitted
  · cases r with
    | ok u => exact .pure ()
    | error f => exact links_recover _ f

theorem links_finish : s.Links s.finish := by
  refine Links.bind ?_ fun _ => .enter _
  refine (Links.tolerate rfl _ _).bind fun _ => Links.bind ?_ fun _ => .tolerate rfl _ _
  refine .world fun p => .ite ?_ (.pure ())
  exact (Links.tolerate rfl _ _).bind fun _ => .tolerate rfl _ _

/-- The visits of an attempt lead from the world in which it begins to the one that it leaves. -/
theorem linked_submit (w : σ) (log : List Record) :
    s.Linked w (Act.run s.submit ⟨s.begin w, log⟩).2.world.visits
      (Act.run s.submit ⟨s.begin w, log⟩).2.world.world := by
  have hreport : ∀ o, s.Links (s.report o) := fun o => .ite (.log _ _) (.log _ _)
  have hrest : s.Links (do
      Act.ensure s.guardedStages s.finish
      let o := (← Act.world).outcome
      s.report o
      return o) :=
    (links_guardedStages.ensure links_finish).bind fun _ => .world fun p =>
      (hreport _).bind fun _ => .pure _
  obtain ⟨vs, hvs, hlinked⟩ := hrest ⟨s.standing [] w, log⟩
  unfold submit
  rw [Act.run_bind_ok (run_start w log), hvs]
  exact hlinked

end Submitter

end TopologySubmission
