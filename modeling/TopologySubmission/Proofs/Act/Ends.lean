import TopologySubmission.Act.Basic

/-!
# How acts end

`Ends a w done failed` says that the act `a`, begun in the world `w`, ends with a result and a world
of which `done` holds, or in a failure and a world of which `failed` holds. No interrupt comes out of
it, and the log does not matter. For each way to build an act there is a rule that takes what is to
hold after the act back to the acts that it is built of, so a proof about an act follows its text:

    Ends.bind      one act after another
    Ends.attempt   a failure as a value
    Ends.within    an act on a part of the world
-/

namespace TopologySubmission.Act

/-! ## Algorithm -/

/-- How an act that is begun in a world ends. -/
def Ends {σ α : Type} (a : Act σ α) (w : σ) (done : α → σ → Prop) (failed : σ → Prop) : Prop :=
  ∀ log, match run a ⟨w, log⟩ with
    | (.ok x, d) => done x d.world
    | (.error (.failure _), d) => failed d.world
    | (.error (.interrupt _), _) => False

/-! ## Lemmas -/

variable {σ τ α β : Type} {a : Act σ α} {w : σ} {done done' : α → σ → Prop}
  {failed failed' : σ → Prop}

namespace Ends

theorem of_run (h : Ends a w done failed) (log : List Record) :
    (∃ x d, run a ⟨w, log⟩ = (.ok x, d) ∧ done x d.world) ∨
      ∃ f d, run a ⟨w, log⟩ = (.error (.failure f), d) ∧ failed d.world := by
  have := h log
  rcases hr : run a ⟨w, log⟩ with ⟨(f | i) | x, d⟩ <;> rw [hr] at this
  · exact .inr ⟨f, d, rfl, this⟩
  · exact this.elim
  · exact .inl ⟨x, d, rfl, this⟩

/-- What holds of the world in both ways of ending. -/
theorem world {P : σ → Prop} (h : Ends a w (fun _ v => P v) P) (log : List Record) :
    P (run a ⟨w, log⟩).2.world := by
  rcases h.of_run log with ⟨x, d, hr, hd⟩ | ⟨f, d, hr, hd⟩ <;> rw [hr] <;> exact hd

theorem mono (h : Ends a w done failed) (hdone : ∀ x v, done x v → done' x v)
    (hfailed : ∀ v, failed v → failed' v) : Ends a w done' failed' := by
  intro log
  rcases h.of_run log with ⟨x, d, hr, hd⟩ | ⟨f, d, hr, hd⟩ <;> rw [hr]
  · exact hdone x _ hd
  · exact hfailed _ hd

theorem and (h : Ends a w done failed) (h' : Ends a w done' failed') :
    Ends a w (fun x v => done x v ∧ done' x v) fun v => failed v ∧ failed' v := by
  intro log
  have h' := h' log
  rcases h.of_run log with ⟨x, d, hr, hd⟩ | ⟨f, d, hr, hd⟩ <;> rw [hr] at h' ⊢ <;>
    exact ⟨hd, h'⟩

theorem pure {x : α} (h : done x w) : Ends (Pure.pure x) w done failed := fun _ => h

theorem fail {f : Failure} (h : failed w) : Ends (Act.fail f) w done failed := fun _ => h

theorem ofExcept {r : Except Failure α} (hok : ∀ x, r = .ok x → done x w) (herror : failed w) :
    Ends (Act.ofExcept r) w done failed := by
  cases r with
  | ok x => exact pure (hok x rfl)
  | error f => exact fail herror

theorem log {done : Unit → σ → Prop} {l : Level} {t : String} (h : done () w) :
    Ends (Act.log l t) w done failed := fun _ => h

theorem getWorld {done : σ → σ → Prop} (h : done w w) : Ends Act.world w done failed := fun _ => h

theorem change {done : Unit → σ → Prop} {f : σ → σ} (h : done () (f w)) :
    Ends (Act.change f) w done failed := fun _ => h

/-- Two acts in a row. -/
theorem bind {done : β → σ → Prop} {f : α → Act σ β}
    (h : Ends a w (fun x v => Ends (f x) v done failed) failed) :
    Ends (a >>= f) w done failed := by
  intro log
  rw [run_bind]
  rcases h.of_run log with ⟨x, d, hr, hd⟩ | ⟨f, d, hr, hd⟩ <;> rw [hr]
  · exact hd d.log
  · exact hd

theorem map {done : β → σ → Prop} {f : α → β} (h : Ends a w (fun x v => done (f x) v) failed) :
    Ends (f <$> a) w done failed := by
  rw [map_eq_pure_bind]
  exact bind (h.mono (fun _ _ => pure) fun _ => id)

/-- A failure becomes a value. -/
theorem attempt {done : Except Failure α → σ → Prop}
    (h : Ends a w (fun x v => done (.ok x) v) fun v => ∀ f, done (.error f) v) :
    Ends (Act.attempt a) w done failed := by
  intro log
  rw [run_attempt]
  rcases h.of_run log with ⟨x, d, hr, hd⟩ | ⟨f, d, hr, hd⟩ <;> rw [hr]
  · exact hd
  · exact hd f

theorem within {p : Part τ σ} {w : τ} {done : α → τ → Prop} {failed : τ → Prop}
    (h : Ends a (p.get w) (fun x v => done x (p.set w v)) fun v => failed (p.set w v)) :
    Ends (Act.within p a) w done failed := by
  intro log
  rw [run_within]
  rcases h.of_run log with ⟨x, d, hr, hd⟩ | ⟨f, d, hr, hd⟩ <;> rw [hr] <;> exact hd

theorem ite {p : Prop} [Decidable p] {b : Act σ α} (hp : p → Ends a w done failed)
    (hn : ¬ p → Ends b w done failed) : Ends (if p then a else b) w done failed := by
  by_cases h : p
  · rw [if_pos h]
    exact hp h
  · rw [if_neg h]
    exact hn h

end Ends

end TopologySubmission.Act
