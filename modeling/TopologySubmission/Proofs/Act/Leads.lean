import TopologySubmission.Proofs.Act.Ends

/-!
# What an act leads to

`Leads a w r v` says exactly what the act `a` does in the world `w`: it ends with `r`, which is a result
or the reason to stop, and in the world `v`. Only the log is left open, since no act looks at it. The
rules take the ends of the parts to the end of the whole:

    Leads.bind      one act after another
    Leads.attempt   a failure as a value
    Leads.within    an act on a part of the world
-/

namespace TopologySubmission.Act

/-! ## Algorithm -/

/-- The act ends in this way and in this world. -/
def Leads {σ α : Type} (a : Act σ α) (w : σ) (r : Except Stop α) (v : σ) : Prop :=
  ∀ log, ∃ log', run a ⟨w, log⟩ = (r, ⟨v, log'⟩)

/-! ## Lemmas -/

namespace Leads

variable {σ τ α β : Type} {a : Act σ α} {w u v : σ} {x : α}

theorem pure (x : α) (w : σ) : Leads (Pure.pure x) w (.ok x) w := fun log => ⟨log, rfl⟩

theorem fail (f : Failure) (w : σ) : Leads (Act.fail f : Act σ α) w (.error (.failure f)) w :=
  fun log => ⟨log, rfl⟩

theorem ofExcept (r : Except Failure α) (w : σ) :
    Leads (Act.ofExcept r) w (r.mapError .failure) w := by
  cases r with
  | ok x => exact pure x w
  | error f => exact fail f w

theorem log (l : Level) (t : String) (w : σ) : Leads (Act.log l t) w (.ok ()) w :=
  fun log => ⟨log ++ [⟨l, t⟩], rfl⟩

theorem getWorld (w : σ) : Leads Act.world w (.ok w) w := fun log => ⟨log, rfl⟩

theorem change (f : σ → σ) (w : σ) : Leads (Act.change f) w (.ok ()) (f w) :=
  fun log => ⟨log, rfl⟩

/-- Two acts in a row, the first of which gives a result. -/
theorem bind {f : α → Act σ β} {r : Except Stop β} (ha : Leads a w (.ok x) u)
    (hf : Leads (f x) u r v) : Leads (a >>= f) w r v := by
  intro log
  obtain ⟨log₁, h₁⟩ := ha log
  obtain ⟨log₂, h₂⟩ := hf log₁
  exact ⟨log₂, (run_bind_ok h₁ f).trans h₂⟩

/-- Two acts in a row, of which the second one leads to a world that is not known. -/
theorem exists_bind {f : α → Act σ β} {r : Except Stop β} {P : σ → Prop} (ha : Leads a w (.ok x) u)
    (hf : ∃ v, Leads (f x) u r v ∧ P v) : ∃ v, Leads (a >>= f) w r v ∧ P v := by
  obtain ⟨v, hv, hP⟩ := hf
  exact ⟨v, ha.bind hv, hP⟩

/-- What stops the first act stops both. -/
theorem bind_error {e : Stop} (ha : Leads a w (.error e) u) (f : α → Act σ β) :
    Leads (a >>= f) w (.error e) u := by
  intro log
  obtain ⟨log₁, h₁⟩ := ha log
  exact ⟨log₁, run_bind_error h₁ f⟩

theorem map (f : α → β) (ha : Leads a w (.ok x) u) : Leads (f <$> a) w (.ok (f x)) u := by
  rw [map_eq_pure_bind]
  exact bind ha (pure (f x) u)

theorem attempt (ha : Leads a w (.ok x) u) : Leads (Act.attempt a) w (.ok (.ok x)) u := by
  intro log
  obtain ⟨log₁, h₁⟩ := ha log
  exact ⟨log₁, run_attempt_ok h₁⟩

theorem attempt_failure {f : Failure} (ha : Leads a w (.error (.failure f)) u) :
    Leads (Act.attempt a) w (.ok (.error f)) u := by
  intro log
  obtain ⟨log₁, h₁⟩ := ha log
  exact ⟨log₁, run_attempt_failure h₁⟩

theorem within (p : Part τ σ) {w : τ} {r : Except Stop α} (ha : Leads a (p.get w) r v) :
    Leads (Act.within p a) w r (p.set w v) := by
  intro log
  obtain ⟨log₁, h₁⟩ := ha log
  refine ⟨log₁, ?_⟩
  rw [run_within, h₁]

/-- What an act leads to is how it ends. -/
theorem ends {done : α → σ → Prop} {failed : σ → Prop} (h : Leads a w (.ok x) u) (hdone : done x u) :
    Ends a w done failed := by
  intro log
  obtain ⟨log', h'⟩ := h log
  rw [h']
  exact hdone

theorem result {r : Except Stop α} (h : Leads a w r v) (log : List Record) :
    (run a ⟨w, log⟩).1 = r := by
  obtain ⟨log', h'⟩ := h log
  rw [h']

theorem world {r : Except Stop α} (h : Leads a w r v) (log : List Record) :
    (run a ⟨w, log⟩).2.world = v := by
  obtain ⟨log', h'⟩ := h log
  rw [h']

end Leads

end TopologySubmission.Act
