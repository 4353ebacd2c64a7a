import TopologySubmission.Proofs.Act.Ends

/-!
# What an act preserves

`Preserves P a` says that `P` holds of the world after the act `a` if it held before, however the act
ends: an interrupt counts as well, so this says less than `Ends` but of more acts. An act on a part of
the world preserves what does not look at that part:

    Preserves.bind      one act after another
    Preserves.within    an act on a part of the world
    Preserves.apart     an act on a part of which P does not speak
-/

namespace TopologySubmission.Act

/-! ## Algorithm -/

/-- The act leaves the property true of the world. -/
def Preserves {σ α : Type} (P : σ → Prop) (a : Act σ α) : Prop :=
  ∀ c : Scene σ, P c.world → P (run a c).2.world

/-! ## Lemmas -/

variable {σ τ α β : Type} {P : σ → Prop} {Q : τ → Prop} {a b : Act σ α} {p : Part τ σ}

theorem Ends.preserves (h : ∀ w, P w → Ends a w (fun _ v => P v) P) : Preserves P a := fun c hc =>
  (h c.world hc).world c.log

namespace Preserves

theorem pure (x : α) : Preserves P (Pure.pure x) := fun _ h => h

theorem fail (f : Failure) : Preserves P (Act.fail f : Act σ α) := fun _ h => h

theorem stop (e : Stop) : Preserves P (Act.stop e : Act σ α) := fun _ h => h

theorem log (l : Level) (t : String) : Preserves P (Act.log l t) := fun _ h => h

theorem ofExcept (r : Except Failure α) : Preserves P (Act.ofExcept r) := by
  cases r with
  | ok x => exact pure x
  | error f => exact fail f

theorem setWorld {w : σ} (h : P w) : Preserves P (Act.setWorld w) := fun _ _ => h

theorem bind {f : α → Act σ β} (ha : Preserves P a) (hf : ∀ x, Preserves P (f x)) :
    Preserves P (a >>= f) := by
  intro c hc
  have hd := ha c hc
  rw [run_bind]
  rcases hr : run a c with ⟨e | x, d⟩ <;> rw [hr] at hd
  · exact hd
  · exact hf x d hd

theorem map (f : α → β) (ha : Preserves P a) : Preserves P (f <$> a) := by
  rw [map_eq_pure_bind]
  exact ha.bind fun x => pure (f x)

theorem attempt (ha : Preserves P a) : Preserves P (Act.attempt a) := by
  intro c hc
  have hd := ha c hc
  rw [run_attempt]
  rcases hr : run a c with ⟨(f | i) | x, d⟩ <;> rw [hr] at hd <;> exact hd

theorem ite {q : Prop} [Decidable q] (ha : Preserves P a) (hb : Preserves P b) :
    Preserves P (if q then a else b) := by
  by_cases h : q
  · rwa [if_pos h]
  · rwa [if_neg h]

theorem within (hget : ∀ w, Q w → P (p.get w)) (hset : ∀ w v, Q w → P v → Q (p.set w v))
    (ha : Preserves P a) : Preserves Q (Act.within p a) := fun c hc =>
  hset c.world _ hc (ha ⟨p.get c.world, c.log⟩ (hget c.world hc))

/-- The property does not speak of the part. -/
theorem apart (hset : ∀ w v, Q w → Q (p.set w v)) : Preserves Q (Act.within p a) := fun c hc =>
  hset c.world _ hc

/-- An act that looks at a part first. -/
theorem look {f : σ → Act τ β} (hset : ∀ w, p.set w (p.get w) = w)
    (hf : ∀ w, Q w → Preserves Q (f (p.get w))) : Preserves Q (Act.within p Act.world >>= f) := by
  intro c hc
  refine hf c.world hc ⟨p.set c.world (p.get c.world), c.log⟩ ?_
  rw [hset]
  exact hc

end Preserves

end TopologySubmission.Act
