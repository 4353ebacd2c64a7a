import TopologySubmission.Proofs.Act.Leads

/-!
# Acts that only read

An act that reads leaves the world as it is and ends, with a result or with one of some failures. Its
failures are `Confined` to a class if each one is an error of that class or comes from below: what comes
from below is known exactly, ends the act and is no error of a submission.

    Reads.bind     one reading act after another
    Reads.step     the first of two acts is known to give a result
-/

namespace TopologySubmission.Act

variable {σ α β : Type}

/-! ## Algorithm -/

/-- The act leaves the world as it is and ends with a result or with one of these failures. -/
def Reads (failures : Failure → Prop) (a : Act σ α) (w : σ) : Prop :=
  ∃ r : Except Failure α, Leads a w (r.mapError .failure) w ∧ ∀ f, r = .error f → failures f

/-- The act only reads. It fails with errors of one class, and apart from them exactly with the failures
that it lets through. -/
structure Confined (own : ErrorClass) (through : Failure → Prop) (a : Act σ α) (w : σ) : Prop where
  reads : Reads (fun f => f.kind = .submission own ∨ through f) a w
  passes : ∀ f, through f → f.submissionError? = none ∧ Leads a w (.error (.failure f)) w

/-! ## Lemmas -/

variable {a : Act σ α} {P Q : Failure → Prop} {w : σ}

namespace Reads

theorem of_leads {x : α} (h : Leads a w (.ok x) w) : Reads P a w := ⟨.ok x, h, nofun⟩

theorem of_failure {f : Failure} (h : Leads a w (.error (.failure f)) w) (hf : P f) : Reads P a w :=
  ⟨.error f, h, fun g hg => by cases hg; exact hf⟩

theorem fail {f : Failure} (hf : P f) : Reads P (Act.fail f : Act σ α) w := of_failure (.fail f w) hf

theorem ofExcept {r : Except Failure α} (h : ∀ f, r = .error f → P f) :
    Reads P (Act.ofExcept r : Act σ α) w := ⟨r, .ofExcept r w, h⟩

theorem mono (h : Reads P a w) (hPQ : ∀ f, P f → Q f) : Reads Q a w := by
  obtain ⟨r, hr, hf⟩ := h
  exact ⟨r, hr, fun f he => hPQ f (hf f he)⟩

theorem bind {f : α → Act σ β} (ha : Reads P a w)
    (hf : ∀ x, Leads a w (.ok x) w → Reads P (f x) w) : Reads P (a >>= f) w := by
  obtain ⟨r, hr, hfail⟩ := ha
  cases r with
  | error e => exact of_failure (Leads.bind_error hr f) (hfail e rfl)
  | ok x =>
    obtain ⟨r', hr', hfail'⟩ := hf x hr
    exact ⟨r', Leads.bind hr hr', hfail'⟩

theorem step {f : α → Act σ β} {x : α} (ha : Leads a w (.ok x) w) (hf : Reads P (f x) w) :
    Reads P (a >>= f) w := by
  obtain ⟨r, hr, hfail⟩ := hf
  exact ⟨r, Leads.bind ha hr, hfail⟩

end Reads

end TopologySubmission.Act
