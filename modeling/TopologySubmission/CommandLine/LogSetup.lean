import TopologySubmission.Act.Basic

/-!
# What is logged

The log of a submission has a level, below which records are dropped. It is more detailed when the
submission is verbose.

    a verbose log drops nothing       (passes_verbose)
-/

namespace TopologySubmission

/-! ## Algorithm -/

/-- The rank of a level; a graver level has a higher one. -/
def Level.rank : Level → Nat
  | .debug => 10
  | .info => 20
  | .warning => 30
  | .error => 40

/-- How records are logged. -/
structure LogSetup where
  name : String := "heron_submit"
  level : Level := .info
  /-- Records go to the logs above this one, too. -/
  propagates : Bool := false
  /-- The place in the program is shown with each record. -/
  showsPlace : Bool := false
  /-- The time is shown with each record. -/
  showsTime : Bool := false
  deriving DecidableEq, Repr

namespace LogSetup

/-- The setup of a submission. -/
def ofVerbose (verbose : Bool) : LogSetup :=
  { level := if verbose then .debug else .info, showsPlace := verbose }

/-- The record is logged. -/
def passes (s : LogSetup) (r : Record) : Bool := s.level.rank ≤ r.level.rank

/-- Runs an act of which only some records are logged. -/
def apply {σ α : Type} (s : LogSetup) (a : Act σ α) : Act σ α := fun c =>
  match a.run ⟨c.world, []⟩ with
  | (r, d) => (r, ⟨d.world, c.log ++ d.log.filter s.passes⟩)

/-! ## Lemmas -/

/-- A verbose log drops nothing. -/
theorem passes_verbose (r : Record) : (ofVerbose true).passes r = true := by
  obtain ⟨level, text⟩ := r
  cases level <;> rfl

end LogSetup

end TopologySubmission
