import TopologySubmission.Proofs.Settings.Pass

/-!
# Settings without placeholders

A value is resolved if no placeholder is written in it; only a text can hold one. A pass leaves resolved
values as they are, whatever the names mean, so settings of resolved values are where every expansion
ends. What expanding gives are such settings, and it changes no value that was resolved before:

    a pass over resolved values changes nothing                      (pass_of_resolved)
    expanding resolves each value, and a second time changes nothing    (expand_settles)
-/

namespace TopologySubmission.Settings

/-! ## Algorithm -/

/-- No placeholder is written in the value. A value that is no text is resolved. -/
def IsResolved (v : Value) : Prop :=
  ∀ s, v = .text s → ∀ name front back, Template.IsReferenceName name →
    s.toList ≠ front ++ Template.Piece.written (.reference name) ++ back

/-- What expanding makes of a value. -/
structure Settles (v w : Value) : Prop where
  text : ∀ s, v = .text s → ∃ t, w = .text t
  resolved : IsResolved w
  /-- What holds no placeholder is as it was, and so is every value that is no text. -/
  same : IsResolved v → w = v

/-- A function of values that changes texts into texts, and no value that is resolved. -/
structure KeepsResolved (g : Value → Value) : Prop where
  text : ∀ s, ∃ t, g (.text s) = .text t
  same : ∀ v, IsResolved v → g v = v

/-! ## Lemmas -/

variable {values es : Entries} {env : Environment} {v : Value} {g : Value → Value}

theorem namesIn_eq_nil_iff : namesIn v = [] ↔ IsResolved v := by
  cases v with
  | text s =>
    have hnames : namesIn (.text s) = Template.names s := rfl
    rw [hnames, List.eq_nil_iff_forall_not_mem]
    constructor
    · rintro h _ ⟨rfl⟩ name front back hname hs
      refine h (String.ofList name) (Template.mem_names_iff.mpr ?_)
      rw [String.toList_ofList]
      exact ⟨hname, front, back, hs⟩
    · intro h name hmem
      obtain ⟨hname, front, back, hs⟩ := Template.mem_names_iff.mp hmem
      exact h s rfl name.toList front back hname hs
  | _ => exact iff_of_true rfl fun _ hs => by cases hs

/-- What the last check looks for are values that are not resolved. -/
theorem isUnresolved_eq_false_iff : isUnresolved v = false ↔ IsResolved v := by
  rw [← namesIn_eq_nil_iff]
  cases v with
  | text s =>
    show Template.hasPlaceholder s = false ↔ Template.names s = []
    rw [Template.hasPlaceholder, Bool.not_eq_false', List.isEmpty_iff]
  | _ => exact iff_of_true rfl rfl

/-- A text without placeholders consists of characters that stand for themselves. -/
theorem flatMap_said {ps : List Template.Piece} (h : ps.filterMap Template.Piece.name? = []) :
    ps.flatMap (said values env) = Template.assemble ps := by
  unfold Template.assemble
  refine List.flatMap_congr fun p hp => ?_
  cases p with
  | literal c => rfl
  | reference name => exact nomatch List.filterMap_eq_nil_iff.mp h _ hp

theorem replaced_of_resolved (h : IsResolved v) : replaced values env v = v := by
  cases v with
  | text s =>
    have hnames : Template.names s = [] := namesIn_eq_nil_iff.mpr h
    simp only [replaced, flatMap_said (List.map_eq_nil_iff.mp hnames), Template.assemble_pieces,
      String.ofList_toList]
  | _ => rfl

/-! ### Passes over resolved values -/

theorem pass_of_resolved (h : ∀ e ∈ es, IsResolved e.2) : pass values env es = .ok es := by
  have hnone : ∀ e ∈ es, ∀ name, name ∉ namesIn e.2 := fun e he =>
    List.eq_nil_iff_forall_not_mem.mp (namesIn_eq_nil_iff.mpr (h e he))
  have hresolve : AllResolve values env es := fun e he name hn => absurd hn (hnone e he name)
  have hwritten : AllWritten values env es := fun e he name hn => absurd hn (hnone e he name)
  rw [pass_of_resolves hresolve hwritten,
    Entries.mapValues_eq_self fun e he => replaced_of_resolved (h e he)]

theorem sameTexts_self (es : Entries) : sameTexts es es = true := by
  induction es with
  | nil => rfl
  | cons e es ih =>
    obtain ⟨k, v⟩ := e
    cases v <;> simp [sameTexts, ih]

/-- The first pass changes nothing, so it is the last one. -/
theorem passes_of_resolved (h : ∀ e ∈ es, IsResolved e.2) (n : Nat) : passes env n es = .ok es := by
  cases n with
  | zero => rfl
  | succ n =>
    simp only [passes, pass_of_resolved h, bind, Except.bind, sameTexts_self]
    rfl

theorem expand_of_resolved {s : Settings} (h : ∀ e ∈ s.entries, IsResolved e.2) (env : Environment)
    (bound : Int) : s.expand env bound = .ok s := by
  have hnone : unresolvedKeys s.entries = [] := by
    rw [unresolvedKeys, List.map_eq_nil_iff, List.filter_eq_nil_iff]
    intro e he
    rw [isUnresolved_eq_false_iff.mpr (h e he)]
    exact Bool.false_ne_true
  have hcheck : checkResolved bound s.entries = .ok () := by
    unfold checkResolved
    rw [hnone]
    rfl
  unfold expand
  rw [passes_of_resolved h]
  exact bind_eq_ok_iff.mpr ⟨s.entries, rfl, bind_eq_ok_iff.mpr ⟨(), hcheck, rfl⟩⟩

/-! ### What passes keep -/

theorem KeepsResolved.replaced (hg : KeepsResolved g) :
    KeepsResolved (Settings.replaced (values.mapValues g) env ∘ g) where
  text s := by
    obtain ⟨t, ht⟩ := hg.text s
    rw [Function.comp_apply, ht]
    exact ⟨_, rfl⟩
  same v hv := by
    rw [Function.comp_apply, hg.same v hv]
    exact replaced_of_resolved hv

/-- Expanding keeps the keys in their order and leaves no placeholder. It changes texts with placeholders
only, and they become texts. What it gives is not changed by expanding it again, with whatever variables
and in whatever number of passes. -/
theorem expand_settles {s r : Settings} {env : Environment} {bound : Int}
    (h : s.expand env bound = .ok r) :
    List.Forall₂ (fun e f => f.1 = e.1 ∧ Settles e.2 f.2) s.entries r.entries ∧
      ∀ (env' : Environment) (bound' : Int), r.expand env' bound' = .ok r := by
  have hresolved : ∀ e ∈ r.entries, IsResolved e.2 := fun e he =>
    isUnresolved_eq_false_iff.mp (no_placeholder_of_expand h e he)
  refine ⟨?_, fun env' bound' => expand_of_resolved hresolved env' bound'⟩
  have hstart : KeepsResolved id := ⟨fun s => ⟨s, rfl⟩, fun _ _ => rfl⟩
  have hstep (g : Value → Value) (hg : KeepsResolved g)
      (_ : AllResolve (s.entries.mapValues g) env (s.entries.mapValues g)) :
      KeepsResolved (replaced (s.entries.mapValues g) env ∘ g) := hg.replaced
  have hpasses := passes_cases hstep bound.toNat id hstart
  rw [Entries.mapValues_eq_self fun _ _ => rfl, (expand_eq_ok h).1] at hpasses
  rcases hpasses with ⟨f, hf⟩ | ⟨g, hg, hm⟩
  · cases hf
  · replace hm : r.entries = s.entries.mapValues g := Except.ok.inj hm
    rw [hm] at hresolved ⊢
    refine List.forall₂_map_right_iff.mpr (List.forall₂_same.mpr fun e he => ⟨rfl, ?_, ?_, ?_⟩)
    · rintro t ht
      rw [ht]
      exact hg.text t
    · exact hresolved _ (List.mem_map_of_mem he)
    · exact hg.same e.2

/-- Expanding twice, where the second time a variable has another value and there is no pass. -/
theorem expand_settles_twice :
    let s : Settings := ⟨[(.text "a", .text "${b}/$x"), (.text "b", .text "${HOME}"),
      (.text "n", .list [.text "${c}"])]⟩
    ∃ r, s.expand (Environment.ofTexts [("HOME", "/h")]) 2 = .ok r ∧
      r.entries.map (·.2.plain) = ["/h/$x", "/h", "['${c}']"] ∧
      List.Forall₂ (fun e f => f.1 = e.1 ∧ Settles e.2 f.2) s.entries r.entries ∧
      r.expand (Environment.ofTexts [("HOME", "/g")]) 0 = .ok r := by
  intro s
  have hplain : (s.expand (Environment.ofTexts [("HOME", "/h")]) 2).toOption.map
      (·.entries.map (·.2.plain)) = some ["/h/$x", "/h", "['${c}']"] := by
    decide +kernel
  cases h : s.expand (Environment.ofTexts [("HOME", "/h")]) 2 with
  | error f =>
    rw [h] at hplain
    cases hplain
  | ok r =>
    rw [h] at hplain
    obtain ⟨hentries, hagain⟩ := expand_settles h
    exact ⟨r, rfl, Option.some.inj hplain, hentries, hagain _ _⟩

end TopologySubmission.Settings
