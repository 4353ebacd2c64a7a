import Mathlib.Algebra.Group.Nat.Defs
import Mathlib.Data.List.Basic
import TopologySubmission.Proofs.Settings.Pass

/-!
# Passes unfold references

A text of tame settings is unfolded if whole texts stand in the place of its placeholders, again and
again. Without stray dollar signs the texts of different keys never run into each other, so a text
that is unfolded has the pieces that its pieces unfold to, one by one. A pass puts the texts of the
pass before into themselves, so what the passes have unfolded doubles with each of them:

    a pass takes values unfolded n times to values unfolded 2 * n + 1 times   (pass_deepened)
    after n passes each text is unfolded 2 ^ n - 1 times                       (passes_eq)
-/

namespace TopologySubmission.Settings

open Template (Piece)

/-! ## Algorithm -/

/-- No text has a dollar sign outside its placeholders, each of them stands for a value, and where
this is a variable or no text, its text has no dollar sign at all. -/
structure Tame (values : Entries) (env : Environment) : Prop where
  texts : ∀ e ∈ values, ∀ t, e.2 = .text t → .literal '$' ∉ Template.pieces t.toList
  resolve : AllResolve values env values
  targets : ∀ e ∈ values, ∀ name ∈ namesIn e.2, ∀ v, meaning? values env name = some v →
    (keyFor? values name = none ∨ ∀ t, v ≠ .text t) → ∀ s, v.asText = .ok s → '$' ∉ s.toList

/-- Tame settings where everything that a placeholder stands for has a text. -/
structure Unfoldable (values : Entries) (env : Environment) : Prop extends Tame values env where
  written : AllWritten values env values

/-- What stands for a piece, cut into pieces. -/
def unfoldPiece (values : Entries) (env : Environment) : Piece → List Piece
  | .literal c => [.literal c]
  | .reference name => Template.pieces (said values env (.reference name))

/-- Unfolds every placeholder, `n` times. -/
def deepen (values : Entries) (env : Environment) : Nat → List Piece → List Piece
  | 0, ps => ps
  | n + 1, ps => deepen values env n (ps.flatMap (unfoldPiece values env))

/-- The value with its placeholders unfolded `n` times. -/
def deepened (values : Entries) (env : Environment) (n : Nat) : Value → Value
  | .text t => .text (String.ofList
      (Template.assemble (deepen values env n (Template.pieces t.toList))))
  | v => v

/-- A piece that can stand in an unfolded text: no dollar sign, or a placeholder of the values. -/
def Known (values : Entries) : Piece → Prop
  | .literal c => c ≠ '$'
  | .reference name => ∃ e ∈ values, String.ofList name ∈ namesIn e.2

/-! ## Lemmas -/

variable {values es : Entries} {env : Environment} {g : Value → Value}

/-! ### Unfolding -/

theorem deepen_append (n : Nat) (ps qs : List Piece) :
    deepen values env n (ps ++ qs) = deepen values env n ps ++ deepen values env n qs := by
  induction n generalizing ps qs with
  | zero => rfl
  | succ n ih => simp only [deepen, List.flatMap_append, ih]

theorem deepen_add (m n : Nat) (ps : List Piece) :
    deepen values env (m + n) ps = deepen values env m (deepen values env n ps) := by
  induction n generalizing ps with
  | zero => rfl
  | succ n ih => exact ih _

theorem deepen_nil (n : Nat) : deepen values env n [] = [] := by
  induction n with
  | zero => rfl
  | succ n ih => exact ih

/-- Each piece unfolds by itself. -/
theorem deepen_eq_flatMap (n : Nat) (ps : List Piece) :
    deepen values env n ps = ps.flatMap fun p => deepen values env n [p] := by
  induction ps with
  | nil => exact deepen_nil n
  | cons p ps ih =>
    rw [List.flatMap_cons, ← ih, ← deepen_append]
    rfl

theorem deepen_literals (n : Nat) (cs : List Char) :
    deepen values env n (cs.map .literal) = cs.map .literal := by
  induction n with
  | zero => rfl
  | succ n ih =>
    have hcs : (cs.map Piece.literal).flatMap (unfoldPiece values env) = cs.map .literal := by
      rw [List.flatMap_map]
      exact (List.map_eq_flatMap ..).symm
    rw [deepen, hcs, ih]

theorem assemble_flatMap (ps : List Piece) (f : Piece → List Piece) :
    Template.assemble (ps.flatMap f) = ps.flatMap fun p => Template.assemble (f p) :=
  List.flatMap_assoc

theorem deepened_zero (v : Value) : deepened values env 0 v = v := by
  cases v with
  | text t => simp only [deepened, deepen, Template.assemble_pieces, String.ofList_toList]
  | _ => rfl

theorem deepened_of_not_text (n : Nat) {v : Value} (h : ∀ t, v ≠ .text t) :
    deepened values env n v = v := by
  cases v with
  | text t => exact absurd rfl (h t)
  | _ => rfl

/-! ### Pieces of tame values -/

/-- What a placeholder of tame values stands for: a text of the values, or a text without dollar
signs that is no text of theirs. -/
theorem Unfoldable.reference (ht : Unfoldable values env) {name : List Char}
    (hk : Known values (.reference name)) :
    (∃ k t, keyFor? values (String.ofList name) = some k ∧ values.getText? k = some (.text t)) ∨
    (∃ k v, keyFor? values (String.ofList name) = some k ∧ values.getText? k = some v ∧
      (∀ t, v ≠ .text t) ∧ '$' ∉ v.plain.toList) ∨
    (∃ v, keyFor? values (String.ofList name) = none ∧
      Entries.getText? env (String.ofList name) = some v ∧ '$' ∉ v.plain.toList) := by
  obtain ⟨e, he, hn⟩ := hk
  obtain ⟨v, hv, -⟩ := ht.resolve e he _ hn
  have hdollar := fun hother =>
    ht.targets e he _ hn v hv hother _ (Value.asText_of_writable (ht.written e he _ hn v hv))
  rw [meaning?_eq] at hv
  cases hkey : keyFor? values (String.ofList name) with
  | none =>
    rw [hkey] at hv
    exact .inr (.inr ⟨v, rfl, hv, hdollar (.inl hkey)⟩)
  | some k =>
    rw [hkey] at hv
    by_cases htext : ∃ t, v = .text t
    · obtain ⟨t, rfl⟩ := htext
      exact .inl ⟨k, t, rfl, hv⟩
    · have hother : ∀ t, v ≠ .text t := fun t h => htext ⟨t, h⟩
      exact .inr (.inl ⟨k, v, rfl, hv, hother, hdollar (.inr hother)⟩)

theorem known_of_text (ht : Unfoldable values env) {e : Value × Value} (he : e ∈ values) {t : String}
    (hv : e.2 = .text t) : ∀ p ∈ Template.pieces t.toList, Known values p := by
  intro p hp
  cases p with
  | literal c =>
    rintro rfl
    exact ht.texts e he t hv hp
  | reference name =>
    refine ⟨e, he, ?_⟩
    rw [hv]
    exact Template.mem_names_iff_mem_pieces.mpr (by rwa [String.toList_ofList])

theorem Known.sound {p : Piece} (h : Known values p) : p.Sound := by
  cases p with
  | literal c => exact h
  | reference name =>
    obtain ⟨e, -, hn⟩ := h
    generalize e.2 = v at hn
    cases v with
    | text t =>
      have hp := Template.mem_names_iff_mem_pieces.mp hn
      rw [String.toList_ofList] at hp
      exact Template.isReferenceName_of_mem_pieces hp
    | _ => cases hn

/-- What stands for a placeholder after the values change. -/
theorem said_mapValues_key {name : List Char} {k : String} {v : Value}
    (hk : keyFor? values (String.ofList name) = some k) (hv : values.getText? k = some v) :
    said (values.mapValues g) env (.reference name) = (g v).plain.toList := by
  simp only [said, meaning?_mapValues, hk, hv]
  rfl

theorem said_mapValues_variable {name : List Char} {v : Value}
    (hk : keyFor? values (String.ofList name) = none)
    (hv : Entries.getText? env (String.ofList name) = some v) :
    said (values.mapValues g) env (.reference name) = v.plain.toList := by
  simp only [said, meaning?_mapValues, hk, hv]
  rfl

theorem mapValues_id (values : Entries) : values.mapValues id = values :=
  Entries.mapValues_eq_self fun _ _ => rfl

/-- What a placeholder unfolds to: the pieces of a text of the values, or plain characters. -/
theorem Unfoldable.unfoldPiece (ht : Unfoldable values env) {name : List Char}
    (hk : Known values (.reference name)) :
    (∃ k t, keyFor? values (String.ofList name) = some k ∧ values.getText? k = some (.text t) ∧
      unfoldPiece values env (.reference name) = Template.pieces t.toList) ∨
    (∃ cs, '$' ∉ cs ∧ unfoldPiece values env (.reference name) = cs.map .literal ∧
      (∀ k, keyFor? values (String.ofList name) = some k →
        ∃ v, values.getText? k = some v ∧ ∀ t, v ≠ .text t) ∧
      ∀ g : Value → Value, (∀ v, (∀ t, v ≠ .text t) → g v = v) →
        said (values.mapValues g) env (.reference name) = cs) := by
  have hsaid : said values env = said (values.mapValues id) env := by rw [mapValues_id]
  simp only [Settings.unfoldPiece, hsaid]
  rcases ht.reference hk with ⟨k, t, hkey, hv⟩ | ⟨k, v, hkey, hv, hother, hd⟩ | ⟨v, hkey, hv, hd⟩
  · exact .inl ⟨k, t, hkey, hv, by rw [said_mapValues_key hkey hv]; rfl⟩
  · refine .inr ⟨v.plain.toList, hd, ?_, ?_, ?_⟩
    · rw [said_mapValues_key hkey hv]
      exact Template.pieces_of_no_dollar _ hd
    · intro k' hk'
      cases hkey.symm.trans hk'
      exact ⟨v, hv, hother⟩
    · intro g hg
      rw [said_mapValues_key hkey hv, hg v hother]
  · refine .inr ⟨v.plain.toList, hd, ?_, ?_, ?_⟩
    · rw [said_mapValues_variable hkey hv]
      exact Template.pieces_of_no_dollar _ hd
    · intro k' hk'
      cases hkey.symm.trans hk'
    · exact fun g _ => said_mapValues_variable hkey hv

/-- Unfolding brings no unknown pieces. -/
theorem known_unfoldPiece (ht : Unfoldable values env) {p : Piece} (hp : Known values p) :
    ∀ q ∈ unfoldPiece values env p, Known values q := by
  cases p with
  | literal c =>
    intro q hq
    rw [unfoldPiece, List.mem_singleton] at hq
    exact hq ▸ hp
  | reference name =>
    rcases ht.unfoldPiece hp with ⟨k, t, -, hv, hu⟩ | ⟨cs, hd, hu, -⟩
    · rw [hu]
      exact known_of_text ht (Entries.mem_of_getText? hv) rfl
    · rw [hu]
      intro q hq
      obtain ⟨c, hc, rfl⟩ := List.mem_map.mp hq
      rintro rfl
      exact hd hc

theorem known_deepen (ht : Unfoldable values env) (n : Nat) {ps : List Piece}
    (h : ∀ p ∈ ps, Known values p) : ∀ p ∈ deepen values env n ps, Known values p := by
  induction n generalizing ps with
  | zero => exact h
  | succ n ih =>
    refine ih fun q hq => ?_
    obtain ⟨p, hp, hq⟩ := List.mem_flatMap.mp hq
    exact known_unfoldPiece ht (h p hp) q hq

/-! ### A pass over unfolded values -/

/-- Where the text that a placeholder means is unfolded, the placeholder is unfolded once more. -/
theorem said_deepened (ht : Unfoldable values env) {p : Piece} (hp : Known values p) (n : Nat)
    (hother : ∀ v, (∀ t, v ≠ .text t) → g v = v)
    (htext : ∀ name k t, p = .reference name → keyFor? values (String.ofList name) = some k →
      values.getText? k = some (.text t) → g (.text t) = deepened values env n (.text t)) :
    said (values.mapValues g) env p =
      Template.assemble (deepen values env (n + 1) [p]) := by
  have hone : deepen values env (n + 1) [p] = deepen values env n (unfoldPiece values env p) := by
    rw [deepen, List.flatMap_singleton]
  rw [hone]
  cases p with
  | literal c =>
    show [c] = Template.assemble (deepen values env n ([c].map .literal))
    rw [deepen_literals]
    rfl
  | reference name =>
    rcases ht.unfoldPiece hp with ⟨k, t, hkey, hv, hu⟩ | ⟨cs, hd, hu, -, hsaid⟩
    · rw [hu, said_mapValues_key hkey hv, htext name k t rfl hkey hv]
      exact String.toList_ofList
    · rw [hu, deepen_literals, hsaid g hother, ← Template.pieces_of_no_dollar cs hd,
        Template.assemble_pieces]

/-- A pass over values that are unfolded `n` times unfolds them `n + 1` times more. -/
theorem replaced_deepened (ht : Unfoldable values env) (n : Nat) {e : Value × Value} (he : e ∈ values) :
    replaced (values.mapValues (deepened values env n)) env (deepened values env n e.2) =
      deepened values env (2 * n + 1) e.2 := by
  cases hv : e.2 with
  | text t =>
    have hknown := known_deepen ht n (known_of_text ht he hv)
    have hsaid : ∀ p ∈ deepen values env n (Template.pieces t.toList),
        said (values.mapValues (deepened values env n)) env p =
          Template.assemble (deepen values env (n + 1) [p]) := fun p hp =>
      said_deepened ht (hknown p hp) n (fun _ => deepened_of_not_text n) fun _ _ _ _ _ _ => rfl
    simp only [deepened, replaced, String.toList_ofList]
    rw [Template.pieces_assemble fun p hp => (hknown p hp).sound, List.flatMap_congr hsaid,
      ← assemble_flatMap, ← deepen_eq_flatMap, ← deepen_add,
      show n + 1 + n = 2 * n + 1 by omega]
  | _ => rfl

/-- Unfolded texts have no placeholders but those of the values. -/
theorem namesIn_deepened (ht : Unfoldable values env) (n : Nat) {e : Value × Value} {name : String}
    (he : e ∈ values.mapValues (deepened values env n)) (hn : name ∈ namesIn e.2) :
    ∃ e' ∈ values, name ∈ namesIn e'.2 := by
  obtain ⟨e, he', rfl⟩ := List.mem_map.mp he
  have hknown : Known values (.reference name.toList) := by
    generalize hv : e.2 = v at hn
    cases v with
    | text t =>
      have hknown := known_deepen ht n (known_of_text ht he' hv)
      have hp := Template.mem_names_iff_mem_pieces.mp hn
      rw [String.toList_ofList, Template.pieces_assemble fun p hp => (hknown p hp).sound] at hp
      exact hknown _ hp
    | _ => cases hn
  obtain ⟨e, he, hn⟩ := hknown
  exact ⟨e, he, by rwa [String.ofList_toList] at hn⟩

theorem allResolve_deepened (ht : Unfoldable values env) (n : Nat) :
    AllResolve (values.mapValues (deepened values env n)) env
      (values.mapValues (deepened values env n)) := by
  intro e he name hn
  obtain ⟨e, he, hn⟩ := namesIn_deepened ht n he hn
  obtain ⟨v, hv, hnull⟩ := ht.resolve e he name hn
  unfold Resolves
  rw [meaning?_mapValues]
  rw [meaning?_eq] at hv
  cases hkey : keyFor? values name with
  | none =>
    rw [hkey] at hv
    exact ⟨v, hv, hnull⟩
  | some k =>
    replace hv : values.getText? k = some v := by rwa [hkey] at hv
    refine ⟨deepened values env n v, by simp only [hv, Option.map_some], ?_⟩
    cases v with
    | null => exact absurd rfl hnull
    | _ => intro h; cases h

theorem allWritten_deepened (ht : Unfoldable values env) (n : Nat) :
    AllWritten (values.mapValues (deepened values env n)) env
      (values.mapValues (deepened values env n)) := by
  intro e he name hn v hv
  obtain ⟨e, he, hn⟩ := namesIn_deepened ht n he hn
  by_cases htext : ∃ t, v = .text t
  · obtain ⟨t, rfl⟩ := htext
    rfl
  · exact ht.written e he name hn v (meaning?_of_mapValues (fun _ => deepened_of_not_text n)
      (fun t => ⟨_, rfl⟩) (fun t h => htext ⟨t, h⟩) hv)

theorem pass_deepened (ht : Unfoldable values env) (n : Nat) :
    pass (values.mapValues (deepened values env n)) env (values.mapValues (deepened values env n)) =
      .ok (values.mapValues (deepened values env (2 * n + 1))) := by
  rw [pass_of_resolves (allResolve_deepened ht n) (allWritten_deepened ht n),
    Entries.mapValues_mapValues]
  exact congrArg _ (Entries.mapValues_congr fun e he => replaced_deepened ht n he)

/-! ### Several passes over unfolded values -/

/-- Unfolded values with the same texts are the same. -/
theorem eq_of_sameTexts (m n : Nat)
    (h : sameTexts (es.mapValues (deepened values env m)) (es.mapValues (deepened values env n)) =
      true) :
    es.mapValues (deepened values env m) = es.mapValues (deepened values env n) := by
  induction es with
  | nil => rfl
  | cons e es ih =>
    obtain ⟨k, v⟩ := e
    show (k, deepened values env m v) :: Entries.mapValues (deepened values env m) es =
      (k, deepened values env n v) :: Entries.mapValues (deepened values env n) es
    replace h : sameTexts
      ((k, deepened values env m v) :: Entries.mapValues (deepened values env m) es)
      ((k, deepened values env n v) :: Entries.mapValues (deepened values env n) es) = true := h
    cases v with
    | text t =>
      simp only [deepened, sameTexts, Bool.and_eq_true, beq_iff_eq] at h ⊢
      rw [h.1, ih h.2]
    | _ =>
      simp only [deepened, sameTexts] at h ⊢
      rw [ih h]

theorem two_pow_succ_mul (n a : Nat) : 2 ^ (n + 1) * (a + 1) = 2 ^ n * (2 * a + 1 + 1) := by
  rw [Nat.pow_succ, Nat.mul_assoc, show 2 * (a + 1) = 2 * a + 1 + 1 by omega]

/-- Where one pass changes nothing, more passes do not. -/
theorem deepened_fixed (ht : Unfoldable values env) (n : Nat) : ∀ a,
    values.mapValues (deepened values env (2 * a + 1)) = values.mapValues (deepened values env a) →
    values.mapValues (deepened values env (2 ^ n * (a + 1) - 1)) =
      values.mapValues (deepened values env a) := by
  induction n with
  | zero => exact fun a _ => by rw [Nat.pow_zero, Nat.one_mul, Nat.add_sub_cancel]
  | succ n ih =>
    intro a h
    have hnext : values.mapValues (deepened values env (2 * (2 * a + 1) + 1)) =
        values.mapValues (deepened values env (2 * a + 1)) := by
      have hpass := pass_deepened ht (2 * a + 1)
      rw [h, pass_deepened ht a] at hpass
      exact (Except.ok.inj hpass).symm
    rw [two_pow_succ_mul, ih _ hnext, h]

theorem passes_deepened (ht : Unfoldable values env) (n : Nat) : ∀ a,
    passes env n (values.mapValues (deepened values env a)) =
      .ok (values.mapValues (deepened values env (2 ^ n * (a + 1) - 1))) := by
  induction n with
  | zero =>
    intro a
    rw [Nat.pow_zero, Nat.one_mul, Nat.add_sub_cancel]
    rfl
  | succ n ih =>
    intro a
    simp only [passes, pass_deepened ht a, bind, Except.bind]
    split
    · next h => rw [deepened_fixed ht (n + 1) a (eq_of_sameTexts _ _ h)]; rfl
    · rw [ih, two_pow_succ_mul]

/-- The values after `n` passes. -/
theorem passes_eq (ht : Unfoldable values env) (n : Nat) :
    passes env n values = .ok (values.mapValues (deepened values env (2 ^ n - 1))) := by
  have h := passes_deepened ht n 0
  rwa [Entries.mapValues_eq_self fun e _ => deepened_zero e.2, Nat.zero_add, Nat.mul_one] at h

end TopologySubmission.Settings
