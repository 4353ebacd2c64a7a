import Mathlib.Data.List.Forall2
import TopologySubmission.Proofs.Json.Part

/-!
# Documents are read back

A document is made of nothing, truth values, integers, texts, rows and mappings whose keys are texts. It
is written unless an integer in it has too many digits, and what is written is read as the same document
with the entries of each mapping in the order of their keys:

    document es = ok t → read t = ok (ordered (map es))      (document_returns)
    a document and its ordered form are the same value       (same_ordered)
-/

namespace TopologySubmission

/-! ## Algorithm -/

namespace Value

/-- The value is one of those that documents are made of. -/
inductive IsDocument : Value → Prop
  | null : IsDocument .null
  | bool (b : Bool) : IsDocument (.bool b)
  | int (n : Int) : IsDocument (.int n)
  | text (s : String) : IsDocument (.text s)
  | list {xs : List Value} (h : ∀ x ∈ xs, IsDocument x) : IsDocument (.list xs)
  | map {es : Entries} (hnamed : es.Named) (h : ∀ e ∈ es, IsDocument e.2) : IsDocument (.map es)

/-- Entries in the order of their keys. -/
def inOrder {α : Type} (es : List (Value × α)) : List (Value × α) :=
  es.mergeSort fun e f => notAfter e.1 f.1

mutual

/-- The value with the entries of each mapping in the order of their keys. -/
def ordered : Value → Value
  | .list xs => .list (orderedItems xs)
  | .map es => .map (inOrder (orderedEntries es))
  | v => v

def orderedItems : List Value → List Value
  | [] => []
  | x :: xs => ordered x :: orderedItems xs

def orderedEntries : Entries → Entries
  | [] => []
  | (k, v) :: es => (k, ordered v) :: orderedEntries es

end

mutual

/-- No integer of the value has more digits than a decimal may have. -/
def isShort : Value → Bool
  | .int n => (Nat.toDigits 10 n.natAbs).length ≤ maxDecimalDigits
  | .list xs => shortItems xs
  | .map es => shortEntries es
  | _ => true

def shortItems : List Value → Bool
  | [] => true
  | x :: xs => isShort x && shortItems xs

def shortEntries : Entries → Bool
  | [] => true
  | (_, v) :: es => isShort v && shortEntries es

end

end Value

namespace Json

/-- The value is written, and what is written is read as its ordered form; or it is refused because an
integer is too long. -/
inductive Returns (v : Value) : Prop
  | written {cs : List Char} (hshort : v.isShort = true) (h : written v = .ok cs) (hline : '\r' ∉ cs)
    (hreads : Reads cs v.ordered)
  | refused (hlong : v.isShort = false) (h : Json.written v = .error (.badValue .tooLongForText))

end Json

/-! ## Lemmas -/

namespace Value

theorem orderedEntries_eq (es : Entries) :
    orderedEntries es = es.map fun e => (e.1, e.2.ordered) := by
  induction es with
  | nil => rfl
  | cons e es ih => rw [orderedEntries, ih]; rfl

theorem shortEntries_eq (es : Entries) : shortEntries es = es.all fun e => e.2.isShort := by
  induction es with
  | nil => rfl
  | cons e es ih => rw [shortEntries, ih]; rfl

theorem inOrder_perm {α : Type} (es : List (Value × α)) : (inOrder es).Perm es :=
  List.mergeSort_perm es _

theorem inOrder_map {α β : Type} (f : α → β) (es : List (Value × α)) :
    inOrder (es.map fun e => (e.1, f e.2)) = (inOrder es).map fun e => (e.1, f e.2) :=
  (List.map_mergeSort (f := fun e : Value × α => (e.1, f e.2)) fun _ _ _ _ => rfl).symm

end Value

namespace Json

open Value (inOrder inOrder_map inOrder_perm)

variable {es : Entries} {ps : List (List Char)}

/-! ### Rows -/

theorem return_notMem_joined (h : ∀ p ∈ ps, '\r' ∉ p) : '\r' ∉ joined ps := by
  induction ps with
  | nil => exact List.not_mem_nil
  | cons p ps ih =>
    have hp := h p List.mem_cons_self
    have hps := ih fun q hq => h q (List.mem_cons_of_mem p hq)
    cases ps with
    | nil => exact hp
    | cons q ps => simp [joined, hp, hps]

/-- Either all parts of a row are written, or it is refused. -/
theorem returns_items {xs : List Value} (h : ∀ x ∈ xs, Returns x) :
    (Value.shortItems xs = true ∧ ∃ ps, writtenItems xs = .ok ps ∧ (∀ p ∈ ps, '\r' ∉ p) ∧
      List.Forall₂ Reads ps (Value.orderedItems xs)) ∨
    (Value.shortItems xs = false ∧ writtenItems xs = .error (.badValue .tooLongForText)) := by
  induction xs with
  | nil => exact .inl ⟨rfl, [], rfl, nofun, .nil⟩
  | cons x xs ih =>
    simp only [Value.shortItems, writtenItems, Value.orderedItems]
    cases h x List.mem_cons_self with
    | refused hlong hx =>
      rw [hlong, hx]
      exact .inr ⟨rfl, rfl⟩
    | @written cs hshort hx hline hreads =>
      rw [hshort, hx]
      rcases ih fun y hy => h y (List.mem_cons_of_mem x hy) with ⟨hs, ps, hps, hlines, hall⟩ | ⟨hs, hps⟩
      · rw [hs, hps]
        exact .inl ⟨rfl, cs :: ps, rfl, List.forall_mem_cons.mpr ⟨hline, hlines⟩, .cons hreads hall⟩
      · rw [hs, hps]
        exact .inr ⟨rfl, rfl⟩

/-! ### Mappings -/

theorem writtenValues_eq (es : Entries) :
    writtenValues es = es.map fun e => (e.1, written e.2) := by
  induction es with
  | nil => rfl
  | cons e es ih => rw [writtenValues, ih]; rfl

/-- Either all entries of a mapping are written, or it is refused. -/
theorem returns_entries (hkeys : ∀ e ∈ es, ∃ s, e.1 = .text s) (h : ∀ e ∈ es, Returns e.2) :
    (es.all (·.2.isShort) = true ∧
      ∃ ps, (es.map fun e => (e.1, written e.2)).mapM writtenEntry = .ok ps ∧
        (∀ p ∈ ps, '\r' ∉ p) ∧
        List.Forall₂ ReadsEntry ps (es.map fun e => (e.1, e.2.ordered))) ∨
    (es.all (·.2.isShort) = false ∧ (es.map fun e => (e.1, written e.2)).mapM writtenEntry =
      .error (.badValue .tooLongForText)) := by
  induction es with
  | nil => exact .inl ⟨rfl, [], rfl, nofun, .nil⟩
  | cons e es ih =>
    obtain ⟨k, v⟩ := e
    obtain ⟨⟨s, hs⟩, hothers⟩ := List.forall_mem_cons.mp hkeys
    obtain rfl : k = .text s := hs
    obtain ⟨hv, hvalues⟩ := List.forall_mem_cons.mp h
    rw [List.all_cons, List.map_cons, List.map_cons, List.mapM_cons]
    cases hv with
    | refused hlong hv =>
      dsimp only at hlong hv ⊢
      rw [hlong, hv]
      exact .inr ⟨rfl, rfl⟩
    | @written cs hshort hv hline hreads =>
      dsimp only at hshort hv hreads ⊢
      rw [hshort, hv]
      have hentry : '\r' ∉ writtenText s ++ ':' :: ' ' :: cs := by
        simp [return_notMem_writtenText, hline]
      rcases ih hothers hvalues with ⟨hs, ps, hps, hlines, hall⟩ | ⟨hs, hps⟩
      · rw [hs, hps]
        exact .inl ⟨rfl, _, rfl, List.forall_mem_cons.mpr ⟨hentry, hlines⟩,
          .cons ⟨s, cs, rfl, hreads, rfl⟩ hall⟩
      · rw [hs, hps]
        exact .inr ⟨rfl, rfl⟩

/-- The entries of a mapping of names are put in the order of their keys before they are written. -/
theorem writtenObject_named (h : es.Named) :
    writtenObject (writtenValues es) = do
      return '\x7b' :: joined (← ((inOrder es).map fun e => (e.1, written e.2)).mapM writtenEntry) ++
        ['\x7d'] := by
  have hkeys : (writtenValues es).map (·.1) = es.names.map .text := by
    rw [writtenValues_eq, List.map_map]
    exact h.keys_eq
  have hsorted : Value.sortByKey (·.1) (writtenValues es) =
      .ok ((inOrder es).map fun e => (e.1, written e.2)) := by
    unfold Value.sortByKey
    rw [hkeys, Value.checkNeighbours_texts, writtenValues_eq]
    exact congrArg Except.ok (inOrder_map written es)
  unfold writtenObject
  rw [hsorted]
  rfl

/-! ### Documents -/

theorem returns_of_isDocument {v : Value} (h : v.IsDocument) : Returns v := by
  induction h with
  | null =>
    exact .written rfl rfl (by decide)
      (reads_word (fun _ => rfl) (c := 'n') rfl rfl (by decide))
  | bool b =>
    cases b with
    | true =>
      exact .written rfl rfl (by decide)
        (reads_word (fun _ => rfl) (c := 't') rfl rfl (by decide))
    | false =>
      exact .written rfl rfl (by decide)
        (reads_word (fun _ => rfl) (c := 'f') rfl rfl (by decide))
  | int n =>
    by_cases hshort : (Nat.toDigits 10 n.natAbs).length ≤ maxDecimalDigits
    · have hn : writtenInteger n = .ok (toString n).toList := if_pos hshort
      exact .written (decide_eq_true hshort) hn (return_notMem_integer hn) (reads_integer hn)
    · exact .refused (decide_eq_false hshort) (if_neg hshort)
  | text s => exact .written rfl rfl (return_notMem_writtenText s) (reads_text s)
  | @list xs _ ih =>
    rcases returns_items ih with ⟨hs, ps, hps, hlines, hall⟩ | ⟨hs, hps⟩
    · have hwritten : written (.list xs) = .ok ('[' :: joined ps ++ [']']) := by
        rw [written, hps]
        rfl
      refine .written hs hwritten ?_ (reads_row hall)
      simp [return_notMem_joined hlines]
    · refine .refused hs ?_
      rw [written, hps]
      rfl
  | @map es hnamed _ ih =>
    have hperm := inOrder_perm es
    have hkeys := (Entries.named_iff.mp (hnamed.perm hperm.symm)).1
    have hshort : (Value.map es).isShort = (inOrder es).all (·.2.isShort) := by
      rw [hperm.all_eq, ← Value.shortEntries_eq]
      rfl
    have hordered : (Value.map es).ordered =
        .map ((inOrder es).map fun e => (e.1, e.2.ordered)) := by
      rw [← inOrder_map, ← Value.orderedEntries_eq]
      rfl
    have hwritten := writtenObject_named hnamed
    rcases returns_entries hkeys fun e he => ih e (hperm.mem_iff.mp he) with
      ⟨hs, ps, hps, hlines, hall⟩ | ⟨hs, hps⟩
    · rw [hps] at hwritten
      refine .written (hshort.trans hs) hwritten ?_ ?_
      · simp [return_notMem_joined hlines]
      · rw [hordered]
        exact reads_mapping ((hnamed.perm hperm.symm).map_values _) hall
    · rw [hps] at hwritten
      exact .refused (hshort.trans hs) hwritten

theorem head_writtenObject {es : List (Value × Except Failure (List Char))} {cs : List Char}
    (h : writtenObject es = .ok cs) : ∃ r, cs = '\x7b' :: r := by
  obtain ⟨sorted, -, h⟩ := bind_eq_ok_iff.mp h
  obtain ⟨ps, -, h⟩ := bind_eq_ok_iff.mp h
  exact ⟨joined ps ++ ['\x7d'], (Except.ok.inj h).symm⟩

/-- A document is written, and what is written is read as the document in the order of its keys; or it
is refused because an integer is too long. -/
theorem document_returns (h : (Value.map es).IsDocument) :
    ((Value.map es).isShort = true ∧ ∃ t, document es = .ok t ∧ '\r' ∉ t.toList ∧
      read t = .ok (Value.map es).ordered) ∨
    ((Value.map es).isShort = false ∧ document es = .error (.badValue .tooLongForText)) := by
  unfold document
  cases returns_of_isDocument h with
  | refused hlong hrefused =>
    rw [hrefused]
    exact .inr ⟨hlong, rfl⟩
  | @written cs hshort hwritten hline hreads =>
    obtain ⟨r, rfl⟩ := head_writtenObject hwritten
    have hvalue := hreads.value (2 * ('\x7b' :: r).length + 2) [] (by omega) .nil
    rw [List.append_nil] at hvalue
    rw [hwritten]
    refine .inl ⟨hshort, _, rfl, by rwa [String.toList_ofList], ?_⟩
    unfold read valueOf
    rw [String.toList_ofList, hreads.begins.skipBlanks_eq, hvalue]
    rfl

end Json

namespace Value

/-! ### The same document -/

theorem sameEntries_of_mem {es fs : Entries}
    (h : ∀ e ∈ es, ∃ f ∈ fs, e.1.same f.1 = true ∧ e.2.same f.2 = true) :
    sameEntries es fs = true := by
  induction es with
  | nil => rfl
  | cons e es ih =>
    obtain ⟨k, v⟩ := e
    obtain ⟨⟨f, hf, hk, hv⟩, hes⟩ := List.forall_mem_cons.mp h
    rw [sameEntries, ih hes, Bool.and_true, List.any_eq_true]
    exact ⟨f, hf, Bool.and_eq_true_iff.mpr ⟨hk, hv⟩⟩

theorem sameItems_ordered {xs : List Value} (h : ∀ x ∈ xs, x.same x.ordered = true) :
    sameItems xs (orderedItems xs) = true := by
  induction xs with
  | nil => rfl
  | cons x xs ih =>
    obtain ⟨hx, hxs⟩ := List.forall_mem_cons.mp h
    rw [orderedItems, sameItems, hx, ih hxs]
    rfl

/-- The order of the keys makes no other document. -/
theorem same_ordered {v : Value} (h : v.IsDocument) : v.same v.ordered = true := by
  induction h with
  | null => rfl
  | bool b => cases b <;> rfl
  | int n => exact beq_self_eq_true n
  | text s => exact beq_self_eq_true s
  | list _ ih => exact sameItems_ordered ih
  | @map es hnamed _ ih =>
    have hperm := inOrder_perm (orderedEntries es)
    have hlength : es.length = (inOrder (orderedEntries es)).length := by
      rw [hperm.length_eq, orderedEntries_eq, List.length_map]
    have hentries : sameEntries es (inOrder (orderedEntries es)) = true := by
      apply sameEntries_of_mem
      intro e he
      obtain ⟨s, hs⟩ := (Entries.named_iff.mp hnamed).1 e he
      refine ⟨(e.1, e.2.ordered), ?_, ?_, ih e he⟩
      · rw [hperm.mem_iff, orderedEntries_eq]
        exact List.mem_map_of_mem he
      · rw [hs]
        exact beq_self_eq_true s
    show (es.length == _ && sameEntries es _) = true
    rw [hentries, Bool.and_true, beq_iff_eq]
    exact hlength

end Value

end TopologySubmission
