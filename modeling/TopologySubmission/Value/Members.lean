import TopologySubmission.Failure.Basic
import TopologySubmission.Value.Entries

/-!
# The members of values

Rows, sets, mappings, texts and bytes can be gone through; a mapping gives its keys, and a text its
characters. A row of pairs counts as the mapping with these entries.

    a row of pairs whose first parts are texts counts as these entries     (asEntries_pairs)
-/

namespace TopologySubmission.Value

/-! ## Algorithm -/

/-- The members of a value that can be gone through. -/
def members? : Value → Option (List Value)
  | .list xs => some xs
  | .tuple xs => some xs
  | .set xs => some xs
  | .map es => some (Entries.keys es)
  | .readOnlyMap es => some (Entries.keys es)
  | .text s => some (s.toList.map fun c => .text (String.singleton c))
  | .bytes b => some (b.map fun x => .int x.toNat)
  | _ => none

/-- The members of a value, which must be one that can be gone through. -/
def members (v : Value) : Except Failure (List Value) :=
  match v.members? with
  | some xs => .ok xs
  | none => .error (.wrongKind (.unusable v.kindName "iterable"))

/-- The entry that stands as a pair at a place of a row. -/
def pairAt (index : Nat) (v : Value) : Except Failure (Value × Value) :=
  match v.members? with
  | none => .error (.wrongKind (.notAPairAt index))
  | some [k, w] => if k.isKey then .ok (k, w) else .error (.wrongKind (.notAKey k.kindName))
  | some xs => .error (.badValue (.notTwoAt index xs.length))

/-- The entries that stand as pairs from a place of a row on. -/
def pairsFrom (index : Nat) : List Value → Except Failure (List (Value × Value))
  | [] => .ok []
  | v :: vs => do return (← pairAt index v) :: (← pairsFrom (index + 1) vs)

/-- The value as a mapping. -/
def asEntries (v : Value) : Except Failure Entries :=
  match v.entries? with
  | some es => .ok es
  | none => do return Entries.ofList (← pairsFrom 0 (← v.members))

/-! ## Lemmas -/

theorem pairsFrom_pairs (index : Nat) (ps : List (String × Value)) :
    pairsFrom index (ps.map fun p => .list [.text p.1, p.2]) =
      .ok (ps.map fun p => (.text p.1, p.2)) := by
  induction ps generalizing index with
  | nil => rfl
  | cons p ps ih =>
    simp only [List.map_cons, pairsFrom, ih]
    rfl

/-- A row of pairs whose first parts are texts counts as these entries. -/
theorem asEntries_pairs (ps : List (String × Value)) :
    asEntries (.list (ps.map fun p => .list [.text p.1, p.2])) =
      .ok (Entries.ofList (ps.map fun p => (.text p.1, p.2))) := by
  simp only [asEntries, entries?, members, members?]
  show (do return Entries.ofList (← pairsFrom 0 _)) = _
  rw [pairsFrom_pairs]
  rfl

end TopologySubmission.Value
