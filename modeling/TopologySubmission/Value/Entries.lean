import TopologySubmission.Value.Basic

/-!
# The entries of a mapping

A mapping is the list of its entries in their order, and no two of its keys are the same value. A
new key goes to the end; a new value for a key that is there keeps the key as it was first written
and its place.

    get? (insert es k v) k = some v for a text k          (get?_insert_self)
    keys (insert es k v) is keys es, with k at its end if it was not there   (keys_insert)
    merge is insertion one by one                         (merge_cons)
-/

namespace TopologySubmission.Entries

/-! ## Algorithm -/

/-- The value of a key. -/
def get? (es : Entries) (key : Value) : Option Value :=
  (es.find? fun e => e.1.same key).map (·.2)

/-- The key is there. -/
def contains (es : Entries) (key : Value) : Bool := es.any fun e => e.1.same key

/-- Sets the value of a key, in its place if the key is there and at the end if not. -/
def insert : Entries → Value → Value → Entries
  | [], key, value => [(key, value)]
  | (k, v) :: es, key, value =>
    if k.same key then (k, value) :: es else (k, v) :: insert es key value

/-- Sets the keys of a second mapping one by one. -/
def merge (es fs : Entries) : Entries := fs.foldl (fun acc e => insert acc e.1 e.2) es

/-- The mapping with these entries, of which a later one replaces an earlier one. -/
def ofList (fs : List (Value × Value)) : Entries := merge [] fs

/-- The keys in their order. -/
def keys (es : Entries) : List Value := es.map (·.1)

/-- The value of a key that is a text. -/
def getText? (es : Entries) (key : String) : Option Value := get? es (.text key)

/-- Sets the value of a key that is a text. -/
def insertText (es : Entries) (key : String) (value : Value) : Entries :=
  insert es (.text key) value

/-! ## Lemmas -/

@[simp] theorem merge_nil (es : Entries) : merge es [] = es := rfl

@[simp] theorem merge_cons (es : Entries) (e : Value × Value) (fs : Entries) :
    merge es (e :: fs) = merge (insert es e.1 e.2) fs := rfl

theorem contains_insert_self (es : Entries) (s : String) (v : Value) :
    contains (insert es (.text s) v) (.text s) = true := by
  induction es with
  | nil => simp [insert, contains]
  | cons e es ih =>
    obtain ⟨k, w⟩ := e
    simp only [insert]
    split
    · next h => simp [contains, h]
    · simp only [contains, List.any_cons, Bool.or_eq_true]
      exact Or.inr ih

theorem get?_insert_self (es : Entries) (s : String) (v : Value) :
    get? (insert es (.text s) v) (.text s) = some v := by
  induction es with
  | nil => simp [insert, get?]
  | cons e es ih =>
    obtain ⟨k, w⟩ := e
    simp only [insert]
    split
    · next h => simp [get?, h]
    · next h =>
      have ih' := ih
      simp only [get?] at ih'
      simp [get?, h, ih']

/-- The keys after an insertion: a key that is there keeps its place. -/
theorem keys_insert (es : Entries) (key v : Value) :
    keys (insert es key v) = if contains es key then keys es else keys es ++ [key] := by
  induction es with
  | nil => simp [insert, keys, contains]
  | cons e es ih =>
    obtain ⟨k, w⟩ := e
    cases h : k.same key with
    | true => simp [insert, keys, contains, h]
    | false =>
      have hc : contains ((k, w) :: es) key = contains es key := by simp [contains, h]
      have hi : insert ((k, w) :: es) key v = (k, w) :: insert es key v := by simp [insert, h]
      have hk : ∀ fs : Entries, keys ((k, w) :: fs) = k :: keys fs := fun _ => rfl
      rw [hi, hc, hk, ih, hk]
      split <;> rfl

end TopologySubmission.Entries
