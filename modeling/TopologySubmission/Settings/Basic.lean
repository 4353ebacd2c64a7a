import TopologySubmission.Settings.Keys
import TopologySubmission.Value.Entries
import TopologySubmission.Value.Number

/-!
# Settings

`Settings` are keys with values in a fixed order. They are built up layer by layer, where a later
value of a key replaces an earlier one and keeps its place, and are then only read: as they are, as
text, as an integer or as a flag.

    validate fails exactly if a required key is missing, nothing or empty      (validate_ok_iff)
-/

namespace TopologySubmission

/-! ## Algorithm -/

/-- A value that can be a key. -/
def Value.checkKey (v : Value) : Except Failure Unit :=
  if v.isKey then .ok () else .error (.wrongKind (.notAKey v.kindName))

/-- Keys with values, in order. -/
structure Settings where
  entries : Entries := []
  deriving Repr, Inhabited

namespace Settings

/-- Sets a key. -/
def put (s : Settings) (key : String) (value : Value) : Settings :=
  ⟨s.entries.insertText key value⟩

/-- Sets the keys of a mapping one by one. -/
def putAll (s : Settings) (es : Entries) : Settings := ⟨s.entries.merge es⟩

/-- The value of a key, if it has one. -/
def get? (s : Settings) (key : String) : Option Value := s.entries.getText? key

/-- The value of a key, or nothing. -/
def get (s : Settings) (key : String) : Value := (s.get? key).getD .null

/-- The value of a key that must be there. -/
def item (s : Settings) (key : String) : Except Failure Value :=
  match s.get? key with
  | some v => .ok v
  | none => .error (.missingKey (.text key))

/-- The value of any key, if it has one. -/
def find? (s : Settings) (key : Value) : Except Failure (Option Value) := do
  key.checkKey
  return s.entries.get? key

/-- The text of a value; nothing stays nothing. -/
def textOf : Value → Value
  | .null => .null
  | v => .text v.plain

/-- The integer of a value of a key; nothing stays nothing. -/
def integerOf (key value : Value) : Except Failure Value :=
  match value with
  | .null => .ok .null
  | v =>
    (v.configured ("Config key '" ++ key.plain ++ "' is not an integer: ") v.toInteger).map .int

/-- The words that switch a flag on. -/
def trueWords : List String := ["true", "yes", "1"]

/-- The flag that a value stands for: texts by their word, all else by being true. -/
def flagOf : Value → Bool
  | .text s => trueWords.contains (Text.lower (Text.strip s))
  | v => v.isTruthy

/-- The flag of a key. -/
def flag (s : Settings) (key : String) (default : Bool) : Bool :=
  flagOf ((s.get? key).getD (.bool default))

/-- One line for every key. -/
def dump (s : Settings) : String :=
  "\n".intercalate (s.entries.map fun e => e.1.plain ++ ": " ++ e.2.quoted)

/-- What a message shows of settings. -/
def summary (s : Settings) : String := "Config(" ++ toString s.entries.length ++ " keys)"

/-- Nothing or the empty text. -/
def isMissing : Value → Bool
  | .null => true
  | .text s => s == ""
  | _ => false

/-- The required keys without a value. -/
def missing (s : Settings) : List String := Key.required.filter fun k => isMissing (s.get k)

/-- Every required key has a value. -/
def validate (s : Settings) : Except Failure Unit :=
  match s.missing with
  | [] => .ok ()
  | ks => .error (.configuration ("Missing required config: " ++ ", ".intercalate ks))

/-! ## Lemmas -/

theorem get?_put_self (s : Settings) (key : String) (v : Value) :
    (s.put key v).get? key = some v := Entries.get?_insert_self _ _ _

theorem validate_ok_iff (s : Settings) :
    s.validate = .ok () ↔ ∀ k ∈ Key.required, isMissing (s.get k) = false := by
  have hm : s.missing = [] ↔ ∀ k ∈ Key.required, isMissing (s.get k) = false := by
    simp [missing, List.filter_eq_nil_iff]
  rw [← hm]
  unfold validate
  split
  · next h => simp [h]
  · next h => simp only [reduceCtorEq, false_iff]; exact h

end Settings

end TopologySubmission
