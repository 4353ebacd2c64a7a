import TopologySubmission.Yaml.Package

/-!
# Overrides on the command line

An override is a key, an equals sign and a value. The value is read as YAML, by any reader; where it
means a row or a mapping, or is no YAML at all, it is kept as it is written. Of two overrides of one key
the later one counts.

    an item without an equals sign, or with a blank key, is refused      (parseItem_no_sign)
-/

namespace TopologySubmission.Overrides

/-! ## Algorithm -/

/-- Cuts a text at its first equals sign. -/
def cut : List Char → Option (List Char × List Char)
  | [] => none
  | c :: r => if c == '=' then some ([], r) else (cut r).map fun (k, v) => (c :: k, v)

/-- A row or a mapping that can be changed. -/
def isNested : Value → Bool
  | .list _ => true
  | .map _ => true
  | _ => false

/-- The value of what stands after the equals sign. -/
def valueOf (load : Yaml.Loader) (raw : String) : Except Failure Value :=
  if Text.allBlank raw then .ok (.text "")
  else
    match load raw with
    | .ok v => .ok (if isNested v then .text raw else v)
    | .error (.noYaml _) => .ok (.text raw)
    | .error (.failed f _) => .error f

/-- The failure of an item that is no override. -/
def invalid (item : String) : Failure :=
  .configuration ("Invalid config override '" ++ item ++ "'. Expected key=value")

/-- The key and the value of an override. -/
def parseItem (load : Yaml.Loader) (item : String) : Except Failure (String × Value) :=
  match cut item.toList with
  | none => .error (invalid item)
  | some (k, raw) =>
    let key := Text.strip (String.ofList k)
    if key = "" then .error (invalid item)
    else do return (key, ← valueOf load (String.ofList raw))

/-- The settings that overrides make, one after the other. -/
def parseOnto (load : Yaml.Loader) (found : Entries) : List String → Except Failure Entries
  | [] => .ok found
  | item :: items => do
    let (key, value) ← parseItem load item
    parseOnto load (found.insertText key value) items

/-- The settings that overrides make. -/
def parse (items : List String) (load : Yaml.Loader := Yaml.scalarReader) : Except Failure Entries :=
  parseOnto load [] items

/-! ## Lemmas -/

/-- A text with an equals sign is cut there. -/
theorem cut_append (k v : List Char) (h : '=' ∉ k) : cut (k ++ '=' :: v) = some (k, v) := by
  induction k with
  | nil => rfl
  | cons c r ih =>
    simp only [List.mem_cons, not_or] at h
    simp [cut, Ne.symm h.1, ih h.2]

theorem cut_eq_none (s : List Char) (h : '=' ∉ s) : cut s = none := by
  induction s with
  | nil => rfl
  | cons c r ih =>
    simp only [List.mem_cons, not_or] at h
    simp [cut, Ne.symm h.1, ih h.2]

theorem parseItem_no_sign (load : Yaml.Loader) (item : String) (h : '=' ∉ item.toList) :
    parseItem load item = .error (invalid item) := by
  simp [parseItem, cut_eq_none _ h]

end TopologySubmission.Overrides
