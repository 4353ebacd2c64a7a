import TopologySubmission.Failure.Basic

/-!
# Values as numbers

`toInteger` and `toReal` answer the number that a value stands for: numbers and truth values stand
for themselves, texts and bytes are read as numerals, and a real number is cut to its integer part.
A value that is `unreadable` as a number is of the wrong kind or no numeral; a number that does not
fit fails as an overflow. `configured` says what becomes of both in a configuration.

    toInteger (.int n) = .ok n             (toInteger_int)
-/

namespace TopologySubmission

/-! ## Algorithm -/

/-- The failure says that a value is not of the kind asked for or does not read as one. -/
def Failure.isUnreadable (f : Failure) : Bool := f.kind == .wrongKind || f.kind == .badValue

namespace Value

/-- Bytes of ASCII as a text. -/
def asciiText? (b : List UInt8) : Option String :=
  if b.all (· < 0x80) then some (String.ofList (b.map fun x => Char.ofNat x.toNat)) else none

/-- The integer that a numeral of a base writes. -/
def integerOfText (base : Nat) (s : String) : Except Failure Int :=
  match readInt base s with
  | .ok n => .ok n
  | .error .malformed => .error (.badValue (.notAnInteger base s))
  | .error (.tooManyDigits k) => .error (.badValue (.tooManyDigits k))

/-- The real number that a numeral writes. -/
def realOfText (s : String) : Except Failure Binary64 :=
  match readFloat? s with
  | some x => .ok x
  | none => .error (.badValue (.notAReal s))

/-- The real number nearest to an integer. -/
def realOfInteger (n : Int) : Except Failure Binary64 :=
  match Binary64.ofInt? n with
  | some x => .ok x
  | none => .error (.overflow .integerToReal)

/-- The integer that a value stands for. -/
def toInteger : Value → Except Failure Int
  | .bool b => .ok (if b then 1 else 0)
  | .int n => .ok n
  | .float x =>
    match x with
    | .nan => .error (.badValue .notANumberToInteger)
    | .infinity _ => .error (.overflow .infinityToInteger)
    | .finite .. => .ok (x.truncate?.getD 0)
  | .text s => integerOfText 10 s
  | .bytes b =>
    match asciiText? b with
    | some s => integerOfText 10 s
    | none => .error (.badValue (.notAnInteger 10 (Text.quotedBytes b)))
  | v => .error (.wrongKind (.unusable v.kindName "a number"))

/-- The real number that a value stands for. -/
def toReal : Value → Except Failure Binary64
  | .bool b => realOfInteger (if b then 1 else 0)
  | .int n => realOfInteger n
  | .float x => .ok x
  | .text s => realOfText s
  | .bytes b =>
    match asciiText? b with
    | some s => realOfText s
    | none => .error (.badValue (.notAReal (Text.quotedBytes b)))
  | v => .error (.wrongKind (.unusable v.kindName "a number"))

/-- The number that a setting is read as. What cannot be read refuses the configuration in words that
show the value, unless the value cannot be written; other failures pass. -/
def configured {α : Type} (words : String) (v : Value) : Except Failure α → Except Failure α
  | .ok x => .ok x
  | .error f =>
    if f.isUnreadable then
      .error (if v.isWritable then .configuration (words ++ v.quoted) else .badValue .tooLongForText)
    else .error f

/-! ## Lemmas -/

/-- A text that is no numeral is refused in its own way. -/
theorem integerOfText_foreign (base : Nat) (s : String) : Failure.AreForeign (integerOfText base s) := by
  unfold integerOfText
  split <;> first | exact .ok _ | exact .error rfl

theorem realOfText_foreign (s : String) : Failure.AreForeign (realOfText s) := by
  unfold realOfText
  split <;> first | exact .ok _ | exact .error rfl

theorem realOfInteger_foreign (n : Int) : Failure.AreForeign (realOfInteger n) := by
  unfold realOfInteger
  split <;> first | exact .ok _ | exact .error rfl

@[simp] theorem toInteger_int (n : Int) : toInteger (.int n) = .ok n := rfl

@[simp] theorem toInteger_bool (b : Bool) : toInteger (.bool b) = .ok (if b then 1 else 0) := rfl

@[simp] theorem toReal_float (x : Binary64) : toReal (.float x) = .ok x := rfl

@[simp] theorem configured_ok {α : Type} (words : String) (v : Value) (x : α) :
    v.configured words (.ok x) = .ok x := rfl

theorem configured_unreadable {α : Type} (words : String) (v : Value) {f : Failure}
    (h : f.isUnreadable = true) : v.configured words (.error f : Except Failure α) =
      .error (if v.isWritable then .configuration (words ++ v.quoted)
        else .badValue .tooLongForText) := if_pos h

theorem configured_other {α : Type} (words : String) (v : Value) {f : Failure}
    (h : f.isUnreadable = false) : v.configured words (.error f : Except Failure α) = .error f :=
  if_neg (Bool.not_eq_true _ ▸ h)

end Value

end TopologySubmission
