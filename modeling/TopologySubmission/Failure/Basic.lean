import TopologySubmission.Number.Numeral
import TopologySubmission.Text.ShellWords
import TopologySubmission.Value.Quoted

/-!
# What can go wrong

A step of the program ends in a result or stops. It stops by a `Failure`, which callers may catch,
or by an `Interrupt`, which nothing catches. A failure records its cause; `Failure.message` is the
one place where causes become words. Every failure has such words: an exception that cannot be shown,
because its own text fails, is no failure here.

The errors of a submission form a tree: a fatal error leaves nothing to roll back, a compensable one
does. `ErrorClass.ancestors` walks from a class up to the root.
-/

namespace TopologySubmission

open Text

/-! ## Algorithm -/

/-- The classes of errors of a submission. -/
inductive ErrorClass where
  | submitter
  | fatal
  | compensable
  | configuration
  | topologyDefinition
  | pluginResolution
  | validationRejected
  | uploadFailed
  | launchFailed
  | undoFailed
  deriving DecidableEq, Repr

namespace ErrorClass

def name : ErrorClass → String
  | .submitter => "SubmitterError"
  | .fatal => "FatalError"
  | .compensable => "CompensableError"
  | .configuration => "ConfigurationError"
  | .topologyDefinition => "TopologyDefinitionError"
  | .pluginResolution => "PluginResolutionError"
  | .validationRejected => "ValidationRejected"
  | .uploadFailed => "UploadFailed"
  | .launchFailed => "LaunchFailed"
  | .undoFailed => "UndoFailed"

/-- All classes, the root first. -/
def all : List ErrorClass :=
  [.submitter, .fatal, .compensable, .configuration, .topologyDefinition, .pluginResolution,
    .validationRejected, .uploadFailed, .launchFailed, .undoFailed]

/-- The classes above a class, the nearest first. -/
def ancestors : ErrorClass → List ErrorClass
  | .submitter => []
  | .fatal | .compensable | .undoFailed => [.submitter]
  | .configuration | .pluginResolution | .validationRejected => [.fatal, .submitter]
  | .topologyDefinition => [.configuration, .fatal, .submitter]
  | .uploadFailed | .launchFailed => [.compensable, .submitter]

/-- The class is the other one or lies below it. -/
def isA (c d : ErrorClass) : Bool := c == d || c.ancestors.contains d

end ErrorClass

/-- The kinds of failures of the operating system. -/
inductive SystemErrorKind where
  | general
  | noSuchFile
  | fileExists
  | notADirectory
  | isADirectory
  | permission
  | connection
  | timeout
  | sameFile
  | other (name : String)
  deriving DecidableEq, Repr

/-- The kinds of failures as callers tell them apart. -/
inductive FailureKind where
  | submission (kind : ErrorClass)
  | system (kind : SystemErrorKind)
  | missingKey
  | badValue
  | wrongKind
  | noSuchPart
  | overflow
  | runtime
  | emptyText
  | cancelled
  | undecodable
  | jsonSyntax
  | tooDeep
  | other (name : String)
  deriving DecidableEq, Repr

/-- An error of a submission, with the stage and the topology it is reported for and the kind of
failure that led to it. -/
structure SubmissionError where
  kind : ErrorClass
  message : String
  stage : Option String := none
  topology : Option String := none
  cause : Option FailureKind := none
  deriving DecidableEq, Repr

/-- The reason that the file system gives for refusing an operation. -/
inductive Refusal where
  | noSuchFile
  | fileExists
  | notADirectory
  | isADirectory
  | nameTooLong
  | busy
  deriving DecidableEq, Repr

namespace Refusal

/-- The number of a refusal. -/
def number : Refusal → Nat
  | .noSuchFile => 2
  | .fileExists => 17
  | .notADirectory => 20
  | .isADirectory => 21
  | .nameTooLong => 36
  | .busy => 16

def words : Refusal → String
  | .noSuchFile => "No such file or directory"
  | .fileExists => "File exists"
  | .notADirectory => "Not a directory"
  | .isADirectory => "Is a directory"
  | .nameTooLong => "File name too long"
  | .busy => "Device or resource busy"

def kind : Refusal → SystemErrorKind
  | .noSuchFile => .noSuchFile
  | .fileExists => .fileExists
  | .notADirectory => .notADirectory
  | .isADirectory => .isADirectory
  | .nameTooLong => .general
  | .busy => .general

end Refusal

/-- A failure of the operating system. -/
inductive SystemError where
  /-- The file system refused an operation on a path. -/
  | refused (why : Refusal) (path : String)
  /-- The file system refused to move one path to another. -/
  | moveRefused (why : Refusal) (source target : String)
  /-- A file cannot be copied onto itself. -/
  | sameFile (source target : String)
  /-- The root directory of the state is missing. -/
  | missingStateRoot (path : String)
  deriving DecidableEq, Repr

namespace SystemError

def kind : SystemError → SystemErrorKind
  | .refused why _ => why.kind
  | .moveRefused why _ _ => why.kind
  | .sameFile _ _ => .sameFile
  | .missingStateRoot _ => .noSuchFile

def message : SystemError → String
  | .refused why p =>
    "[Errno " ++ toString why.number ++ "] " ++ why.words ++ ": " ++ Text.quoted p
  | .moveRefused why p q =>
    "[Errno " ++ toString why.number ++ "] " ++ why.words ++ ": " ++ Text.quoted p ++ " -> " ++
      Text.quoted q
  | .sameFile p q =>
    "PosixPath(" ++ Text.quoted p ++ ") and PosixPath(" ++ Text.quoted q ++ ") are the same file"
  | .missingStateRoot p => "State root does not exist: " ++ p

end SystemError

/-- A text or value of the right kind that does not mean what is asked of it. -/
inductive BadValue where
  | notAnInteger (base : Nat) (text : String)
  | tooManyDigits (count : Nat)
  /-- An integer has too many digits to be written. -/
  | tooLongForText
  | notAReal (text : String)
  | notANumberToInteger
  | shellWords (e : WordError)
  | calendar (e : CalendarError)
  | nulInPath
  | noSuchCharacter
  | emptyName (path : String)
  /-- What stands at a place of a row of pairs has some other number of parts. -/
  | notTwoAt (index count : Nat)
  deriving DecidableEq, Repr

def BadValue.message : BadValue → String
  | .notAnInteger base s =>
    "invalid literal for int() with base " ++ toString base ++ ": " ++
      String.ofList ((Text.quoted s).toList.take 200)
  | .tooManyDigits n =>
    "Exceeds the limit (" ++ toString maxDecimalDigits ++
      " digits) for integer string conversion: value has " ++ toString n ++
      " digits; use sys.set_int_max_str_digits() to increase the limit"
  | .tooLongForText =>
    "Exceeds the limit (" ++ toString maxDecimalDigits ++
      " digits) for integer string conversion" ++
      "; use sys.set_int_max_str_digits() to increase the limit"
  | .notAReal s => "could not convert string to float: " ++ Text.quoted s
  | .notANumberToInteger => "cannot convert float NaN to integer"
  | .shellWords e => e.message
  | .calendar e => e.message
  | .nulInPath => "embedded null byte"
  | .noSuchCharacter => "chr() arg not in range(0x110000)"
  | .emptyName p => "PosixPath(" ++ Text.quoted p ++ ") has an empty name"
  | .notTwoAt i n =>
    "dictionary update sequence element #" ++ toString i ++ " has length " ++ toString n ++
      "; 2 is required"

/-- A value of a kind that an operation cannot use. -/
inductive WrongKind where
  /-- The value cannot be used as what the operation needs. -/
  | unusable (kind : String) (need : String)
  /-- A list of texts holds something else at a place. -/
  | notTextAt (index : Nat) (kind : String)
  /-- The value stands where a text is searched. -/
  | searched (kind : String)
  /-- The value cannot be a key. -/
  | notAKey (kind : String)
  /-- The value cannot be a key of a JSON document. -/
  | notAJsonKey (kind : String)
  /-- Two keys have no order. -/
  | incomparable (kind other : String)
  /-- Two moments have no order, since only one knows its distance from universal time. -/
  | momentsIncomparable
  /-- Bytes stand where a text is searched. -/
  | bytesForText
  /-- What stands at a place of a row of pairs has no parts. -/
  | notAPairAt (index : Nat)
  /-- A directory that is not known has nothing below it. -/
  | notAPath
  deriving DecidableEq, Repr

def WrongKind.message : WrongKind → String
  | .unusable k need => "'" ++ k ++ "' object is not " ++ need
  | .notTextAt i k =>
    "sequence item " ++ toString i ++ ": expected str instance, " ++ k ++ " found"
  | .searched k => "expected string or bytes-like object, got '" ++ k ++ "'"
  | .notAKey k => "unhashable type: '" ++ k ++ "'"
  | .notAJsonKey k => "keys must be str, int, float, bool or None, not " ++ k
  | .incomparable k l =>
    "'<' not supported between instances of '" ++ k ++ "' and '" ++ l ++ "'"
  | .momentsIncomparable => "can't compare offset-naive and offset-aware datetimes"
  | .bytesForText => "cannot use a string pattern on a bytes-like object"
  | .notAPairAt i =>
    "cannot convert dictionary update sequence element #" ++ toString i ++ " to a sequence"
  | .notAPath => "unsupported operand type(s) for /: 'NoneType' and 'str'"

/-- A number that does not fit. -/
inductive Overflow where
  | infinityToInteger
  | integerToReal
  | characterNumber
  | waitTooLong
  deriving DecidableEq, Repr

def Overflow.message : Overflow → String
  | .infinityToInteger => "cannot convert float infinity to integer"
  | .integerToReal => "int too large to convert to float"
  | .characterNumber => "Python int too large to convert to C int"
  | .waitTooLong => "timestamp too large to convert to C _PyTime_t"

/-- A use of a collaborator at the wrong time, or without what it needs. -/
inductive Misuse where
  | notInitialized (who : String)
  | secondAttempt
  | noHomeDirectory
  deriving DecidableEq, Repr

def Misuse.message : Misuse → String
  | .notInitialized who => who ++ " is not initialized"
  | .secondAttempt => "A Submitter performs at most one attempt"
  | .noHomeDirectory => "Could not determine home directory."

/-- Why a text is not a JSON document, and the place in the text. -/
structure JsonError where
  what : String
  text : String
  place : Nat
  deriving DecidableEq, Repr

/-- The line and the column of a place in a text, both counted from one. -/
def lineAndColumn (text : List Char) (place : Nat) : Nat × Nat :=
  let before := text.take place
  (before.count '\n' + 1, (before.reverse.takeWhile (· != '\n')).length + 1)

def JsonError.message (e : JsonError) : String :=
  let (line, column) := lineAndColumn e.text.toList e.place
  e.what ++ ": line " ++ toString line ++ " column " ++ toString column ++ " (char " ++
    toString e.place ++ ")"

/-- A failure that callers may catch. -/
inductive Failure where
  | submission (e : SubmissionError)
  | system (e : SystemError)
  | noSuchKey (key : Value) (writable : key.isWritable = true)
  | badValue (e : BadValue)
  | wrongKind (e : WrongKind)
  | noSuchPart (kind part : String)
  | overflow (e : Overflow)
  | misuse (e : Misuse)
  | emptyText
  | cancelled
  | undecodable
  | json (e : JsonError)
  | tooDeep
  /-- A failure that a collaborator reports in its own words. -/
  | reported (kind : FailureKind) (text : String)
  deriving Repr

namespace Failure

def kind : Failure → FailureKind
  | .submission e => .submission e.kind
  | .system e => .system e.kind
  | .noSuchKey _ _ => .missingKey
  | .badValue _ => .badValue
  | .wrongKind _ => .wrongKind
  | .noSuchPart _ _ => .noSuchPart
  | .overflow _ => .overflow
  | .misuse _ => .runtime
  | .emptyText => .emptyText
  | .cancelled => .cancelled
  | .undecodable => .undecodable
  | .json _ => .jsonSyntax
  | .tooDeep => .tooDeep
  | .reported k _ => k

def message : Failure → String
  | .submission e => e.message
  | .system e => e.message
  | .noSuchKey k _ => k.quoted
  | .badValue e => e.message
  | .wrongKind e => e.message
  | .noSuchPart k p => "'" ++ k ++ "' object has no attribute " ++ Text.quoted p
  | .overflow e => e.message
  | .misuse e => e.message
  | .emptyText => "string index out of range"
  | .cancelled => ""
  | .undecodable => "'utf-8' codec can't decode the bytes"
  | .json e => e.message
  | .tooDeep => "maximum recursion depth exceeded"
  | .reported .missingKey s => Text.quoted s
  | .reported _ s => s

/-- A failure of the operating system. -/
def isSystem (f : Failure) : Bool :=
  match f.kind with
  | .system _ => true
  | _ => false

/-- The failure is a time-out. -/
def isTimeout (f : Failure) : Bool := f.kind == .system .timeout

/-- The failure is an error of a submission of a class or below it. -/
def isA (f : Failure) (c : ErrorClass) : Bool :=
  match f.kind with
  | .submission k => k.isA c
  | _ => false

/-- The error of a submission that the failure is, if it is one. -/
def submissionError? : Failure → Option SubmissionError
  | .submission e => some e
  | .reported (.submission k) s => some { kind := k, message := s }
  | _ => none

/-- The failures of a computation are no errors of a submission. -/
def AreForeign {α : Type} (r : Except Failure α) : Prop := ∀ f, r = .error f → f.submissionError? = none

/-- A computation with its failures, which are no errors of a submission, as faults of another kind. -/
def asFaults {ε α : Type} (fault : ∀ f : Failure, f.submissionError? = none → ε)
    (r : Except Failure α) (h : AreForeign r) : Except ε α :=
  match r, h with
  | .ok a, _ => .ok a
  | .error f, h => .error (fault f (h f rfl))

/-- An error of a submission without stage and topology. -/
def ofClass (kind : ErrorClass) (message : String) : Failure := .submission { kind, message }

/-- The configuration is malformed or incomplete. -/
def configuration (message : String) : Failure := ofClass .configuration message

/-- The definition of the topology is missing or invalid. -/
def definition (message : String) : Failure := ofClass .topologyDefinition message

/-- A mapping does not have a key. Of a key without a text no more can be said than that it has none. -/
def missingKey (key : Value) : Failure :=
  if h : key.isWritable = true then .noSuchKey key h else .badValue .tooLongForText

end Failure

/-- The text of a value, if all of it can be written. -/
def Value.asText (v : Value) : Except Failure String :=
  if v.isWritable then .ok v.plain else .error (.badValue .tooLongForText)

/-- An order to stop that no caller catches. -/
inductive Interrupt where
  | keyboard (text : String)
  | exit (text : String)
  deriving DecidableEq, Repr

def Interrupt.message : Interrupt → String
  | .keyboard s => s
  | .exit s => s

/-- How a step ends that gives no result. -/
inductive Stop where
  | failure (f : Failure)
  | interrupt (i : Interrupt)
  deriving Repr

def Stop.message : Stop → String
  | .failure f => f.message
  | .interrupt i => i.message

/-! ## Lemmas -/

/-- The root lies above every other class. -/
theorem ErrorClass.isA_submitter (c : ErrorClass) : c.isA .submitter = true := by
  cases c <;> decide

/-- No class is both fatal and compensable. -/
theorem ErrorClass.not_fatal_and_compensable (c : ErrorClass) :
    ¬(c.isA .fatal = true ∧ c.isA .compensable = true) := by
  cases c <;> decide

/-- What lies above a class has its own ancestors above that class too. -/
theorem ErrorClass.ancestors_of_mem (c d : ErrorClass) (h : d ∈ c.ancestors) :
    ∀ a ∈ d.ancestors, a ∈ c.ancestors := by
  revert h; cases c <;> cases d <;> decide

theorem Value.asText_of_writable {v : Value} (h : v.isWritable = true) :
    v.asText = .ok v.plain := if_pos h

theorem Value.asText_of_not_writable {v : Value} (h : v.isWritable = false) :
    v.asText = .error (.badValue .tooLongForText) := if_neg (by rw [h]; decide)

/-- A failure that is no error of a submission has none of their classes. -/
theorem Failure.kind_ne_of_foreign {f : Failure} (h : f.submissionError? = none) (c : ErrorClass) :
    f.kind ≠ .submission c := by
  intro hkind
  unfold submissionError? at h
  split at h
  · cases h
  · cases h
  · next hsubmission hreported =>
    cases f with
    | submission e => exact hsubmission e rfl
    | reported k s =>
      obtain rfl : k = .submission c := hkind
      exact hreported c s rfl
    | _ => cases hkind

theorem Failure.asFaults_of_ok {ε α : Type} {fault : ∀ f : Failure, f.submissionError? = none → ε}
    {r : Except Failure α} {a : α} (h : AreForeign r) (hr : r = .ok a) : asFaults fault r h = .ok a := by
  subst hr
  rfl

namespace Failure.AreForeign

variable {α β : Type} {r : Except Failure α}

theorem ok (a : α) : AreForeign (.ok a) := fun _ hf => by cases hf

theorem error {f : Failure} (h : f.submissionError? = none) :
    AreForeign (.error f : Except Failure α) := fun _ hf => by cases hf; exact h

theorem bind {g : α → Except Failure β} (hr : AreForeign r) (hg : ∀ a, AreForeign (g a)) :
    AreForeign (r >>= g) := by
  cases r with
  | error f => exact error (hr f rfl)
  | ok a => exact hg a

theorem map (g : α → β) (hr : AreForeign r) : AreForeign (r.map g) := by
  cases r with
  | error f => exact error (hr f rfl)
  | ok a => exact ok (g a)

theorem mapM {g : α → Except Failure β} (hg : ∀ a, AreForeign (g a)) (as : List α) :
    AreForeign (as.mapM g) := by
  induction as with
  | nil => exact ok []
  | cons a as ih =>
    rw [List.mapM_cons]
    exact bind (hg a) fun b => bind ih fun bs => ok (b :: bs)

end Failure.AreForeign

/-- A computation in two steps gives a result if both steps do. -/
theorem bind_eq_ok_iff {ε α β : Type} {x : Except ε α} {f : α → Except ε β} {b : β} :
    x >>= f = .ok b ↔ ∃ a, x = .ok a ∧ f a = .ok b := by
  constructor
  · intro h
    cases x with
    | error e => cases h
    | ok a => exact ⟨a, rfl, h⟩
  · rintro ⟨a, rfl, h⟩
    exact h

end TopologySubmission
