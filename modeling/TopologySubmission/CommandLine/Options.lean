import TopologySubmission.CommandLine.CloseMatch
import TopologySubmission.CommandLine.Parameter
import TopologySubmission.Text.Quoted

/-!
# Reading the command line

A value stands in the next argument, behind an equals sign after a long name, or right behind a short
name. Short names of parameters without a value may be put together. Two hyphens end the options; an
argument that is no option and no value is one too many.

All arguments are read before any of them takes effect. Then the first request for the version or
the help counts, then a required parameter that is missing, then an argument too many.

    of several values of a parameter the last one counts       (value?_concat)
-/

namespace TopologySubmission.CommandLine

/-! ## Algorithm -/

/-- Why a command line cannot be used. -/
inductive UsageError where
  | noSuchOption (name : String) (close : List String)
  | needsValue (name : String)
  | takesNoValue (name : String)
  | missing (p : Parameter)
  | extraArguments (arguments : List String)
  deriving Repr

namespace UsageError

/-- The error is shown with the usage of the program. -/
def showsUsage : UsageError → Bool
  | .needsValue _ | .takesNoValue _ => false
  | _ => true

/-- The words for names that are close, in alphabetical order. -/
def suggestion : List String → String
  | [] => ""
  | [name] => " Did you mean " ++ name ++ "?"
  | names =>
    " (Possible options: " ++ ", ".intercalate (names.mergeSort fun a b => !decide (b < a)) ++ ")"

def message : UsageError → String
  | .noSuchOption name close => "No such option: " ++ name ++ suggestion close
  | .needsValue name => "Option " ++ Text.quoted name ++ " requires an argument."
  | .takesNoValue name => "Option " ++ Text.quoted name ++ " does not take a value."
  | .missing p => "Missing option " ++ p.nameHint ++ "."
  | .extraArguments arguments =>
    (if arguments.length = 1 then "Got unexpected extra argument ("
      else "Got unexpected extra arguments (") ++ " ".intercalate arguments ++ ")"

end UsageError

/-- Parameters with their values in the order in which they are given. -/
abbrev Given := List (Parameter × String)

/-- What arguments give, and which ones are no options and no values. -/
structure Arguments where
  given : Given := []
  extra : List String := []
  deriving Repr

/-- Adds parameters that stand in front. -/
def Arguments.prepend (a : Arguments) (front : Given) : Arguments :=
  { a with given := front ++ a.given }

/-- What one argument gives, and whether it takes the next argument as a value. -/
structure Portion where
  given : Given
  usesNext : Bool := false

/-- A parameter that takes the next argument as its value. -/
def withNext (p : Parameter) (name : String) : Option String → Except UsageError Portion
  | some value => .ok ⟨[(p, value)], true⟩
  | none => .error (.needsValue name)

/-- Reads short names that were put together. -/
def readShort (next : Option String) : List Char → Except UsageError Portion
  | [] => .ok ⟨[], false⟩
  | c :: r =>
    let name := String.ofList ['-', c]
    match Parameter.ofShort? c with
    | none => .error (.noSuchOption name [])
    | some p =>
      if p.takesValue then
        if r.isEmpty then withNext p name next else .ok ⟨[(p, String.ofList r)], false⟩
      else (readShort next r).map fun portion => { portion with given := (p, "") :: portion.given }

/-- Reads a long name with the value behind its equals sign, if there is one. -/
def readLong (p : Parameter) (name : String) (attached next : Option String) :
    Except UsageError Portion :=
  match p.takesValue, attached with
  | true, some value => .ok ⟨[(p, value)], false⟩
  | true, none => withNext p name next
  | false, some _ => .error (.takesNoValue name)
  | false, none => .ok ⟨[(p, "")], false⟩

/-- What stands before the first equals sign, and what stands behind it. -/
def splitAttached (s : List Char) : String × Option String :=
  match s.dropWhile (· != '=') with
  | [] => (String.ofList s, none)
  | _ :: value => (String.ofList (s.takeWhile (· != '=')), some (String.ofList value))

/-- Reads one option. -/
def readOption (argument : String) (next : Option String) : Except UsageError Portion :=
  let (name, attached) := splitAttached argument.toList
  match Parameter.ofLong? name, argument.toList with
  | some p, _ => readLong p name attached next
  | none, '-' :: '-' :: _ =>
    .error (.noSuchOption name (CloseMatch.closest name (Parameter.all.map Parameter.longName)))
  | none, _ :: r => readShort next r
  | none, [] => .ok ⟨[], false⟩

/-- The argument is an option. -/
def isOption (argument : String) : Bool :=
  match argument.toList with
  | '-' :: _ :: _ => true
  | _ => false

/-- Reads all arguments. -/
def readArguments (arguments : List String) : Except UsageError Arguments :=
  match arguments with
  | [] => .ok {}
  | a :: rest =>
    if a = "--" then .ok { extra := rest }
    else if isOption a then
      match readOption a rest.head? with
      | .error e => .error e
      | .ok portion =>
        (readArguments (if portion.usesNext then rest.tail else rest)).map
          (·.prepend portion.given)
    else (readArguments rest).map fun r => { r with extra := a :: r.extra }
termination_by arguments.length
decreasing_by
  · simp only [List.length_cons]
    split
    · simp only [List.length_tail]; omega
    · omega
  · simp only [List.length_cons]; omega

/-- The last value of a parameter. -/
def value? (given : Given) (p : Parameter) : Option String :=
  ((given.filter fun e => e.1 = p).getLast?).map (·.2)

/-- All values of a parameter. -/
def values (given : Given) (p : Parameter) : List String :=
  (given.filter fun e => e.1 = p).map (·.2)

/-- What a submission is started with. -/
structure Options where
  cluster : String
  role : String
  environment : String
  home : String
  configPath : String
  overrides : List String
  package : String
  definition : String
  jar : String
  verbose : Bool
  deriving Repr

/-- What a command line asks for. -/
inductive Request where
  | showHelp
  | showVersion
  | submit (o : Options)
  deriving Repr

/-- The options of a submission, of which none is missing. -/
def optionsOf (given : Given) : Options :=
  let text p := (value? given p).getD ""
  { cluster := text .cluster, role := text .role, environment := text .environment
    home := text .home, configPath := text .configPath, overrides := values given .overrides
    package := text .package, definition := text .definition, jar := text .jar
    verbose := (value? given .verbose).isSome }

/-- The request that counts before all else. -/
def earlyRequest? (given : Given) : Option Request :=
  (given.find? fun e => e.1 = .help || e.1 = .version).map fun e =>
    if e.1 = .help then .showHelp else .showVersion

/-- The first required parameter that is missing. -/
def firstMissing? (given : Given) : Option Parameter :=
  Parameter.all.find? fun p => p.isRequired && (value? given p).isNone

/-- What arguments ask for. -/
def requestOf (a : Arguments) : Except UsageError Request :=
  match earlyRequest? a.given, firstMissing? a.given, a.extra with
  | some r, _, _ => .ok r
  | none, some p, _ => .error (.missing p)
  | none, none, [] => .ok (.submit (optionsOf a.given))
  | none, none, extra => .error (.extraArguments extra)

/-- Reads a command line. -/
def readRequest (arguments : List String) : Except UsageError Request := do
  requestOf (← readArguments arguments)

/-! ## Lemmas -/

/-- The last value of a parameter counts. -/
theorem value?_concat (given : Given) (p : Parameter) (s : String) :
    value? (given ++ [(p, s)]) p = some s := by
  simp [value?, List.filter_append]

/-- A submission is started only if no required parameter is missing. -/
theorem firstMissing?_eq_none (a : Arguments) (o : Options)
    (h : requestOf a = .ok (.submit o)) : firstMissing? a.given = none := by
  cases he : earlyRequest? a.given with
  | some r =>
    simp only [requestOf, he, Except.ok.injEq] at h
    subst h
    simp only [earlyRequest?, Option.map_eq_some_iff] at he
    obtain ⟨e, -, he⟩ := he
    split at he <;> simp at he
  | none =>
    cases hm : firstMissing? a.given with
    | none => rfl
    | some p => simp [requestOf, he, hm] at h

end TopologySubmission.CommandLine
