/-!
# The parameters of the command line

Each parameter has a long name and mostly a short one of a single character. Most take a value, and a
submission needs most of them. The table here is in the order of the help text.
-/

namespace TopologySubmission.CommandLine

/-! ## Algorithm -/

/-- The parameters of the program. -/
inductive Parameter where
  | cluster
  | role
  | environment
  | home
  | configPath
  | overrides
  | package
  | definition
  | jar
  | verbose
  | version
  | help
  deriving DecidableEq, Repr, Inhabited

namespace Parameter

/-- All parameters in the order of the help text. -/
def all : List Parameter :=
  [.cluster, .role, .environment, .home, .configPath, .overrides, .package, .definition, .jar,
    .verbose, .version, .help]

def shortName? : Parameter → Option Char
  | .cluster => some 'c'
  | .role => some 'r'
  | .environment => some 'e'
  | .home => some 'd'
  | .configPath => some 'p'
  | .overrides => some 'o'
  | .package => some 'y'
  | .definition => some 'f'
  | .jar => some 'j'
  | .verbose => some 'v'
  | .version => none
  | .help => some 'h'

def longName : Parameter → String
  | .cluster => "--cluster"
  | .role => "--role"
  | .environment => "--environment"
  | .home => "--heron_home"
  | .configPath => "--config_path"
  | .overrides => "--config_overrides"
  | .package => "--topology_package"
  | .definition => "--topology_defn"
  | .jar => "--topology_jar"
  | .verbose => "--verbose"
  | .version => "--version"
  | .help => "--help"

/-- The short name with its hyphen. -/
def shortText? (p : Parameter) : Option String :=
  p.shortName?.map fun c => String.ofList ['-', c]

/-- What the value of the parameter is called; nothing if it takes none. -/
def valueName? : Parameter → Option String
  | .verbose | .version | .help => none
  | .overrides => some "KEY=VALUE"
  | _ => some "TEXT"

/-- The parameter takes a value. -/
def takesValue (p : Parameter) : Bool := p.valueName?.isSome

/-- A submission needs the parameter. -/
def isRequired : Parameter → Bool
  | .overrides | .verbose | .version | .help => false
  | _ => true

/-- The line of the help text. -/
def description : Parameter → String
  | .cluster => "Cluster name in which the topology needs to run on"
  | .role => "Role under which the topology needs to run"
  | .environment => "Environment under which the topology needs to run"
  | .home => "Directory where heron is installed"
  | .configPath => "Path of the config files"
  | .overrides => "Command line config overrides (repeatable)"
  | .package => "tar ball containing user submitted jar/tar, defn and config"
  | .definition => "File containing the topology definition (YAML or JSON)"
  | .jar => "User heron topology jar"
  | .verbose => "Enable debug logs"
  | .version => "Show the version and exit."
  | .help => "Show this message and exit."

/-- The names of the parameter, as messages give them. -/
def nameHint (p : Parameter) : String :=
  match p.shortText? with
  | some s => "'" ++ s ++ "' / '" ++ p.longName ++ "'"
  | none => "'" ++ p.longName ++ "'"

/-- The parameter with a short name. -/
def ofShort? (c : Char) : Option Parameter := all.find? fun p => p.shortName? = some c

/-- The parameter with a long name. -/
def ofLong? (s : String) : Option Parameter := all.find? fun p => p.longName = s

end Parameter

/-! ## Lemmas -/

theorem Parameter.mem_all (p : Parameter) : p ∈ all := by cases p <;> decide

/-- Every parameter is found by its long name. -/
theorem Parameter.ofLong?_longName (p : Parameter) : ofLong? p.longName = some p := by
  cases p <;> decide

/-- A parameter with a short name is found by it. -/
theorem Parameter.ofShort?_of_shortName? (p : Parameter) (c : Char)
    (h : p.shortName? = some c) : ofShort? c = some p := by
  cases p <;> simp only [shortName?, Option.some.injEq, reduceCtorEq] at h <;> subst h <;> decide

end TopologySubmission.CommandLine
