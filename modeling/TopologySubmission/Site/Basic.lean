import TopologySubmission.Act.Basic
import TopologySubmission.Files.Tree
import TopologySubmission.Yaml.Package

/-!
# The site of a submission

A `Site` is what a submission finds on the machine it runs on: the files, the current directory,
the variables of the environment, the accounts with their home directories, the clock, the package that
reads and writes YAML, and the other programs. The number that the submission runs under may have no
account. Another program is known by its answers alone: each run takes the next answer, and is a plain
success once the answers are used up; the site remembers what was run.
-/

namespace TopologySubmission

/-! ## Algorithm -/

/-- How the run of another program ends. -/
inductive CommandAnswer where
  | ended (code : Int) (errors : String)
  | timedOut
  | stopped (s : Stop)
  deriving Repr

/-- One run of another program, which its first word names, and the seconds it was given. -/
structure CommandRun where
  words : List Value
  timeout : Value
  deriving Repr

/-- The machine that a submission runs on. -/
structure Site where
  tree : FileTree := {}
  cwd : Location := []
  environment : List (String × String) := []
  accounts : List (String × String) := []
  /-- The account of the submission, if its number has one. -/
  account : Option String := none
  accountNumber : Nat := 0
  /-- The time in milliseconds. -/
  clock : Int := 0
  yaml : Yaml.Package := {}
  answers : List CommandAnswer := []
  commands : List CommandRun := []

namespace Site

/-- The value of a variable of the environment. -/
def environmentText? (s : Site) (name : String) : Option String := s.environment.lookup name

/-- The time in whole seconds; parts of a second are cut off. -/
def now (s : Site) : Int := s.clock.tdiv 1000

/-- The variables that may hold the name of the user, the first one first. -/
def userVariables : List String := ["LOGNAME", "USER", "LNAME", "USERNAME"]

/-- The failure of asking for the name of an account that is not there. -/
def noAccount (number : Nat) : Failure :=
  .missingKey (.text ("getpwuid(): uid not found: " ++ toString number))

/-- The name of the user: the first variable that is not empty, or the account. -/
def user (s : Site) : Except Failure String :=
  match (userVariables.filterMap s.environmentText?).find? (· != "") <|> s.account with
  | some name => .ok name
  | none => .error (noAccount s.accountNumber)

/-- The home directory of the user, or of another account, as a text. -/
def homeOf? (s : Site) (name : String) : Option String :=
  if name = "" then
    match s.environmentText? "HOME" with
    | some h => some h
    | none => s.account.bind fun name => s.accounts.lookup name
  else s.accounts.lookup name

/-- A text without the slashes at its end. -/
def dropSlashes (s : String) : String :=
  String.ofList ((s.toList.reverse.dropWhile (· == '/')).reverse)

/-- Replaces a first name that starts with a tilde by the home directory it stands for. -/
def expandHome (s : Site) (p : Path) : Except Failure Path :=
  match p.root, p.names with
  | "", first :: rest =>
    match first.toList with
    | '~' :: user =>
      match s.homeOf? (String.ofList user) with
      | none => .error (.misuse .noHomeDirectory)
      | some home =>
        let home := dropSlashes home
        let home := if home = "" then "/" else home
        if home.toList.head? = some '~' then .error (.misuse .noHomeDirectory)
        else
          let base := Path.ofText home
          .ok { base with names := base.names ++ rest }
    | _ => .ok p
  | _, _ => .ok p

/-- The next answer of another program, and the site that remembers the run. -/
def runCommand (s : Site) (run : CommandRun) : CommandAnswer × Site :=
  let s := { s with commands := s.commands ++ [run] }
  match s.answers with
  | [] => (.ended 0 "", s)
  | a :: rest => (a, { s with answers := rest })

/-! ## Lemmas -/

/-- A path without a leading tilde is left alone. -/
theorem expandHome_absolute (s : Site) (p : Path) (h : p.isAbsolute = true) :
    s.expandHome p = .ok p := by
  obtain ⟨root, names⟩ := p
  simp only [Path.isAbsolute, bne_iff_ne, ne_eq] at h
  unfold expandHome
  split
  · next hr _ => exact absurd hr h
  · rfl

/-- A run is remembered after the earlier ones. -/
theorem commands_runCommand (s : Site) (run : CommandRun) :
    (s.runCommand run).2.commands = s.commands ++ [run] := by
  unfold runCommand
  cases s.answers <;> simp

end Site

end TopologySubmission
