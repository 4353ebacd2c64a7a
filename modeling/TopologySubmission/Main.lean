import Std.Time.DateTime.Timestamp
import TopologySubmission.CommandLine.Run

/-!
# The command

`main` finds out what a submission needs to know of the machine, performs it, and then writes down
what it changed. The files are looked at in two steps: those that the options name first, and then
those that the settings name. No other program is started, so that a package can be uploaded with
copies alone.
-/

namespace TopologySubmission.Machine

/-! ## Looking at files -/

/-- The path of a location. -/
def pathText (l : Location) : String := "/" ++ "/".intercalate l

/-- Looks at one location. What cannot be read is not there. -/
def look (l : Location) (t : FileTree) : IO FileTree := do
  let .ok p ← (IO.FS.realPath (pathText l)).toBaseIO | return t
  if ← p.isDir then return t.put l .directory
  let .ok content ← (IO.FS.readBinFile p).toBaseIO | return t
  return t.put l (.file content)

/-- Looks at every location on the way from one along names. -/
def lookAlong (l : Location) : List String → FileTree → IO FileTree
  | [], t => return t
  | n :: ns, t => do
    let next := if n = ".." then l.dropLast else l ++ [n]
    lookAlong next ns (← look next t)

/-- The names in a directory. -/
def namesIn (l : Location) : IO (List String) := do
  let .ok p ← (IO.FS.realPath (pathText l)).toBaseIO | return []
  let .ok found ← p.readDir.toBaseIO | return []
  return found.toList.map (·.fileName)

/-- Looks at what stands below a location, so many levels down. -/
def lookBelow : Nat → Location → FileTree → IO FileTree
  | 0, _, t => return t
  | depth + 1, l, t => do
    (← namesIn l).foldlM
      (fun t n => do lookBelow depth (l ++ [n]) (← look (l ++ [n]) t)) t

/-- Something to look at: a path, and the levels below it. -/
structure Sight where
  path : Path
  depth : Nat := 0

/-- Looks at what a path leads to. -/
def Sight.look (sight : Sight) (s : Site) : IO Site := do
  let start := if sight.path.isAbsolute then [] else s.cwd
  let t ← lookAlong start sight.path.names s.tree
  let t ← lookBelow sight.depth (FileTree.normalize s.cwd sight.path) t
  return { s with tree := t }

/-- The result of an act that changes nothing, as a list. -/
def peek {α : Type} (s : Site) (a : Act Site α) : List α := (Act.run a ⟨s, []⟩).1.toOption.toList

/-- What a submission looks at for the sake of its options. -/
def optionSights (s : Site) (o : CommandLine.Options) : List Sight :=
  ⟨Path.ofText o.definition, 0⟩ ::
    (peek s (Settings.configPath o.home o.configPath)).map fun p => ⟨p, 1⟩

/-- The settings that are paths, with the levels below them that count. -/
def pathKeys : List (String × Nat) :=
  [(Key.packageFile, 0), (Key.stateRoot, 2), (Key.uploadDirectory, 1), (Key.workingDirectory, 1)]

/-- What a submission looks at for the sake of its settings. -/
def settingSights (s : Site) (o : CommandLine.Options) : List Sight :=
  (peek s (CommandLine.prepare o)).flatMap fun p =>
    pathKeys.flatMap fun (key, depth) =>
      (peek s (Site.pathSetting p.settings key)).map fun path => ⟨path, depth⟩

/-- Looks at all that a submission looks at. -/
def lookFor (s : Site) (o : CommandLine.Options) : IO Site := do
  let s ← (optionSights s o).foldlM (fun s sight => sight.look s) s
  (settingSights s o).foldlM (fun s sight => sight.look s) s

/-! ## The machine -/

/-- The text of a file of the machine itself. -/
def systemText (path : String) : IO String := do
  let .ok content ← (IO.FS.readBinFile path).toBaseIO | return ""
  return (String.fromUTF8? content).getD ""

/-- The parts of a text between separators. -/
def parts (separator : Char) (s : String) : List String :=
  (s.toList.splitOn separator).map String.ofList

/-- A variable and its value. -/
def variableOf (s : String) : Option (String × String) :=
  match s.toList.dropWhile (· != '=') with
  | [] => none
  | _ :: value => some (String.ofList (s.toList.takeWhile (· != '=')), String.ofList value)

/-- An account: its number, its name and its home directory. -/
def accountOf (line : String) : Option (String × String × String) :=
  match parts ':' line with
  | [name, _, number, _, _, home, _] => some (number, name, home)
  | _ => none

/-- The number of the account that runs the program. -/
def ownNumber (status : String) : String :=
  ((parts '\n' status).findSome? fun line =>
    match parts '\t' line with
    | "Uid:" :: number :: _ => some number
    | _ => none).getD ""

/-- The site without its files. -/
def bareSite : IO Site := do
  let texts := parts (Char.ofNat 0) (← systemText "/proc/self/environ")
  let accounts := (parts '\n' (← systemText "/etc/passwd")).filterMap accountOf
  let number := ownNumber (← systemText "/proc/self/status")
  let now ← Std.Time.Timestamp.now
  return {
    cwd := (Path.ofText (← IO.currentDir).toString).names
    environment := texts.filterMap variableOf
    accounts := accounts.map (·.2)
    account := (accounts.lookup number).map (·.1)
    accountNumber := number.toNat?.getD 0
    clock := now.toMillisecondsSinceUnixEpoch.val
    answers := [.stopped (.failure (.system (.refused .noSuchFile "ssh")))] }

/-- The site of a command line. -/
def site (arguments : List String) : IO Site := do
  let s ← bareSite
  match CommandLine.readRequest arguments with
  | .ok (.submit o) => lookFor { s with tree := ← lookAlong [] s.cwd s.tree } o
  | _ => return s

/-! ## Writing files -/

/-- Writes down one entry. -/
def write : Location × FileEntry → IO Unit
  | (l, .directory) => IO.FS.createDirAll (pathText l)
  | (l, .file content) => IO.FS.writeBinFile (pathText l) content

/-- Writes down what was changed. -/
def save (before after : FileTree) : IO Unit := do
  (after.entries.filter fun e => before.lookup e.1 ≠ some e.2).forM write
  (before.entries.filter fun e => (after.lookup e.1).isNone).forM fun e =>
    IO.FS.removeFile (pathText e.1)

end TopologySubmission.Machine

/-- Submits the topology that the arguments name. -/
def main (arguments : List String) : IO UInt32 := do
  let site ← TopologySubmission.Machine.site arguments
  let program := TopologySubmission.CommandLine.programName
  let (ending, scene) :=
    TopologySubmission.Act.run (TopologySubmission.CommandLine.run program arguments) ⟨site, []⟩
  TopologySubmission.Machine.save site.tree scene.world.tree
  scene.log.forM fun r => IO.eprintln (r.level.name ++ " " ++ r.text)
  match ending with
  | .ok e =>
    IO.print e.output
    IO.eprint e.errors
    return e.code.toUInt32
  | .error s =>
    IO.eprintln s.message
    return 1
