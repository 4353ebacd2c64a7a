import TopologySubmission.Json.Read
import TopologySubmission.Site.Files
import TopologySubmission.Text.LetterCase
import TopologySubmission.Topology.Definition

/-!
# Loading the definition of a topology

A definition is a file in YAML or JSON, as the ending of its name says; YAML is read by the package of
the site. A file that is missing, cannot be read or holds no document is refused as a definition; an
empty document counts as an empty mapping.
-/

namespace TopologySubmission.Topology

/-! ## Algorithm -/

/-- The forms of a definition. -/
inductive Form where
  | yaml
  | json
  deriving DecidableEq, Repr

/-- The form of a file by the ending of its name. -/
def formOf (ending : String) : Option Form :=
  if ending = ".yaml" || ending = ".yml" then some .yaml
  else if ending = ".json" then some .json
  else none

example : formOf ".yml" = some .yaml := by decide

/-- The failure of parsing a file. -/
def parseFailure (p : Path) (why : String) : Failure :=
  .definition ("Failed to parse " ++ p.text ++ ": " ++ why)

/-- The failure of reading a file, in the words of definitions. -/
def readFailure (p : Path) (f : Failure) : Failure :=
  if f.isSystem || f.kind == .undecodable then
    .definition ("Failed to read " ++ p.text ++ ": " ++ f.message)
  else f

/-- The value of a text in a form. -/
def parseText (load : Yaml.Loader) (p : Path) (form : Form) (s : String) : Except Failure Value :=
  match form with
  | .yaml =>
    match load s with
    | .ok v => .ok v
    | .error (.failed f _) => .error f
    | .error (.noYaml words) => .error (parseFailure p words)
  | .json =>
    match Json.read s with
    | .ok v => .ok v
    | .error (.json e) => .error (parseFailure p e.message)
    | .error f => .error f

/-- The value of the bytes of a file. -/
def parseBytes (load : Yaml.Loader) (p : Path) (b : ByteArray) : Except Failure Value :=
  let ending := Text.lower p.suffix
  match formOf ending with
  | none => .error (.definition ("Unsupported topology definition format: " ++ ending))
  | some form =>
    match Site.decode b with
    | .ok s => parseText load p form s
    | .error f => .error (readFailure p f)

/-- The topology that a file defines. -/
def load (file : String) : Act Site Topology := do
  let p := Path.ofText file
  if ← Site.exists? p then
    match ← Act.attempt (Site.readBytes p) with
    | .error f => Act.fail (readFailure p f)
    | .ok b =>
      let v ← Act.ofExcept (parseBytes (← Act.world).yaml.load p b)
      Act.ofExcept (ofDefinition (if v.isTruthy then v else .map []))
  else Act.fail (.definition ("Topology definition not found: " ++ p.text))

end TopologySubmission.Topology
