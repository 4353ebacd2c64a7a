import TopologySubmission.Plugin.LaunchManifest
import TopologySubmission.Yaml.Meaning

/-!
# The YAML package of a site

YAML is read and written by a package that the site has. Of a package it is known what it is asked and
how it may answer: a text is read as a value, or it is no YAML, or a scalar in it fails in its own way;
a manifest has a text, or cannot be written. Nothing that is read holds itself.

The functions of this library that read and write YAML are such a package (`Package` by default). What
stands on the command line is kept as it is written where it means a row or a mapping, so nothing that
such a value holds is looked at (`scalarReader`).

    GivesDocuments load   what a text is read as is none of the read-only kinds
-/

namespace TopologySubmission.Yaml

/-! ## Algorithm -/

/-- Why a text is not read: it is no YAML, which is said in words of the package, or a value in it fails
in its own way, which is no error of a submission. -/
inductive Unread where
  | noYaml (words : String)
  | failed (f : Failure) (foreign : f.submissionError? = none)
  deriving Repr

/-- What reads the value of a text. -/
abbrev Loader := String → Except Unread Value

/-- What a text is read as is none of the read-only kinds. -/
def GivesDocuments (load : Loader) : Prop :=
  ∀ s v, load s = .ok v → (∀ xs, v ≠ .tuple xs) ∧ ∀ es, v ≠ .readOnlyMap es

/-- A fault, in the words of a package. -/
def Fault.asUnread : Fault → Unread
  | .malformed => .noYaml "not a YAML document"
  | .failed f h => .failed f h

/-- Reads the only document of a text. -/
def documentReader : Loader := fun s => (read s).mapError Fault.asUnread

/-- The value of a node, of which a row or a mapping is not read any further. -/
def Node.scalarOrEmpty (n : Node) : Except Fault Value :=
  if n.isCollection then .ok (.list []) else n.value

/-- Reads a text that should mean a single value; a row or a mapping is only told to be one. -/
def scalarReader : Loader := fun s =>
  match load s with
  | .ok none => .ok .null
  | .ok (some n) => n.scalarOrEmpty.mapError Fault.asUnread
  | .error e => .error e.asUnread

/-- What reads the files of a site and writes its manifests. -/
structure Package where
  load : Loader := documentReader
  /-- The text of the manifest of an execution state and a packing plan. -/
  dump : Entries → PackingPlan → Except Failure String := LaunchManifest.write

end TopologySubmission.Yaml
