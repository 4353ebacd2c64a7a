import TopologySubmission.Plugin.Interface
import TopologySubmission.Site.PathSetting

/-!
# Uploading with scp

This uploader copies the package to a directory of another host with `scp`, after it has made the
directory there with `ssh`. Undoing removes the copy with `ssh`; it does nothing unless a package was
uploaded. What a shell of the other host reads is quoted, so that it reads back as one word.

    a text is one word of the line that a shell reads       (splitWords_shellWord)
-/

namespace TopologySubmission

/-! ## Algorithm -/

/-- What the uploader has in hand. The connections and the directory are kept as they were set. -/
structure ScpUploader where
  package : Option Path := none
  scpOptions : List String := []
  scpConnection : Value := .null
  sshOptions : List String := []
  sshConnection : Value := .null
  directory : Value := .null
  /-- The seconds that each command may take. -/
  timeout : Value := .int 300
  uploaded : Bool := false
  deriving Repr, Inhabited

namespace ScpUploader

/-- The failure of a use before the package is known. -/
def notInitialized : Failure := .misuse (.notInitialized "Uploader")

/-- The seconds that a command may take unless the settings say otherwise. -/
def defaultTimeout : Value := .int 300

/-- The settings that must have a value. -/
def requiredKeys : List String := [Key.scpConnection, Key.sshConnection, Key.scpDirectory]

/-- The words of options. -/
def optionWords (v : Value) : Except Failure (List String) := do
  let options ← if v.isTruthy then v.asText else .ok ""
  match Text.splitWords options with
  | .ok ws => return ws
  | .error e => throw (.badValue (.shellWords e))

/-- The seconds that a value writes. -/
def seconds (v : Value) : Except Failure Binary64 :=
  v.configured (Key.scpTimeout ++ " must be a number, got ") v.toReal

/-- A word as a shell reads it back. A value that counts as false is an empty word. -/
def shellWord (v : Value) : Except Failure String :=
  if v.isTruthy then
    match v with
    | .text s => .ok (Text.quoteWord s)
    | .bytes _ => .error (.wrongKind .bytesForText)
    | v => .error (.wrongKind (.searched v.kindName))
  else .ok (Text.quoteWord "")

/-- The words of a command as one line. -/
def commandLine (words : List Value) : Except Failure String := do
  return " ".intercalate (← words.mapM shellWord)

/-- The place of the package on the other host. -/
def destination (u : ScpUploader) : Except Failure String :=
  match u.directory with
  | .text s =>
    match u.package with
    | some p => .ok (Site.dropSlashes s ++ "/" ++ p.name)
    | none => .error (.noSuchPart "NoneType" "name")
  | .bytes _ => .error (.wrongKind (.unusable "bytes" "a text"))
  | v => .error (.noSuchPart v.kindName "rstrip")

/-- The command that a shell of the other host runs. -/
def overSsh (u : ScpUploader) (line : String) : List Value :=
  .text "ssh" :: u.sshOptions.map Value.text ++ [u.sshConnection, .text line]

/-- The command that copies the package. The connection must have a text. -/
def copyCommand (u : ScpUploader) (package : Path) (destination : String) : List Value :=
  .text "scp" :: u.scpOptions.map Value.text ++
    [.text package.text, .text (u.scpConnection.plain ++ ":" ++ destination)]

/-- The program that a command runs. -/
def program (words : List Value) : String := (words.head?.map Value.plain).getD ""

section Uploading

variable {σ : Type} (site : Part σ Site) (own : Part σ ScpUploader)

/-- What the uploader has in hand now. -/
def inHand : Act σ ScpUploader := Act.within own Act.world

/-- Changes what the uploader has in hand. -/
def remember (f : ScpUploader → ScpUploader) : Act σ Unit := Act.within own (Act.change f)

/-- Learns the connections, the options, the time limit and the package. -/
def configure (settings : Settings) : Act σ Unit := do
  remember own fun u =>
    { u with
      scpConnection := settings.get Key.scpConnection
      sshConnection := settings.get Key.sshConnection
      directory := settings.get Key.scpDirectory }
  match requiredKeys.filter fun k => !(settings.get k).isTruthy with
  | [] => pure ()
  | ks =>
    Act.fail (.configuration ("Scp uploader is missing config: " ++ ", ".intercalate ks))
  let scpOptions ← Act.ofExcept (optionWords (settings.get Key.scpOptions))
  remember own fun u => { u with scpOptions }
  let sshOptions ← Act.ofExcept (optionWords (settings.get Key.sshOptions))
  remember own fun u => { u with sshOptions }
  let limit ← Act.ofExcept (seconds ((settings.get? Key.scpTimeout).getD defaultTimeout))
  remember own fun u => { u with timeout := .float limit }
  if limit.isZeroOrLess then
    Act.fail (.configuration (Key.scpTimeout ++ " must be positive"))
  let package ← Act.within site (Site.pathSetting settings Key.packageFile)
  remember own fun u => { u with package := some package }

/-- Logs why a command did not end well. -/
def reportAnswer (line : String) (words : List Value) (timeout : Value) :
    CommandAnswer → Act σ Bool
  | .ended code errors => do
    if code = 0 then return true
    else
      Act.log .error ("Command failed with exit code " ++ toString code ++ ": " ++ line ++ "\n" ++
        Text.strip errors)
      return false
  | .timedOut => do
    Act.log .error ("Command timed out after " ++ timeout.plain ++ "s: " ++ line)
    return false
  | .stopped (.failure f) => do
    if f.isSystem then
      Act.log .error ("Failed to run " ++ program words ++ ": " ++ f.message)
      return false
    else Act.fail f
  | .stopped s => Act.stop s

/-- Runs a command; whether it ended well. -/
def run (words : List Value) : Act σ Bool := do
  let line ← Act.ofExcept (commandLine words)
  Act.log .debug ("Running: " ++ line)
  let timeout := (← inHand own).timeout
  let s ← Act.within site Act.world
  let (answer, s) := s.runCommand ⟨words, timeout⟩
  Act.within site (Act.setWorld s)
  reportAnswer line words timeout answer

/-- Makes the directory on the other host. -/
def makeDirectory : Act σ Bool := do
  let u ← inHand own
  let quoted ← Act.ofExcept (shellWord u.directory)
  if ← run site own (u.overSsh ("mkdir -p " ++ quoted)) then return true
  else
    Act.log .error ("Failed to create remote directory " ++ u.directory.plain)
    return false

/-- Copies the package to the other host. -/
def copy (package : Path) : Act σ Value := do
  let u ← inHand own
  let connection ← Act.ofExcept u.scpConnection.asText
  let destination ← Act.ofExcept u.destination
  if ← run site own (u.copyCommand package destination) then
    remember own fun u => { u with uploaded := true }
    return .text ("scp://" ++ connection ++ destination)
  else
    Act.log .error ("Failed to copy " ++ package.text ++ " to " ++ connection)
    return .null

/-- Copies the package; the place of the copy, or nothing. -/
def uploadPackage : Act σ Value := do
  match (← inHand own).package with
  | none => Act.fail notInitialized
  | some package =>
    if ← Act.within site (Site.isFile? package) then
      if ← makeDirectory site own then copy site own package else return .null
    else
      Act.log .error ("Topology package not found: " ++ package.text)
      return .null

/-- Removes the copy. -/
def remove (u : ScpUploader) : Act σ Unit := do
  let destination ← Act.ofExcept u.destination
  let quoted ← Act.ofExcept (shellWord (.text destination))
  if ← run site own (u.overSsh ("rm -f " ++ quoted)) then
    remember own fun u => { u with uploaded := false }
  else
    Act.fail (.ofClass .undoFailed
      ("Failed to remove " ++ destination ++ " on " ++ u.sshConnection.plain))

/-- Removes the copy, if there is one. -/
def undo : Act σ Unit := do
  let u ← inHand own
  if u.uploaded then remove site own u else pure ()

/-- The uploader that copies to another host. -/
def uploader : Uploader σ where
  configure := configure site own
  uploadPackage := uploadPackage site own
  undo := undo site own
  close := pure ()

end Uploading

/-! ## Lemmas -/

/-- A text becomes one word of the line that a shell reads. -/
theorem splitWords_shellWord (s w : String) (h : shellWord (.text s) = .ok w) :
    Text.splitWords w = .ok [s] := by
  have hw : w = Text.quoteWord s := by
    cases hs : s.isEmpty with
    | true =>
      simp only [shellWord, Value.isTruthy, hs, Bool.not_true] at h
      rw [String.isEmpty_iff.1 hs]
      exact (Except.ok.inj h).symm
    | false =>
      simp only [shellWord, Value.isTruthy, hs, Bool.not_false, if_true] at h
      exact (Except.ok.inj h).symm
  rw [hw]
  exact Text.splitWords_quoteWord s

end ScpUploader

end TopologySubmission
