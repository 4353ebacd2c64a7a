import TopologySubmission.Plugin.Interface
import TopologySubmission.Site.PathSetting
import TopologySubmission.Text.FileUri

/-!
# Uploading into a local directory

This uploader copies the package into a directory that serves as shared storage, and answers the place
of the copy as a file URI. Undoing removes the copy; it does nothing unless a package was uploaded.

    undoing without an upload changes nothing       (run_undo_of_not_uploaded)
-/

namespace TopologySubmission

/-! ## Algorithm -/

/-- What the uploader has in hand. -/
structure LocalUploader where
  package : Option Path := none
  destination : Option Path := none
  uploaded : Bool := false
  deriving Repr, Inhabited

namespace LocalUploader

/-- The failure of a use before the paths are known. -/
def notInitialized : Failure := .misuse (.notInitialized "Uploader")

/-- Makes the directory and copies the package. -/
def place (package destination : Path) : Act Site Unit := do
  Site.makeDirs destination.parent
  Site.copyFile package destination

section Uploading

variable {σ : Type} (site : Part σ Site) (own : Part σ LocalUploader)

/-- Learns the package and where it goes. -/
def configure (settings : Settings) : Act σ Unit := do
  let package ← Act.within site (Site.pathSetting settings Key.packageFile)
  Act.within own (Act.change fun u => { u with package := some package })
  let directory ← Act.within site (Site.pathSetting settings Key.uploadDirectory)
  Act.within own
    (Act.change fun u => { u with destination := some (directory.child package.name) })

/-- Copies a package that is there. -/
def copy (package destination : Path) : Act σ Value := do
  if ← Act.within site (Site.exists? destination) then
    Act.log .info
      ("Target package already exists at " ++ destination.text ++ ". Overwriting it")
  match ← Act.attempt (Act.within site (place package destination)) with
  | .error f =>
    if f.isSystem then
      Act.log .error
        ("Failed to copy " ++ package.text ++ " to " ++ destination.text ++ ": " ++ f.message)
      return .null
    else Act.fail f
  | .ok () =>
    Act.within own (Act.change fun u => { u with uploaded := true })
    Act.log .info ("Uploaded package to " ++ destination.text)
    let s ← Act.within site Act.world
    return .text (Text.fileUri (Site.absoluteText s destination))

/-- Copies the package; the place of the copy, or nothing. -/
def uploadPackage : Act σ Value := do
  let u ← Act.within own Act.world
  match u.package, u.destination with
  | some package, some destination =>
    if ← Act.within site (Site.isFile? package) then copy site own package destination
    else
      Act.log .error ("Topology package not found: " ++ package.text)
      return .null
  | _, _ => Act.fail notInitialized

/-- Removes the copy. -/
def remove (destination : Path) : Act σ Unit := do
  Act.log .info ("Removing uploaded package " ++ destination.text)
  Act.within site (Site.removeIfThere destination)
  Act.within own (Act.change fun u => { u with uploaded := false })

/-- Removes the copy, if there is one. -/
def undo : Act σ Unit := do
  let u ← Act.within own Act.world
  match u.uploaded, u.destination with
  | true, some destination => remove site own destination
  | _, _ => pure ()

/-- The uploader that copies into a directory of the site. -/
def uploader : Uploader σ where
  configure := configure site own
  uploadPackage := uploadPackage site own
  undo := undo site own
  close := pure ()

end Uploading

/-! ## Lemmas -/

/-- Undoing without an upload changes nothing. -/
theorem run_undo_of_not_uploaded (site : Part (Site × LocalUploader) Site)
    (c : Scene (Site × LocalUploader)) (h : c.world.2.uploaded = false) :
    Act.run (undo site ⟨Prod.snd, fun w u => (w.1, u)⟩) c = (.ok (), c) := by
  simp [undo, Act.run_bind, Act.run_within, h]

end LocalUploader

end TopologySubmission
