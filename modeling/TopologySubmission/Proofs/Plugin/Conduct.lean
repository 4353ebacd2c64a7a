import TopologySubmission.Plugin.BuiltIn
import TopologySubmission.Proofs.Plugin.Node

/-!
# What the plugins of a workshop do

Each call of a local plugin, from a workshop given by its parts, with all that it may leave: the site
that it worked on, and what the plugin has in hand. Failures leave no more than the call came to do.

    the state manager learns its root and answers     (ends_configureState, ends_ask)
    the uploader learns its paths and copies          (ends_configureUploader, ends_upload)
    the launcher registers what it wrote              (ends_register, ends_writeManifest)
-/

namespace TopologySubmission.Workshop

open Act (Ends)
open FileTree (ways)
open LocalStore (nodePath nodeWays beside NodeWritten)

/-! ## Algorithm -/

/-- The uploader into a directory, at work in a workshop. -/
def localUploader : Uploader Workshop :=
  LocalUploader.uploader sitePart (uploaderPart.trans UploaderState.directoryPart)

/-- The launcher of a workshop. -/
def localLauncher : Launcher Workshop :=
  LocalLauncher.launcher sitePart launcherPart stateManager.access RoundRobin.packing

/-- The package was copied. -/
structure Copied (package destination : Path) (s s' : Site) : Prop where
  keeps : Site.Keeps {s.place destination} (ways s.cwd destination.parent) s s'
  reaches : s'.Reaches destination
  holds : ∃ b, s.Holds package b ∧ s'.Holds destination b

/-- The manifest was written in a directory. -/
structure ManifestWritten (dir : Path) (text : String) (s s' : Site) : Prop where
  keeps : Site.Keeps {s.place (dir.child LaunchManifest.fileName)} (ways s.cwd dir) s s'
  reaches : s'.Reaches (dir.child LaunchManifest.fileName)
  holds : s'.Holds (dir.child LaunchManifest.fileName) text.toUTF8

/-- A launcher with another registration. -/
def withRegistration (l : LocalLauncher) (r : Registration) : LocalLauncher :=
  { l with registrations := r :: l.registrations }

/-! ## Lemmas -/

variable {site : Site} {store : LocalStore} {uploader : UploaderState} {u : LocalUploader}
  {launcher : LocalLauncher} {settings : Settings} {root : Path}

/-! ### The state manager -/

theorem ends_configureState :
    Ends (stateManager.configure settings) ⟨site, store, uploader, launcher⟩
      (fun _ v => ∃ root s, site.settingPath? settings Key.stateRoot = some root ∧
        Site.Keeps ∅ (nodeWays site.cwd root) site s ∧
        v = ⟨s, ⟨some root, true⟩, uploader, launcher⟩)
      fun v => v = ⟨site, store, uploader, launcher⟩ ∨
        ∃ root s, site.settingPath? settings Key.stateRoot = some root ∧
          Site.Keeps ∅ (nodeWays site.cwd root) site s ∧
          v = ⟨s, { store with root := some root }, uploader, launcher⟩ := by
  refine .bind (.within ((Site.ends_pathSetting settings Key.stateRoot site).mono ?_ ?_))
  · rintro root _ ⟨rfl, hroot⟩
    refine .bind (.within (.change ?_))
    refine .bind (.within ((LocalStore.ends_prepareRoot settings root site).mono ?_ ?_))
    · intro _ s hs
      exact .bind (.within (.change (.log ⟨root, s, hroot, hs, rfl⟩)))
    · exact fun s hs => .inr ⟨root, s, hroot, hs, rfl⟩
  · rintro _ rfl
    exact .inl rfl

/-- A running check changes nothing. -/
theorem ends_ask (name : String) (timeout : Value) (w : Workshop) :
    Ends (stateManager.askRunning name timeout) w (fun _ v => w = v) (w = ·) := by
  refine .bind (.bind (.within (.getWorld (.ite (fun _ => ?_) fun _ => .fail rfl))))
  refine .bind (.bind (.within (.getWorld ?_)))
  obtain ⟨site, ⟨root, answers⟩, uploader, launcher⟩ := w
  cases root with
  | none => exact .fail rfl
  | some root =>
    refine .pure (.within ((LocalStore.ends_checkNode _ _).mono ?_ fun _ => False.elim))
    rintro a _ ⟨rfl, ⟨b, rfl⟩ | ⟨f, rfl⟩⟩
    · exact .pure rfl
    · exact .fail rfl

/-! ### The uploader -/

theorem ends_configureUploader :
    Ends (localUploader.configure settings) ⟨site, store, .toDirectory u, launcher⟩
      (fun _ v => ∃ package dir, site.settingPath? settings Key.packageFile = some package ∧
        site.settingPath? settings Key.uploadDirectory = some dir ∧
        v = ⟨site, store, .toDirectory { u with
          package := some package, destination := some (dir.child package.name) }, launcher⟩)
      fun v => ∃ package, v = ⟨site, store, .toDirectory { u with package }, launcher⟩ := by
  refine .bind (.within ((Site.ends_pathSetting settings Key.packageFile site).mono ?_ ?_))
  · rintro package _ ⟨rfl, hpackage⟩
    refine .bind (.within (.change ?_))
    refine .bind (.within ((Site.ends_pathSetting settings Key.uploadDirectory site).mono ?_ ?_))
    · rintro dir _ ⟨rfl, hdir⟩
      exact .within (.change ⟨package, dir, hpackage, hdir, rfl⟩)
    · rintro _ rfl
      exact ⟨some package, rfl⟩
  · rintro _ rfl
    exact ⟨u.package, rfl⟩

theorem ends_place (package destination : Path) (s : Site) :
    Ends (LocalUploader.place package destination) s (fun _ v => Copied package destination s v)
      fun v => Site.Keeps ∅ (ways s.cwd destination.parent) s v := by
  refine .bind ((Site.ends_makeDirs destination.parent s).mono (fun _ d hd => ?_) fun _ => id)
  refine (Site.ends_copyFile package destination d).mono ?_ fun _ h => h ▸ hd
  rintro _ v ⟨b, hb, hkeeps, hholds, hreaches⟩
  rw [hd.place] at hkeeps
  exact ⟨(hd.mono (Set.empty_subset _) subset_rfl).trans
    (hkeeps.mono subset_rfl (Set.empty_subset _)), hreaches, b,
    (hd.holds_iff (Set.notMem_empty _) b).mp hb, hholds⟩

/-- An upload copies the package and answers the place of the copy, or it changes no file. -/
theorem ends_upload :
    Ends localUploader.uploadPackage ⟨site, store, .toDirectory u, launcher⟩
      (fun x v =>
        (x = .null ∧ ∃ s, Site.Keeps ∅ {m | ∃ d, u.destination = some d ∧ m ∈ ways site.cwd d.parent}
          site s ∧ v = ⟨s, store, .toDirectory u, launcher⟩) ∨
        ∃ package destination s, u.package = some package ∧ u.destination = some destination ∧
          x = .text (Text.fileUri (Site.absoluteText site destination)) ∧
          Copied package destination site s ∧
          v = ⟨s, store, .toDirectory { u with uploaded := true }, launcher⟩)
      fun v => ∃ s, Site.Keeps ∅ {m | ∃ d, u.destination = some d ∧ m ∈ ways site.cwd d.parent}
        site s ∧ v = ⟨s, store, .toDirectory u, launcher⟩ := by
  refine .bind (.within (.getWorld ?_))
  obtain ⟨package, destination, uploaded⟩ := u
  have hsame := Site.Keeps.refl ∅
    {m | ∃ d, destination = some d ∧ m ∈ ways site.cwd d.parent} site
  cases package with
  | none => exact .fail ⟨site, hsame, rfl⟩
  | some package =>
    cases destination with
    | none => exact .fail ⟨site, hsame, rfl⟩
    | some destination =>
      have hways : ways site.cwd destination.parent ⊆
          {m | ∃ d, some destination = some d ∧ m ∈ ways site.cwd d.parent} := fun m hm =>
        ⟨destination, rfl, hm⟩
      refine .bind (.within ((Site.ends_isFile? package site).mono ?_ ?_))
      · rintro b _ rfl
        refine .ite (fun _ => ?_) fun _ => .bind (.log (.pure (.inl ⟨rfl, site, hsame, rfl⟩)))
        refine .bind (.within ((Site.ends_exists? destination site).mono ?_ ?_))
        · rintro there _ rfl
          dsimp only
          -- whether a file is there already makes no difference but to the log
          refine .ite (fun _ => .bind (.log ?_)) fun _ => ?_
          all_goals
            refine .bind (.attempt (.within ((ends_place package destination site).mono ?_ ?_)))
            · intro _ s hs
              refine .bind (.within (.change (.bind (.log (.bind (.within (.getWorld (.pure ?_))))))))
              refine .inr ⟨package, destination, s, rfl, rfl, ?_, hs, rfl⟩
              unfold Site.absoluteText
              rw [← hs.keeps.cwd]
              rfl
            · intro s hs f
              have hdirs := hs.mono subset_rfl hways
              exact .ite (fun _ => .bind (.log (.pure (.inl ⟨rfl, s, hdirs, rfl⟩)))) fun _ =>
                .fail ⟨s, hdirs, rfl⟩
        · rintro _ rfl
          exact ⟨site, hsame, rfl⟩
      · rintro _ rfl
        exact ⟨site, hsame, rfl⟩

/-- Undoing an upload removes the copy, if there is one. -/
theorem ends_undoUploader :
    Ends localUploader.undo ⟨site, store, .toDirectory u, launcher⟩
      (fun _ v => ((u.uploaded = false ∨ u.destination = none) ∧
          v = ⟨site, store, .toDirectory u, launcher⟩) ∨
        ∃ d s, u.uploaded = true ∧ u.destination = some d ∧ Site.Removed d site s ∧
          v = ⟨s, store, .toDirectory { u with uploaded := false }, launcher⟩)
      fun v => ∃ d s, u.uploaded = true ∧ u.destination = some d ∧ Site.Removed d site s ∧
        v = ⟨s, store, .toDirectory u, launcher⟩ := by
  refine .bind (.within (.getWorld ?_))
  obtain ⟨package, destination, uploaded⟩ := u
  cases uploaded with
  | false => exact .pure (.inl ⟨.inl rfl, rfl⟩)
  | true =>
    cases destination with
    | none => exact .pure (.inl ⟨.inr rfl, rfl⟩)
    | some d =>
      refine .bind (.log (.bind (.within ((Site.ends_removeIfThere d site).mono ?_ ?_))))
      · exact fun _ s hs => .within (.change (.inr ⟨d, s, rfl, rfl, hs, rfl⟩))
      · exact fun s hs => ⟨d, s, rfl, rfl, hs, rfl⟩

/-! ### The launcher -/

theorem ends_configureLauncher (runtime : Runtime) :
    Ends (localLauncher.configure settings runtime) ⟨site, store, uploader, launcher⟩
      (fun _ v => ∃ dir, site.settingPath? settings Key.workingDirectory = some dir ∧
        v = ⟨site, store, uploader,
          { launcher with settings, runtime := some runtime, workingDir := some dir }⟩)
      fun v => v = ⟨site, store, uploader,
        { launcher with settings, runtime := some runtime }⟩ := by
  refine .bind (.within (.change ?_))
  refine .bind (.within ((Site.ends_pathSetting settings Key.workingDirectory site).mono ?_ ?_))
  · rintro dir _ ⟨rfl, hdir⟩
    exact .within (.change ⟨dir, hdir, rfl⟩)
  · rintro _ rfl
    rfl

theorem ends_registered {done : Unit → Workshop → Prop} {failed : Workshop → Prop}
    {r : Registration} {w : Workshop}
    (h : done () { w with launcher := withRegistration w.launcher r }) :
    Ends (LocalLauncher.registered launcherPart r) w done failed := by
  unfold LocalLauncher.registered LocalLauncher.remember
  exact .within (.change h)

/-- A node is registered after it was written. -/
theorem ends_register (kind : NodeKind) (es : Entries) (name : String) :
    Ends (LocalLauncher.register launcherPart stateManager.access kind es name)
      ⟨site, store, uploader, launcher⟩
      (fun _ v => ∃ root s, store.root = some root ∧
        NodeWritten (nodePath root kind name) (.map es) site s ∧
        v = ⟨s, store, uploader, withRegistration launcher (.node kind name)⟩)
      fun v => v = ⟨site, store, uploader, launcher⟩ ∨
        ∃ root s, store.root = some root ∧
          Site.Keeps {site.place (beside (nodePath root kind name))}
            (ways site.cwd (nodePath root kind name).parent) site s ∧
          v = ⟨s, store, uploader, launcher⟩ := by
  refine .bind (.bind (.bind (.within (.getWorld ?_))))
  obtain ⟨root, answers⟩ := store
  cases root with
  | none => exact .fail (.inl rfl)
  | some root =>
    refine .pure (.within ((LocalStore.ends_writeNode _ _ site).mono ?_ ?_))
    · exact fun _ s hs => ends_registered ⟨root, s, rfl, hs, rfl⟩
    · exact fun s hs => .inr ⟨root, s, rfl, hs, rfl⟩

/-- The text of a manifest is made after the directory and before the file. -/
theorem ends_storeManifest (dir : Path) (state : Entries) (plan : PackingPlan) (s : Site) :
    Ends (LocalLauncher.storeManifest dir state plan) s
      (fun _ v => ∃ text, s.yaml.dump state plan = .ok text ∧ ManifestWritten dir text s v)
      fun v => Site.Keeps ∅ (ways s.cwd dir) s v := by
  refine .bind ((Site.ends_makeDirs dir s).mono (fun _ d hd => ?_) fun _ => id)
  refine .bind (.getWorld (.bind (.ofExcept (fun text htext => ?_) hd)))
  rw [hd.yaml] at htext
  refine (Site.ends_writeText _ text d).mono ?_ fun _ h => h ▸ hd
  rintro _ v ⟨hkeeps, hholds, hreaches⟩
  refine ⟨text, htext, ?_, hreaches, hholds⟩
  replace hkeeps : Site.Keeps {d.place (dir.child LaunchManifest.fileName)} ∅ d v := hkeeps
  rw [hd.place] at hkeeps
  exact (hd.mono (Set.empty_subset _) subset_rfl).trans
    (hkeeps.mono subset_rfl (Set.empty_subset _))

/-- The manifest is registered after it was written. -/
theorem ends_writeManifest (state : Entries) (plan : PackingPlan) :
    Ends (LocalLauncher.writeManifest sitePart launcherPart state plan)
      ⟨site, store, uploader, launcher⟩
      (fun m v => ∃ dir text s, launcher.workingDir = some dir ∧
        m = dir.child LaunchManifest.fileName ∧ site.yaml.dump state plan = .ok text ∧
        ManifestWritten dir text site s ∧
        v = ⟨s, store, uploader, withRegistration launcher (.manifest m)⟩)
      fun v => v = ⟨site, store, uploader, launcher⟩ ∨
        ∃ dir s, launcher.workingDir = some dir ∧ Site.Keeps ∅ (ways site.cwd dir) site s ∧
          v = ⟨s, store, uploader, launcher⟩ := by
  refine .bind (.within (.getWorld (.bind ?_)))
  obtain ⟨settings, runtime, dir, registrations⟩ := launcher
  cases dir with
  | none => exact .fail (.inl rfl)
  | some dir =>
    refine .pure (.bind (.within ((ends_storeManifest dir state plan site).mono ?_ ?_)))
    · rintro _ s ⟨text, htext, hs⟩
      exact .bind (ends_registered (.pure ⟨dir, text, s, rfl, rfl, htext, hs, rfl⟩))
    · exact fun s hs => .inr ⟨dir, s, rfl, hs, rfl⟩

end TopologySubmission.Workshop
