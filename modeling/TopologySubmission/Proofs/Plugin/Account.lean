import TopologySubmission.Proofs.Plugin.Conduct
import TopologySubmission.Proofs.Plugin.Layout

/-!
# What local plugins owe

The paths of an attempt with local plugins follow from the settings and the site (`Layout`). As long as
the topology is not marked as running, the plugins change no file but those that they may write, and
each file that they brought up is one that they have in hand to remove (`Kept`). Undoing removes those
files, so after it nothing is owed:

    each call of a stage keeps this, in success and failure       (kept_register, kept_launch, …)
    undoing leaves nothing owed                                   (ends_undoLauncher)
-/

namespace TopologySubmission

open FileTree (normalize ways)
open LocalStore (nodePath nodeWays beside NodeWritten)

/-! ## Algorithm -/

namespace Layout

variable (l : Layout)

/-- The path of what was registered. -/
def registeredPath : Registration → Option Path
  | .node kind _ => l.node kind
  | .manifest p => some p

/-- The paths of registrations. -/
def registeredPaths (rs : List Registration) : Set Path :=
  {p | ∃ r ∈ rs, l.registeredPath r = some p}

end Layout

/-- A site during an attempt, next to the site before it: the files that changed are among those that
the attempt may write, and a file that was not there before is owed, or is a file beside a node. -/
structure Account (l : Layout) (before : Site) (owed : Set Path) (s : Site) : Prop where
  cwd : s.cwd = l.cwd
  keeps : Site.Keeps (l.overwritten ∪ l.temporary) l.prepared before s
  files : ∀ m b, m ∉ l.temporary → s.tree.lookup m = some (.file b) →
    before.tree.lookup m = some (.file b) ∨ ∃ p ∈ owed, m = s.place p
  reaches : ∀ p ∈ owed, s.Reaches p

namespace Workshop

/-- A registration that can be retracted and is no mark of a running topology. -/
def Retractable (l : Layout) (store : LocalStore) : Registration → Prop
  | .node kind name => kind ≠ .topology ∧ name = l.name ∧ store.root.isSome = true
  | .manifest p => l.manifest = some p

/-- What the uploader has in hand to remove. -/
def owedUpload (l : Layout) (u : LocalUploader) : Set Path :=
  {p | u.uploaded = true ∧ l.copy = some p}

/-- What the uploader has in hand is what the layout says. -/
structure UploaderReady (l : Layout) (u : LocalUploader) : Prop where
  destination : ∀ d, u.destination = some d → l.copy = some d
  uploaded : u.uploaded = true → u.destination ≠ none

/-- What the launcher and the state manager have in hand is what the layout says. -/
structure LauncherReady (l : Layout) (store : LocalStore) (launcher : LocalLauncher) : Prop where
  root : ∀ root, store.root = some root → l.root = some root
  runtime : ∀ r, launcher.runtime = some r → r.topology.name = l.name
  workingDir : ∀ d, launcher.workingDir = some d → l.work = some d
  registrations : ∀ r ∈ launcher.registrations, Retractable l store r

/-- The plugins work on the paths of the layout and owe what they brought up. -/
inductive Kept (l : Layout) (before : Site) : Workshop → Prop
  | mk {site : Site} {store : LocalStore} {u : LocalUploader} {launcher : LocalLauncher} :
      UploaderReady l u → LauncherReady l store launcher →
      Account l before (owedUpload l u ∪ l.registeredPaths launcher.registrations) site →
      Kept l before ⟨site, store, .toDirectory u, launcher⟩

/-- The launcher works on the paths of the layout, and only what it registered is owed. -/
structure KeptLaunch (l : Layout) (before : Site) (w : Workshop) : Prop where
  ready : LauncherReady l w.store w.launcher
  account : Account l before (l.registeredPaths w.launcher.registrations) w.site

end Workshop

/-! ## Lemmas -/

variable {l : Layout} {before s s' : Site} {owed owed' : Set Path} {p : Path}
  {files dirs : Set Location} {settings : Settings} {name : String}

namespace Layout

theorem registeredPaths_cons (r : Registration) (rs : List Registration)
    (h : l.registeredPath r = some p) :
    l.registeredPaths (r :: rs) = insert p (l.registeredPaths rs) := by
  ext q
  constructor
  · rintro ⟨r', hr', hq⟩
    rcases List.mem_cons.mp hr' with rfl | hr'
    · exact .inl (Option.some.inj (hq.symm.trans h))
    · exact .inr ⟨r', hr', hq⟩
  · rintro (rfl | ⟨r', hr', hq⟩)
    · exact ⟨r, List.mem_cons_self, h⟩
    · exact ⟨r', List.mem_cons_of_mem r hr', hq⟩

end Layout

/-! ### Accounts -/

namespace Account

theorem start (h : before.cwd = l.cwd) : Account l before ∅ before :=
  ⟨h, .refl _ _ before, fun _ _ _ => .inl, fun _ h => h.elim⟩

theorem settingPath? (h : Account l before owed s) (settings : Settings) (key : String) :
    s.settingPath? settings key = before.settingPath? settings key :=
  h.keeps.settingPath? settings key

/-- Directories may come up, and files beside nodes may change. -/
theorem keep (h : Account l before owed s) (hk : Site.Keeps files dirs s s')
    (hf : files ⊆ l.temporary) (hd : dirs ⊆ l.prepared) : Account l before owed s' where
  cwd := hk.cwd.trans h.cwd
  keeps := h.keeps.trans (hk.mono (hf.trans Set.subset_union_right) hd)
  files m b hm hb := by
    rw [hk.tree.file_iff (fun hmf => hm (hf hmf))] at hb
    refine (h.files m b hm hb).imp_right ?_
    rintro ⟨p, hp, rfl⟩
    exact ⟨p, hp, (hk.place p).symm⟩
  reaches p hp := hk.reaches (h.reaches p hp)

/-- A file that the attempt may write comes to be owed. -/
theorem write (h : Account l before owed s) (hk : Site.Keeps files dirs s s')
    (hf : files ⊆ insert (s.place p) l.temporary) (hp : s.place p ∈ l.overwritten)
    (hd : dirs ⊆ l.prepared) (hr : s'.Reaches p) : Account l before (insert p owed) s' where
  cwd := hk.cwd.trans h.cwd
  keeps := by
    refine h.keeps.trans (hk.mono (hf.trans ?_) hd)
    rw [Set.insert_subset_iff]
    exact ⟨.inl hp, Set.subset_union_right⟩
  files m b hm hb := by
    by_cases hmp : m = s.place p
    · exact .inr ⟨p, .inl rfl, hmp.trans (hk.place p).symm⟩
    · rw [hk.tree.file_iff fun hmf => (hf hmf).elim hmp hm] at hb
      refine (h.files m b hm hb).imp_right ?_
      rintro ⟨q, hq, rfl⟩
      exact ⟨q, .inr hq, (hk.place q).symm⟩
  reaches q hq := by
    rcases hq with rfl | hq
    · exact hr
    · exact hk.reaches (h.reaches q hq)

/-- A file that was owed is removed. -/
theorem removed (h : Account l before owed s) (hr : Site.Removed p s s') (hp : p ∈ owed)
    (hw : s.place p ∈ l.overwritten) (hsub : owed' ⊆ owed) (hsup : owed ⊆ insert p owed') :
    Account l before owed' s' where
  cwd := hr.keeps.cwd.trans h.cwd
  keeps := h.keeps.trans (hr.keeps.mono (Set.singleton_subset_iff.mpr (.inl hw))
    (Set.empty_subset _))
  files m b hm hb := by
    have hmp : m ≠ s.place p := by
      rintro rfl
      rw [← hr.keeps.place] at hb
      exact hr.gone (h.reaches p hp) b hb
    rw [hr.keeps.tree.file_iff hmp] at hb
    refine (h.files m b hm hb).imp_right ?_
    rintro ⟨q, hq, rfl⟩
    rcases hsup hq with rfl | hq
    · exact absurd rfl hmp
    · exact ⟨q, hq, (hr.keeps.place q).symm⟩
  reaches q hq := hr.keeps.reaches (h.reaches q (hsub hq))

/-- Where nothing marks a topology as running nothing does so later. -/
theorem unmarked (h : Account l before owed s) (hapart : l.Apart)
    (hname : Topology.isName l.name = true) (hp : l.node .topology = some p)
    (hbefore : before.tree.lookup (normalize l.cwd p) = none) :
    s.tree.lookup (normalize l.cwd p) = none := by
  have hwritten : normalize l.cwd p ∉ l.overwritten ∪ l.temporary := by
    rintro (hm | hm)
    · exact hapart.place_notMem (t := .node .topology) hp (by decide) hm
    · exact hapart.place_notMem (t := .node .topology) hp (by decide) hm
  rcases h.keeps.tree.other _ hwritten with he | ⟨-, -, hm⟩
  · rw [he, hbefore]
  · exact absurd hm (hapart.node_notMem_prepared hname hp)

end Account

/-! ### Calls -/

namespace Workshop

open Act (Ends)

variable {w : Workshop}

theorem LauncherReady.withRoot {store : LocalStore} {launcher : LocalLauncher} {root : Path}
    {answers : Bool} (h : LauncherReady l store launcher) (hroot : l.root = some root) :
    LauncherReady l ⟨some root, answers⟩ launcher where
  root r hr := by
    cases hr
    exact hroot
  runtime := h.runtime
  workingDir := h.workingDir
  registrations r hr := by
    have := h.registrations r hr
    cases r with
    | node kind name => exact ⟨this.1, this.2.1, rfl⟩
    | manifest p => exact this

/-- To configure the state manager changes no file. -/
theorem account_configureState (hl : l = Layout.ofSite before settings name)
    (h : Account l before owed w.site) :
    Ends (stateManager.configure settings) w (fun _ v => Account l before owed v.site)
      fun v => Account l before owed v.site := by
  have hsite : ∀ root s, w.site.settingPath? settings Key.stateRoot = some root →
      Site.Keeps ∅ (nodeWays w.site.cwd root) w.site s → Account l before owed s := by
    intro root s hr hs
    rw [h.settingPath?] at hr
    refine h.keep hs (Set.empty_subset _) ?_
    rw [h.cwd]
    exact Layout.root_prepared (by rw [hl]; exact hr)
  refine ends_configureState.mono ?_ ?_
  · rintro _ _ ⟨root, s, hr, hs, rfl⟩
    exact hsite root s hr hs
  · rintro _ (rfl | ⟨root, s, hr, hs, rfl⟩)
    · exact h
    · exact hsite root s hr hs

theorem kept_configureState (hl : l = Layout.ofSite before settings name) (h : Kept l before w) :
    Ends (stateManager.configure settings) w (fun _ v => Kept l before v) (Kept l before) := by
  obtain @⟨site, store, u, launcher, hu, hready, haccount⟩ := h
  have hroot : ∀ root, site.settingPath? settings Key.stateRoot = some root →
      l.root = some root := by
    intro root hr
    rw [haccount.settingPath?] at hr
    rw [hl]
    exact hr
  have hsite := account_configureState hl (w := ⟨site, store, .toDirectory u, launcher⟩) haccount
  refine (ends_configureState.and hsite).mono ?_ ?_
  · rintro _ _ ⟨⟨root, s, hr, -, rfl⟩, hs⟩
    exact .mk hu (hready.withRoot (hroot root hr)) hs
  · rintro _ ⟨rfl | ⟨root, s, hr, -, rfl⟩, hs⟩
    · exact .mk hu hready hs
    · exact .mk hu (hready.withRoot (hroot root hr)) hs

theorem kept_ask (name : String) (timeout : Value) (h : Kept l before w) :
    Ends (stateManager.askRunning name timeout) w (fun _ v => Kept l before v) (Kept l before) :=
  (ends_ask name timeout w).mono (fun _ _ hv => hv ▸ h) fun _ hv => hv ▸ h

theorem kept_configureUploader (hl : l = Layout.ofSite before settings name)
    (h : Kept l before w) :
    Ends (localUploader.configure settings) w (fun _ v => Kept l before v) (Kept l before) := by
  obtain @⟨site, store, u, launcher, hu, hready, haccount⟩ := h
  refine ends_configureUploader.mono ?_ ?_
  · rintro _ _ ⟨package, dir, hpackage, hdir, rfl⟩
    refine .mk ⟨?_, fun _ => nofun⟩ hready haccount
    rintro _ ⟨⟩
    rw [haccount.settingPath?] at hpackage hdir
    rw [hl, Layout.copy]
    simp only [Layout.ofSite, hpackage, hdir]
  · rintro _ ⟨package, rfl⟩
    exact .mk ⟨hu.destination, hu.uploaded⟩ hready haccount

/-- After an upload the copy is owed. -/
theorem owedUpload_of_uploaded {u : LocalUploader} {rest : Set Path} (h : l.copy = some p) :
    insert p (owedUpload l u ∪ rest) = owedUpload l { u with uploaded := true } ∪ rest := by
  ext q
  constructor
  · rintro (rfl | ⟨-, hq⟩ | hq)
    · exact .inl ⟨rfl, h⟩
    · exact .inl ⟨rfl, hq⟩
    · exact .inr hq
  · rintro (⟨-, hq⟩ | hq)
    · exact .inl (Option.some.inj (hq.symm.trans h))
    · exact .inr (.inr hq)

theorem kept_upload (h : Kept l before w) :
    Ends localUploader.uploadPackage w (fun _ v => Kept l before v) (Kept l before) := by
  obtain @⟨site, store, u, launcher, hu, hready, haccount⟩ := h
  have hfailed : ∀ s,
      Site.Keeps ∅ {m | ∃ d, u.destination = some d ∧ m ∈ ways site.cwd d.parent} site s →
      Kept l before ⟨s, store, .toDirectory u, launcher⟩ := by
    intro s hs
    refine .mk hu hready (haccount.keep hs (Set.empty_subset _) ?_)
    rintro m ⟨d, hd, hm⟩
    rw [haccount.cwd] at hm
    exact Layout.copy_prepared (hu.destination d hd) hm
  refine ends_upload.mono ?_ ?_
  · rintro x _ (⟨-, s, hs, rfl⟩ | ⟨package, d, s, -, hd, -, hs, rfl⟩)
    · exact hfailed s hs
    · refine .mk ⟨hu.destination, fun _ => by simp [hd]⟩ hready ?_
      have hwritten := haccount.write hs.keeps (Set.singleton_subset_iff.mpr (.inl rfl))
        (Layout.copy_mem (hu.destination d hd) haccount.cwd)
        (haccount.cwd ▸ Layout.copy_prepared (hu.destination d hd)) hs.reaches
      rwa [owedUpload_of_uploaded (hu.destination d hd)] at hwritten
  · rintro _ ⟨s, hs, rfl⟩
    exact hfailed s hs

theorem kept_configureLauncher (hl : l = Layout.ofSite before settings name) {runtime : Runtime}
    (hname : runtime.topology.name = name) (h : Kept l before w) :
    Ends (localLauncher.configure settings runtime) w (fun _ v => Kept l before v)
      (Kept l before) := by
  obtain @⟨site, store, u, launcher, hu, hready, haccount⟩ := h
  have hruntime : ∀ r, some runtime = some r → r.topology.name = l.name := by
    rintro _ ⟨⟩
    rw [hname, hl]
    rfl
  refine (ends_configureLauncher runtime).mono ?_ ?_
  · rintro _ _ ⟨dir, hdir, rfl⟩
    refine .mk hu ⟨hready.root, hruntime, ?_, hready.registrations⟩ haccount
    rintro _ ⟨⟩
    rw [haccount.settingPath?] at hdir
    rw [hl]
    exact hdir
  · rintro _ rfl
    exact .mk hu ⟨hready.root, hruntime, hready.workingDir, hready.registrations⟩ haccount

theorem LauncherReady.withRegistration {store : LocalStore} {launcher : LocalLauncher}
    {r : Registration} (h : LauncherReady l store launcher) (hr : Retractable l store r) :
    LauncherReady l store (withRegistration launcher r) where
  root := h.root
  runtime := h.runtime
  workingDir := h.workingDir
  registrations r' hr' := by
    rcases List.mem_cons.mp hr' with rfl | hr'
    · exact hr
    · exact h.registrations r' hr'

/-- A node that was not written leaves at most the file beside it. -/
theorem kept_of_register_failed {kind : NodeKind} {site : Site} {store : LocalStore}
    {u : LocalUploader} {launcher : LocalLauncher}
    (hu : UploaderReady l u) (hready : LauncherReady l store launcher)
    (haccount : Account l before
      (owedUpload l u ∪ l.registeredPaths launcher.registrations) site) {v : Workshop}
    (hv : v = ⟨site, store, .toDirectory u, launcher⟩ ∨ ∃ root s, store.root = some root ∧
      Site.Keeps {site.place (beside (nodePath root kind l.name))}
        (ways site.cwd (nodePath root kind l.name).parent) site s ∧
      v = ⟨s, store, .toDirectory u, launcher⟩) : Kept l before v := by
  rcases hv with rfl | ⟨root, s, hroot, hs, rfl⟩
  · exact .mk hu hready haccount
  · have hnode : l.node kind = some (nodePath root kind l.name) := by
      rw [Layout.node, hready.root root hroot]
      rfl
    exact .mk hu hready (haccount.keep hs
      (Set.singleton_subset_iff.mpr (Layout.beside_mem hnode haccount.cwd))
      (haccount.cwd ▸ Layout.node_prepared hnode))

theorem kept_register {kind : NodeKind} (hk : kind ≠ .topology) (es : Entries)
    (h : Kept l before w) :
    Ends (LocalLauncher.register launcherPart stateManager.access kind es l.name) w
      (fun _ v => Kept l before v) (Kept l before) := by
  obtain @⟨site, store, u, launcher, hu, hready, haccount⟩ := h
  refine (ends_register kind es l.name).mono ?_ fun v => kept_of_register_failed hu hready haccount
  rintro _ _ ⟨root, s, hroot, hs, rfl⟩
  have hnode : l.node kind = some (nodePath root kind l.name) := by
    rw [Layout.node, hready.root root hroot]
    rfl
  refine .mk hu (hready.withRegistration ⟨hk, rfl, by rw [hroot]; rfl⟩) ?_
  have hwritten := haccount.write hs.keeps ?_ (Layout.node_mem hk hnode haccount.cwd)
    (haccount.cwd ▸ Layout.node_prepared hnode) hs.reaches
  · show Account l before (_ ∪ l.registeredPaths (.node kind l.name :: launcher.registrations)) s
    rwa [Layout.registeredPaths_cons (.node kind l.name) _ hnode, Set.union_insert]
  · rw [Set.insert_subset_iff, Set.singleton_subset_iff]
    exact ⟨.inr (Layout.beside_mem hnode haccount.cwd), .inl rfl⟩

theorem kept_writeManifest (state : Entries) (plan : PackingPlan) (h : Kept l before w) :
    Ends (LocalLauncher.writeManifest sitePart launcherPart state plan) w
      (fun _ v => Kept l before v) (Kept l before) := by
  obtain @⟨site, store, u, launcher, hu, hready, haccount⟩ := h
  refine (ends_writeManifest state plan).mono ?_ ?_
  · rintro _ _ ⟨dir, text, s, hdir, rfl, -, hs, rfl⟩
    have hwork := hready.workingDir dir hdir
    have hmanifest : l.manifest = some (dir.child LaunchManifest.fileName) := by
      rw [Layout.manifest, hwork]
      rfl
    refine .mk hu (hready.withRegistration hmanifest) ?_
    have hwritten := haccount.write hs.keeps (Set.singleton_subset_iff.mpr (.inl rfl))
      (Layout.manifest_mem hmanifest haccount.cwd) (haccount.cwd ▸ Layout.work_prepared hwork)
      hs.reaches
    show Account l before (_ ∪ l.registeredPaths (_ :: launcher.registrations)) s
    rwa [Layout.registeredPaths_cons _ _ rfl, Set.union_insert]
  · rintro _ (rfl | ⟨dir, s, hdir, hs, rfl⟩)
    · exact .mk hu hready haccount
    · exact .mk hu hready (haccount.keep hs (Set.empty_subset _)
        (haccount.cwd ▸ Layout.work_prepared (hready.workingDir dir hdir)))

/-- Up to the node that marks the topology as running, all is kept. -/
theorem kept_registerAll (settings : Settings) {r : Runtime} (plan : PackingPlan)
    (hr : r.topology.name = l.name) (h : Kept l before w) :
    Ends (LocalLauncher.registerAll sitePart launcherPart stateManager.access settings r plan) w
      (fun _ _ => True) (Kept l before) := by
  refine .bind (.within (.getWorld (.bind (.ofExcept (fun state _ => ?_) h))))
  rw [hr]
  refine .bind ((kept_register (by decide) _ h).mono (fun _ _ h => ?_) fun _ => id)
  refine .bind ((kept_register (by decide) _ h).mono (fun _ _ h => ?_) fun _ => id)
  refine .bind ((kept_writeManifest _ _ h).mono (fun _ _ h => ?_) fun _ => id)
  refine .bind (.ofExcept (fun es _ => .bind ?_) h)
  obtain @⟨site, store, u, launcher, hu, hready, haccount⟩ := h
  exact (ends_register .topology es l.name).mono (fun _ _ _ => .log trivial) fun v =>
    kept_of_register_failed hu hready haccount

/-- A launch that did not come about keeps all. -/
theorem kept_launch (h : Kept l before w) :
    Ends localLauncher.launch w (fun x v => x.isTruthy = false → Kept l before v)
      (Kept l before) := by
  refine .bind (.within (.getWorld ?_))
  have hruntime : ∀ r, w.launcher.runtime = some r → r.topology.name = l.name := by
    obtain ⟨-, hready, -⟩ := h
    exact hready.runtime
  obtain ⟨site, store, uploader, settings, runtime, workingDir, registrations⟩ := w
  cases runtime with
  | none => exact .fail h
  | some r =>
    refine .bind (.pure (.bind (.bind (.ofExcept (fun cs _ => .bind (.log ?_)) h))))
    refine .ofExcept (fun plan _ => .ite (fun _ => .bind (.log (.pure fun _ => h))) fun _ => ?_) h
    exact .bind ((kept_registerAll settings plan (hruntime r rfl) h).mono
      (fun _ _ _ => .pure nofun) fun _ => id)

/-! ### Undoing -/

/-- Retracting a registration removes its path. -/
theorem ends_retract (site : Site) (uploader : UploaderState) (launcher : LocalLauncher)
    {store : LocalStore} {r : Registration} (hroot : ∀ root, store.root = some root →
      l.root = some root) (hr : Retractable l store r) :
    ∃ p, l.registeredPath r = some p ∧
      Ends (LocalLauncher.retract sitePart stateManager.access r) ⟨site, store, uploader, launcher⟩
        (fun _ v => ∃ s, Site.Removed p site s ∧ v = ⟨s, store, uploader, launcher⟩)
        fun v => ∃ s, Site.Removed p site s ∧ v = ⟨s, store, uploader, launcher⟩ := by
  cases r with
  | manifest p =>
    refine ⟨p, rfl, ?_⟩
    show Ends (Act.within sitePart (Site.removeIfThere p)) _ _ _
    refine .within ((Site.ends_removeIfThere p site).mono ?_ ?_)
    · exact fun _ s hs => ⟨s, hs, rfl⟩
    · exact fun s hs => ⟨s, hs, rfl⟩
  | node kind name =>
    obtain ⟨hk, rfl, hsome⟩ := hr
    obtain ⟨root, answers⟩ := store
    cases root with
    | none => cases hsome
    | some root =>
      refine ⟨nodePath root kind l.name, ?_, ?_⟩
      · rw [Layout.registeredPath, Layout.node, hroot root rfl]
        rfl
      · refine .bind (.bind (.within (.getWorld (.pure ?_))))
        refine .within ((Site.ends_removeIfThere _ site).mono ?_ ?_)
        · exact fun _ s hs => ⟨s, hs, rfl⟩
        · exact fun s hs => ⟨s, hs, rfl⟩

/-- Retracting all registrations leaves nothing owed, whether or not it succeeds. -/
theorem ends_retractAll {store : LocalStore} {uploader : UploaderState}
    (hroot : ∀ root, store.root = some root → l.root = some root) (name : String)
    (rs : List Registration) : ∀ (site : Site) (launcher : LocalLauncher),
    (∀ r ∈ rs, Retractable l store r) → Account l before (l.registeredPaths rs) site →
    Ends (LocalLauncher.retractAll sitePart launcherPart stateManager.access name rs)
      ⟨site, store, uploader, launcher⟩ (fun _ v => Account l before ∅ v.site)
      fun v => Account l before ∅ v.site := by
  induction rs with
  | nil =>
    intro site launcher _ h
    have hnone : l.registeredPaths [] = ∅ := by
      ext p
      simp [Layout.registeredPaths]
    exact .pure (hnone ▸ h)
  | cons r rs ih =>
    intro site launcher hrs h
    have hrest : ∀ r' ∈ rs, Retractable l store r' := fun r' hr' =>
      hrs r' (List.mem_cons_of_mem r hr')
    have hr := hrs r List.mem_cons_self
    obtain ⟨p, hp, hretract⟩ := ends_retract site uploader
      { launcher with registrations := rs } hroot hr
    have hremoved : ∀ s, Site.Removed p site s → Account l before (l.registeredPaths rs) s := by
      intro s hs
      rw [Layout.registeredPaths_cons r rs hp] at h
      refine h.removed hs (.inl rfl) ?_ (Set.subset_insert _ _) subset_rfl
      cases r with
      | manifest p' =>
        cases hp
        exact Layout.manifest_mem hr h.cwd
      | node kind name => exact Layout.node_mem hr.1 hp h.cwd
    refine .bind (.within (.change (.bind (.log (.bind (.attempt (hretract.mono ?_ ?_)))))))
    · rintro _ _ ⟨s, hs, rfl⟩
      exact ih s _ hrest (hremoved s hs)
    · rintro _ ⟨s, hs, rfl⟩ f
      exact .bind (.log (.bind ((ih s _ hrest (hremoved s hs)).mono (fun _ _ h => .pure h)
        fun _ => id)))

/-- When the launcher undoes its launch and nothing else is owed, nothing is left owed. -/
theorem ends_undoLauncher (h : KeptLaunch l before w) :
    Ends localLauncher.undo w (fun _ v => Account l before ∅ v.site)
      fun v => Account l before ∅ v.site := by
  obtain ⟨site, store, uploader, launcher⟩ := w
  refine .bind (.within (.getWorld (.bind ?_)))
  refine (ends_retractAll h.ready.root _ launcher.registrations site launcher
    h.ready.registrations h.account).mono (fun failures v hv => ?_) fun _ => id
  cases failures with
  | nil => exact .pure hv
  | cons _ _ => exact .fail hv

/-- When the uploader undoes its upload, what the launcher registered is still owed. -/
theorem kept_undoUploader (h : Kept l before w) :
    Ends localUploader.undo w (fun _ v => KeptLaunch l before v) (KeptLaunch l before) := by
  obtain @⟨site, store, u, launcher, hu, hready, haccount⟩ := h
  have hremoved : ∀ d s, u.uploaded = true → u.destination = some d → Site.Removed d site s →
      Account l before (l.registeredPaths launcher.registrations) s := by
    intro d s hup hd hs
    have hcopy := hu.destination d hd
    refine haccount.removed hs (.inl ⟨hup, hcopy⟩) (Layout.copy_mem hcopy haccount.cwd)
      Set.subset_union_right ?_
    rintro q (⟨-, hq⟩ | hq)
    · exact .inl (Option.some.inj (hq.symm.trans hcopy))
    · exact .inr hq
  refine ends_undoUploader.mono ?_ ?_
  · rintro _ _ (⟨hnone, rfl⟩ | ⟨d, s, hup, hd, hs, rfl⟩)
    · have hnot : ¬ u.uploaded = true := by
        rcases hnone with hup | hd
        · simp [hup]
        · exact fun hup => hu.uploaded hup hd
      have hempty : owedUpload l u = ∅ := by
        ext q
        simp [owedUpload, hnot]
      rw [hempty, Set.empty_union] at haccount
      exact ⟨hready, haccount⟩
    · exact ⟨hready, hremoved d s hup hd hs⟩
  · rintro _ ⟨d, s, hup, hd, hs, rfl⟩
    exact ⟨hready, hremoved d s hup hd hs⟩

end Workshop

end TopologySubmission
