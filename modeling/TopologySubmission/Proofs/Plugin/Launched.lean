import TopologySubmission.Proofs.Plugin.Conduct
import TopologySubmission.Proofs.Plugin.Layout

/-!
# What a launch leaves

An attempt writes five files and leaves each of them as it was written, if its files are apart: every
later step writes other files only. A launch writes the last four of them, the mark of a running
topology at the end:

    a step adds its file to those that show what was written     (Shown.write)
    after a launch all files show what was written                (ends_launch)
-/

namespace TopologySubmission

open Act (Ends)
open Layout (Target)
open LocalStore (nodePath nodeText NodeWritten)

namespace Workshop

section
variable (l : Layout) (settings : Settings) (topology : Topology) (before : Site)

/-! ## Algorithm -/

/-- What the launcher is given in an attempt, for a copy of the package. -/
def runtimeOf (copy : Path) : Runtime where
  topologyId := topology.id
  topologyName := topology.name
  topology := topology
  packageUri := .text (Text.fileUri (Site.absoluteText before copy))

/-- The state of the topology that an attempt submits, for a copy of the package. -/
def stateOf (copy : Path) : Except Failure Entries :=
  LocalLauncher.executionState before settings (runtimeOf topology before copy)

/-- What an attempt writes to each of its files. -/
inductive Writes : Target → ByteArray → Prop
  | copy {package : Path} {b : ByteArray} :
      l.package = some package → before.Holds package b → Writes .copy b
  | executionState {copy : Path} {state : Entries} {text : String} :
      l.copy = some copy → stateOf settings topology before copy = .ok state →
      nodeText (.map state) = .ok text → Writes (.node .executionState) text.toUTF8
  | packingPlan {plan : PackingPlan} {text : String} :
      RoundRobin.plan topology = .ok plan → nodeText (.map plan.toEntries) = .ok text →
      Writes (.node .packingPlan) text.toUTF8
  | manifest {copy : Path} {state : Entries} {plan : PackingPlan} {text : String} :
      l.copy = some copy → stateOf settings topology before copy = .ok state →
      RoundRobin.plan topology = .ok plan → before.yaml.dump state plan = .ok text →
      Writes .manifest text.toUTF8
  | topology {es : Entries} {text : String} :
      topology.toEntries = .ok es → nodeText (.map es) = .ok text →
      Writes (.node .topology) text.toUTF8

/-- The files that were done show what the attempt wrote to them, on a site that differs from the one
before in nothing but its files. -/
structure Shown (done : List Target) (s : Site) : Prop where
  cwd : s.cwd = l.cwd
  rest : s = { before with tree := s.tree }
  shows : ∀ t ∈ done, ∃ p b, l.path? t = some p ∧ Writes l settings topology before t b ∧
    s.Shows p b

end

/-! ## Lemmas -/

variable {l : Layout} {settings : Settings} {topology : Topology} {before s s' : Site}
  {done ts : List Target} {files dirs : Set Location} {t : Target} {p root dir copy : Path}
  {b : ByteArray}

/-! ### Writing one file after another -/

namespace Shown

/-- Before anything is written, directories may be made. -/
theorem start (hcwd : before.cwd = l.cwd) (h : Site.Keeps files dirs before s) :
    Shown l settings topology before [] s := ⟨h.cwd.trans hcwd, h.rest, nofun⟩

/-- A step adds its file to those that show what was written, and writes none of those. -/
theorem write (h : Shown l settings topology before done s) (hapart : l.Apart)
    (hk : Site.Keeps (l.places ts) dirs s s') (hts : ∀ t ∈ done, t ∉ ts) (hp : l.path? t = some p)
    (hb : Writes l settings topology before t b) (hshows : s'.Shows p b) :
    Shown l settings topology before (t :: done) s' where
  cwd := hk.cwd.trans h.cwd
  rest := by rw [hk.rest, h.rest]
  shows u hu := by
    rcases List.mem_cons.mp hu with rfl | hu
    · exact ⟨p, b, hp, hb, hshows⟩
    · obtain ⟨q, c, hq, hc, hshown⟩ := h.shows u hu
      exact ⟨q, c, hq, hc, hapart.shows_of_keeps h.cwd hk hq (hts u hu) hshown⟩

/-- A package was copied. -/
theorem copied {package : Path} (h : Shown l settings topology before [] s) (hapart : l.Apart)
    (hpackage : l.package = some package) (hcopy : l.copy = some copy)
    (hk : Copied package copy s s') (hbefore : ∀ b, s.Holds package b → before.Holds package b) :
    Shown l settings topology before [.copy] s' := by
  obtain ⟨b, hb, hholds⟩ := hk.holds
  have hfiles : {s.place copy} ⊆ l.places [.copy] :=
    Set.singleton_subset_iff.mpr (Layout.mem_places (t := .copy) (by simp) hcopy h.cwd)
  exact h.write hapart (hk.keeps.mono hfiles subset_rfl) nofun hcopy
    (.copy hpackage (hbefore b hb)) ⟨hk.reaches, hholds⟩

/-- A node was written. -/
theorem nodeWritten {kind : NodeKind} {es : Entries} (h : Shown l settings topology before done s)
    (hapart : l.Apart) (hnode : l.node kind = some p) (hk : NodeWritten p (.map es) s s')
    (hdone : ∀ t ∈ done, t ∉ [Target.node kind, .beside kind])
    (hb : ∀ text, nodeText (.map es) = .ok text →
      Writes l settings topology before (.node kind) text.toUTF8) :
    Shown l settings topology before (.node kind :: done) s' := by
  obtain ⟨text, htext, hholds⟩ := hk.holds
  refine h.write hapart (hk.keeps.mono ?_ subset_rfl) hdone hnode (hb text htext)
    ⟨hk.reaches, hholds⟩
  rw [Set.insert_subset_iff, Set.singleton_subset_iff]
  exact ⟨Layout.mem_places (t := .beside kind) (by simp) (by rw [Layout.path?, hnode]; rfl) h.cwd,
    Layout.mem_places (t := .node kind) (by simp) hnode h.cwd⟩

/-- The manifest was written. -/
theorem manifestWritten {text : String} (h : Shown l settings topology before done s)
    (hapart : l.Apart) (hdir : l.work = some dir)
    (hb : Writes l settings topology before .manifest text.toUTF8)
    (hk : ManifestWritten dir text s s') (hdone : ∀ t ∈ done, t ∉ [Target.manifest]) :
    Shown l settings topology before (.manifest :: done) s' := by
  have hmanifest : l.path? .manifest = some (dir.child LaunchManifest.fileName) := by
    rw [Layout.path?, Layout.manifest, hdir]
    rfl
  refine h.write hapart (hk.keeps.mono ?_ subset_rfl) hdone hmanifest hb ⟨hk.reaches, hk.holds⟩
  exact Set.singleton_subset_iff.mpr (Layout.mem_places (by simp) hmanifest h.cwd)

end Shown

/-! ### A launch -/

section
variable {site : Site} {store : LocalStore} {uploader : UploaderState} {launcher : LocalLauncher}

/-- Registering writes the nodes and the manifest, the mark of a running topology at the end. -/
theorem ends_registerAll {plan : PackingPlan} (hapart : l.Apart) (hname : topology.name = l.name)
    (hroot : store.root = l.root) (hdir : launcher.workingDir = l.work) (hcopy : l.copy = some copy)
    (hplan : RoundRobin.plan topology = .ok plan)
    (h : Shown l settings topology before [.copy] site) :
    Ends (LocalLauncher.registerAll sitePart launcherPart stateManager.access settings
        (runtimeOf topology before copy) plan) ⟨site, store, uploader, launcher⟩
      (fun _ v => Shown l settings topology before
        [.node .topology, .manifest, .node .packingPlan, .node .executionState, .copy] v.site)
      fun _ => True := by
  have hnode : ∀ kind root, store.root = some root →
      l.node kind = some (nodePath root kind topology.name) := by
    intro kind root hr
    rw [Layout.node, ← hroot, hr, hname]
    rfl
  have hstate : LocalLauncher.executionState site settings (runtimeOf topology before copy) =
      stateOf settings topology before copy := by
    rw [h.rest]
    rfl
  refine .bind (.within (.getWorld (.bind (.ofExcept (fun state hs => ?_) trivial))))
  replace hs : stateOf settings topology before copy = .ok state := hstate.symm.trans hs
  refine .bind ((ends_register .executionState _ topology.name).mono ?_ fun _ _ => trivial)
  rintro _ _ ⟨root, s₁, hr, hk, rfl⟩
  replace h := h.nodeWritten hapart (hnode _ root hr) hk (by decide) fun _ =>
    .executionState hcopy hs
  refine .bind ((ends_register .packingPlan _ topology.name).mono ?_ fun _ _ => trivial)
  rintro _ _ ⟨root, s₂, hr, hk, rfl⟩
  replace h := h.nodeWritten hapart (hnode _ root hr) hk (by decide) fun _ => .packingPlan hplan
  refine .bind ((ends_writeManifest _ plan).mono ?_ fun _ _ => trivial)
  rintro _ _ ⟨dir, text, s₃, hd, rfl, htext, hk, rfl⟩
  replace htext : before.yaml.dump state plan = .ok text := by
    rwa [← congrArg Site.yaml h.rest]
  replace h := h.manifestWritten hapart (hdir.symm.trans hd) (.manifest hcopy hs hplan htext) hk (by decide)
  refine .bind (.ofExcept (fun es hes => ?_) trivial)
  refine .bind ((ends_register .topology es topology.name).mono ?_ fun _ _ => trivial)
  rintro _ _ ⟨root, s₄, hr, hk, rfl⟩
  exact .log (h.nodeWritten hapart (hnode _ root hr) hk (by decide) fun _ => .topology hes)

/-- A launch that succeeds leaves all five files as they were written. -/
theorem ends_launch (hapart : l.Apart) (hname : topology.name = l.name)
    (hroot : store.root = l.root) (hsettings : launcher.settings = settings)
    (hruntime : launcher.runtime = some (runtimeOf topology before copy))
    (hdir : launcher.workingDir = l.work) (hcopy : l.copy = some copy)
    (h : Shown l settings topology before [.copy] site) :
    Ends localLauncher.launch ⟨site, store, uploader, launcher⟩
      (fun x v => x.isTruthy = true → Shown l settings topology before
        [.node .topology, .manifest, .node .packingPlan, .node .executionState, .copy] v.site)
      fun _ => True := by
  obtain ⟨launcherSettings, runtime, workingDir, registrations⟩ := launcher
  obtain rfl : launcherSettings = settings := hsettings
  obtain rfl : runtime = some (runtimeOf topology before copy) := hruntime
  refine .bind (.within (.getWorld ?_))
  refine .bind (.pure (.bind (.bind (.ofExcept (fun cs hcs => .bind (.log ?_)) trivial))))
  refine .ofExcept (fun plan hnamed => .ite (fun _ => .bind (.log (.pure nofun))) fun _ => ?_) trivial
  have hplan : RoundRobin.plan topology = .ok plan := bind_eq_ok_iff.mpr ⟨cs, hcs, hnamed⟩
  exact .bind ((ends_registerAll hapart hname hroot hdir hcopy hplan h).mono
    (fun _ _ hv => .pure fun _ => hv) fun _ _ => trivial)

end

end Workshop

end TopologySubmission
