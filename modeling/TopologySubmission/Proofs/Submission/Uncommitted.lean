import TopologySubmission.Proofs.Plugin.Account
import TopologySubmission.Proofs.Submission.Linked
import TopologySubmission.Proofs.Value.Sorting
import TopologySubmission.Submission.Attempt

/-!
# What a failed attempt leaves on a site

The calls of an attempt with the plugins that work on the files of the site keep account of what they
write, up to the mark of a running topology. An attempt that is not committed ends before that mark
is written or undoes what it wrote, so in the end nothing is owed:

    a call that does not commit keeps the account           (kept_left)
    an attempt that is not committed leaves nothing owed    (account_of_uncommitted)
    no file is new after it, and few are gone               (submit_uncommitted_files)
-/

namespace TopologySubmission

/-! ## Algorithm -/

namespace Workshop

/-- The plugins that work on the files of the site. -/
def localPlugins : Registry.Selection BuiltIn where
  stateManager := BuiltIn.made id .localStore
  launcher := BuiltIn.made id .localLauncher
  packing := BuiltIn.made id .roundRobin
  uploader := BuiltIn.made id .localUploader

/-- The submitter of an attempt with these plugins. -/
def localSubmitter (settings : Settings) (topology : Topology) : Submitter Workshop where
  settings := settings
  topology := topology
  plugins :=
    { stateManager := stateManager, launcher := localLauncher, packing := RoundRobin.packing
      uploader := localUploader }
  timeout := Submitter.defaultTimeout

/-- Settings of an attempt in a directory of a site. -/
def localSettings : Settings where
  entries := [(.text Key.stateRoot, .text "/r/state"), (.text Key.packageFile, .text "/r/p.tar"),
    (.text Key.uploadDirectory, .text "/r/store"), (.text Key.workingDirectory, .text "/r/work")]

/-- A topology with one spout. -/
def spoutTopology : Topology where
  id := .text "one-1"
  name := "one"
  body := .readOnlyMap [(.text "spouts", .tuple [.readOnlyMap [(.text "name", .text "s")]])]

/-- A site with a package in that directory, next to other entries. -/
def siteWith (entries : List (Location × FileEntry)) : Site where
  tree := ⟨(["r"], .directory) :: (["r", "p.tar"], .file ⟨#[1, 2]⟩) :: entries⟩
  cwd := ["r"]
  environment := [("LOGNAME", "alice")]

/-- The files of an earlier attempt: a copy, a manifest, two nodes and a file beside a node. -/
def olderFiles : List Location :=
  [["r", "store", "p.tar"], ["r", "work", "launch.yaml"], ["r", "state", "executionstate", "one"],
    ["r", "state", "packingplans", "one"], ["r", "state", "executionstate", ".one.tmp"]]

/-- A site with these files, where a topology cannot be marked as running: beside its node there is a
directory. -/
def olderFilesSite : Site :=
  siteWith <|
    [["r", "store"], ["r", "work"], ["r", "state"], ["r", "state", "executionstate"],
      ["r", "state", "packingplans"], ["r", "state", "topologies"],
      ["r", "state", "topologies", ".one.tmp"]].map (·, .directory) ++
    olderFiles.map (·, .file ⟨#[3]⟩)

/-- A site where the execution state cannot be moved to its place: there is a directory. -/
def takenNodeSite : Site :=
  siteWith <| [["r", "state"], ["r", "state", "executionstate"],
    ["r", "state", "executionstate", "one"]].map (·, .directory)

/-- An attempt on a site. -/
def attemptOn (site : Site) : Except Stop Outcome × Scene Site :=
  Act.run (Workshop.submit localSettings spoutTopology localPlugins) ⟨site, []⟩

end Workshop

/-! ## Lemmas -/

namespace Workshop

open Act (Ends)
open Submitter (interrupt?_of_ends left_of_ends of_not_passed ends_silent)

variable {settings : Settings} {topology : Topology} {site : Site} {l : Layout} {before : Site}
  {owed : Set Path} {v : Visit Workshop}

/-- An attempt on a site is that of a submitter in a new workshop. -/
theorem run_submit_localPlugins (settings : Settings) (topology : Topology) (site : Site)
    (log : List Record) :
    Act.run (Workshop.submit settings topology localPlugins) ⟨site, log⟩ =
      let s := localSubmitter settings topology
      let out := Act.run s.submit ⟨s.begin ⟨site, {}, .toDirectory {}, {}⟩, log⟩
      (out.1, ⟨out.2.world.world.site, out.2.log⟩) := by
  unfold Workshop.submit
  rw [Act.run_bind_ok (Act.run_world _)]
  exact Act.run_within _ _ _

/-! ### Calls of stages -/

/-- A call of a stage keeps the account, unless it is a launch that passed. -/
theorem kept_left (hl : l = Layout.ofSite before settings topology.name)
    (hv : v.call.stage? ≠ none)
    (hname : ∀ r, v.call = .configureLauncher r → r.topology = topology)
    (hlaunch : v.call = .launch → (localSubmitter settings topology).passed v = false)
    (h : Kept l before v.scene.world) :
    Kept l before ((localSubmitter settings topology).left v) := by
  obtain ⟨k, ⟨w, log⟩⟩ := v
  cases k with
  | configureState => exact left_of_ends (ends_silent (kept_configureState hl h))
  | runningCheck name => exact left_of_ends (kept_ask name _ h)
  | configureUploader => exact left_of_ends (ends_silent (kept_configureUploader hl h))
  | uploadPackage => exact left_of_ends (kept_upload h)
  | configureLauncher r =>
    exact left_of_ends (ends_silent (kept_configureLauncher hl (by rw [hname r rfl]) h))
  | launch =>
    rcases of_not_passed (hlaunch rfl) (kept_launch h) with ⟨x, hx, hkept⟩ | hkept
    · exact hkept hx
    · exact hkept
  | _ => exact absurd rfl hv

/-- Up to the running check nothing comes to be owed. -/
theorem account_left (hl : l = Layout.ofSite before settings topology.name)
    (hv : v.call = .configureState ∨ ∃ name, v.call = .runningCheck name)
    (h : Account l before owed v.scene.world.site) :
    Account l before owed ((localSubmitter settings topology).left v).site := by
  obtain ⟨k, ⟨w, log⟩⟩ := v
  rcases hv with rfl | ⟨name, rfl⟩
  · exact Ends.world (P := fun w : Workshop => Account l before owed w.site)
      (ends_silent (account_configureState hl h)) log
  · exact Ends.world (P := fun w : Workshop => Account l before owed w.site)
      ((ends_ask name _ w).mono (fun _ _ hw => hw ▸ h) fun _ hw => hw ▸ h) log

variable (settings topology) in
/-- Undoing the upload is not interrupted, and leaves owed what the launcher registered. -/
theorem undoneUploader_left (hv : v.call = .undoUploader) (h : Kept l before v.scene.world) :
    (localSubmitter settings topology).interrupt? v = none ∧
      KeptLaunch l before ((localSubmitter settings topology).left v) := by
  obtain ⟨k, t⟩ := v
  subst hv
  have hends := ends_silent (kept_undoUploader h)
  exact ⟨interrupt?_of_ends hends, hends.world t.log⟩

variable (settings topology) in
/-- Undoing the launch is not interrupted, and leaves nothing owed. -/
theorem undoneLauncher_left (hv : v.call = .undoLauncher)
    (h : KeptLaunch l before v.scene.world) :
    (localSubmitter settings topology).interrupt? v = none ∧
      Account l before ∅ ((localSubmitter settings topology).left v).site := by
  obtain ⟨k, t⟩ := v
  subst hv
  have hends := ends_silent (P := fun w : Workshop => Account l before ∅ w.site)
    (ends_undoLauncher h)
  exact ⟨interrupt?_of_ends hends, hends.world t.log⟩

/-- Closing changes no file and is not interrupted. -/
theorem closed_left (hv : v.call.isClose = true) :
    ((localSubmitter settings topology).left v).site = v.scene.world.site ∧
      (localSubmitter settings topology).interrupt? v = none := by
  obtain ⟨k, t⟩ := v
  cases k <;> first | exact ⟨rfl, rfl⟩ | cases hv

/-! ### Attempts -/

section
variable {r : Except Stop Outcome} {p : Progress Workshop}

/-- Before anything is done nothing is owed. -/
theorem kept_start (hl : l = Layout.ofSite before settings topology.name) :
    Kept l before ⟨before, {}, .toDirectory {}, {}⟩ := by
  refine .mk ⟨nofun, nofun⟩ ⟨nofun, nofun, nofun, nofun⟩ ?_
  have hnone : owedUpload l {} ∪ l.registeredPaths [] = ∅ := by
    ext q
    simp [owedUpload, Layout.registeredPaths]
  show Account l before (owedUpload l {} ∪ l.registeredPaths []) before
  rw [hnone]
  exact .start (by rw [hl]; rfl)

/-- The visits that undo leave nothing owed. -/
theorem account_of_undone {us : List (Visit Workshop)} {r : Except Stop Unit} {w x : Workshop}
    (hrow : (localSubmitter settings topology).Row [.undoUploader, .undoLauncher] us r)
    (hlinked : (localSubmitter settings topology).Linked w us x) (h : Kept l before w) :
    Account l before ∅ x.site := by
  -- neither of the two calls is interrupted, so both are made
  cases hrow with
  | broken hv hi =>
    obtain ⟨rfl, -⟩ := hlinked.of_cons
    rw [(undoneUploader_left settings topology hv h).1] at hi
    cases hi
  | next hv hi hrow =>
    obtain ⟨rfl, hnext⟩ := hlinked.of_cons
    have hlaunch := (undoneUploader_left settings topology hv h).2
    cases hrow with
    | broken hv' hi' =>
      rw [← hnext.of_cons.1] at hlaunch
      rw [(undoneLauncher_left settings topology hv' hlaunch).1] at hi'
      cases hi'
    | next hv' hi' hrow =>
      obtain ⟨hw, hdone⟩ := hnext.of_cons
      rw [← hw] at hlaunch
      cases hrow
      rw [hdone.eq_of_nil]
      exact (undoneLauncher_left settings topology hv' hlaunch).2

/-- An attempt that passes without being committed leaves nothing owed. -/
theorem account_of_passage {vs us : List (Visit Workshop)} {r : Except Stop Unit}
    {q : Progress Workshop} {x : Workshop} (hl : l = Layout.ofSite before settings topology.name)
    (hpass : (localSubmitter settings topology).Passage vs us r q)
    (hlinked : (localSubmitter settings topology).Linked ⟨before, {}, .toDirectory {}, {}⟩
      (vs ++ us) x) (hq : q.outcome.success = false) : Account l before ∅ x.site := by
  cases hpass with
  | committed _ _ h6 => simp [Submitter.standing, h6] at hq
  | @refused vs v error w hc hv h2 hrec =>
    rw [List.append_nil] at hlinked
    refine hlinked.keeps (P := fun w => Account l before ∅ w.site) (fun u hu => ?_)
      (.start (by rw [hl]; rfl))
    have hlength : ((vs ++ [v]).map Visit.call).length ≤ 2 := by
      simp
      omega
    have hcall := (List.prefix_take_iff.mpr ⟨hc.planned, hlength⟩).subset
      (List.mem_map_of_mem hu)
    simp only [Submitter.plan, List.take_succ_cons, List.take_zero, List.mem_cons,
      List.not_mem_nil, or_false] at hcall
    exact account_left hl (hcall.imp_right fun hk => ⟨_, hk⟩)
  | @rolledBack vs v us r error w hc hv h2 hrec hrow =>
    obtain ⟨w', hstages, hundone⟩ := hlinked.split
    refine account_of_undone hrow hundone (hstages.keeps (fun u hu => ?_) (kept_start hl))
    refine kept_left hl (hc.stage?_ne_none hu) (fun r hr => ?_) fun hlaunch => ?_
    · have hcall := hc.planned.subset (List.mem_map_of_mem hu)
      simp only [hr, Submitter.plan, List.mem_cons, Call.configureLauncher.injEq, reduceCtorEq,
        List.not_mem_nil, or_false, false_or] at hcall
      rw [hcall]
      rfl
    · rcases List.mem_append.mp hu with hu | hu
      · exact absurd hlaunch (hc.call_ne_launch hu)
      · rw [List.mem_singleton.mp hu, hv]

/-- An attempt that is not committed leaves nothing owed. -/
theorem account_of_uncommitted (hl : l = Layout.ofSite before settings topology.name)
    (a : (localSubmitter settings topology).Attempted r p)
    (hlinked : (localSubmitter settings topology).Linked ⟨before, {}, .toDirectory {}, {}⟩
      p.visits p.world)
    (hr : ∀ o, r = .ok o → o.success = false) : Account l before ∅ p.world.site := by
  rw [a.visits_eq] at hlinked
  obtain ⟨x, hpassed, hclosed⟩ := hlinked.split
  have hquiet := hclosed.keeps (P := fun w => w.site = x.site)
    (fun v hv h => (closed_left (a.isClose hv)).1.trans h) rfl
  rw [hquiet]
  refine account_of_passage hl a.passage hpassed ?_
  -- a committed attempt is closed, and then answers that it is committed
  refine Bool.eq_false_iff.mpr fun hsuccess => ?_
  have hshut : a.shut = .ok () :=
    a.row.eq_ok_iff.mpr fun v hv => (closed_left (a.isClose hv)).2
  have := hr p.outcome (by rw [a.result_eq, hshut, (a.passage.of_success hsuccess).1]; rfl)
  rw [a.outcome_eq, hsuccess] at this
  cases this

end

/-- What is left of the files of a site by an attempt that is not committed. Apart from the files
beside the nodes, every file is one that was there before, with the same bytes; and every file that
was there before is still there, unless the attempt came to write it over: the copy of the package,
the manifest, and the nodes of the execution state and of the packing plan. -/
theorem submit_uncommitted_files (settings : Settings) (topology : Topology) (site : Site)
    (log : List Record)
    (h : ∀ o, (Act.run (Workshop.submit settings topology localPlugins) ⟨site, log⟩).1 = .ok o →
      o.success = false) :
    let l := Layout.ofSite site settings topology.name
    let after := (Act.run (Workshop.submit settings topology localPlugins) ⟨site, log⟩).2.world
    (∀ m b, m ∉ l.overwritten → m ∉ l.temporary → site.tree.lookup m = some (.file b) →
      after.tree.lookup m = some (.file b)) ∧
    ∀ m b, m ∉ l.temporary → after.tree.lookup m = some (.file b) →
      site.tree.lookup m = some (.file b) := by
  intro l after
  let s := localSubmitter settings topology
  obtain ⟨a⟩ := Submitter.attempted_submit (s := s) ⟨site, {}, .toDirectory {}, {}⟩ log
  have haccount : Account l site ∅ after := by
    unfold after
    rw [run_submit_localPlugins] at h ⊢
    exact account_of_uncommitted rfl a (Submitter.linked_submit _ _) h
  constructor
  · intro m b hm hm' hb
    exact (haccount.keeps.tree.file_iff (fun hw => hw.elim hm hm') b).mpr hb
  · intro m b hm hb
    rcases haccount.files m b hm hb with hb | ⟨p, hp, -⟩
    · exact hb
    · exact hp.elim

/-! ### Attempts that are computed -/

/-- How attempts end and what some of them leave. -/
theorem attemptOn_results :
    (attemptOn (siteWith [])).1.toOption.map Outcome.success = some true ∧
    (attemptOn olderFilesSite).1.toOption.map Outcome.success = some false ∧
    (∀ m ∈ olderFiles, (attemptOn olderFilesSite).2.world.tree.lookup m = none) ∧
    (attemptOn takenNodeSite).1.toOption.map Outcome.success = some false ∧
    (attemptOn takenNodeSite).2.world.tree.lookup ["r", "state", "executionstate", ".one.tmp"] ∉
      [none, some .directory] := by
  delta attemptOn
  simp only [run_submit_localPlugins]
  -- what is written down has its keys in order, and only their sort is not computed as it stands
  delta localSubmitter localLauncher stateManager LocalStore.manager LocalStore.writeNode
    LocalStore.nodeText Json.document Json.written Json.written._f Json.writtenItems._f
    Json.writtenValues._f Json.writtenObject
  rw [Value.sortByKey_eq]
  decide +kernel

theorem success_of_map {r : Except Stop Outcome} {b : Bool}
    (h : r.toOption.map Outcome.success = some b) : ∃ o, r = .ok o ∧ o.success = b := by
  cases r with
  | error e => cases h
  | ok o => exact ⟨o, rfl, Option.some.inj h⟩

theorem success_eq_of_map {r : Except Stop Outcome} {b : Bool} {o : Outcome}
    (h : r.toOption.map Outcome.success = some b) (ho : r = .ok o) : o.success = b := by
  rw [ho] at h
  exact Option.some.inj h

theorem olderFiles_uncommitted (o : Outcome) (h : (attemptOn olderFilesSite).1 = .ok o) :
    o.success = false := success_eq_of_map attemptOn_results.2.1 h

/-- An attempt that fails leaves the package itself as it was. -/
theorem submit_uncommitted_files_of_olderFiles :
    (∀ o, (attemptOn olderFilesSite).1 = .ok o → o.success = false) ∧
    (attemptOn olderFilesSite).2.world.tree.lookup ["r", "p.tar"] = some (.file ⟨#[1, 2]⟩) := by
  have hfailed := olderFiles_uncommitted
  unfold attemptOn at hfailed ⊢
  obtain ⟨hkept, -⟩ := submit_uncommitted_files localSettings spoutTopology olderFilesSite [] hfailed
  refine ⟨hfailed, hkept ["r", "p.tar"] ⟨#[1, 2]⟩ ?_ ?_ ?_⟩ <;> decide +kernel

/-- An attempt that fails takes away the files of an earlier one that it came to write over, and it may
leave a new file beside a node. -/
theorem submit_changes_files :
    ((∀ o, (attemptOn olderFilesSite).1 = .ok o → o.success = false) ∧
      ∀ m ∈ olderFiles, olderFilesSite.tree.lookup m = some (.file ⟨#[3]⟩) ∧
        (attemptOn olderFilesSite).2.world.tree.lookup m = none) ∧
    (∀ o, (attemptOn takenNodeSite).1 = .ok o → o.success = false) ∧
      takenNodeSite.tree.lookup ["r", "state", "executionstate", ".one.tmp"] = none ∧
      ∃ b, (attemptOn takenNodeSite).2.world.tree.lookup
        ["r", "state", "executionstate", ".one.tmp"] = some (.file b) := by
  obtain ⟨-, -, hgone, htaken, hnew⟩ := attemptOn_results
  have holder : ∀ m ∈ olderFiles, olderFilesSite.tree.lookup m = some (.file ⟨#[3]⟩) := by
    decide +kernel
  refine ⟨⟨olderFiles_uncommitted, fun m hm => ⟨holder m hm, hgone m hm⟩⟩,
    fun o ho => success_eq_of_map htaken ho, by decide +kernel, ?_⟩
  generalize (attemptOn takenNodeSite).2.world.tree.lookup
    ["r", "state", "executionstate", ".one.tmp"] = e at hnew ⊢
  cases e with
  | none => exact absurd (by simp) hnew
  | some e =>
    cases e with
    | directory => exact absurd (by simp) hnew
    | file b => exact ⟨b, rfl⟩

end Workshop

end TopologySubmission
