import TopologySubmission.Proofs.Plugin.Launched
import TopologySubmission.Proofs.Submission.Uncommitted

/-!
# The mark of a running topology

The node of a topology is the mark by which later attempts know that it runs. It is written last, so a
committed attempt leaves it together with all that belongs to it, and an attempt that is not committed
does not bring it up:

    six calls that passed leave the five files as they were written     (shown_of_passed)
    a topology is marked by a committed attempt only                    (submit_marks)
-/

namespace TopologySubmission.Workshop

open Submitter (done_of_passed ends_silent)

variable {settings : Settings} {topology : Topology} {l : Layout} {before : Site}

/-! ### Calls -/

/-- Four calls that passed leave the copy, and the launcher as it was. -/
theorem copied_of_passed {a b c d : Visit Workshop} {x : Workshop}
    (hl : l = Layout.ofSite before settings topology.name) (hapart : l.Apart)
    (ha : a.call = .configureState) (hb : b.call = .runningCheck topology.name)
    (hc : c.call = .configureUploader) (hd : d.call = .uploadPackage)
    (hpassed : ∀ v ∈ [a, b, c, d], (localSubmitter settings topology).passed v = true)
    (hlinked : (localSubmitter settings topology).Linked ⟨before, {}, .toDirectory {}, {}⟩
      [a, b, c, d] x) :
    ∃ copy root site u, l.copy = some copy ∧ l.root = some root ∧
      (localSubmitter settings topology).ending d =
        .ok (.text (Text.fileUri (Site.absoluteText before copy))) ∧
      Shown l settings topology before [.copy] site ∧
      x = ⟨site, ⟨some root, true⟩, .toDirectory u, {}⟩ := by
  simp only [List.forall_mem_cons] at hpassed
  obtain ⟨pa, pb, pc, pd, -⟩ := hpassed
  obtain ⟨wa, hlinked⟩ := hlinked.of_cons
  obtain ⟨-, -, -, root, s, hroot, hk, hconfigured⟩ :=
    done_of_passed pa ha wa (ends_silent ends_configureState)
  obtain ⟨wb, hlinked⟩ := hlinked.of_cons
  obtain ⟨-, -, -, hasked⟩ := done_of_passed pb hb wb (ends_ask topology.name _ _)
  obtain ⟨wc, hlinked⟩ := hlinked.of_cons
  rw [← hasked, hconfigured] at wc
  obtain ⟨-, -, -, package, dir, hpackage, hdir, hready⟩ :=
    done_of_passed pc hc wc (ends_silent ends_configureUploader)
  obtain ⟨wd, hlinked⟩ := hlinked.of_cons
  rw [hready] at wd
  obtain ⟨y, hy, htruthy, huploaded⟩ := done_of_passed pd hd wd ends_upload
  rw [← hlinked.eq_of_nil] at huploaded
  rw [hk.settingPath?] at hpackage hdir
  obtain ⟨rfl, -⟩ | ⟨_, copy, s', ⟨⟩, ⟨⟩, rfl, hcopied, hleft⟩ := huploaded
  · cases htruthy
  replace hpackage : l.package = some package := hl ▸ hpackage
  replace hdir : l.storage = some dir := hl ▸ hdir
  have hcopy : l.copy = some (dir.child package.name) := by rw [Layout.copy, hpackage, hdir]
  have hshown : Shown l settings topology before [] s := .start (by rw [hl]; rfl) hk
  refine ⟨_, root, s', _, hcopy, hl ▸ hroot, ?_, ?_, hleft⟩
  · rw [hy, Site.absoluteText, hk.cwd]
    rfl
  · exact hshown.copied hapart hpackage hcopy hcopied fun b =>
      (hk.holds_iff (Set.notMem_empty _) b).mp

/-- Six calls that passed leave the five files as they were written. -/
theorem shown_of_passed {vs : List (Visit Workshop)} {x : Workshop}
    (hl : l = Layout.ofSite before settings topology.name) (hapart : l.Apart)
    (hcalls : vs.map Visit.call = (localSubmitter settings topology).plan
      ((localSubmitter settings topology).locator vs))
    (hpassed : ∀ v ∈ vs, (localSubmitter settings topology).passed v = true)
    (hlinked : (localSubmitter settings topology).Linked ⟨before, {}, .toDirectory {}, {}⟩ vs x) :
    Shown l settings topology before
      [.node .topology, .manifest, .node .packingPlan, .node .executionState, .copy] x.site := by
  simp only [Submitter.plan, List.map_eq_cons_iff, List.map_eq_nil_iff] at hcalls
  obtain ⟨a, _, rfl, ha, b, _, rfl, hb, c, _, rfl, hc, d, _, rfl, hd, e, _, rfl, he, f, _, rfl, hf,
    rfl⟩ := hcalls
  replace hlinked : (localSubmitter settings topology).Linked ⟨before, {}, .toDirectory {}, {}⟩
    ([a, b, c, d] ++ [e, f]) x := hlinked
  obtain ⟨w, hfirst, hlinked⟩ := hlinked.split
  obtain ⟨copy, root, site, u, hcopy, hroot, hending, hshown, rfl⟩ :=
    copied_of_passed hl hapart ha hb hc hd
      (fun v hv => hpassed v (List.mem_append_left [e, f] hv)) hfirst
  obtain ⟨we, hlinked⟩ := hlinked.of_cons
  obtain ⟨-, -, -, dir, hdir, hready⟩ :=
    done_of_passed (hpassed e (by simp)) he we (ends_silent (ends_configureLauncher _))
  obtain ⟨wf, hlinked⟩ := hlinked.of_cons
  rw [hready] at wf
  rw [hlinked.eq_of_nil]
  have hruntime : (localSubmitter settings topology).runtime
      ((localSubmitter settings topology).locator [a, b, c, d, e, f]) =
      runtimeOf topology before copy := by
    simp only [Submitter.locator, List.getElem?_cons_succ, List.getElem?_cons_zero, hending]
    rfl
  have hwork : l.work = some dir := by
    rw [hshown.rest] at hdir
    rw [hl]
    exact hdir
  obtain ⟨_, -, htruthy, hlaunched⟩ := done_of_passed (hpassed f (by simp)) hf wf
    (ends_launch hapart (by rw [hl]; rfl) hroot.symm rfl (congrArg some hruntime) hwork.symm hcopy
      hshown)
  exact hlaunched htruthy

/-! ### Attempts -/

/-- A committed attempt leaves the five files as they were written. -/
theorem shown_of_committed {r : Except Stop Outcome} {p : Progress Workshop} {o : Outcome}
    (hl : l = Layout.ofSite before settings topology.name) (hapart : l.Apart)
    (a : (localSubmitter settings topology).Attempted r p)
    (hlinked : (localSubmitter settings topology).Linked ⟨before, {}, .toDirectory {}, {}⟩
      p.visits p.world)
    (hr : r = .ok o) (ho : o.success = true) :
    Shown l settings topology before
      [.node .topology, .manifest, .node .packingPlan, .node .executionState, .copy]
      p.world.site := by
  have hsuccess : a.before.outcome.success = true := by
    rwa [← a.outcome_of_result hr, a.outcome_eq] at ho
  obtain ⟨-, hundone, hlength, hpassed⟩ := a.passage.of_success hsuccess
  rw [a.visits_eq, hundone, List.append_nil] at hlinked
  obtain ⟨x, hstages, hclosed⟩ := hlinked.split
  have hquiet := hclosed.keeps (P := fun w => w.site = x.site)
    (fun v hv h => (closed_left (a.isClose hv)).1.trans h) rfl
  rw [hquiet]
  refine shown_of_passed hl hapart (a.passage.course.planned.eq_of_length ?_) hpassed hstages
  rw [List.length_map, hlength]
  rfl

/-- When the files of an attempt are apart, a committed attempt leaves the copy with the bytes that the
package had, and the nodes and the manifest with what the attempt wrote to them; and after an attempt
that is not committed there is no mark of a running topology where there was none before. -/
theorem submit_marks {id name body : Value} {topology : Topology} (settings : Settings) (site : Site)
    (log : List Record) (hmake : Topology.make id name body = .ok topology)
    (hapart : (Layout.ofSite site settings topology.name).Apart) :
    let l := Layout.ofSite site settings topology.name
    let r := (Act.run (Workshop.submit settings topology localPlugins) ⟨site, log⟩).1
    let after := (Act.run (Workshop.submit settings topology localPlugins) ⟨site, log⟩).2.world
    ((∃ o, r = .ok o ∧ o.success = true) →
      ∀ t ∈ [.node .topology, .manifest, .node .packingPlan, .node .executionState, .copy],
        ∃ p b, l.path? t = some p ∧ Writes l settings topology site t b ∧ after.Shows p b) ∧
    ((∀ o, r = .ok o → o.success = false) →
      ∀ p, l.node .topology = some p → site.tree.lookup (site.place p) = none →
        after.tree.lookup (after.place p) = none) := by
  intro l r after
  let s := localSubmitter settings topology
  obtain ⟨a⟩ := Submitter.attempted_submit (s := s) ⟨site, {}, .toDirectory {}, {}⟩ log
  have hlinked := Submitter.linked_submit (s := s) ⟨site, {}, .toDirectory {}, {}⟩ log
  unfold r after
  rw [run_submit_localPlugins]
  constructor
  · rintro ⟨o, hr, ho⟩
    exact (shown_of_committed rfl hapart a hlinked hr ho).shows
  · intro hr p hp hbefore
    have haccount := account_of_uncommitted (l := l) rfl a hlinked hr
    have hafter := haccount.unmarked hapart (Topology.isName_of_make hmake) hp hbefore
    rw [Site.place, haccount.cwd]
    exact hafter

/-- On a site with a package the topology is marked as running next to the copy of the package, and on
one where that fails it is not. -/
theorem submit_marks_of_attemptOn :
    (∃ es text, spoutTopology.toEntries = .ok es ∧ LocalStore.nodeText (.map es) = .ok text ∧
      (attemptOn (siteWith [])).2.world.Shows ⟨"/", ["r", "state", "topologies", "one"]⟩
        text.toUTF8) ∧
    (attemptOn (siteWith [])).2.world.Shows ⟨"/", ["r", "store", "p.tar"]⟩ ⟨#[1, 2]⟩ ∧
    (attemptOn olderFilesSite).2.world.tree.lookup ["r", "state", "topologies", "one"] = none := by
  have hmake : Topology.make (.text "one-1") (.text "one")
      (.map [(.text "spouts", .list [.map [(.text "name", .text "s")]])]) = .ok spoutTopology := by
    rfl
  have hcommitted := success_of_map attemptOn_results.1
  have hfailed := olderFiles_uncommitted
  unfold attemptOn at hcommitted hfailed ⊢
  obtain ⟨hmarked, -⟩ := submit_marks localSettings (siteWith []) [] hmake (by decide +kernel)
  obtain ⟨-, hunmarked⟩ := submit_marks localSettings olderFilesSite [] hmake (by decide +kernel)
  replace hmarked := hmarked hcommitted
  replace hunmarked := hunmarked hfailed ⟨"/", ["r", "state", "topologies", "one"]⟩
    (by decide +kernel) (by decide +kernel)
  refine ⟨?_, ?_, hunmarked⟩
  · obtain ⟨p, b, hp, hb, hshows⟩ := hmarked (.node .topology) (by decide)
    obtain rfl : p = ⟨"/", ["r", "state", "topologies", "one"]⟩ :=
      Option.some.inj (hp.symm.trans (by decide +kernel))
    cases hb with
    | topology hes htext => exact ⟨_, _, hes, htext, hshows⟩
  · obtain ⟨p, b, hp, hb, hshows⟩ := hmarked .copy (by decide)
    obtain rfl : p = ⟨"/", ["r", "store", "p.tar"]⟩ :=
      Option.some.inj (hp.symm.trans (by decide +kernel))
    cases hb with
    | @copy package _ hpackage hholds =>
      obtain rfl : package = ⟨"/", ["r", "p.tar"]⟩ :=
        Option.some.inj (hpackage.symm.trans (by decide +kernel))
      cases hholds
      exact hshows

end TopologySubmission.Workshop
