import TopologySubmission.Proofs.Plugin.Mark
import TopologySubmission.Proofs.Submission.History
import TopologySubmission.Proofs.Submission.Order
import TopologySubmission.Proofs.Submission.Uncommitted

/-!
# A second attempt

A committed attempt leaves the mark of its topology below the root of the state, whichever plugins it
works with. An attempt that comes after it with the same root finds the mark, so its running check does
not pass and it ends there:

    a committed attempt leaves the mark                            (marks_of_committed)
    an attempt that finds the mark is refused                      (length_le_of_marked)
    one that is refused changes no file and launches nothing       (rejected_of_marked)
    so is a second attempt                                         (submit_again_rejected)
-/

namespace TopologySubmission

open Act (Ends)
open Submitter (done_of_passed ends_silent interrupt?_of_ends)

/-! ## Algorithm -/

namespace Workshop

/-- The submitter of an attempt with selected plugins. -/
def submitter (settings : Settings) (topology : Topology) (selection : Registry.Selection BuiltIn) :
    Submitter Workshop where
  settings := settings
  topology := topology
  plugins :=
    { stateManager := stateManager, launcher := localLauncher, packing := RoundRobin.packing
      uploader :=
        (UploaderState.fresh selection.uploader.plugin).uploader sitePart uploaderPart }
  timeout := Submitter.defaultTimeout

/-- The calls of plugins in an attempt on a site. -/
def callsOf (settings : Settings) (topology : Topology) (selection : Registry.Selection BuiltIn)
    (c : Scene Site) : List Call :=
  let s := submitter settings topology selection
  (Act.run s.submit ⟨s.begin (start c.world selection), c.log⟩).2.world.calls

end Workshop

/-! ## Lemmas -/

/-- The calls of a refused attempt before it is closed. -/
theorem Submitter.Attempted.stages_refused {σ : Type} {s : Submitter σ} {r : Except Stop Outcome}
    {p : Progress σ} (a : s.Attempted r p) (hlen : a.stages.length ≤ 2) {v : Visit σ}
    (hv : v ∈ a.stages) : v.call = .configureState ∨ v.call = .runningCheck s.name := by
  have hplan : a.stages.map Visit.call <+: (s.plan (s.locator a.stages)).take 2 :=
    List.prefix_take_iff.mpr ⟨a.passage.course.planned, by rwa [List.length_map]⟩
  have hcall := hplan.subset (List.mem_map_of_mem hv)
  simpa [Submitter.plan] using hcall

namespace Workshop

variable {settings : Settings} {topology : Topology} {selection : Registry.Selection BuiltIn}
  {site before : Site} {root : Path} {x : Workshop} {v : Visit Workshop}
  {r : Except Stop Outcome} {p : Progress Workshop}

/-- An attempt on a site is that of a submitter in a new workshop. -/
theorem run_submit (settings : Settings) (topology : Topology)
    (selection : Registry.Selection BuiltIn) (c : Scene Site) :
    Act.run (Workshop.submit settings topology selection) c =
      let s := submitter settings topology selection
      let out := Act.run s.submit ⟨s.begin (start c.world selection), c.log⟩
      (out.1, ⟨out.2.world.world.site, out.2.log⟩) := by
  unfold Workshop.submit
  rw [Act.run_bind_ok (Act.run_world _)]
  exact Act.run_within _ _ _

theorem close_uploader (kind : UploaderState) :
    (kind.uploader sitePart uploaderPart).close = pure () := by
  cases kind <;> rfl

variable (settings topology selection) in
/-- Closing leaves the site alone and is not interrupted. -/
theorem closed (hv : v.call.isClose = true) :
    ((submitter settings topology selection).left v).site = v.scene.world.site ∧
      (submitter settings topology selection).interrupt? v = none := by
  have huploader : (submitter settings topology selection).act .closeUploader =
      Submitter.silent (pure ()) := congrArg Submitter.silent (close_uploader _)
  obtain ⟨k, t⟩ := v
  cases k
  case closeUploader =>
    unfold Submitter.left Submitter.interrupt? Submitter.ending
    rw [huploader]
    exact ⟨rfl, rfl⟩
  all_goals first | exact ⟨rfl, rfl⟩ | cases hv

variable (settings topology selection) in
/-- What the uploader does keeps the root of the state manager and the launcher. -/
theorem rooted_left (hv : v.call.stage? = some .uploading) (h : Rooted before root v.scene.world) :
    Rooted before root ((submitter settings topology selection).left v) := by
  obtain ⟨k, t⟩ := v
  cases k
  case configureUploader => exact (rooted_configureUploader _ settings).map (fun _ => Value.null) t h
  case uploadPackage => exact rooted_upload _ t h
  all_goals cases hv

/-! ### The first attempt -/

/-- Where configuring the state manager and the running check passed, the state manager has its root
and nothing was launched. -/
theorem rooted_of_opening {u z : Visit Workshop} {vs : List (Visit Workshop)}
    (hu : u.call = .configureState)
    (hz : z.call = .runningCheck (submitter settings topology selection).name)
    (pu : (submitter settings topology selection).passed u = true)
    (pz : (submitter settings topology selection).passed z = true)
    (hlinked : (submitter settings topology selection).Linked (start before selection)
      (u :: z :: vs) x) :
    ∃ root w, before.settingPath? settings Key.stateRoot = some root ∧ Rooted before root w ∧
      (submitter settings topology selection).Linked w vs x := by
  obtain ⟨wu, hlinked⟩ := hlinked.of_cons
  obtain ⟨-, -, -, root, s, hroot, hk, hconfigured⟩ :=
    done_of_passed pu hu wu (ends_silent ends_configureState)
  obtain ⟨wz, hlinked⟩ := hlinked.of_cons
  obtain ⟨-, -, -, hasked⟩ := done_of_passed pz hz wz (ends_ask topology.name _ _)
  rw [← hasked, hconfigured] at hlinked
  exact ⟨root, _, hroot, ⟨.of_keeps hk, rfl, rfl⟩, hlinked⟩

/-- Where configuring the launcher and launching passed, the mark is left. -/
theorem marks_of_launching {u z : Visit Workshop} {w : Workshop} {runtime : Runtime}
    (hname : Topology.isName runtime.topology.name = true) (hready : Rooted before root w)
    (hu : u.call = .configureLauncher runtime) (hz : z.call = .launch)
    (pu : (submitter settings topology selection).passed u = true)
    (pz : (submitter settings topology selection).passed z = true)
    (hlinked : (submitter settings topology selection).Linked w [u, z] x) :
    before.Alike x.site ∧ x.site.Marks (x.site.place root) runtime.topology.name := by
  obtain ⟨site, store, uploader, launcher⟩ := w
  obtain ⟨hsite, hstore, rfl⟩ := hready
  obtain ⟨wu, hlinked⟩ := hlinked.of_cons
  obtain ⟨-, -, -, dir, -, hgiven⟩ :=
    done_of_passed pu hu wu (ends_silent (ends_configureLauncher _))
  obtain ⟨wz, hlinked⟩ := hlinked.of_cons
  rw [hgiven] at wz
  rw [hlinked.eq_of_nil]
  have hlaunch : Ends localLauncher.launch
      ⟨site, store, uploader, { settings, runtime := some runtime, workingDir := some dir }⟩ _ _ :=
    ends_launch_marks hname hstore rfl
  obtain ⟨_, -, htruthy, hlaunched⟩ := done_of_passed pz hz wz hlaunch
  obtain ⟨halike, hmarks⟩ := hlaunched htruthy
  exact ⟨hsite.trans halike, hmarks⟩

/-- Six calls that passed leave the mark. -/
theorem marks_of_passed {vs : List (Visit Workshop)}
    (hname : Topology.isName topology.name = true)
    (hcalls : vs.map Visit.call = (submitter settings topology selection).plan
      ((submitter settings topology selection).locator vs))
    (hpassed : ∀ v ∈ vs, (submitter settings topology selection).passed v = true)
    (hlinked : (submitter settings topology selection).Linked (start before selection) vs x) :
    ∃ root, before.settingPath? settings Key.stateRoot = some root ∧ before.Alike x.site ∧
      x.site.Marks (x.site.place root) topology.name := by
  simp only [Submitter.plan, List.map_eq_cons_iff, List.map_eq_nil_iff] at hcalls
  obtain ⟨a, _, rfl, ha, b, _, rfl, hb, c, _, rfl, hc, d, _, rfl, hd, e, _, rfl, he, f, _, rfl, hf,
    rfl⟩ := hcalls
  simp only [List.forall_mem_cons] at hpassed
  obtain ⟨pa, pb, -, -, pe, pf, -⟩ := hpassed
  obtain ⟨root, w, hroot, hready, hlinked⟩ := rooted_of_opening ha hb pa pb hlinked
  -- what is uploaded does not matter, as long as the state manager and the launcher are left alone
  obtain ⟨wc, hlinked⟩ := hlinked.of_cons
  rw [← wc] at hready
  replace hready := rooted_left settings topology selection (by rw [hc]; rfl) hready
  obtain ⟨wd, hlinked⟩ := hlinked.of_cons
  rw [← wd] at hready
  replace hready := rooted_left settings topology selection (by rw [hd]; rfl) hready
  generalize hr : (submitter settings topology selection).runtime _ = given at he
  obtain rfl : given.topology = topology := by rw [← hr]; rfl
  exact ⟨root, hroot, marks_of_launching hname hready he hf pe pf hlinked⟩

/-- A committed attempt leaves the mark of its topology, and else only its files are new. -/
theorem marks_of_committed (hname : Topology.isName topology.name = true)
    (a : (submitter settings topology selection).Attempted r p)
    (hlinked : (submitter settings topology selection).Linked (start before selection)
      p.visits p.world)
    (ho : p.outcome.success = true) :
    ∃ root, before.settingPath? settings Key.stateRoot = some root ∧
      before.Alike p.world.site ∧
      p.world.site.Marks (p.world.site.place root) topology.name := by
  have hsuccess : a.before.outcome.success = true := by rwa [a.outcome_eq] at ho
  obtain ⟨-, hundone, hlength, hpassed⟩ := a.passage.of_success hsuccess
  rw [a.visits_eq, hundone, List.append_nil] at hlinked
  obtain ⟨x, hstages, hclosed⟩ := hlinked.split
  have hquiet := hclosed.keeps (P := fun w => w.site = x.site)
    (fun v hv h => (closed _ _ _ (a.isClose hv)).1.trans h) rfl
  rw [hquiet]
  refine marks_of_passed hname (a.passage.course.planned.eq_of_length ?_) hpassed hstages
  rw [List.length_map, hlength]
  rfl

/-! ### The second attempt -/

/-- Configuring the state manager and asking it writes no file, and no interrupt comes out of it. -/
theorem opening_left (hv : v.call = .configureState ∨ ∃ name, v.call = .runningCheck name) :
    v.scene.world.site.SameFiles ((submitter settings topology selection).left v).site ∧
      (submitter settings topology selection).interrupt? v = none := by
  obtain ⟨k, ⟨⟨site, store, uploader, launcher⟩, log⟩⟩ := v
  rcases hv with rfl | ⟨name, rfl⟩
  · have hends : Ends (stateManager.configure settings) ⟨site, store, uploader, launcher⟩
        (fun _ w => site.SameFiles w.site) fun w => site.SameFiles w.site := by
      refine ends_configureState.mono ?_ ?_
      · rintro _ _ ⟨root, s, -, hk, rfl⟩
        exact (Site.SameFiles.refl site).keep hk
      · rintro _ (rfl | ⟨root, s, -, hk, rfl⟩)
        · exact .refl site
        · exact (Site.SameFiles.refl site).keep hk
    replace hends := ends_silent hends
    exact ⟨hends.world log, interrupt?_of_ends hends⟩
  · have hends := ends_ask name Submitter.defaultTimeout ⟨site, store, uploader, launcher⟩
    refine ⟨?_, interrupt?_of_ends hends⟩
    have hsame : Ends (stateManager.askRunning name Submitter.defaultTimeout)
        ⟨site, store, uploader, launcher⟩ (fun _ w => site.SameFiles w.site)
        fun w => site.SameFiles w.site :=
      hends.mono (fun _ _ hw => hw ▸ .refl site) fun _ hw => hw ▸ .refl site
    exact hsame.world log

/-- Where the mark is, no attempt comes further than to the running check. -/
theorem length_le_of_marked (hname : Topology.isName topology.name = true)
    (hmarks : ∀ root, site.settingPath? settings Key.stateRoot = some root →
      site.Marks (site.place root) topology.name)
    (a : (submitter settings topology selection).Attempted r p)
    (hlinked : (submitter settings topology selection).Linked (start site selection)
      p.visits p.world) :
    a.stages.length ≤ 2 ∧ a.undone = [] ∧ a.before.launcherReady = false := by
  rcases a.passage.opening with ⟨u, z, c, ws, hws, pu, pz⟩ | ⟨hlen, hundone, hready, -⟩
  · exfalso
    have hcourse := a.passage.course
    rw [hws] at hcourse
    obtain ⟨hu, hz, -⟩ := hcourse.opening
    rw [a.visits_eq, hws] at hlinked
    obtain ⟨wu, hlinked⟩ := hlinked.of_cons
    have hconfigure := ends_configureState.and
      (ends_configureState_opens settings (start site selection))
    obtain ⟨-, -, -, ⟨root, s, hroot, hk, hleft⟩, root', hstore, hopens⟩ :=
      done_of_passed pu hu wu (ends_silent hconfigure)
    obtain ⟨wz, -⟩ := hlinked.of_cons
    rw [hleft] at wz hstore hopens
    obtain rfl : root = root' := Option.some.inj hstore
    have hmarked : s.Marks (s.place root) topology.name := by
      rw [hk.place]
      exact (hmarks root hroot).keep hk
    obtain ⟨_, -, haccepts, rfl⟩ :=
      done_of_passed pz hz wz (ends_ask_marked _ hname rfl hopens hmarked)
    cases haccepts
  · exact ⟨hlen, hundone, hready⟩

/-- An attempt that finds the mark of its topology is rejected, moves and launches nothing, and leaves
all files as they are. -/
theorem rejected_of_marked (hname : Topology.isName topology.name = true)
    (hmarks : ∀ root, site.settingPath? settings Key.stateRoot = some root →
      site.Marks (site.place root) topology.name)
    (a : (submitter settings topology selection).Attempted r p)
    (hlinked : (submitter settings topology selection).Linked (start site selection)
      p.visits p.world) :
    (∃ o, r = .ok o ∧ o.success = false ∧ o.exitCode = 1 ∧
      ∃ e, o.error = some e ∧ e.kind = .validationRejected) ∧
    (∀ k ∈ p.calls, k.isGuarded = false) ∧ site.SameFiles p.world.site := by
  obtain ⟨hlen, hundone, hready⟩ := length_le_of_marked hname hmarks a hlinked
  have hvisit : ∀ v ∈ p.visits,
      v.call = .configureState ∨ v.call = .runningCheck topology.name ∨ v.call.isClose = true := by
    intro v hv
    rw [a.visits_eq, hundone, List.append_nil] at hv
    rcases List.mem_append.mp hv with hv | hv
    · exact (a.stages_refused hlen hv).imp_right .inl
    · exact .inr (.inr (a.isClose hv))
  have hstep : ∀ v ∈ p.visits,
      v.scene.world.site.SameFiles ((submitter settings topology selection).left v).site ∧
        (submitter settings topology selection).interrupt? v = none := by
    intro v hv
    rcases hvisit v hv with hk | hk | hk
    · exact opening_left (.inl hk)
    · exact opening_left (.inr ⟨_, hk⟩)
    · obtain ⟨hsame, hi⟩ := closed settings topology selection hk
      exact ⟨hsame ▸ .refl _, hi⟩
  have hquiet : ∀ v ∈ p.visits, (submitter settings topology selection).interrupt? v = none :=
    fun v hv => (hstep v hv).2
  refine ⟨⟨p.outcome, a.result_eq_ok hquiet, ?_⟩, fun k => a.calls_refused hlen hundone hready, ?_⟩
  · rcases a.settled hquiet with hcommits | ⟨vs, v, g, hvs, hfails⟩
    · have := hcommits.length
      omega
    · obtain ⟨e, he, hkind, -⟩ := hfails.error
      refine ⟨hfails.success, by rw [Outcome.exitCode, hfails.success]; rfl, e, he, ?_⟩
      have hg := hfails.call
      rcases a.stages_refused hlen (hvs ▸ List.mem_concat_self) with hk | hk <;>
        rw [hk] at hg <;> cases hg <;> exact hkind
  · exact hlinked.keeps (P := fun w => site.SameFiles w.site)
      (fun v hv h l b => ((hstep v hv).1 l b).trans (h l b)) (.refl site)

/-- After a committed attempt a setting of the same value means the same place. -/
theorem place_setting_of_committed {id name body : Value} {o : Outcome}
    (hmake : Topology.make id name body = .ok topology) {log : List Record}
    (hresult : (Act.run (Workshop.submit settings topology selection) ⟨site, log⟩).1 = .ok o)
    (hcommitted : o.success = true) (key : String) :
    let after := (Act.run (Workshop.submit settings topology selection) ⟨site, log⟩).2.world
    (after.settingPath? settings key).map after.place =
      (site.settingPath? settings key).map site.place := by
  intro after
  obtain ⟨a⟩ := Submitter.attempted_submit (s := submitter settings topology selection)
    (start site selection) log
  unfold after
  rw [run_submit] at hresult ⊢
  obtain ⟨-, -, halike, -⟩ := marks_of_committed (Topology.isName_of_make hmake) a
    (Submitter.linked_submit _ _) (by rwa [a.outcome_of_result hresult])
  rw [halike.settingPath?]
  exact congrArg (Option.map · _) (funext halike.place)

/-- After a committed attempt, whatever plugins it worked with, every attempt on the files that it left
is rejected if it is for a topology of the same name and its state is at the same place: the attempt
ends with an outcome that says so, has not called for an upload or a launch, and has changed no file. -/
theorem submit_again_rejected {id name body : Value} {topology topology' : Topology} {o : Outcome}
    {site site' : Site} (settings settings' : Settings)
    (selection selection' : Registry.Selection BuiltIn) (log log' : List Record)
    (hmake : Topology.make id name body = .ok topology)
    (hresult : (Act.run (Workshop.submit settings topology selection) ⟨site, log⟩).1 = .ok o)
    (hcommitted : o.success = true)
    (htree : site'.tree =
      (Act.run (Workshop.submit settings topology selection) ⟨site, log⟩).2.world.tree)
    (hroot : (site'.settingPath? settings' Key.stateRoot).map site'.place =
      (site.settingPath? settings Key.stateRoot).map site.place)
    (hsame : topology'.name = topology.name) :
    let out := Act.run (Workshop.submit settings' topology' selection') ⟨site', log'⟩
    (∃ o', out.1 = .ok o' ∧ o'.success = false ∧ o'.exitCode = 1 ∧
      ∃ e, o'.error = some e ∧ e.kind = .validationRejected) ∧
    Call.uploadPackage ∉ callsOf settings' topology' selection' ⟨site', log'⟩ ∧
    Call.launch ∉ callsOf settings' topology' selection' ⟨site', log'⟩ ∧
    site'.SameFiles out.2.world := by
  intro out
  have hname := Topology.isName_of_make hmake
  obtain ⟨a⟩ := Submitter.attempted_submit (s := submitter settings topology selection)
    (start site selection) log
  obtain ⟨a'⟩ := Submitter.attempted_submit (s := submitter settings' topology' selection')
    (start site' selection') log'
  rw [run_submit] at hresult htree
  obtain ⟨root, hr, halike, hmarks⟩ := marks_of_committed hname a (Submitter.linked_submit _ _)
    (by rwa [a.outcome_of_result hresult])
  have hmarked : ∀ root', site'.settingPath? settings' Key.stateRoot = some root' →
      site'.Marks (site'.place root') topology'.name := by
    intro root' hr'
    rw [hr, hr'] at hroot
    obtain hplace : site'.place root' = site.place root := Option.some.inj hroot
    rw [hplace, ← halike.place, hsame]
    refine ⟨hmarks.hasNul, ?_, ?_⟩ <;> rw [htree]
    · exact hmarks.directory
    · exact hmarks.file
  obtain ⟨hrejected, hcalls, hfiles⟩ :=
    rejected_of_marked (by rwa [hsame]) hmarked a' (Submitter.linked_submit _ _)
  unfold out
  rw [run_submit]
  refine ⟨hrejected, fun hmem => ?_, fun hmem => ?_, hfiles⟩
  · have := hcalls _ hmem
    cases this
  · have := hcalls _ hmem
    cases this

/-- A second attempt to submit the same topology in the same way. -/
theorem submit_again_rejected_of_attemptOn :
    (∃ o, (attemptOn (siteWith [])).1 = .ok o ∧ o.success = true) ∧
    ∃ o, (attemptOn (attemptOn (siteWith [])).2.world).1 = .ok o ∧ o.success = false ∧
      o.exitCode = 1 := by
  have hmake : Topology.make (.text "one-1") (.text "one")
      (.map [(.text "spouts", .list [.map [(.text "name", .text "s")]])]) = .ok spoutTopology := by
    rfl
  obtain ⟨o, hresult, hcommitted⟩ := success_of_map attemptOn_results.1
  unfold attemptOn at hresult ⊢
  obtain ⟨⟨o', hresult', hrejected, hcode, -⟩, -⟩ := submit_again_rejected localSettings localSettings
    localPlugins localPlugins [] [] hmake hresult hcommitted rfl
      (place_setting_of_committed hmake hresult hcommitted Key.stateRoot) rfl
  exact ⟨⟨o, hresult, hcommitted⟩, o', hresult', hrejected, hcode⟩

end Workshop

end TopologySubmission
