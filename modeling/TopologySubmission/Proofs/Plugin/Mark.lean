import TopologySubmission.Proofs.Act.Preserves
import TopologySubmission.Proofs.Plugin.Conduct
import TopologySubmission.Proofs.Plugin.Layout
import TopologySubmission.Proofs.Site.Directory

/-!
# The mark of a running topology

A launch leaves a file in the directory of the topologies, under the name of its topology, whatever
the uploader did before it. Any state manager that comes to have the same root finds that file: what it
does to make its root ready removes no file, and the path it looks up leads there, unless the path is
longer than the system takes.

    Marks s l name      the file is below the location of a root
    a launch that succeeds leaves the mark of its topology        (ends_launch_marks)
    where the mark is, no running check says that nothing runs    (ends_ask_marked)
-/

namespace TopologySubmission

open Act (Ends Preserves)
open LocalStore (nodePath)

/-! ## Algorithm -/

namespace Site

/-- Below the location of a root there is a file for the topology. -/
structure Marks (s : Site) (l : Location) (name : String) : Prop where
  hasNul : name.toList.contains (Char.ofNat 0) = false
  directory : s.tree.lookup (l ++ [NodeKind.directory .topology]) = some .directory
  file : ∃ b, s.tree.lookup (l ++ [NodeKind.directory .topology, name]) = some (.file b)

/-- The sites differ only in their files and in what other programs did. -/
def Alike (s s' : Site) : Prop :=
  s' = { s with tree := s'.tree, answers := s'.answers, commands := s'.commands }

end Site

namespace Workshop

/-- The state manager has a root, the launcher does not know of anything yet, and the site is like one
before. -/
structure Rooted (before : Site) (root : Path) (w : Workshop) : Prop where
  site : before.Alike w.site
  store : w.store.root = some root
  launcher : w.launcher = {}

end Workshop

/-! ## Lemmas -/

theorem Topology.ne_up_of_isName {s : String} (h : isName s = true) : s ≠ ".." := by
  rintro rfl
  revert h
  decide

namespace Site

variable {s s' u : Site} {p root : Path} {l : Location} {name : String} {dirs : Set Location}

namespace Alike

theorem refl (s : Site) : s.Alike s := rfl

theorem trans (h : s.Alike s') (h' : s'.Alike u) : s.Alike u := by
  unfold Alike at h h' ⊢
  rw [h', h]

theorem of_keeps {files : Set Location} (h : Keeps files dirs s s') : s.Alike s' := by
  unfold Alike
  rw [h.rest]

theorem place (h : s.Alike s') (p : Path) : s'.place p = s.place p := by
  unfold Site.place
  rw [h]

theorem settingPath? (h : s.Alike s') (settings : Settings) (key : String) :
    s'.settingPath? settings key = s.settingPath? settings key := by
  rw [h]
  rfl

theorem runCommand (s : Site) (r : CommandRun) : s.Alike (s.runCommand r).2 := by
  unfold Alike Site.runCommand
  cases s.answers <;> rfl

end Alike

/-- Names that do not go up lead from the place of a path to a place below it. -/
theorem place_below (s : Site) (p : Path) {names : List String} (h : ".." ∉ names) :
    s.place { p with names := p.names ++ names } = s.place p ++ names := by
  unfold place FileTree.normalize
  rw [List.foldl_append]
  exact FileTree.foldl_of_plain h _

/-- The nodes of topologies are below their root under the names of the topologies. -/
theorem place_nodePath (s : Site) (root : Path) (kind : NodeKind)
    (h : Topology.isName name = true) :
    s.place (nodePath root kind name) = s.place root ++ [kind.directory, name] := by
  have hplain : ".." ∉ [kind.directory, name] := by
    have := Topology.ne_up_of_isName h
    cases kind <;> simp [NodeKind.directory, Ne.symm this]
  rw [LocalStore.nodePath_eq root kind name (Topology.ofText_of_isName h)]
  exact s.place_below root hplain

namespace Marks

/-- The node of a topology is its mark. -/
theorem of_shows {b : ByteArray} (hname : Topology.isName name = true)
    (h : s.Shows (nodePath root .topology name) b) : s.Marks (s.place root) name := by
  obtain ⟨⟨hnul, hlocate⟩, hfile⟩ := h
  have hpath := LocalStore.nodePath_eq root .topology name (Topology.ofText_of_isName hname)
  refine ⟨?_, ?_, b, ?_⟩
  · rw [hpath] at hnul
    simp only [Path.hasNul, List.any_append, List.any_cons, Bool.or_eq_false_iff] at hnul
    exact hnul.2.2.1
  · have hwalk := walk_of_locate hlocate
    rw [hpath] at hwalk
    dsimp only at hwalk
    rw [List.append_cons] at hwalk
    obtain ⟨d, hd, hdir⟩ := FileTree.walk_concat hwalk
    have hplain : ".." ∉ [NodeKind.directory .topology] := by decide
    have hplace := FileTree.walk_eq_foldl _ _ _ _ hd
    rw [List.foldl_append, FileTree.foldl_of_plain hplain] at hplace
    exact hplace ▸ hdir
  · rw [← place_nodePath s root .topology hname]
    exact hfile

theorem keep (h : s.Marks l name) (hk : Keeps ∅ dirs s s') : s'.Marks l name where
  hasNul := h.hasNul
  directory := hk.tree.directory _ h.directory
  file := by
    obtain ⟨b, hb⟩ := h.file
    exact ⟨b, (hk.tree.file_iff (Set.notMem_empty _) b).mpr hb⟩

/-- The mark is found from a root at that location, unless the path to it is too long. -/
theorem status (h : s.Marks (s.place root) name) (hroot : s.Opens root)
    (hname : Topology.isName name = true) :
    (nodePath root .topology name).hasNul = false ∧
      ((∃ e, s.tree.status s.cwd (nodePath root .topology name) = .ok e) ∨
        s.tree.status s.cwd (nodePath root .topology name) = .error .nameTooLong) := by
  obtain ⟨b, hb⟩ := h.file
  have hdir : NodeKind.directory .topology ≠ ".." := by decide
  have hshort : ¬ FileTree.maxNameBytes < (NodeKind.directory .topology).utf8ByteSize := by decide
  have hwalk : s.tree.walk (s.base root) (root.names ++ [NodeKind.directory .topology, name]) =
      if FileTree.maxNameBytes < name.utf8ByteSize then .error .nameTooLong
      else .ok (s.place root ++ [NodeKind.directory .topology, name]) := by
    rw [FileTree.walk_append, hroot.walk]
    show s.tree.walk (s.place root) _ = _
    rw [FileTree.walk_cons _ hroot.directory hdir, if_neg hshort,
      FileTree.walk_cons _ h.directory (Topology.ne_up_of_isName hname), List.append_assoc]
    rfl
  rw [LocalStore.nodePath_eq root .topology name (Topology.ofText_of_isName hname)]
  constructor
  · have hnul := hroot.hasNul
    unfold Path.hasNul at hnul ⊢
    have hdirNul : (NodeKind.directory .topology).toList.contains (Char.ofNat 0) = false := by decide
    simp only [List.any_append, List.any_cons, List.any_nil, hnul, hdirNul, h.hasNul, Bool.or_self]
  · unfold FileTree.status FileTree.locate
    split
    · exact .inr rfl
    · replace hwalk : s.tree.walk (if Path.isAbsolute
          { root with names := root.names ++ [NodeKind.directory .topology, name] } = true then []
          else s.cwd) _ = _ := hwalk
      rw [hwalk]
      split
      · exact .inr rfl
      · left
        simp only [bind, Except.bind, hb]
        exact ⟨_, rfl⟩

end Marks

end Site

/-! ### The state manager -/

namespace LocalStore

variable {s : Site}

/-- A root is ready only if it leads to a directory. -/
theorem ends_prepareRoot_opens (settings : Settings) (root : Path) (s : Site) :
    Ends (prepareRoot settings root) s (fun _ v => v.Opens root) fun _ => True := by
  refine .ite (fun _ => .bind ?_) fun _ => .bind ?_
  · refine (Site.ends_makeDirs_opens _ s).mono (fun _ v hv => ?_) fun _ => id
    have hpath : root.child (NodeKind.directory .topology) =
        { root with names := root.names ++ [NodeKind.directory .topology] } := rfl
    rw [hpath] at hv
    exact (ends_makeTree root _ v).mono (fun _ _ hk => hv.above.keep hk) fun _ _ => trivial
  · refine (Site.ends_isDir?_opens root s).mono ?_ fun _ _ => trivial
    rintro b _ ⟨rfl, hopens⟩
    exact .ite (fun hb => .pure (hopens hb)) fun _ => .fail trivial

/-- A check does not miss what is there. -/
theorem ends_checkNode_found {p : Path} (hnul : p.hasNul = false)
    (hstatus : (∃ e, s.tree.status s.cwd p = .ok e) ∨
      s.tree.status s.cwd p = .error .nameTooLong) :
    Ends (checkNode p) s
      (fun a _ => a = .finished (.bool true) ∨ ∃ f, a = .stopped (.failure f)) fun _ => False := by
  have hfind : Ends (Site.find? p) s (fun r _ => r.isSome = true) fun _ => True := by
    refine .bind (.getWorld ?_)
    rw [hnul]
    rcases hstatus with ⟨e, he⟩ | he <;> rw [he]
    · exact .pure rfl
    · exact .fail trivial
  refine .bind (.attempt (.bind (hfind.mono (fun r v hr => ?_) fun v _ f => ?_)))
  · rw [hr]
    exact .pure (.pure (.inl rfl))
  · exact .pure (.inr ⟨f, rfl⟩)

end LocalStore

namespace Workshop

variable {site before : Site} {store : LocalStore} {uploader : UploaderState}
  {launcher : LocalLauncher} {settings : Settings} {root : Path} {name : String} {w : Workshop}

theorem ends_configureState_opens (settings : Settings) (w : Workshop) :
    Ends (stateManager.configure settings) w
      (fun _ v => ∃ root, v.store.root = some root ∧ v.site.Opens root) fun _ => True := by
  refine .bind (.within ((Site.ends_pathSetting settings Key.stateRoot w.site).mono ?_
    fun _ _ => trivial))
  rintro root _ ⟨rfl, -⟩
  refine .bind (.within (.change ?_))
  refine .bind (.within ((LocalStore.ends_prepareRoot_opens settings root w.site).mono ?_
    fun _ _ => trivial))
  exact fun _ s hs => .bind (.within (.change (.log ⟨root, rfl, hs⟩)))

/-- Where the mark is, a running check answers yes, if it answers. -/
theorem ends_ask_marked (timeout : Value) (hname : Topology.isName name = true)
    (hstore : w.store.root = some root) (hroot : w.site.Opens root)
    (h : w.site.Marks (w.site.place root) name) :
    Ends (stateManager.askRunning name timeout) w (fun x _ => x = .bool true) fun _ => True := by
  refine .bind (.bind (.within (.getWorld (.ite (fun _ => ?_) fun _ => .fail trivial))))
  refine .bind (.bind (.within (.getWorld ?_)))
  obtain ⟨site, ⟨known, answers⟩, uploader, launcher⟩ := w
  obtain rfl : known = some root := hstore
  obtain ⟨hnul, hstatus⟩ := h.status hroot hname
  refine .pure ?_
  generalize nodePath root .topology name = p at hnul hstatus ⊢
  refine .within ((LocalStore.ends_checkNode_found hnul hstatus).mono ?_ fun _ => False.elim)
  rintro a _ (rfl | ⟨f, rfl⟩)
  · exact .pure rfl
  · exact .fail trivial

/-! ### The uploaders -/

namespace Rooted

theorem preserves_site {α : Type} {a : Act Site α} (h : Preserves before.Alike a) :
    Preserves (Rooted before root) (Act.within sitePart a) :=
  .within (fun _ hw => hw.site) (fun _ _ hw hv => ⟨hv, hw.store, hw.launcher⟩) h

theorem preserves_uploader {α τ : Type} {q : Part UploaderState τ} {a : Act τ α} :
    Preserves (Rooted before root) (Act.within (uploaderPart.trans q) a) :=
  .apart fun _ _ hw => ⟨hw.site, hw.store, hw.launcher⟩

end Rooted

theorem alike_pathSetting (settings : Settings) (key : String) :
    Preserves before.Alike (Site.pathSetting settings key) :=
  Ends.preserves fun s hs => (Site.ends_pathSetting settings key s).mono
    (fun _ _ hv => hv.1 ▸ hs) fun _ hv => hv ▸ hs

theorem rooted_configureUploader (kind : UploaderState) (settings : Settings) :
    Preserves (Rooted before root)
      ((kind.uploader sitePart uploaderPart).configure settings) := by
  have hpath : ∀ key, Preserves (Rooted before root)
      (Act.within sitePart (Site.pathSetting settings key)) := fun key =>
    Rooted.preserves_site (alike_pathSetting settings key)
  cases kind with
  | toDirectory u =>
    refine (hpath _).bind fun package => Rooted.preserves_uploader.bind fun _ => ?_
    exact (hpath _).bind fun _ => Rooted.preserves_uploader
  | toHost u =>
    refine Rooted.preserves_uploader.bind fun _ => ?_
    extract_lets last rest
    have hlast : ∀ x, Preserves (Rooted before root) (last x) := fun _ =>
      (hpath _).bind fun _ => Rooted.preserves_uploader
    have hrest : ∀ x, Preserves (Rooted before root) (rest x) := by
      intro x
      refine (Preserves.ofExcept _).bind fun _ => Rooted.preserves_uploader.bind fun _ => ?_
      refine (Preserves.ofExcept _).bind fun _ => Rooted.preserves_uploader.bind fun _ => ?_
      refine (Preserves.ofExcept _).bind fun _ => Rooted.preserves_uploader.bind fun _ => ?_
      exact .ite ((Preserves.fail _).bind hlast) (hlast ())
    split
    · exact hrest ()
    · exact (Preserves.fail _).bind hrest

/-- Another program is run on the site, and what it answers is reported. -/
theorem rooted_run (words : List Value) :
    Preserves (Rooted before root)
      (ScpUploader.run sitePart (uploaderPart.trans UploaderState.hostPart) words) := by
  refine (Preserves.ofExcept _).bind fun _ => (Preserves.log _ _).bind fun _ => ?_
  refine Rooted.preserves_uploader.bind fun u => ?_
  refine Preserves.look (fun _ => rfl) fun w hw => ?_
  have hsite : before.Alike ((sitePart.get w).runCommand ⟨words, u.timeout⟩).2 :=
    hw.site.trans (.runCommand _ _)
  refine (Rooted.preserves_site (.setWorld hsite)).bind fun _ => ?_
  unfold ScpUploader.reportAnswer
  split
  · exact .ite (.pure _) ((Preserves.log _ _).bind fun _ => .pure _)
  · exact (Preserves.log _ _).bind fun _ => .pure _
  · exact .ite ((Preserves.log _ _).bind fun _ => .pure _) (.fail _)
  · exact .stop _

theorem alike_place (package destination : Path) :
    Preserves before.Alike (LocalUploader.place package destination) :=
  Ends.preserves fun s hs => (ends_place package destination s).mono
    (fun _ _ hv => hs.trans (.of_keeps hv.keeps)) fun _ hv => hs.trans (.of_keeps hv)

theorem alike_isFile? (p : Path) : Preserves before.Alike (Site.isFile? p) :=
  Ends.preserves fun s hs => (Site.ends_isFile? p s).mono (fun _ _ hv => hv ▸ hs) fun _ hv => hv ▸ hs

theorem alike_exists? (p : Path) : Preserves before.Alike (Site.exists? p) :=
  Ends.preserves fun s hs => (Site.ends_exists? p s).mono (fun _ _ hv => hv ▸ hs) fun _ hv => hv ▸ hs

theorem rooted_uploadToDirectory (u : LocalUploader) :
    Preserves (Rooted before root)
      ((UploaderState.toDirectory u).uploader sitePart uploaderPart).uploadPackage := by
  refine Rooted.preserves_uploader.bind fun u => ?_
  split
  · next package destination _ _ =>
    refine (Rooted.preserves_site (alike_isFile? package)).bind fun _ => .ite ?_ ?_
    · refine (Rooted.preserves_site (alike_exists? destination)).bind fun _ => ?_
      extract_lets rest
      have hrest : ∀ x, Preserves (Rooted before root) (rest x) := by
        intro x
        refine (Rooted.preserves_site (alike_place package destination)).attempt.bind fun r => ?_
        cases r with
        | error f => exact .ite ((Preserves.log _ _).bind fun _ => .pure _) (.fail _)
        | ok _ =>
          refine Rooted.preserves_uploader.bind fun _ => (Preserves.log _ _).bind fun _ => ?_
          exact .look (fun _ => rfl) fun _ _ => .pure _
      exact .ite ((Preserves.log _ _).bind hrest) (hrest ())
    · exact (Preserves.log _ _).bind fun _ => .pure _
  · exact .fail _

theorem rooted_uploadToHost (u : ScpUploader) :
    Preserves (Rooted before root)
      ((UploaderState.toHost u).uploader sitePart uploaderPart).uploadPackage := by
  refine Rooted.preserves_uploader.bind fun u => ?_
  split
  · exact .fail _
  · next package _ =>
    refine (Rooted.preserves_site (alike_isFile? package)).bind fun _ => .ite (.bind ?_ fun _ => ?_) ?_
    · refine Rooted.preserves_uploader.bind fun _ => (Preserves.ofExcept _).bind fun _ => ?_
      refine (rooted_run _).bind fun _ => .ite (.pure _) ?_
      exact (Preserves.log _ _).bind fun _ => .pure _
    · refine .ite (Rooted.preserves_uploader.bind fun _ => ?_) (.pure _)
      refine (Preserves.ofExcept _).bind fun _ => (Preserves.ofExcept _).bind fun _ => ?_
      refine (rooted_run _).bind fun _ => ?_
      refine .ite (Rooted.preserves_uploader.bind fun _ => .pure _) ?_
      exact (Preserves.log _ _).bind fun _ => .pure _
    · exact (Preserves.log _ _).bind fun _ => .pure _

theorem rooted_upload (kind : UploaderState) :
    Preserves (Rooted before root) (kind.uploader sitePart uploaderPart).uploadPackage := by
  cases kind with
  | toDirectory u => exact rooted_uploadToDirectory u
  | toHost u => exact rooted_uploadToHost u

/-! ### The launcher -/

/-- A launch that succeeds leaves the mark of its topology, as its last file. -/
theorem ends_launch_marks {r : Runtime} (hname : Topology.isName r.topology.name = true)
    (hroot : store.root = some root) (hruntime : launcher.runtime = some r) :
    Ends localLauncher.launch ⟨site, store, uploader, launcher⟩
      (fun x v => x.isTruthy = true →
        site.Alike v.site ∧ v.site.Marks (v.site.place root) r.topology.name) fun _ => True := by
  obtain ⟨launcherSettings, runtime, workingDir, registrations⟩ := launcher
  obtain rfl : runtime = some r := hruntime
  refine .bind (.within (.getWorld ?_))
  refine .bind (.pure (.bind (.bind (.ofExcept (fun cs _ => .bind (.log ?_)) trivial))))
  refine .ofExcept (fun plan _ => .ite (fun _ => .bind (.log (.pure nofun))) fun _ => .bind ?_) trivial
  refine .bind (.within (.getWorld (.bind (.ofExcept (fun state _ => ?_) trivial))))
  refine .bind ((ends_register .executionState _ _).mono ?_ fun _ _ => trivial)
  rintro _ _ ⟨_, s₁, -, h₁, rfl⟩
  refine .bind ((ends_register .packingPlan _ _).mono ?_ fun _ _ => trivial)
  rintro _ _ ⟨_, s₂, -, h₂, rfl⟩
  refine .bind ((ends_writeManifest _ plan).mono ?_ fun _ _ => trivial)
  rintro _ _ ⟨_, _, s₃, -, -, -, h₃, rfl⟩
  refine .bind (.ofExcept (fun es _ => ?_) trivial)
  refine .bind ((ends_register .topology es _).mono ?_ fun _ _ => trivial)
  rintro _ _ ⟨root', s₄, hroot', h₄, rfl⟩
  obtain rfl : root = root' := Option.some.inj (hroot.symm.trans hroot')
  refine .log (.pure fun _ => ⟨?_, ?_⟩)
  · exact (Site.Alike.of_keeps h₁.keeps).trans <| (Site.Alike.of_keeps h₂.keeps).trans <|
      (Site.Alike.of_keeps h₃.keeps).trans (.of_keeps h₄.keeps)
  · obtain ⟨text, -, hholds⟩ := h₄.holds
    exact .of_shows hname ⟨h₄.reaches, hholds⟩

end Workshop

end TopologySubmission
