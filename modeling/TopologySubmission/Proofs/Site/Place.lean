import TopologySubmission.Proofs.Site.Directory
import TopologySubmission.Proofs.Site.Lookup

/-!
# What is done at the place of a path

Where a path leads to its place, each operation does exactly one thing there, which depends on what
stands at that place alone:

    makeDirs         makes the directory or finds it           (leads_makeDirs, leads_makeDirs_there)
    writeText        puts a file that is read back             (leads_writeText, leads_readText_reached)
    move             takes a file from one place to another    (leads_move)
    removeIfThere    takes a file away                         (leads_removeIfThere)
-/

namespace TopologySubmission.Site

open Act (Leads)

/-! ## Lemmas -/

variable {s : Site} {p q : Path} {b : ByteArray} {text : String}

theorem unifyLineEnds_eq_self {cs : List Char} (h : '\r' ∉ cs) : unifyLineEnds cs = cs := by
  induction cs with
  | nil => rfl
  | cons c cs ih =>
    rw [List.mem_cons, not_or] at h
    rw [unifyLineEnds.eq_3 c cs (fun _ he _ => h.1 he.symm) fun he => h.1 he.symm, ih h.2]

/-- A text without carriage returns is read as it was written. -/
theorem decode_toUTF8 (h : '\r' ∉ text.toList) : decode text.toUTF8 = .ok text := by
  have hbytes : String.fromUTF8? text.toUTF8 = some text := dif_pos text.isValidUTF8
  unfold decode
  rw [hbytes]
  dsimp only
  rw [unifyLineEnds_eq_self h, String.ofList_toList]

theorem Reaches.status {e : FileEntry} (h : s.Reaches p) (he : s.tree.lookup (s.place p) = some e) :
    s.tree.status s.cwd p = .ok e := by
  unfold FileTree.status
  rw [h.2]
  simp only [bind, Except.bind, he]

theorem Reaches.status_missing (h : s.Reaches p) (hnone : s.tree.lookup (s.place p) = none) :
    s.tree.status s.cwd p = .error .noSuchFile := by
  unfold FileTree.status
  rw [h.2]
  simp only [bind, Except.bind, hnone]

theorem leads_exists?_reached (h : s.Reaches p) :
    Leads (exists? p) s (.ok (s.tree.lookup (s.place p)).isSome) s := by
  cases he : s.tree.lookup (s.place p) with
  | none => exact leads_exists?_missing (h.status_missing he)
  | some e => exact leads_exists? h.1 (h.status he)

theorem leads_readText_reached (h : s.Reaches p)
    (hfile : s.tree.lookup (s.place p) = some (.file text.toUTF8)) (hline : '\r' ∉ text.toList) :
    Leads (readText p) s (.ok text) s := by
  apply leads_readText h.1 _ (decode_toUTF8 hline)
  unfold FileTree.readFile
  rw [h.status hfile]
  rfl

/-! ### Directories -/

theorem leads_tryMakeDir (h : s.Reaches p) (hnone : s.tree.lookup (s.place p) = none) :
    Leads (tryMakeDir p) s (.ok (.ok ())) { s with tree := s.tree.put (s.place p) .directory } := by
  apply Leads.bind (leads_checkPath h.1 s)
  apply Leads.bind (Leads.getWorld s)
  have hmake : s.tree.makeDir s.cwd p = .ok (s.tree.put (s.place p) .directory) := by
    unfold FileTree.makeDir
    rw [h.2]
    simp only [bind, Except.bind, hnone]
  rw [hmake]
  exact Leads.bind (Leads.change _ s) (Leads.pure _ _)

theorem leads_tryMakeDir_there {e : FileEntry} (h : s.Reaches p)
    (he : s.tree.lookup (s.place p) = some e) :
    Leads (tryMakeDir p) s (.ok (.error .fileExists)) s := by
  apply Leads.bind (leads_checkPath h.1 s)
  apply Leads.bind (Leads.getWorld s)
  have hmake : s.tree.makeDir s.cwd p = .error .fileExists := by
    unfold FileTree.makeDir
    rw [h.2]
    simp only [bind, Except.bind, he]
  rw [hmake]
  exact Leads.pure _ s

/-- If nothing is missing on the way, making directories is one attempt. -/
theorem leads_makeDirs_of_try {r : Except Refusal Unit} {s' s'' : Site}
    (htry : Leads (tryMakeDir p) s (.ok r) s') (hr : r ≠ .error .noSuchFile)
    (hsettle : Leads (settle p r) s' (.ok ()) s'') : Leads (makeDirs p) s (.ok ()) s'' := by
  unfold makeDirs
  cases p.names.length with
  | zero =>
    rw [makeDirsUpTo_zero]
    exact Leads.bind htry hsettle
  | succ n =>
    rw [makeDirsUpTo_succ]
    apply Leads.bind htry
    rw [if_neg hr]
    exact hsettle

theorem leads_makeDirs (h : s.Reaches p) (hnone : s.tree.lookup (s.place p) = none) :
    Leads (makeDirs p) s (.ok ()) { s with tree := s.tree.put (s.place p) .directory } :=
  leads_makeDirs_of_try (leads_tryMakeDir h hnone) nofun (Leads.pure () _)

theorem leads_makeDirs_there (h : s.Reaches p)
    (hdir : s.tree.lookup (s.place p) = some .directory) : Leads (makeDirs p) s (.ok ()) s := by
  refine leads_makeDirs_of_try (leads_tryMakeDir_there h hdir) nofun ?_
  exact Leads.bind (leads_isDir? h.1 (h.status hdir)) (Leads.pure () s)

/-! ### Files -/

theorem leads_writeText (h : s.Reaches p) (hfile : s.tree.lookup (s.place p) ≠ some .directory)
    (text : String) : Leads (writeText p text) s (.ok ())
      { s with tree := s.tree.put (s.place p) (.file text.toUTF8) } := by
  apply Leads.bind (leads_checkPath h.1 s)
  apply Leads.bind (Leads.getWorld s)
  have hwrite : s.tree.writeFile s.cwd p text.toUTF8 =
      .ok (s.tree.put (s.place p) (.file text.toUTF8)) := by
    unfold FileTree.writeFile
    rw [h.2]
    simp only [bind, Except.bind]
  rw [hwrite]
  exact Leads.bind (Leads.pure _ s) (Leads.change _ s)

theorem leads_move (hp : s.Reaches p) (hq : s.Reaches q)
    (hfixed : FileTree.isFixed p = false ∧ FileTree.isFixed q = false)
    (hfile : s.tree.lookup (s.place p) = some (.file b))
    (htarget : s.tree.lookup (s.place q) ≠ some .directory) :
    Leads (move p q) s (.ok ())
      { s with tree := (s.tree.remove (s.place p)).put (s.place q) (.file b) } := by
  apply Leads.bind (leads_checkPath hp.1 s)
  apply Leads.bind (leads_checkPath hq.1 s)
  apply Leads.bind (Leads.getWorld s)
  have hmove : s.tree.moveFile s.cwd p q =
      .ok ((s.tree.remove (s.place p)).put (s.place q) (.file b)) := by
    unfold FileTree.moveFile
    rw [hp.2, hq.2]
    simp only [bind, Except.bind, hfixed.1, hfixed.2, Bool.or_self, hfile]
    rfl
  rw [hmove]
  exact Leads.change _ s

theorem leads_removeIfThere (h : s.Reaches p) (hfile : s.tree.lookup (s.place p) = some (.file b)) :
    Leads (removeIfThere p) s (.ok ()) { s with tree := s.tree.remove (s.place p) } := by
  apply Leads.bind (leads_checkPath h.1 s)
  apply Leads.bind (Leads.getWorld s)
  have hremove : s.tree.removeFile s.cwd p = .ok (s.tree.remove (s.place p)) := by
    unfold FileTree.removeFile
    rw [h.2]
    simp only [bind, Except.bind, hfile]
  rw [hremove]
  exact Leads.change _ s

theorem leads_removeIfThere_missing (hnul : p.hasNul = false)
    (h : s.tree.status s.cwd p = .error .noSuchFile) : Leads (removeIfThere p) s (.ok ()) s := by
  apply Leads.bind (leads_checkPath hnul s)
  apply Leads.bind (Leads.getWorld s)
  have hremove : s.tree.removeFile s.cwd p = .error .noSuchFile := by
    unfold FileTree.status at h
    unfold FileTree.removeFile
    cases hl : s.tree.locate s.cwd p with
    | error why =>
      rw [hl] at h
      exact congrArg Except.error (Except.error.inj h)
    | ok l =>
      rw [hl] at h
      simp only [bind, Except.bind] at h ⊢
      split at h
      · cases h
      · next hnone => rw [hnone]
  rw [hremove]
  exact Leads.pure () s

end TopologySubmission.Site
