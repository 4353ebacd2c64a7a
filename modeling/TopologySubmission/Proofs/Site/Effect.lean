import TopologySubmission.Proofs.Act.Ends
import TopologySubmission.Proofs.Files.Frame
import TopologySubmission.Site.PathSetting

/-!
# What working with files does to a site

An act on files changes the tree of its site and nothing else of it. A question changes nothing, an
act that fails to write or to move changes nothing, and making directories changes no file:

    makeDirs p       directories come up on the way to p                    (ends_makeDirs)
    writeText p t    the file at p has the text                             (ends_writeText)
    removeIfThere p  no file is at p, if p leads somewhere                  (ends_removeIfThere)
    move p q         the file of p is at q                                  (ends_move)
    copyFile p q     the file at q has the bytes of the file at p           (ends_copyFile)
-/

namespace TopologySubmission

open FileTree (ways)

namespace Site

/-! ## Algorithm -/

/-- The location that a path means. -/
def place (s : Site) (p : Path) : Location := FileTree.normalize s.cwd p

/-- A file with these bytes is at the place of the path. -/
def Holds (s : Site) (p : Path) (b : ByteArray) : Prop := s.tree.lookup (s.place p) = some (.file b)

/-- The path leads to its place. -/
def Reaches (s : Site) (p : Path) : Prop :=
  p.hasNul = false ∧ s.tree.locate s.cwd p = .ok (s.place p)

/-- The path leads to its place, and a file with these bytes is there. -/
def Shows (s : Site) (p : Path) (b : ByteArray) : Prop := s.Reaches p ∧ s.Holds p b

/-- The first site became the second one: only its tree changed, and only where it may. -/
structure Keeps (files dirs : Set Location) (s s' : Site) : Prop where
  rest : s' = { s with tree := s'.tree }
  tree : s.tree.Keeps files dirs s'.tree

/-- The same files with the same bytes are on both sites. -/
def SameFiles (s s' : Site) : Prop :=
  ∀ l b, s'.tree.lookup l = some (.file b) ↔ s.tree.lookup l = some (.file b)

/-- What is left after a file was to be removed. -/
structure Removed (p : Path) (s s' : Site) : Prop where
  keeps : Keeps {s.place p} ∅ s s'
  gone : s.Reaches p → ∀ b, ¬ s'.Holds p b

/-- How a last attempt to make a directory is taken. -/
def settle (p : Path) : Except Refusal Unit → Act Site Unit
  | .ok () => pure ()
  | .error .noSuchFile => Act.fail (refusal p .noSuchFile)
  | .error why => acceptDir p why

/-- The path that a setting means on a site. -/
def settingPath? (s : Site) (settings : Settings) (key : String) : Option Path :=
  match settings.get? key with
  | some (.text t) => (s.expandHome (Path.ofText t)).toOption
  | _ => none

/-! ## Lemmas -/

variable {s s' u : Site} {p q : Path} {files files' dirs dirs' : Set Location}

namespace Keeps

theorem refl (files dirs : Set Location) (s : Site) : Keeps files dirs s s :=
  ⟨rfl, .refl files dirs s.tree⟩

theorem cwd (h : Keeps files dirs s s') : s'.cwd = s.cwd := by rw [h.rest]

theorem yaml (h : Keeps files dirs s s') : s'.yaml = s.yaml := by rw [h.rest]

theorem place (h : Keeps files dirs s s') (p : Path) : s'.place p = s.place p := by
  unfold Site.place
  rw [h.cwd]

theorem settingPath? (h : Keeps files dirs s s') (settings : Settings) (key : String) :
    s'.settingPath? settings key = s.settingPath? settings key := by rw [h.rest]; rfl

theorem trans (h : Keeps files dirs s s') (h' : Keeps files dirs s' u) : Keeps files dirs s u where
  rest := by rw [h'.rest, h.rest]
  tree := h.tree.trans h'.tree

theorem mono (h : Keeps files dirs s s') (hf : files ⊆ files') (hd : dirs ⊆ dirs') :
    Keeps files' dirs' s s' :=
  ⟨h.rest, h.tree.mono hf hd⟩

theorem reaches (h : Keeps files dirs s s') (hp : s.Reaches p) : s'.Reaches p := by
  refine ⟨hp.1, ?_⟩
  rw [h.cwd, h.place]
  exact FileTree.locate_of_directories h.tree.directory hp.2

theorem holds_iff (h : Keeps files dirs s s') (hp : s.place p ∉ files) (b : ByteArray) :
    s'.Holds p b ↔ s.Holds p b := by
  unfold Holds
  rw [h.place]
  exact h.tree.file_iff hp b

/-- A site whose tree changed only where it may. -/
theorem of_tree {t : FileTree} (h : s.tree.Keeps files dirs t) :
    Keeps files dirs s { s with tree := t } := ⟨rfl, h⟩

end Keeps

theorem SameFiles.refl (s : Site) : s.SameFiles s := fun _ _ => .rfl

/-- Where only directories came up, the files are the same. -/
theorem SameFiles.keep (h : s.SameFiles s') (hk : Keeps ∅ dirs s' u) : s.SameFiles u := fun l b =>
  (hk.tree.file_iff (Set.notMem_empty l) b).trans (h l b)

/-! ### Questions -/

open Act (Ends)

theorem ends_find? (p : Path) (s : Site) : Ends (find? p) s (fun _ v => s = v) (s = ·) := by
  refine .bind (.getWorld (.ite (fun _ => .pure rfl) fun _ => ?_))
  cases s.tree.status s.cwd p with
  | ok e => exact .pure rfl
  | error why => cases why <;> first | exact .pure rfl | exact .fail rfl

theorem ends_exists? (p : Path) (s : Site) : Ends (exists? p) s (fun _ v => s = v) (s = ·) :=
  .bind ((ends_find? p s).mono (fun _ _ hv => .pure hv) fun _ => id)

theorem ends_isDir? (p : Path) (s : Site) : Ends (isDir? p) s (fun _ v => s = v) (s = ·) :=
  .bind ((ends_find? p s).mono (fun _ _ hv => .pure hv) fun _ => id)

theorem ends_isFile? (p : Path) (s : Site) : Ends (isFile? p) s (fun _ v => s = v) (s = ·) := by
  refine .bind ((ends_find? p s).mono (fun e v hv => ?_) fun _ => id)
  rcases e with _ | _ | b <;> exact .pure hv

theorem ends_checkPath (p : Path) (s : Site) :
    Ends (checkPath p) s (fun _ v => s = v ∧ p.hasNul = false)
      fun v => s = v ∧ p.hasNul = true :=
  .ite (fun h => .fail ⟨rfl, h⟩) fun h => .pure ⟨rfl, by simpa using h⟩

/-! ### Directories -/

theorem ends_tryMakeDir (p : Path) (s : Site) :
    Ends (tryMakeDir p) s (fun _ v => Keeps ∅ {s.place p} s v) (s = ·) := by
  refine .bind ((ends_checkPath p s).mono ?_ fun _ h => h.1)
  rintro _ _ ⟨rfl, -⟩
  refine .bind (.getWorld ?_)
  cases ht : s.tree.makeDir s.cwd p with
  | ok t => exact .bind (.change (.pure (.of_tree (FileTree.keeps_makeDir ht))))
  | error why => exact .pure (.refl _ _ s)

theorem ends_acceptDir (p : Path) (why : Refusal) (s : Site) :
    Ends (acceptDir p why) s (fun _ v => s = v) (s = ·) := by
  refine .bind ((ends_isDir? p s).mono (fun b v hv => ?_) fun _ => id)
  exact .ite (fun _ => .pure hv) fun _ => .fail hv

theorem place_mem_ways (s : Site) (p : Path) : s.place p ∈ ways s.cwd p :=
  ⟨p.names, List.prefix_rfl, rfl⟩

theorem ways_parent_subset (cwd : Location) (p : Path) : ways cwd p.parent ⊆ ways cwd p := by
  rintro l ⟨ns, hns, rfl⟩
  exact ⟨ns, hns.trans (List.dropLast_prefix p.names), rfl⟩

theorem makeDirsUpTo_zero (p : Path) : makeDirsUpTo p 0 = tryMakeDir p >>= settle p := rfl

/-- Only if something is missing on the way, that is made first. -/
theorem makeDirsUpTo_succ (p : Path) (n : Nat) :
    makeDirsUpTo p (n + 1) = tryMakeDir p >>= fun r =>
      if r = .error .noSuchFile then do
        makeDirsUpTo p.parent n
        tryMakeDir p >>= settle p
      else settle p r := by
  rw [makeDirsUpTo]
  congr 1
  funext r
  rcases r with why | _
  · cases why <;> rfl
  · rfl

/-- Only directories come up, on the way to the path. -/
theorem ends_makeDirsUpTo (n : Nat) : ∀ (p : Path) (s : Site),
    Ends (makeDirsUpTo p n) s (fun _ v => Keeps ∅ (ways s.cwd p) s v)
      fun v => Keeps ∅ (ways s.cwd p) s v := by
  have hsettle : ∀ (p : Path) (s v : Site) (r : Except Refusal Unit),
      Keeps ∅ (ways s.cwd p) s v →
      Ends (settle p r) v (fun _ u => Keeps ∅ (ways s.cwd p) s u)
        fun u => Keeps ∅ (ways s.cwd p) s u := by
    intro p s v r h
    have haccept : ∀ why, Ends (acceptDir p why) v (fun _ u => Keeps ∅ (ways s.cwd p) s u)
        fun u => Keeps ∅ (ways s.cwd p) s u := fun why =>
      (ends_acceptDir p why v).mono (fun _ _ hu => hu ▸ h) fun _ hu => hu ▸ h
    rcases r with why | _
    · cases why <;> first | exact .fail h | exact haccept _
    · exact .pure h
  have htry : ∀ (p : Path) (s v : Site), Keeps ∅ (ways s.cwd p) s v →
      Ends (tryMakeDir p) v (fun _ u => Keeps ∅ (ways s.cwd p) s u)
        fun u => Keeps ∅ (ways s.cwd p) s u := by
    intro p s v h
    refine (ends_tryMakeDir p v).mono (fun _ u hu => h.trans ?_) fun u hu => hu ▸ h
    refine hu.mono subset_rfl ?_
    rw [h.place]
    exact Set.singleton_subset_iff.mpr (place_mem_ways s p)
  -- a last attempt, after which nothing more is made
  have hlast : ∀ (p : Path) (s v : Site), Keeps ∅ (ways s.cwd p) s v →
      Ends (tryMakeDir p >>= settle p) v (fun _ u => Keeps ∅ (ways s.cwd p) s u)
        fun u => Keeps ∅ (ways s.cwd p) s u := fun p s v h =>
    .bind ((htry p s v h).mono (fun r u hu => hsettle p s u r hu) fun _ => id)
  induction n with
  | zero =>
    intro p s
    rw [makeDirsUpTo_zero]
    exact hlast p s s (.refl _ _ s)
  | succ n ih =>
    intro p s
    rw [makeDirsUpTo_succ]
    refine .bind ((htry p s s (.refl _ _ s)).mono (fun r v h => ?_) fun _ => id)
    refine .ite (fun _ => ?_) fun _ => hsettle p s v r h
    have habove : ∀ u, Keeps ∅ (ways v.cwd p.parent) v u → Keeps ∅ (ways s.cwd p) s u :=
      fun u hu => h.trans (hu.mono subset_rfl (by rw [h.cwd]; exact ways_parent_subset _ p))
    exact .bind ((ih p.parent v).mono (fun _ u hu => hlast p s u (habove u hu)) habove)

theorem ends_makeDirs (p : Path) (s : Site) :
    Ends (makeDirs p) s (fun _ v => Keeps ∅ (ways s.cwd p) s v)
      fun v => Keeps ∅ (ways s.cwd p) s v :=
  ends_makeDirsUpTo _ p s

/-! ### Files -/

theorem ends_readBytes (p : Path) (s : Site) :
    Ends (readBytes p) s (fun b v => s = v ∧ s.Holds p b) (s = ·) := by
  refine .bind ((ends_checkPath p s).mono ?_ fun _ h => h.1)
  rintro _ _ ⟨rfl, -⟩
  refine .bind (.getWorld ?_)
  cases hb : s.tree.readFile s.cwd p with
  | error why => exact .fail rfl
  | ok b =>
    refine .pure ⟨rfl, ?_⟩
    unfold FileTree.readFile FileTree.status at hb
    cases hl : s.tree.locate s.cwd p with
    | error why => rw [hl] at hb; cases hb
    | ok l =>
      obtain rfl := FileTree.locate_eq_normalize hl
      rw [hl] at hb
      unfold Holds place
      cases he : s.tree.lookup (FileTree.normalize s.cwd p) with
      | none => simp [bind, Except.bind, he] at hb
      | some e => cases e <;> simp_all [bind, Except.bind]

theorem ends_writeBytes (p : Path) (b : ByteArray) (s : Site) :
    Ends (writeBytes p b) s (fun _ v => Keeps {s.place p} ∅ s v ∧ v.Holds p b ∧ v.Reaches p)
      (s = ·) := by
  refine .bind ((ends_checkPath p s).mono ?_ fun _ h => h.1)
  rintro _ _ ⟨rfl, hnul⟩
  refine .bind (.getWorld ?_)
  cases ht : s.tree.writeFile s.cwd p b with
  | error why => exact .bind (.fail rfl)
  | ok t =>
    obtain ⟨hkeeps, hfile, hlocate⟩ := FileTree.writeFile_eq_ok ht
    exact .bind (.pure (.change ⟨.of_tree hkeeps, hfile, hnul, hlocate⟩))

theorem ends_writeText (p : Path) (text : String) (s : Site) :
    Ends (writeText p text) s
      (fun _ v => Keeps {s.place p} ∅ s v ∧ v.Holds p text.toUTF8 ∧ v.Reaches p) (s = ·) :=
  ends_writeBytes p text.toUTF8 s

theorem ends_removeIfThere (p : Path) (s : Site) :
    Ends (removeIfThere p) s (fun _ v => Removed p s v) (Removed p s) := by
  refine .bind ((ends_checkPath p s).mono ?_ ?_)
  · rintro _ _ ⟨rfl, -⟩
    refine .bind (.getWorld ?_)
    cases ht : s.tree.removeFile s.cwd p with
    | ok t =>
      obtain ⟨hkeeps, hnone⟩ := FileTree.removeFile_eq_ok ht
      have hgone : ∀ b, ¬ Holds { s with tree := t } p b := by
        intro b hb
        have := hnone.symm.trans hb
        cases this
      exact .change ⟨.of_tree hkeeps, fun _ => hgone⟩
    | error why =>
      have hsame : Removed p s s :=
        ⟨.refl _ _ s, fun hp => FileTree.not_file_of_removeFile_error ht hp.2⟩
      cases why <;> first | exact .pure hsame | exact .fail hsame
  · rintro _ ⟨rfl, hnul⟩
    exact ⟨.refl _ _ s, fun hp => absurd (hp.1.symm.trans hnul) nofun⟩

theorem ends_move (p q : Path) (s : Site) :
    Ends (move p q) s
      (fun _ v => Keeps {s.place p, s.place q} ∅ s v ∧ v.Reaches q ∧
        ∃ b, s.Holds p b ∧ v.Holds q b) (s = ·) := by
  refine .bind ((ends_checkPath p s).mono ?_ fun _ h => h.1)
  rintro _ _ ⟨rfl, -⟩
  refine .bind ((ends_checkPath q s).mono ?_ fun _ h => h.1)
  rintro _ _ ⟨rfl, hnul⟩
  refine .bind (.getWorld ?_)
  cases ht : s.tree.moveFile s.cwd p q with
  | error why => exact .fail rfl
  | ok t =>
    obtain ⟨hkeeps, hlocate, hfile⟩ := FileTree.moveFile_eq_ok ht
    exact .change ⟨.of_tree hkeeps, ⟨hnul, hlocate⟩, hfile⟩

theorem ends_copyFile (p q : Path) (s : Site) :
    Ends (copyFile p q) s
      (fun _ v => ∃ b, s.Holds p b ∧ Keeps {s.place q} ∅ s v ∧ v.Holds q b ∧ v.Reaches q)
      (s = ·) := by
  refine .bind (.getWorld (.ite (fun _ => .fail rfl) fun _ => ?_))
  refine .bind ((ends_readBytes p s).mono ?_ fun _ => id)
  rintro b _ ⟨rfl, hb⟩
  exact (ends_writeBytes q b s).mono (fun _ _ h => ⟨b, hb, h⟩) fun _ => id

/-! ### Paths in settings -/

theorem ends_pathSetting (settings : Settings) (key : String) (s : Site) :
    Ends (pathSetting settings key) s
      (fun p v => s = v ∧ s.settingPath? settings key = some p) (s = ·) := by
  unfold pathSetting settingPath? Settings.item
  cases settings.get? key with
  | none => exact .bind (.fail rfl)
  | some v =>
    refine .bind (.pure ?_)
    cases v with
    | text t =>
      refine .bind (.getWorld (.ofExcept (fun p hp => ⟨rfl, ?_⟩) rfl))
      simp only [hp]
      rfl
    | _ => exact .fail rfl

end Site

end TopologySubmission
