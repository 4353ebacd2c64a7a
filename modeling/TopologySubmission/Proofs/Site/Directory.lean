import TopologySubmission.Proofs.Site.Effect

/-!
# Paths that lead to directories

A path that leads anywhere leads through directories, so every path above it leads to one. Making the
directories of a path is done only when the path leads to a directory:

    Opens s p        leads to a directory, as do the paths above it     (Opens.above)
    makeDirs p       is done only if p leads to a directory             (ends_makeDirs_opens)
    isDir? p         says yes only then                                 (ends_isDir?_opens)
-/

namespace TopologySubmission

namespace FileTree

variable {t : FileTree} {l m : Location} {n : String}

theorem walk_append (t : FileTree) (l : Location) (ns ms : List String) :
    t.walk l (ns ++ ms) = t.walk l ns >>= (t.walk · ms) := by
  induction ns generalizing l with
  | nil => rfl
  | cons n ns ih =>
    rw [List.cons_append, walk, walk]
    split
    · rfl
    · rfl
    · split
      · exact ih _
      · split
        · rfl
        · exact ih _

/-- The last name of a path is looked for in a directory. -/
theorem walk_concat {ns : List String} (h : t.walk l (ns ++ [n]) = .ok m) :
    ∃ d, t.walk l ns = .ok d ∧ t.lookup d = some .directory := by
  rw [walk_append, bind_eq_ok_iff] at h
  obtain ⟨d, hd, hlast⟩ := h
  refine ⟨d, hd, ?_⟩
  rw [walk] at hlast
  split at hlast
  · cases hlast
  · cases hlast
  · next hdir => exact hdir

/-- A name in a directory is found, unless it is too long. -/
theorem walk_cons (ns : List String) (hl : t.lookup l = some .directory) (hn : n ≠ "..") :
    t.walk l (n :: ns) =
      if maxNameBytes < n.utf8ByteSize then .error .nameTooLong else t.walk (l ++ [n]) ns := by
  rw [walk, hl]
  exact if_neg hn

end FileTree

namespace Site

/-! ## Algorithm -/

/-- Where a path begins. -/
def base (s : Site) (p : Path) : Location := if p.isAbsolute then [] else s.cwd

/-- The path leads to its place, and a directory is there. How long its text is does not matter. -/
structure Opens (s : Site) (p : Path) : Prop where
  hasNul : p.hasNul = false
  walk : s.tree.walk (s.base p) p.names = .ok (s.place p)
  directory : s.tree.lookup (s.place p) = some .directory

/-! ## Lemmas -/

variable {s s' : Site} {p : Path} {files dirs : Set Location}

open Act (Ends)

theorem walk_of_locate {l : Location} (h : s.tree.locate s.cwd p = .ok l) :
    s.tree.walk (s.base p) p.names = .ok (s.place p) := by
  have hplace : l = s.place p := FileTree.locate_eq_normalize h
  unfold FileTree.locate at h
  split at h
  · cases h
  · exact hplace ▸ h

namespace Opens

theorem of_locate {l : Location} (hnul : p.hasNul = false) (h : s.tree.locate s.cwd p = .ok l)
    (hl : s.tree.lookup l = some .directory) : s.Opens p := by
  obtain rfl : l = s.place p := FileTree.locate_eq_normalize h
  exact ⟨hnul, walk_of_locate h, hl⟩

theorem of_status (hnul : p.hasNul = false) (h : s.tree.status s.cwd p = .ok .directory) :
    s.Opens p := by
  unfold FileTree.status at h
  cases hl : s.tree.locate s.cwd p with
  | error why => rw [hl] at h; cases h
  | ok l =>
    refine .of_locate hnul hl ?_
    rw [hl] at h
    simp only [bind, Except.bind] at h
    split at h
    · next e he => rw [he, Except.ok.inj h]
    · cases h

/-- Directories stay. -/
theorem keep (h : s.Opens p) (hk : Keeps files dirs s s') : s'.Opens p where
  hasNul := h.hasNul
  walk := by
    rw [hk.place]
    unfold base
    rw [hk.cwd]
    exact FileTree.walk_of_directories hk.tree.directory h.walk
  directory := by
    rw [hk.place]
    exact hk.tree.directory _ h.directory

/-- The path without its last name leads to a directory, too. -/
theorem above {root : Path} {n : String} (h : s.Opens { root with names := root.names ++ [n] }) :
    s.Opens root := by
  obtain ⟨d, hd, hdir⟩ := FileTree.walk_concat h.walk
  obtain rfl : d = s.place root := FileTree.walk_eq_foldl _ _ _ _ hd
  refine ⟨?_, hd, hdir⟩
  have hnul := h.hasNul
  unfold Path.hasNul at hnul ⊢
  rw [List.any_append, Bool.or_eq_false_iff] at hnul
  exact hnul.1

end Opens

/-! ### Making directories -/

theorem ends_isDir?_opens (p : Path) (s : Site) :
    Ends (isDir? p) s (fun b v => s = v ∧ (b = true → s.Opens p)) (s = ·) := by
  refine .bind (.bind (.getWorld (.ite (fun _ => .pure (.pure ⟨rfl, nofun⟩)) fun hnul => ?_)))
  rw [Bool.not_eq_true] at hnul
  cases hstatus : s.tree.status s.cwd p with
  | ok e =>
    refine .pure (.pure ⟨rfl, fun he => .of_status hnul ?_⟩)
    obtain rfl : e = .directory := Option.some.inj (beq_iff_eq.mp he)
    exact hstatus
  | error why => cases why <;> first | exact .pure (.pure ⟨rfl, nofun⟩) | exact .fail rfl

theorem ends_tryMakeDir_opens (p : Path) (s : Site) :
    Ends (tryMakeDir p) s (fun r v => r = .ok () → v.Opens p) fun _ => True := by
  refine .bind ((ends_checkPath p s).mono ?_ fun _ _ => trivial)
  rintro _ _ ⟨rfl, hnul⟩
  refine .bind (.getWorld ?_)
  cases ht : s.tree.makeDir s.cwd p with
  | error why => exact .pure nofun
  | ok t =>
    refine .bind (.change (.pure fun _ => ?_))
    have hk : Keeps ∅ {s.place p} s { s with tree := t } := .of_tree (FileTree.keeps_makeDir ht)
    unfold FileTree.makeDir at ht
    cases hl : s.tree.locate s.cwd p with
    | error why => rw [hl] at ht; cases ht
    | ok l =>
      rw [hl] at ht
      simp only [bind, Except.bind] at ht
      split at ht
      · cases ht
      · next hnone =>
        obtain rfl := Except.ok.inj ht
        refine .of_locate hnul (FileTree.locate_of_directories hk.tree.directory hl) ?_
        exact FileTree.lookup_put_self _ _ _
          (FileTree.ne_nil_of_lookup (t := s.tree) (by rw [hnone]; nofun))

theorem ends_settle_opens {r : Except Refusal Unit} (h : r = .ok () → s.Opens p) :
    Ends (settle p r) s (fun _ v => v.Opens p) fun _ => True := by
  have haccept : ∀ why, Ends (acceptDir p why) s (fun _ v => v.Opens p) fun _ => True := fun why =>
    .bind ((ends_isDir?_opens p s).mono
      (fun _ _ hb => .ite (fun ht => .pure (hb.1 ▸ hb.2 ht)) fun _ => .fail trivial)
      fun _ _ => trivial)
  rcases r with why | _
  · cases why <;> first | exact .fail trivial | exact haccept _
  · exact .pure (h rfl)

/-- However many names had to be made, the last one was made or was there. -/
theorem ends_makeDirs_opens (p : Path) (s : Site) :
    Ends (makeDirs p) s (fun _ v => v.Opens p) fun _ => True := by
  have hlast : ∀ s, Ends (tryMakeDir p >>= settle p) s (fun _ v => v.Opens p) fun _ => True :=
    fun s => .bind ((ends_tryMakeDir_opens p s).mono (fun _ _ => ends_settle_opens) fun _ => id)
  unfold makeDirs
  cases p.names.length with
  | zero =>
    rw [makeDirsUpTo_zero]
    exact hlast s
  | succ n =>
    rw [makeDirsUpTo_succ]
    refine .bind ((ends_tryMakeDir_opens p s).mono (fun r v hr => ?_) fun _ => id)
    refine .ite (fun _ => .bind ?_) fun _ => ends_settle_opens hr
    exact (ends_makeDirsUpTo n p.parent v).mono (fun _ u _ => hlast u) fun _ _ => trivial

end Site

end TopologySubmission
