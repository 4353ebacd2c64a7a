import Mathlib.Data.Set.Insert
import TopologySubmission.Files.Tree

/-!
# What an operation on files leaves alone

A path leads to one location only, whatever the tree, if it leads anywhere. Every operation changes
the tree at the locations of its paths and nowhere else, and none takes a directory away, so a path
that leads somewhere goes on leading there:

    locate t cwd p = ok l → l = normalize cwd p                        (locate_eq_normalize)
    Keeps files dirs t t'   files change at most in one set, directories come up at most in another
    no location on the way to the directory of a file is its place     (place_notMem_ways_parent)
-/

namespace TopologySubmission.FileTree

/-! ## Algorithm -/

/-- The first tree became the second one: what changed is one of the files, or it was nothing before
and is one of the directories now. Directories stay. -/
structure Keeps (files dirs : Set Location) (t t' : FileTree) : Prop where
  directory : ∀ l, t.lookup l = some .directory → t'.lookup l = some .directory
  other : ∀ l, l ∉ files → t'.lookup l = t.lookup l ∨
    (t.lookup l = none ∧ t'.lookup l = some .directory ∧ l ∈ dirs)

/-- The locations of a path and of the paths above it. -/
def ways (cwd : Location) (p : Path) : Set Location :=
  {l | ∃ ns, ns <+: p.names ∧ l = normalize cwd { p with names := ns }}

/-! ## Lemmas -/

variable {t t' u : FileTree} {cwd l m : Location} {p q : Path} {files files' dirs dirs' : Set Location}

/-! ### Frames -/

namespace Keeps

theorem refl (files dirs : Set Location) (t : FileTree) : Keeps files dirs t t :=
  ⟨fun _ h => h, fun _ _ => .inl rfl⟩

theorem trans (h : Keeps files dirs t t') (h' : Keeps files dirs t' u) : Keeps files dirs t u where
  directory l hl := h'.directory l (h.directory l hl)
  other l hl := by
    rcases h.other l hl with he | ⟨hnone, hdir, hd⟩
    · rw [← he]
      exact h'.other l hl
    · exact .inr ⟨hnone, h'.directory l hdir, hd⟩

theorem mono (h : Keeps files dirs t t') (hf : files ⊆ files') (hd : dirs ⊆ dirs') :
    Keeps files' dirs' t t' where
  directory := h.directory
  other l hl := (h.other l fun hm => hl (hf hm)).imp_right fun ⟨hnone, hdir, hm⟩ =>
    ⟨hnone, hdir, hd hm⟩

/-- Away from the files that may change, the files are those of before. -/
theorem file_iff (h : Keeps files dirs t t') (hl : l ∉ files) (b : ByteArray) :
    t'.lookup l = some (.file b) ↔ t.lookup l = some (.file b) := by
  rcases h.other l hl with he | ⟨hnone, hdir, -⟩
  · rw [he]
  · simp [hnone, hdir]

end Keeps

theorem ne_nil_of_lookup (h : t.lookup l ≠ some .directory) : l ≠ [] := by
  rintro rfl
  exact h rfl

theorem keeps_put_directory (h : t.lookup l = none) : Keeps ∅ {l} t (t.put l .directory) where
  directory m hm := by
    have hne : m ≠ l := by
      rintro rfl
      rw [h] at hm
      cases hm
    rw [lookup_put_ne t l m _ hne, hm]
  other m _ := by
    by_cases hml : m = l
    · subst hml
      refine .inr ⟨h, lookup_put_self t m _ (ne_nil_of_lookup (t := t) ?_), rfl⟩
      simp [h]
    · exact .inl (lookup_put_ne t l m _ hml)

theorem keeps_put_file (h : t.lookup l ≠ some .directory) (b : ByteArray) :
    Keeps {l} ∅ t (t.put l (.file b)) where
  directory m hm := by
    have hne : m ≠ l := by
      rintro rfl
      exact h hm
    rw [lookup_put_ne t l m _ hne, hm]
  other m hm := .inl (lookup_put_ne t l m _ hm)

theorem keeps_remove (h : t.lookup l ≠ some .directory) : Keeps {l} ∅ t (t.remove l) where
  directory m hm := by
    have hne : m ≠ l := by
      rintro rfl
      exact h hm
    rw [lookup_remove_ne t l m hne, hm]
  other m hm := .inl (lookup_remove_ne t l m hm)

/-! ### Where a path leads -/

theorem walk_eq_foldl (t : FileTree) (names : List String) (l m : Location)
    (h : t.walk l names = .ok m) :
    m = names.foldl (fun l n => if n = ".." then l.dropLast else l ++ [n]) l := by
  induction names generalizing l with
  | nil => exact (Except.ok.inj h).symm
  | cons n rest ih =>
    rw [walk] at h
    split at h
    · cases h
    · cases h
    · rw [List.foldl_cons]
      split at h
      · next hn => rw [if_pos hn]; exact ih _ h
      · next hn =>
        rw [if_neg hn]
        split at h
        · cases h
        · exact ih _ h

/-- A path leads to the location that it means. -/
theorem locate_eq_normalize (h : t.locate cwd p = .ok l) : l = normalize cwd p := by
  unfold locate at h
  split at h
  · cases h
  · exact walk_eq_foldl _ _ _ _ h

/-- Names that lead somewhere lead there as long as directories stay. -/
theorem walk_of_directories {names : List String}
    (hd : ∀ l, t.lookup l = some .directory → t'.lookup l = some .directory)
    (h : t.walk l names = .ok m) : t'.walk l names = .ok m := by
  induction names generalizing l with
  | nil => exact h
  | cons n rest ih =>
    rw [walk] at h ⊢
    split at h
    · cases h
    · cases h
    · next hl =>
      rw [hd l hl]
      dsimp only
      split at h
      · next hn => rw [if_pos hn]; exact ih h
      · next hn =>
        rw [if_neg hn]
        split at h
        · cases h
        · next hlen => rw [if_neg hlen]; exact ih h

/-- A path that leads somewhere leads there as long as directories stay. -/
theorem locate_of_directories (hd : ∀ l, t.lookup l = some .directory → t'.lookup l = some .directory)
    (h : t.locate cwd p = .ok l) : t'.locate cwd p = .ok l := by
  unfold locate at h ⊢
  split at h
  · cases h
  · next hlen => rw [if_neg hlen]; exact walk_of_directories hd h

/-! ### Paths that do not go up -/

theorem foldl_of_plain {names : List String} (h : ".." ∉ names) (l : Location) :
    names.foldl (fun l n => if n = ".." then l.dropLast else l ++ [n]) l = l ++ names := by
  induction names generalizing l with
  | nil => simp
  | cons n rest ih =>
    rw [List.mem_cons, not_or] at h
    rw [List.foldl_cons, if_neg (Ne.symm h.1), ih h.2, List.append_assoc, List.singleton_append]

/-- A path that does not go up means the place of its names. -/
theorem normalize_of_plain (h : ".." ∉ p.names) :
    normalize cwd p = (if p.isAbsolute then [] else cwd) ++ p.names :=
  foldl_of_plain h _

/-- The locations on the way to a file lie above it. -/
theorem prefix_of_mem_ways (h : ".." ∉ p.names) (hm : m ∈ ways cwd p) : m <+: normalize cwd p := by
  obtain ⟨ns, hns, rfl⟩ := hm
  rw [normalize_of_plain h, normalize_of_plain (fun hup => h (hns.subset hup))]
  exact (List.prefix_append_right_inj _).mpr hns

/-- No location on the way to the directory of a file is its place. -/
theorem place_notMem_ways_parent (h : ".." ∉ p.names) (hne : p.names ≠ []) :
    normalize cwd p ∉ ways cwd p.parent := by
  rintro ⟨ns, hns, he⟩
  have hup : ".." ∉ ns := fun hup => h (List.dropLast_subset _ (hns.subset hup))
  rw [normalize_of_plain h, normalize_of_plain (p := { p.parent with names := ns }) hup] at he
  have hlength := hns.length_le
  obtain rfl : p.names = ns := List.append_cancel_left he
  rw [Path.parent, List.length_dropLast] at hlength
  have := List.length_pos_iff.mpr hne
  omega

/-! ### Operations -/

theorem keeps_makeDir (h : t.makeDir cwd p = .ok t') : Keeps ∅ {normalize cwd p} t t' := by
  unfold makeDir at h
  cases hl : t.locate cwd p with
  | error why => rw [hl] at h; cases h
  | ok l =>
    rw [hl] at h
    simp only [bind, Except.bind] at h
    split at h
    · cases h
    · next hnone =>
      cases h
      rw [← locate_eq_normalize hl]
      exact keeps_put_directory hnone

/-- A file that was written is where its path leads, and nothing else changed. -/
theorem writeFile_eq_ok {b : ByteArray} (h : t.writeFile cwd p b = .ok t') :
    Keeps {normalize cwd p} ∅ t t' ∧ t'.lookup (normalize cwd p) = some (.file b) ∧
      t'.locate cwd p = .ok (normalize cwd p) := by
  unfold writeFile at h
  cases hl : t.locate cwd p with
  | error why => rw [hl] at h; cases h
  | ok l =>
    rw [hl] at h
    simp only [bind, Except.bind] at h
    split at h
    · cases h
    · next hfile =>
      cases h
      obtain rfl := locate_eq_normalize hl
      have hdir : t.lookup (normalize cwd p) ≠ some .directory := hfile
      have hkeeps := keeps_put_file hdir b
      exact ⟨hkeeps, lookup_put_self _ _ _ (ne_nil_of_lookup hdir),
        locate_of_directories hkeeps.directory hl⟩

/-- A file that was removed is gone, and nothing else changed. -/
theorem removeFile_eq_ok (h : t.removeFile cwd p = .ok t') :
    Keeps {normalize cwd p} ∅ t t' ∧ t'.lookup (normalize cwd p) = none := by
  unfold removeFile at h
  cases hl : t.locate cwd p with
  | error why => rw [hl] at h; cases h
  | ok l =>
    rw [hl] at h
    simp only [bind, Except.bind] at h
    split at h
    · cases h
    · cases h
    · next b hfile =>
      cases h
      obtain rfl := locate_eq_normalize hl
      have hdir : t.lookup (normalize cwd p) ≠ some .directory := by simp [hfile]
      exact ⟨keeps_remove hdir, lookup_remove_self _ _ (ne_nil_of_lookup hdir)⟩

/-- Where a path leads to a file, only the file itself keeps it from being removed. -/
theorem not_file_of_removeFile_error {why : Refusal} (h : t.removeFile cwd p = .error why)
    (hl : t.locate cwd p = .ok l) (b : ByteArray) : t.lookup l ≠ some (.file b) := by
  intro hfile
  unfold removeFile at h
  rw [hl] at h
  simp [bind, Except.bind, hfile] at h

/-- A file that was moved is at the other place, and nothing else changed. -/
theorem moveFile_eq_ok (h : t.moveFile cwd p q = .ok t') :
    Keeps {normalize cwd p, normalize cwd q} ∅ t t' ∧
      t'.locate cwd q = .ok (normalize cwd q) ∧
      ∃ b, t.lookup (normalize cwd p) = some (.file b) ∧
        t'.lookup (normalize cwd q) = some (.file b) := by
  unfold moveFile at h
  cases hl : t.locate cwd p with
  | error why => rw [hl] at h; cases h
  | ok l =>
    cases hm : t.locate cwd q with
    | error why => rw [hl, hm] at h; cases h
    | ok m =>
      rw [hl, hm] at h
      obtain rfl := locate_eq_normalize hl
      obtain rfl := locate_eq_normalize hm
      simp only [bind, Except.bind] at h
      split at h
      · cases h
      · split at h
        · cases h
        · cases h
        · cases h
        · next b hfile hdir =>
          cases h
          have hremove := keeps_remove (t := t) (l := normalize cwd p) (by simp [hfile])
          have htarget : (t.remove (normalize cwd p)).lookup (normalize cwd q) ≠
              some .directory := by
            intro hd
            by_cases he : normalize cwd q = normalize cwd p
            · rw [he, lookup_remove_self _ _ (ne_nil_of_lookup (t := t) (by simp [hfile]))] at hd
              cases hd
            · rw [lookup_remove_ne _ _ _ he] at hd
              exact hdir hd
          have hkeeps : Keeps {normalize cwd p, normalize cwd q} ∅ t
              ((t.remove (normalize cwd p)).put (normalize cwd q) (.file b)) :=
            (hremove.mono (by simp) subset_rfl).trans
              ((keeps_put_file htarget b).mono (by simp) subset_rfl)
          exact ⟨hkeeps, locate_of_directories hkeeps.directory hm, b, hfile,
            lookup_put_self _ _ _ (ne_nil_of_lookup htarget)⟩

end TopologySubmission.FileTree
