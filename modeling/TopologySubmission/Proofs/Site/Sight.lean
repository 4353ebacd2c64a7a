import Mathlib.Data.List.Infix
import TopologySubmission.Proofs.Site.Directory
import TopologySubmission.Proofs.Site.Lookup

/-!
# What is seen at a path

A question about a path depends on little of the site. Below a path of short names, what is seen at a
name depends on how long the name and the whole path are, on whether the path above leads to a
directory, and on what stands at the place of the name:

    sight p              what is answered at a path, or why not                   (leads_find?_sight)
    below no directory   nothing is seen                                          (sight_of_not_opens)
    in a directory       what stands there is seen, if the name is short          (sight_of_opens)

In a tree where every entry lies in directories, a direct path leads to a directory as soon as one is at
its place (`Opens.of_grounded`).
-/

namespace TopologySubmission

open Act (Leads)

/-! ## Algorithm -/

/-- Whatever stands below a location stands below a directory. -/
def FileTree.Grounded (t : FileTree) : Prop :=
  ∀ (l : Location) (ns : List String), ns ≠ [] → t.lookup (l ++ ns) ≠ none →
    t.lookup l = some .directory

/-- A path that does not go up, with names that a directory takes. -/
structure Path.Direct (p : Path) : Prop where
  plain : ".." ∉ p.names
  short : ∀ n ∈ p.names, n.utf8ByteSize ≤ FileTree.maxNameBytes
  hasNul : p.hasNul = false

/-- What a question about a path finds, or why the file system gives no answer. -/
def Site.sight (s : Site) (p : Path) : Except Refusal (Option FileEntry) :=
  match s.tree.status s.cwd p with
  | .ok e => .ok (some e)
  | .error .noSuchFile => .ok none
  | .error .notADirectory => .ok none
  | .error why => .error why

/-! ## Lemmas -/

namespace FileTree

variable {t : FileTree} {l m : Location} {names : List String}

/-- Names that lead somewhere are short. -/
theorem short_of_walk (h : t.walk l names = .ok m) :
    ∀ n ∈ names, n.utf8ByteSize ≤ maxNameBytes := by
  induction names generalizing l with
  | nil => nofun
  | cons n rest ih =>
    rw [walk] at h
    split at h
    · cases h
    · cases h
    · split at h
      · next hup =>
        refine List.forall_mem_cons.mpr ⟨?_, ih h⟩
        subst hup
        decide
      · split at h
        · cases h
        · next hlen => exact List.forall_mem_cons.mpr ⟨Nat.not_lt.mp hlen, ih h⟩

/-- Short names lead nowhere only where something is missing or is a file. -/
theorem walk_error_of_short {why : Refusal} (hshort : ∀ n ∈ names, n.utf8ByteSize ≤ maxNameBytes)
    (h : t.walk l names = .error why) : why = .noSuchFile ∨ why = .notADirectory := by
  induction names generalizing l with
  | nil => cases h
  | cons n rest ih =>
    obtain ⟨hn, hrest⟩ := List.forall_mem_cons.mp hshort
    rw [walk] at h
    split at h
    · exact .inl (Except.error.inj h).symm
    · exact .inr (Except.error.inj h).symm
    · split at h
      · exact ih hrest h
      · rw [if_neg (Nat.not_lt.mpr hn)] at h
        exact ih hrest h

/-- In a grounded tree names lead to what stands below a location. -/
theorem Grounded.walk (h : t.Grounded) (hplain : ".." ∉ names)
    (hshort : ∀ n ∈ names, n.utf8ByteSize ≤ maxNameBytes) (hl : t.lookup (l ++ names) ≠ none) :
    t.walk l names = .ok (l ++ names) := by
  induction names generalizing l with
  | nil => rw [List.append_nil, FileTree.walk]
  | cons n rest ih =>
    obtain ⟨hn, hrest⟩ := List.forall_mem_cons.mp hshort
    rw [List.mem_cons, not_or] at hplain
    have hdir : t.lookup l = some .directory := h l (n :: rest) (List.cons_ne_nil n rest) hl
    rw [List.append_cons] at hl ⊢
    rw [walk_cons rest hdir (Ne.symm hplain.1), if_neg (Nat.not_lt.mpr hn)]
    exact ih hplain.2 hrest hl

/-- A tree is grounded if every location above an entry is a directory. -/
theorem grounded_of_entries
    (h : ∀ e ∈ t.entries, ∀ l ∈ e.1.inits, l ≠ e.1 → t.lookup l = some .directory) :
    t.Grounded := by
  intro l ns hns hentry
  unfold lookup at hentry
  rw [if_neg fun he => hns (List.append_eq_nil_iff.mp he).2, Ne, Option.map_eq_none_iff] at hentry
  obtain ⟨e, he⟩ := Option.ne_none_iff_exists'.mp hentry
  have hwhere : e.1 = l ++ ns := by simpa using List.find?_some he
  refine h e (List.mem_of_find?_eq_some he) l ?_ ?_
  · rw [hwhere, List.mem_inits]
    exact List.prefix_append l ns
  · rw [hwhere]
    exact fun hl => hns (List.self_eq_append_right.mp hl)

end FileTree

namespace Site

variable {s : Site} {p d : Path} {n : String}

theorem Opens.short (h : s.Opens p) : ∀ n ∈ p.names, n.utf8ByteSize ≤ FileTree.maxNameBytes :=
  FileTree.short_of_walk h.walk

/-- In a grounded tree a direct path leads to the directory at its place. -/
theorem Opens.of_grounded (h : s.tree.Grounded) (hp : p.Direct)
    (hdir : s.tree.lookup (s.place p) = some .directory) : s.Opens p := by
  have hplace : s.place p = s.base p ++ p.names := FileTree.normalize_of_plain hp.plain
  refine ⟨hp.hasNul, ?_, hdir⟩
  rw [hplace] at hdir ⊢
  exact h.walk hp.plain hp.short (by rw [hdir]; nofun)

/-! ### Questions -/

theorem leads_find?_sight (hnul : p.hasNul = false) (s : Site) :
    Leads (find? p) s ((s.sight p).mapError fun why => .failure (refusal p why)) s := by
  apply Leads.bind (Leads.getWorld s)
  rw [hnul]
  unfold sight
  cases s.tree.status s.cwd p with
  | ok e => exact Leads.pure (some e) s
  | error why => cases why <;> first | exact Leads.pure none s | exact Leads.fail _ s

theorem leads_exists?_sight (hnul : p.hasNul = false) (s : Site) :
    Leads (exists? p) s
      (((s.sight p).map Option.isSome).mapError fun why => .failure (refusal p why)) s := by
  have hfind := leads_find?_sight hnul s
  cases hsight : s.sight p with
  | ok e =>
    rw [hsight] at hfind
    exact Leads.bind hfind (Leads.pure e.isSome s)
  | error why =>
    rw [hsight] at hfind
    exact Leads.bind_error hfind _

/-- What is seen is found. -/
theorem finds_of_sight {e : FileEntry} (hnul : p.hasNul = false) (h : s.sight p = .ok (some e)) :
    s.Finds p e := by
  refine ⟨hnul, ?_⟩
  unfold sight at h
  split at h
  · next he => rw [he, Option.some.inj (Except.ok.inj h)]
  · cases Except.ok.inj h
  · cases Except.ok.inj h
  · cases h

/-! ### A name below a path -/

/-- Nothing is seen at a path that is too long. -/
theorem sight_of_long (h : FileTree.pathBytesLimit ≤ p.text.utf8ByteSize) :
    s.sight p = .error .nameTooLong := by
  unfold sight FileTree.status FileTree.locate
  rw [if_pos h]
  rfl

theorem locate_below (hlen :
    { d with names := d.names ++ [n] : Path }.text.utf8ByteSize < FileTree.pathBytesLimit) :
    s.tree.locate s.cwd { d with names := d.names ++ [n] } =
      s.tree.walk (s.base d) d.names >>= (s.tree.walk · [n]) :=
  (if_neg (Nat.not_le.mpr hlen)).trans (FileTree.walk_append _ _ _ _)

/-- Nothing is seen below a path that leads to no directory. -/
theorem sight_of_not_opens (hd : d.Direct)
    (hlen : { d with names := d.names ++ [n] : Path }.text.utf8ByteSize < FileTree.pathBytesLimit)
    (h : ¬ s.Opens d) : s.sight { d with names := d.names ++ [n] } = .ok none := by
  have hmissing : ∀ {why : Refusal}, why = .noSuchFile ∨ why = .notADirectory →
      s.tree.locate s.cwd { d with names := d.names ++ [n] } = .error why →
      s.sight { d with names := d.names ++ [n] } = .ok none := by
    intro why hwhy hlocate
    unfold sight FileTree.status
    rw [hlocate]
    rcases hwhy with rfl | rfl <;> rfl
  cases hwalk : s.tree.walk (s.base d) d.names with
  | error why =>
    apply hmissing (FileTree.walk_error_of_short hd.short hwalk)
    rw [locate_below hlen, hwalk]
    rfl
  | ok l =>
    obtain rfl : l = s.place d := FileTree.walk_eq_foldl _ _ _ _ hwalk
    have hlast : s.tree.locate s.cwd { d with names := d.names ++ [n] } =
        s.tree.walk (s.place d) [n] := by
      rw [locate_below hlen, hwalk]
      rfl
    rw [FileTree.walk] at hlast
    split at hlast
    · exact hmissing (.inl rfl) hlast
    · exact hmissing (.inr rfl) hlast
    · next hdir => exact absurd ⟨hd.hasNul, hwalk, hdir⟩ h

/-- In a directory what stands at a name is seen, unless the name is too long. -/
theorem sight_of_opens (hn : n ≠ "..")
    (hlen : { d with names := d.names ++ [n] : Path }.text.utf8ByteSize < FileTree.pathBytesLimit)
    (h : s.Opens d) : s.sight { d with names := d.names ++ [n] } =
      if FileTree.maxNameBytes < n.utf8ByteSize then .error .nameTooLong
      else .ok (s.tree.lookup (s.place d ++ [n])) := by
  have hlast : s.tree.locate s.cwd { d with names := d.names ++ [n] } =
      s.tree.walk (s.place d) [n] := by
    rw [locate_below hlen, h.walk]
    rfl
  rw [FileTree.walk_cons [] h.directory hn] at hlast
  unfold sight FileTree.status
  rw [hlast]
  by_cases hlong : FileTree.maxNameBytes < n.utf8ByteSize
  · rw [if_pos hlong, if_pos hlong]
    rfl
  · have hend : s.tree.walk (s.place d ++ [n]) [] = .ok (s.place d ++ [n]) := rfl
    rw [if_neg hlong, if_neg hlong, hend]
    cases he : s.tree.lookup (s.place d ++ [n]) <;> simp only [bind, Except.bind, he]

end Site

end TopologySubmission
