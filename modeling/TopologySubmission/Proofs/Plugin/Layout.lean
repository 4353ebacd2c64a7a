import Mathlib.Data.List.TakeWhile
import TopologySubmission.Plugin.LaunchManifest
import TopologySubmission.Proofs.Plugin.Node

/-!
# The files of an attempt

The paths that an attempt with local plugins works on follow from the settings and the site. When the
files that it writes are apart, none of them is at or below the place of another, and their paths do
not go up. Then writing one of them leaves the others as they are, and no directory that is made on the
way to one of them is at the place of another:

    what a file shows goes on while others are written       (Apart.shows_of_keeps)
    no directory comes up at the place of a node              (Apart.node_notMem_prepared)
-/

namespace TopologySubmission

open FileTree (normalize ways)
open LocalStore (nodePath nodePath_eq nodeWays beside)

/-! ## Algorithm -/

/-- The paths that an attempt works on. One of them is missing if its setting means no path. -/
structure Layout where
  cwd : Location
  /-- The root of the state. -/
  root : Option Path
  package : Option Path
  /-- The directory that packages are copied to. -/
  storage : Option Path
  /-- The directory for the manifest. -/
  work : Option Path
  name : String

namespace Layout

/-- The layout of an attempt on a site. -/
def ofSite (s : Site) (settings : Settings) (name : String) : Layout where
  cwd := s.cwd
  root := s.settingPath? settings Key.stateRoot
  package := s.settingPath? settings Key.packageFile
  storage := s.settingPath? settings Key.uploadDirectory
  work := s.settingPath? settings Key.workingDirectory
  name := name

variable (l : Layout)

/-- The place of the node of a kind. -/
def node (kind : NodeKind) : Option Path := l.root.map (nodePath · kind l.name)

/-- The place of the copy of the package. -/
def copy : Option Path :=
  match l.storage, l.package with
  | some storage, some package => some (storage.child package.name)
  | _, _ => none

/-- The place of the manifest. -/
def manifest : Option Path := l.work.map (·.child LaunchManifest.fileName)

/-- A file that an attempt writes. -/
inductive Target where
  | copy
  | manifest
  | node (kind : NodeKind)
  | beside (kind : NodeKind)
  deriving DecidableEq

/-- The path of a file that an attempt writes. -/
def path? : Target → Option Path
  | .copy => l.copy
  | .manifest => l.manifest
  | .node kind => l.node kind
  | .beside kind => (l.node kind).map beside

/-- The locations of files that an attempt writes. -/
def places (ts : List Target) : Set Location :=
  {m | ∃ t ∈ ts, ∃ p ∈ l.path? t, m = normalize l.cwd p}

instance (ts : List Target) (m : Location) : Decidable (m ∈ l.places ts) :=
  inferInstanceAs (Decidable (∃ t ∈ ts, ∃ p ∈ l.path? t, m = normalize l.cwd p))

/-- The files that an attempt writes over before it marks the topology as running. -/
def overwritten : Set Location :=
  l.places [.copy, .manifest, .node .executionState, .node .packingPlan]

/-- The files beside the nodes. -/
def temporary : Set Location := l.places (NodeKind.all.map .beside)

instance (m : Location) : Decidable (m ∈ l.overwritten) :=
  inferInstanceAs (Decidable (m ∈ l.places _))

instance (m : Location) : Decidable (m ∈ l.temporary) :=
  inferInstanceAs (Decidable (m ∈ l.places _))

/-- The directories that an attempt makes if they are missing, with those above them. -/
def prepared : Set Location :=
  {m | ∃ p, some p ∈ l.copy.map Path.parent :: l.work :: NodeKind.all.flatMap (fun kind =>
    [l.root.map (·.child kind.directory), (l.node kind).map Path.parent]) ∧ m ∈ ways l.cwd p}

/-- The files that an attempt writes are apart: their paths do not go up, and none of them is at or
below the place of another. -/
structure Apart : Prop where
  plain : ∀ t p, l.path? t = some p → ".." ∉ p.names
  apart : ∀ t u p q, t ≠ u → l.path? t = some p → l.path? u = some q →
    ¬ normalize l.cwd p <+: normalize l.cwd q

/-- All files that an attempt writes. -/
def Target.all : List Target :=
  [.copy, .manifest] ++ NodeKind.all.map .node ++ NodeKind.all.map .beside

theorem Target.mem_all (t : Target) : t ∈ all := by
  cases t with
  | copy => decide
  | manifest => decide
  | node kind => cases kind <;> decide
  | beside kind => cases kind <;> decide

instance : Decidable l.Apart :=
  decidable_of_iff
    ((∀ t ∈ Target.all, ∀ p ∈ l.path? t, ".." ∉ p.names) ∧
      ∀ t ∈ Target.all, ∀ u ∈ Target.all, ∀ p ∈ l.path? t, ∀ q ∈ l.path? u,
        t ≠ u → ¬ normalize l.cwd p <+: normalize l.cwd q)
    ⟨fun ⟨hplain, hapart⟩ => ⟨fun t => hplain t t.mem_all, fun t u p q ht hp hq =>
      hapart t t.mem_all u u.mem_all p hp q hq ht⟩,
    fun h => ⟨fun t _ => h.plain t, fun t _ u _ p hp q hq ht => h.apart t u p q ht hp hq⟩⟩

end Layout

/-! ## Lemmas -/

/-! ### Names -/

namespace Topology

theorem isName_of_checkName {v : Value} {s : String} (h : checkName v = .ok s) :
    isName s = true := by
  unfold checkName at h
  split at h
  · split at h
    · next hname =>
      cases h
      exact hname
    · cases h
  · cases h
  · cases h

/-- The name of a topology that was made is a name. -/
theorem isName_of_make {id name body : Value} {t : Topology} (h : make id name body = .ok t) :
    isName t.name = true := by
  unfold make at h
  simp only [bind, Except.bind] at h
  split at h
  · cases h
  split at h
  · cases h
  split at h
  · cases h
  · next hcheck =>
    cases h
    exact isName_of_checkName hcheck

/-- A name is made of its characters, and a line feed may end it. -/
theorem isNameChar_of_mem {s : String} (h : isName s = true) {c : Char} (hc : c ∈ s.toList) :
    isNameChar c = true ∨ c = '\n' := by
  unfold isName isNameLine at h
  rw [← List.takeWhile_append_dropWhile (p := isNameChar) (l := s.toList)] at hc
  rcases List.mem_append.mp hc with hc | hc
  · exact .inl (List.mem_takeWhile_imp hc)
  · split at h
    · next hnil => rw [hnil] at hc; cases hc
    · next hline => rw [hline] at hc; exact .inr (List.mem_singleton.mp hc)
    · cases h

/-- A name holds no slash. -/
theorem slash_notMem_of_isName {s : String} (h : isName s = true) : '/' ∉ s.toList := by
  intro hmem
  rcases isNameChar_of_mem h hmem with h | h <;> revert h <;> decide

/-- A name, read as a path, is that one name. -/
theorem ofText_of_isName {s : String} (h : isName s = true) : Path.ofText s = ⟨"", [s]⟩ := by
  have hslash := slash_notMem_of_isName h
  have hroot : s.toList.takeWhile (· == '/') = [] := by
    rw [List.takeWhile_eq_nil_iff]
    intro hpos hhead
    exact hslash (by simpa using (beq_iff_eq.mp hhead) ▸ List.getElem_mem hpos)
  have hne : s ≠ "" := by
    rintro rfl
    revert h
    decide
  have hdot : s ≠ "." := by
    rintro rfl
    revert h
    decide
  unfold Path.ofText Path.rootOf Path.splitSlash
  rw [hroot, List.splitOn_eq_singleton hslash]
  simp [Path.isName, hne, hdot]

end Topology

/-- The directory of a name in a directory is that directory. -/
theorem Path.parent_child {p : Path} {s : String} (h : Path.ofText s = ⟨"", [s]⟩) :
    (p.child s).parent = p := by
  simp [Path.child, Path.join, Path.parent, h, Path.isAbsolute]

/-! ### Layouts -/

theorem NodeKind.mem_all (kind : NodeKind) : kind ∈ all := by cases kind <;> decide

namespace Layout

variable {l : Layout} {s s' : Site} {p : Path} {t : Target} {ts : List Target}
  {dirs : Set Location} {b : ByteArray} {kind : NodeKind}

theorem mem_places (ht : t ∈ ts) (h : l.path? t = some p)
    (hs : s.cwd = l.cwd) : s.place p ∈ l.places ts := ⟨t, ht, p, h, by rw [Site.place, hs]⟩

theorem copy_mem (h : l.copy = some p) (hs : s.cwd = l.cwd) : s.place p ∈ l.overwritten :=
  mem_places (t := .copy) (by simp) h hs

theorem manifest_mem (h : l.manifest = some p) (hs : s.cwd = l.cwd) : s.place p ∈ l.overwritten :=
  mem_places (t := .manifest) (by simp) h hs

theorem node_mem (hk : kind ≠ .topology) (h : l.node kind = some p)
    (hs : s.cwd = l.cwd) : s.place p ∈ l.overwritten := by
  refine mem_places (t := .node kind) ?_ h hs
  cases kind with
  | topology => exact absurd rfl hk
  | executionState => simp
  | packingPlan => simp

theorem beside_mem (h : l.node kind = some p) (hs : s.cwd = l.cwd) :
    s.place (beside p) ∈ l.temporary :=
  mem_places (t := .beside kind) (List.mem_map_of_mem kind.mem_all) (by rw [path?, h]; rfl) hs

theorem copy_prepared (h : l.copy = some p) : ways l.cwd p.parent ⊆ l.prepared := fun _ hm =>
  ⟨p.parent, by simp [h], hm⟩

theorem work_prepared (h : l.work = some p) : ways l.cwd p ⊆ l.prepared := fun _ hm =>
  ⟨p, by simp [h], hm⟩

theorem root_prepared (h : l.root = some p) : nodeWays l.cwd p ⊆ l.prepared := by
  rintro m ⟨kind, hm⟩
  refine ⟨p.child kind.directory, List.mem_cons_of_mem _ (List.mem_cons_of_mem _ ?_), hm⟩
  exact List.mem_flatMap.mpr ⟨kind, kind.mem_all, by simp [h]⟩

theorem node_prepared (h : l.node kind = some p) :
    ways l.cwd p.parent ⊆ l.prepared := by
  intro m hm
  refine ⟨p.parent, List.mem_cons_of_mem _ (List.mem_cons_of_mem _ ?_), hm⟩
  exact List.mem_flatMap.mpr ⟨kind, kind.mem_all, by simp [h]⟩

/-! ### Files that are apart -/

theorem node_eq (hname : Topology.isName l.name = true) (hp : l.node kind = some p) :
    ∃ root, l.root = some root ∧
      p = { root with names := root.names ++ [kind.directory, l.name] } := by
  obtain ⟨root, hroot, rfl⟩ := Option.map_eq_some_iff.mp hp
  exact ⟨root, hroot, nodePath_eq root kind l.name (Topology.ofText_of_isName hname)⟩

/-- The directories that an attempt makes are those of the files that it writes. -/
theorem exists_of_mem_prepared (hname : Topology.isName l.name = true) {m : Location}
    (hm : m ∈ l.prepared) : ∃ t p, l.path? t = some p ∧ m ∈ ways l.cwd p.parent := by
  obtain ⟨q, hq, hm⟩ := hm
  simp only [List.mem_cons, List.mem_flatMap, List.not_mem_nil, or_false] at hq
  rcases hq with hq | hq | ⟨kind, -, hq | hq⟩
  · obtain ⟨p, hp, rfl⟩ := Option.map_eq_some_iff.mp hq.symm
    exact ⟨.copy, p, hp, hm⟩
  · refine ⟨.manifest, q.child LaunchManifest.fileName, by rw [path?, manifest, ← hq]; rfl, ?_⟩
    rwa [Path.parent_child (by decide)]
  · obtain ⟨root, hroot, rfl⟩ := Option.map_eq_some_iff.mp hq.symm
    refine ⟨.node kind, nodePath root kind l.name, by rw [path?, node, hroot]; rfl, ?_⟩
    rwa [nodePath, Path.parent_child (Topology.ofText_of_isName hname)]
  · obtain ⟨p, hp, rfl⟩ := Option.map_eq_some_iff.mp hq.symm
    exact ⟨.node kind, p, hp, hm⟩

namespace Apart

theorem place_notMem (h : l.Apart) (hp : l.path? t = some p) (ht : t ∉ ts) :
    normalize l.cwd p ∉ l.places ts := by
  rintro ⟨u, hu, q, hq, he⟩
  refine h.apart t u p q ?_ hp hq (he ▸ List.prefix_rfl)
  rintro rfl
  exact ht hu

/-- What a file shows goes on while others are written. -/
theorem shows_of_keeps (h : l.Apart) (hs : s.cwd = l.cwd)
    (hk : Site.Keeps (l.places ts) dirs s s') (hp : l.path? t = some p) (ht : t ∉ ts)
    (hshows : s.Shows p b) : s'.Shows p b := by
  refine ⟨hk.reaches hshows.1, (hk.holds_iff ?_ b).mpr hshows.2⟩
  rw [Site.place, hs]
  exact h.place_notMem hp ht

/-- No directory comes up at the place of a node. -/
theorem node_notMem_prepared (h : l.Apart) (hname : Topology.isName l.name = true)
    (hp : l.node kind = some p) : normalize l.cwd p ∉ l.prepared := by
  intro hm
  obtain ⟨t, q, hq, hm⟩ := exists_of_mem_prepared hname hm
  by_cases ht : .node kind = t
  · subst ht
    obtain rfl : p = q := Option.some.inj (hp.symm.trans hq)
    refine FileTree.place_notMem_ways_parent (h.plain _ _ hq) ?_ hm
    obtain ⟨root, -, rfl⟩ := node_eq hname hp
    simp
  · have hways := Site.ways_parent_subset _ _ hm
    exact h.apart _ _ _ _ ht hp hq (FileTree.prefix_of_mem_ways (h.plain _ _ hq) hways)

end Apart

end Layout

end TopologySubmission
