import Mathlib.Data.String.Basic
import TopologySubmission.Proofs.Plugin.Mark
import TopologySubmission.Proofs.Site.Place

/-!
# Names of nodes

A node and the file that is written before it have names that a directory takes, if the topology has a
name of at most 200 characters. So, unless the path of the root is too long, the paths of both lead to
their places as soon as there is a directory for the kind of the node:

    a path without names of directories is short enough      (bytes_nodeAt)
    nodeAt root kind n     leads to its place                 (reaches_nodeAt)
-/

namespace TopologySubmission

open LocalStore (nodePath)

/-! ## Algorithm -/

namespace LocalStore

/-- The name under which a node is written first. -/
def temporaryName (name : String) : String := "." ++ name ++ ".tmp"

/-- A file in the directory for the nodes of a kind. -/
def nodeAt (root : Path) (kind : NodeKind) (name : String) : Path :=
  { root with names := root.names ++ [kind.directory, name] }

/-- The most bytes of a name in the directory for the nodes of a kind. -/
def maxNodeBytes : Nat := 205

/-- A name that a directory takes for a node. -/
structure FileName (name : String) : Prop where
  bytes : name.utf8ByteSize ≤ maxNodeBytes
  hasNul : name.toList.contains (Char.ofNat 0) = false
  ne_up : name ≠ ".."
  ne_empty : name ≠ ""

/-- The path of a root leaves room for the directory and the name of a node. -/
def Roomy (root : Path) : Prop :=
  root.text.utf8ByteSize + "/executionstate/".utf8ByteSize + maxNodeBytes < FileTree.pathBytesLimit

end LocalStore

/-! ## Lemmas -/

namespace LocalStore

variable {s : Site} {root : Path} {kind : NodeKind} {name : String}

/-! ### Names -/

theorem utf8Size_of_isNameChar {c : Char} (h : Topology.isNameChar c = true ∨ c = '\n') :
    c.utf8Size = 1 := by
  rw [Char.utf8Size_eq_one_iff, UInt32.le_iff_toNat_le]
  have hupper : c.isUpper = true → c.val.toNat ≤ 90 := fun h => (of_decide_eq_true h).2
  have hlower : c.isLower = true → c.val.toNat ≤ 122 := fun h =>
    of_decide_eq_true (Bool.and_eq_true_iff.mp h).2
  have hdigit : c.isDigit = true → c.val.toNat ≤ 57 := fun h =>
    of_decide_eq_true (Bool.and_eq_true_iff.mp h).2
  rcases h with h | rfl
  · simp only [Topology.isNameChar, Char.isAlphanum, Bool.or_eq_true, beq_iff_eq] at h
    rcases h with (((h | h) | rfl) | rfl) | rfl
    · rcases Bool.or_eq_true_iff.mp h with h | h
      · exact (hupper h).trans (by decide)
      · exact (hlower h).trans (by decide)
    · exact (hdigit h).trans (by decide)
    · decide
    · decide
    · decide
  · decide

/-- Names are ASCII. -/
theorem utf8ByteSize_of_isName (h : Topology.isName name = true) :
    name.utf8ByteSize = name.length := by
  have hlength : ∀ cs : List Char, (∀ c ∈ cs, c.utf8Size = 1) → String.utf8Len cs = cs.length := by
    intro cs hcs
    induction cs with
    | nil => rfl
    | cons c cs ih =>
      obtain ⟨hc, hcs⟩ := List.forall_mem_cons.mp hcs
      rw [String.utf8Len_cons, ih hcs, hc, List.length_cons]
  have hbytes := String.utf8ByteSize_ofList name.toList
  rw [String.ofList_toList, hlength, String.length_toList] at hbytes
  · exact hbytes
  · exact fun c hc => utf8Size_of_isNameChar (Topology.isNameChar_of_mem h hc)

theorem zero_notMem_of_isName (h : Topology.isName name = true) :
    Char.ofNat 0 ∉ name.toList := by
  intro hzero
  rcases Topology.isNameChar_of_mem h hzero with h | h <;> revert h <;> decide

theorem FileName.of_isName (h : Topology.isName name = true) (hlength : name.length ≤ 200) :
    FileName name where
  bytes := by
    rw [utf8ByteSize_of_isName h]
    exact hlength.trans (by decide)
  hasNul := by
    rw [← Bool.not_eq_true, List.contains_iff_mem]
    exact zero_notMem_of_isName h
  ne_up := Topology.ne_up_of_isName h
  ne_empty := by
    rintro rfl
    revert h
    decide

theorem toList_temporaryName (name : String) :
    (temporaryName name).toList = '.' :: (name.toList ++ ".tmp".toList) := by
  unfold temporaryName
  rw [String.toList_append, String.toList_append]
  rfl

theorem length_temporaryName (name : String) :
    (temporaryName name).length = name.length + 5 := by
  rw [← String.length_toList, toList_temporaryName, List.length_cons, List.length_append,
    String.length_toList]
  rfl

theorem temporaryName_ne (name : String) : temporaryName name ≠ name := by
  intro h
  have := congrArg String.length h
  rw [length_temporaryName] at this
  omega

theorem temporaryName_ne_up (name : String) : temporaryName name ≠ ".." := by
  intro hup
  have := congrArg String.length hup
  rw [length_temporaryName] at this
  have hlen : "..".length = 2 := by decide
  omega

theorem FileName.temporaryName (h : Topology.isName name = true) (hlength : name.length ≤ 200) :
    FileName (temporaryName name) where
  bytes := by
    unfold LocalStore.temporaryName
    rw [String.utf8ByteSize_append, String.utf8ByteSize_append, utf8ByteSize_of_isName h]
    have hdot : ".".utf8ByteSize = 1 := by decide
    have hend : ".tmp".utf8ByteSize = 4 := by decide
    unfold maxNodeBytes
    omega
  hasNul := by
    rw [← Bool.not_eq_true, List.contains_iff_mem, toList_temporaryName]
    simp [zero_notMem_of_isName h]
  ne_up := temporaryName_ne_up name
  ne_empty := by
    intro hempty
    have := congrArg String.length hempty
    rw [length_temporaryName] at this
    cases this

/-! ### Paths -/

theorem nodePath_eq_nodeAt (root : Path) (kind : NodeKind) (h : Topology.isName name = true) :
    nodePath root kind name = nodeAt root kind name :=
  nodePath_eq root kind name (Topology.ofText_of_isName h)

theorem name_nodeAt (root : Path) (kind : NodeKind) (name : String) :
    (nodeAt root kind name).name = name := by
  simp [nodeAt, Path.name, List.getLastD_eq_getLast?]

theorem beside_nodeAt (root : Path) (kind : NodeKind) (name : String) :
    beside (nodeAt root kind name) = nodeAt root kind (temporaryName name) := by
  unfold beside Path.withName
  rw [name_nodeAt]
  simp [nodeAt, temporaryName]

theorem parent_nodeAt (root : Path) (kind : NodeKind) (name : String) :
    (nodeAt root kind name).parent = { root with names := root.names ++ [kind.directory] } := by
  simp [nodeAt, Path.parent]

theorem bytes_intercalate (ns ms : List String) :
    ("/".intercalate (ns ++ ms)).utf8ByteSize ≤
      ("/".intercalate ns).utf8ByteSize + 1 + ("/".intercalate ms).utf8ByteSize := by
  have hslash : "/".utf8ByteSize = 1 := by decide
  have hnil : ("/".intercalate []).utf8ByteSize = 0 := by decide
  induction ns with
  | nil =>
    rw [List.nil_append, hnil]
    omega
  | cons n ns ih =>
    have hcons : ∀ ns : List String, ns ≠ [] → ("/".intercalate (n :: ns)).utf8ByteSize =
        n.utf8ByteSize + 1 + ("/".intercalate ns).utf8ByteSize := by
      intro ns hns
      rw [String.intercalate_cons_of_ne_nil hns, String.utf8ByteSize_append,
        String.utf8ByteSize_append, hslash]
    by_cases hns : ns = []
    · subst hns
      by_cases hms : ms = []
      · subst hms
        rw [List.append_nil]
        omega
      · rw [List.singleton_append, hcons ms hms, String.intercalate_singleton]
    · rw [List.cons_append, hcons _ (by simp [hns]), hcons ns hns]
      omega

/-- The path of names below another one is longer by these names only. -/
theorem bytes_below (p : Path) (ms : List String) :
    { p with names := p.names ++ ms : Path }.text.utf8ByteSize ≤
      p.text.utf8ByteSize + 1 + ("/".intercalate ms).utf8ByteSize := by
  obtain ⟨root, names⟩ := p
  have hjoined := bytes_intercalate names ms
  have htext : root.utf8ByteSize + ("/".intercalate names).utf8ByteSize ≤
      (Path.text ⟨root, names⟩).utf8ByteSize := by
    unfold Path.text
    split
    · next h =>
      simp only [Bool.and_eq_true, decide_eq_true_eq, List.isEmpty_iff] at h
      obtain ⟨rfl, rfl⟩ := h
      decide
    · rw [String.utf8ByteSize_append]
  rw [Path.text]
  split
  · have hdot : ".".utf8ByteSize = 1 := by decide
    rw [hdot]
    omega
  · rw [String.utf8ByteSize_append]
    dsimp only
    omega

theorem bytes_directory (kind : NodeKind) : kind.directory.utf8ByteSize ≤ 14 := by
  cases kind <;> decide

/-- The path of a directory of nodes is short enough, and so is the path of a node. -/
theorem Roomy.below (h : Roomy root) {names : List String}
    (hnames : ("/".intercalate names).utf8ByteSize ≤ "/executionstate".utf8ByteSize + maxNodeBytes) :
    { root with names := root.names ++ names : Path }.text.utf8ByteSize <
      FileTree.pathBytesLimit := by
  have hbelow := bytes_below root names
  have hdir : "/executionstate".utf8ByteSize = 15 := by decide
  have hlongest : "/executionstate/".utf8ByteSize = 16 := by decide
  unfold Roomy at h
  omega

theorem Roomy.directory (h : Roomy root) (kind : NodeKind) :
    { root with names := root.names ++ [kind.directory] : Path }.text.utf8ByteSize <
      FileTree.pathBytesLimit := by
  apply h.below
  rw [String.intercalate_singleton]
  exact (bytes_directory kind).trans (by decide)

theorem Roomy.nodeAt (h : Roomy root) (hname : FileName name) (kind : NodeKind) :
    (nodeAt root kind name).text.utf8ByteSize < FileTree.pathBytesLimit := by
  apply h.below
  have hbytes := hname.bytes
  have hdir := bytes_directory kind
  have hslash : "/".utf8ByteSize = 1 := by decide
  have hlongest : "/executionstate".utf8ByteSize = 15 := by decide
  rw [String.intercalate_cons_of_ne_nil (by simp), String.intercalate_singleton,
    String.utf8ByteSize_append, String.utf8ByteSize_append]
  omega

/-! ### Places -/

theorem directory_ne_up (kind : NodeKind) : kind.directory ≠ ".." := by
  cases kind <;> decide

theorem child_directory (root : Path) (kind : NodeKind) :
    root.child kind.directory = { root with names := root.names ++ [kind.directory] } := by
  cases kind <;> rfl

theorem place_kind (s : Site) (root : Path) (kind : NodeKind) :
    s.place { root with names := root.names ++ [kind.directory] } =
      s.place root ++ [kind.directory] :=
  s.place_below root (by simp [(directory_ne_up kind).symm])

theorem place_nodeAt (s : Site) (root : Path) (kind : NodeKind) (hname : FileName name) :
    s.place (nodeAt root kind name) = s.place root ++ [kind.directory, name] :=
  s.place_below root (by simp [(directory_ne_up kind).symm, hname.ne_up.symm])

theorem hasNul_directory (kind : NodeKind) :
    kind.directory.toList.contains (Char.ofNat 0) = false := by
  cases kind <;> decide

theorem walk_kind (h : s.Opens root) (ns : List String) :
    s.tree.walk (s.base root) (root.names ++ kind.directory :: ns) =
      s.tree.walk (s.place root ++ [kind.directory]) ns := by
  have hshort : ¬ FileTree.maxNameBytes < kind.directory.utf8ByteSize :=
    Nat.not_lt.mpr ((bytes_directory kind).trans (by decide))
  rw [FileTree.walk_append, h.walk]
  show s.tree.walk (s.place root) _ = _
  rw [FileTree.walk_cons ns h.directory (directory_ne_up kind), if_neg hshort]

/-- The path of the directory for a kind leads to its place. -/
theorem reaches_kind (h : s.Opens root) (hroom : Roomy root) (kind : NodeKind) :
    s.Reaches { root with names := root.names ++ [kind.directory] } := by
  constructor
  · have hroot := h.hasNul
    unfold Path.hasNul at *
    rw [List.any_append, hroot, List.any_cons, hasNul_directory]
    rfl
  · rw [place_kind]
    exact (if_neg (Nat.not_le.mpr (hroom.directory kind))).trans (walk_kind h [])

theorem locate_nodeAt (h : s.Opens root) (hroom : Roomy root) (hname : FileName name) :
    s.tree.locate s.cwd (nodeAt root kind name) =
      s.tree.walk (s.place root ++ [kind.directory]) [name] :=
  (if_neg (Nat.not_le.mpr (hroom.nodeAt hname kind))).trans (walk_kind h [name])

theorem hasNul_nodeAt (h : s.Opens root) (hname : FileName name) :
    (nodeAt root kind name).hasNul = false := by
  have hroot := h.hasNul
  unfold Path.hasNul nodeAt at *
  rw [List.any_append, hroot, List.any_cons, hasNul_directory, List.any_cons, hname.hasNul]
  rfl

/-- The path of a node leads to its place if there is a directory for its kind. -/
theorem reaches_nodeAt (h : s.Opens root) (hroom : Roomy root) (hname : FileName name)
    (hdir : s.tree.lookup (s.place root ++ [kind.directory]) = some .directory) :
    s.Reaches (nodeAt root kind name) := by
  refine ⟨hasNul_nodeAt h hname, ?_⟩
  have hshort : ¬ FileTree.maxNameBytes < name.utf8ByteSize :=
    Nat.not_lt.mpr (hname.bytes.trans (by decide))
  rw [locate_nodeAt h hroom hname, FileTree.walk_cons [] hdir hname.ne_up, if_neg hshort,
    place_nodeAt s root kind hname, List.append_assoc]
  rfl

/-- Where there is no directory for its kind, there is no node. -/
theorem status_nodeAt_missing (h : s.Opens root) (hroom : Roomy root) (hname : FileName name)
    (hnone : s.tree.lookup (s.place root ++ [kind.directory]) = none) :
    s.tree.status s.cwd (nodeAt root kind name) = .error .noSuchFile := by
  unfold FileTree.status
  rw [locate_nodeAt h hroom hname, FileTree.walk, hnone]
  rfl

end LocalStore

end TopologySubmission
