import TopologySubmission.Proofs.Json.Document
import TopologySubmission.Proofs.Plugin.NodeName

/-!
# Documents in files

Below a root a site stores documents by kind and name: each in a file of its own in the directory for
its kind, and no other file is there. Writing a node stores its document, and it takes away the file of
that kind whose name is the temporary name of the node:

    Stores s root m      the files below the root are the documents of m
    writeNode            stores a document and forgets the temporary one     (leads_writeNode)
    readNode             answers the document in the order of its keys       (leads_readNode)
    removeIfThere        forgets a document                                  (leads_removeNode)
-/

namespace TopologySubmission

open Act (Leads)
open LocalStore

/-! ## Algorithm -/

/-- A mapping that is a document. -/
structure Document where
  entries : Entries
  isDocument : (Value.map entries).IsDocument

namespace Document

def value (d : Document) : Value := .map d.entries

/-- No integer of the document is too long to be written. -/
def isShort (d : Document) : Bool := d.value.isShort

/-- The document as JSON, if it is short. -/
def text (d : Document) : String := (Json.document d.entries).toOption.getD ""

/-- The file of the document. -/
def file (d : Document) : FileEntry := .file d.text.toUTF8

end Document

/-- Documents by the kind and the name of their nodes. -/
abbrev Nodes := NodeKind → String → Option Document

namespace Nodes

def empty : Nodes := fun _ _ => none

/-- One node gets another document, or none. -/
def put (m : Nodes) (kind : NodeKind) (name : String) (d : Option Document) : Nodes :=
  fun k n => if k = kind ∧ n = name then d else m k n

end Nodes

/-- The files in the directories for nodes below a root are the documents, which are short. -/
structure Site.Stores (s : Site) (root : Path) (m : Nodes) : Prop where
  opens : s.Opens root
  directory : ∀ kind : NodeKind, s.tree.lookup (s.place root ++ [kind.directory]) = some .directory ∨
    s.tree.lookup (s.place root ++ [kind.directory]) = none ∧ ∀ name, m kind name = none
  file : ∀ (kind : NodeKind) (name : String),
    s.tree.lookup (s.place root ++ [kind.directory, name]) = (m kind name).map Document.file
  isShort : ∀ kind name, ∀ d ∈ m kind name, d.isShort = true

/-! ## Lemmas -/

/-! ### Documents -/

/-- A short document is written, and its text is read as the document in the order of its keys. -/
theorem Document.written {d : Document} (h : d.isShort = true) :
    Json.document d.entries = .ok d.text ∧ '\r' ∉ d.text.toList ∧
      Json.read d.text = .ok d.value.ordered := by
  rcases Json.document_returns d.isDocument with ⟨-, t, ht, hline, hread⟩ | ⟨hlong, -⟩
  · have htext : d.text = t := by
      unfold text
      rw [ht]
      rfl
    rw [htext]
    exact ⟨ht, hline, hread⟩
  · cases h.symm.trans hlong

theorem Document.refused {d : Document} (h : d.isShort = false) :
    Json.document d.entries = .error (.badValue .tooLongForText) := by
  rcases Json.document_returns d.isDocument with ⟨hshort, -⟩ | ⟨-, hrefused⟩
  · cases h.symm.trans hshort
  · exact hrefused

namespace Nodes

variable {m : Nodes} {kind : NodeKind} {name : String} {d : Option Document}

theorem put_self (m : Nodes) (kind : NodeKind) (name : String) (d : Option Document) :
    m.put kind name d kind name = d := if_pos ⟨rfl, rfl⟩

theorem put_ne {k : NodeKind} {n : String} (h : ¬ (k = kind ∧ n = name)) :
    m.put kind name d k n = m k n := if_neg h

theorem put_put (m : Nodes) (kind : NodeKind) (name : String) (d e : Option Document) :
    (m.put kind name d).put kind name e = m.put kind name e := by
  funext k n
  unfold put
  split <;> rfl

theorem put_eq_self (h : m kind name = d) : m.put kind name d = m := by
  funext k n
  unfold put
  split
  · next hkn => rw [hkn.1, hkn.2, h]
  · rfl

end Nodes

/-! ### Changes below the root -/

namespace Site.Stores

variable {s s' : Site} {root : Path} {m : Nodes} {kind : NodeKind} {name : String}

/-- One file below the root is changed. -/
theorem put {d : Option Document} (h : s.Stores root m)
    (hk : Keeps {s.place root ++ [kind.directory, name]} ∅ s s')
    (hdir : s.tree.lookup (s.place root ++ [kind.directory]) = some .directory)
    (hfile : s'.tree.lookup (s.place root ++ [kind.directory, name]) = d.map Document.file)
    (hshort : ∀ e ∈ d, e.isShort = true) : s'.Stores root (m.put kind name d) := by
  have hother : ∀ l, l ≠ s.place root ++ [kind.directory, name] →
      s'.tree.lookup l = s.tree.lookup l := fun l hl =>
    (hk.tree.other l hl).resolve_right fun hdirs => hdirs.2.2
  have hkind : ∀ k : NodeKind, s'.tree.lookup (s.place root ++ [k.directory]) =
      s.tree.lookup (s.place root ++ [k.directory]) := by
    intro k
    apply hother
    intro he
    simpa using congrArg List.length he
  constructor
  · exact h.opens.keep hk
  · intro k
    rw [hk.place, hkind]
    by_cases hkk : k = kind
    · exact .inl (hkk ▸ hdir)
    · refine (h.directory k).imp_right fun ⟨hnone, hempty⟩ => ⟨hnone, fun n => ?_⟩
      rw [Nodes.put_ne fun hkn => hkk hkn.1]
      exact hempty n
  · intro k n
    rw [hk.place]
    by_cases hkn : k = kind ∧ n = name
    · obtain ⟨rfl, rfl⟩ := hkn
      rw [Nodes.put_self, hfile]
    · rw [Nodes.put_ne hkn, ← h.file k n]
      apply hother
      intro he
      obtain ⟨hk', hn⟩ := List.cons.inj (List.append_cancel_left he)
      exact hkn ⟨directory_injective k kind hk', (List.cons.inj hn).1⟩
  · intro k n e he
    by_cases hkn : k = kind ∧ n = name
    · obtain ⟨rfl, rfl⟩ := hkn
      rw [Nodes.put_self] at he
      exact hshort e he
    · rw [Nodes.put_ne hkn] at he
      exact h.isShort k n e he

/-- A directory for a kind is made. -/
theorem make (h : s.Stores root m) (hk : Keeps ∅ {s.place root ++ [kind.directory]} s s')
    (hdir : s'.tree.lookup (s.place root ++ [kind.directory]) = some .directory) :
    s'.Stores root m := by
  have hother : ∀ l, l ≠ s.place root ++ [kind.directory] → s'.tree.lookup l = s.tree.lookup l :=
    fun l hl => (hk.tree.other l (Set.notMem_empty l)).resolve_right fun hdirs => hl hdirs.2.2
  constructor
  · exact h.opens.keep hk
  · intro k
    rw [hk.place]
    by_cases hkk : k = kind
    · exact .inl (hkk ▸ hdir)
    · rw [hother]
      · exact h.directory k
      · intro he
        exact hkk (directory_injective k kind (List.cons.inj (List.append_cancel_left he)).1)
  · intro k n
    rw [hk.place, hother]
    · exact h.file k n
    · intro he
      simpa using congrArg List.length he
  · exact h.isShort

theorem ne_directory (h : s.Stores root m) (kind : NodeKind) (name : String) :
    s.tree.lookup (s.place root ++ [kind.directory, name]) ≠ some .directory := by
  rw [h.file]
  cases m kind name <;> nofun

/-- Where there is no directory for its kind, no document is. -/
theorem missing (h : s.Stores root m) (name : String)
    (hdir : s.tree.lookup (s.place root ++ [kind.directory]) ≠ some .directory) :
    s.tree.lookup (s.place root ++ [kind.directory]) = none ∧ m kind name = none := by
  rcases h.directory kind with hd | ⟨hnone, hempty⟩
  · exact absurd hd hdir
  · exact ⟨hnone, hempty name⟩

/-- Where a document is, there is a directory for its kind. -/
theorem directory_of_some (h : s.Stores root m) {d : Document} (hd : m kind name = some d) :
    s.tree.lookup (s.place root ++ [kind.directory]) = some .directory := by
  by_contra hdir
  rw [(h.missing name hdir).2] at hd
  cases hd

/-- After its directory was made, a node may be written. -/
theorem leads_makeDirs_kind (h : s.Stores root m) (hroom : Roomy root) (kind : NodeKind) :
    ∃ s', Leads (makeDirs { root with names := root.names ++ [kind.directory] }) s (.ok ()) s' ∧
      s'.Stores root m ∧
      s'.tree.lookup (s'.place root ++ [kind.directory]) = some .directory := by
  have hreaches := reaches_kind h.opens hroom kind
  have hplace := place_kind s root kind
  rcases h.directory kind with hdir | ⟨hnone, -⟩
  · exact ⟨s, leads_makeDirs_there hreaches (hplace ▸ hdir), h, hdir⟩
  · rw [← hplace] at hnone
    have hmade : ({ s with tree := s.tree.put (s.place root ++ [kind.directory]) .directory } :
        Site).tree.lookup (s.place root ++ [kind.directory]) = some .directory :=
      FileTree.lookup_put_self _ _ _ (by simp)
    refine ⟨_, leads_makeDirs hreaches hnone, ?_, ?_⟩
    · rw [hplace] at hnone ⊢
      exact h.make (.of_tree (FileTree.keeps_put_directory hnone)) hmade
    · rw [hplace]
      exact hmade

end Site.Stores

/-! ### What is done with nodes -/

namespace LocalStore

variable {s : Site} {root : Path} {m : Nodes} {name : String}

/-- A short document is stored under any name. -/
theorem leads_writeText (kind : NodeKind) (h : s.Stores root m) (hroom : Roomy root)
    (hname : FileName name)
    (hdir : s.tree.lookup (s.place root ++ [kind.directory]) = some .directory)
    {d : Document} (hshort : d.isShort = true) :
    ∃ s', Leads (Site.writeText (nodeAt root kind name) d.text) s (.ok ()) s' ∧
      s'.Stores root (m.put kind name (some d)) := by
  have hplace := place_nodeAt s root kind hname
  have hfree := h.ne_directory kind name
  refine ⟨_, Site.leads_writeText (reaches_nodeAt h.opens hroom hname hdir) ?_ d.text, ?_⟩
  · rwa [hplace]
  · rw [hplace]
    refine h.put (.of_tree (FileTree.keeps_put_file hfree _)) hdir ?_ ?_
    · exact FileTree.lookup_put_self _ _ _ (by simp)
    · rintro e ⟨rfl⟩
      exact hshort

theorem leads_move (kind : NodeKind) {target : String} (h : s.Stores root m) (hroom : Roomy root)
    (hname : FileName name) (htarget : FileName target) {d : Document} (hd : m kind name = some d) :
    ∃ s', Leads (Site.move (nodeAt root kind name) (nodeAt root kind target)) s (.ok ()) s' ∧
      s'.Stores root ((m.put kind name none).put kind target (some d)) := by
  have hdir := h.directory_of_some hd
  have hfile : s.tree.lookup (s.place root ++ [kind.directory, name]) =
      some (.file d.text.toUTF8) := by
    rw [h.file, hd]
    rfl
  have hfixed : ∀ {n}, FileName n → FileTree.isFixed (nodeAt root kind n) = false := by
    intro n hn
    unfold FileTree.isFixed
    rw [name_nodeAt, Bool.or_eq_false_iff, beq_eq_false_iff_ne]
    exact ⟨by simp [nodeAt], hn.ne_up⟩
  have hmove := Site.leads_move (reaches_nodeAt h.opens hroom hname hdir)
    (reaches_nodeAt h.opens hroom htarget hdir) ⟨hfixed hname, hfixed htarget⟩
    (by rwa [place_nodeAt s root kind hname])
    (by rw [place_nodeAt s root kind htarget]; exact h.ne_directory kind target)
  rw [place_nodeAt s root kind hname, place_nodeAt s root kind htarget] at hmove
  refine ⟨_, hmove, ?_⟩
  -- moving is removing in one place and putting in another
  have hk := FileTree.keeps_remove (h.ne_directory kind name)
  have hremoved : ({ s with tree := s.tree.remove (s.place root ++ [kind.directory, name]) } :
      Site).Stores root (m.put kind name none) :=
    h.put (.of_tree hk) hdir (FileTree.lookup_remove_self _ _ (by simp)) (fun _ he => by cases he)
  have hk' := FileTree.keeps_put_file (hremoved.ne_directory kind target) d.text.toUTF8
  refine hremoved.put (.of_tree hk') (hk.directory _ hdir) ?_ ?_
  · exact FileTree.lookup_put_self _ _ _ (by simp)
  · rintro e ⟨rfl⟩
    exact h.isShort kind name d hd

/-- Writing a short document stores it, and forgets what was stored under its temporary name. -/
theorem leads_writeNode (kind : NodeKind) (h : s.Stores root m) (hroom : Roomy root)
    (hname : FileName name) (htemporary : FileName (temporaryName name))
    {d : Document} (hshort : d.isShort = true) :
    ∃ s', Leads (writeNode (nodeAt root kind name) d.value) s (.ok ()) s' ∧
      s'.Stores root ((m.put kind (temporaryName name) none).put kind name (some d)) := by
  have htext : nodeText d.value = .ok d.text := (Document.written hshort).1
  -- the text is written beside the node and moved onto it, so the file beside it is gone afterwards
  obtain ⟨s₁, hmake, h₁, hdir⟩ := h.leads_makeDirs_kind hroom kind
  obtain ⟨s₂, hwrite, h₂⟩ := leads_writeText kind h₁ hroom htemporary hdir hshort
  obtain ⟨s₃, hmove, h₃⟩ := leads_move kind h₂ hroom htemporary hname (Nodes.put_self _ _ _ _)
  rw [Nodes.put_put] at h₃
  refine ⟨s₃, ?_, h₃⟩
  unfold writeNode
  rw [parent_nodeAt, name_nodeAt, if_neg hname.ne_empty, htext]
  apply Leads.bind hmake
  apply Leads.bind (Leads.pure d.text s₁)
  have hbeside := beside_nodeAt root kind name
  unfold beside at hbeside
  rw [name_nodeAt] at hbeside
  rw [hbeside]
  exact Leads.bind hwrite hmove

/-- A document that is too long is refused, and nothing else is stored. -/
theorem leads_writeNode_refused (kind : NodeKind) (h : s.Stores root m) (hroom : Roomy root)
    (hne : name ≠ "") {d : Document} (hlong : d.isShort = false) :
    ∃ s', Leads (writeNode (nodeAt root kind name) d.value) s
      (.error (.failure (.badValue .tooLongForText))) s' ∧ s'.Stores root m := by
  obtain ⟨s₁, hmake, h₁, -⟩ := h.leads_makeDirs_kind hroom kind
  refine ⟨s₁, ?_, h₁⟩
  unfold writeNode
  rw [parent_nodeAt, name_nodeAt, if_neg hne]
  apply Leads.bind hmake
  have htext : nodeText d.value = .error (.badValue .tooLongForText) := Document.refused hlong
  rw [htext]
  exact Leads.bind_error (Leads.fail _ s₁) _

/-- A file is at the path of a node exactly if the node has a document. -/
theorem leads_existsNode (kind : NodeKind) (h : s.Stores root m) (hroom : Roomy root)
    (hname : FileName name) :
    Leads (Site.exists? (nodeAt root kind name)) s (.ok (m kind name).isSome) s := by
  by_cases hdir : s.tree.lookup (s.place root ++ [kind.directory]) = some .directory
  · have hexists := Site.leads_exists?_reached (reaches_nodeAt h.opens hroom hname hdir)
    rwa [place_nodeAt s root kind hname, h.file, Option.isSome_map] at hexists
  · obtain ⟨hnone, hempty⟩ := h.missing name hdir
    rw [hempty]
    exact Site.leads_exists?_missing (status_nodeAt_missing h.opens hroom hname hnone)

/-- A node is read as its document in the order of its keys. -/
theorem leads_readNode (kind : NodeKind) (h : s.Stores root m) (hroom : Roomy root)
    (hname : FileName name) :
    Leads (readNode (nodeAt root kind name)) s
      (.ok (((m kind name).map fun d => d.value.ordered).getD .null)) s := by
  have hexists := leads_existsNode kind h hroom hname
  unfold readNode
  apply Leads.bind hexists
  cases hd : m kind name with
  | none => exact Leads.pure Value.null s
  | some d =>
    have hdir := h.directory_of_some hd
    obtain ⟨-, hline, hread⟩ := Document.written (h.isShort kind name d hd)
    have hfile : s.tree.lookup (s.place (nodeAt root kind name)) = some (.file d.text.toUTF8) := by
      rw [place_nodeAt s root kind hname, h.file, hd]
      rfl
    have hreaches := reaches_nodeAt h.opens hroom hname hdir
    refine Leads.bind (Site.leads_readText_reached hreaches hfile hline) ?_
    rw [hread]
    exact Leads.pure _ s

theorem leads_checkNode (kind : NodeKind) (h : s.Stores root m) (hroom : Roomy root)
    (hname : FileName name) :
    Leads (checkNode (nodeAt root kind name)) s (.ok (.finished (.bool (m kind name).isSome))) s :=
  Leads.bind (Leads.attempt (leads_existsNode kind h hroom hname)) (Leads.pure _ s)

/-- Removing a node forgets its document. -/
theorem leads_removeNode (kind : NodeKind) (h : s.Stores root m) (hroom : Roomy root)
    (hname : FileName name) :
    ∃ s', Leads (Site.removeIfThere (nodeAt root kind name)) s (.ok ()) s' ∧
      s'.Stores root (m.put kind name none) := by
  have hplace := place_nodeAt s root kind hname
  cases hd : m kind name with
  | none =>
    refine ⟨s, Site.leads_removeIfThere_missing (hasNul_nodeAt h.opens hname) ?_, ?_⟩
    · by_cases hdir : s.tree.lookup (s.place root ++ [kind.directory]) = some .directory
      · refine (reaches_nodeAt h.opens hroom hname hdir).status_missing ?_
        rw [hplace, h.file, hd]
        rfl
      · exact status_nodeAt_missing h.opens hroom hname (h.missing name hdir).1
    · rwa [Nodes.put_eq_self hd]
  | some d =>
    have hdir := h.directory_of_some hd
    have hfile : s.tree.lookup (s.place root ++ [kind.directory, name]) =
        some (.file d.text.toUTF8) := by
      rw [h.file, hd]
      rfl
    have hremove :=
      Site.leads_removeIfThere (reaches_nodeAt h.opens hroom hname hdir) (hplace ▸ hfile)
    rw [hplace] at hremove
    refine ⟨_, hremove, h.put (.of_tree (FileTree.keeps_remove ?_)) hdir ?_ nofun⟩
    · exact h.ne_directory kind name
    · exact FileTree.lookup_remove_self _ _ (by simp)

end LocalStore

end TopologySubmission
