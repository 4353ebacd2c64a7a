import TopologySubmission.Proofs.Plugin.Conduct
import TopologySubmission.Proofs.Plugin.NodeCall
import TopologySubmission.Proofs.Value.Sorting

/-!
# Documents are read back

When a node was set, a file with the text of the whole document was moved to its place, whatever stood
there or elsewhere before. That text is read as the document, so the document is what the node answers:

    a node that was written is read as its document       (leads_readNode_written)
    what was set is answered, on any site                 (getNode_of_setNode)
-/

namespace TopologySubmission

open Act (Ends Leads)
open LocalStore

variable {es : Entries} {v : Value} {p : Path} {s s' : Site}

/-! ## Algorithm -/

/-- A document with a mapping in a row, and characters that are written by names and by numbers. -/
def Document.nested : Document where
  entries := [(.text "b", .list [.int (-7), .null, .map [(.text "k", .bool true)]]),
    (.text "a", .text "\"é😀\n")]
  isDocument := by
    have hinner : Entries.Named [(.text "k", .bool true)] :=
      .of_keys (show _ = ["k"].map Value.text from rfl) (by decide)
    have houter (v w : Value) : Entries.Named [(.text "b", v), (.text "a", w)] :=
      .of_keys (show _ = ["b", "a"].map Value.text from rfl) (by decide)
    have hk : (Value.map [(.text "k", .bool true)]).IsDocument :=
      .map hinner (by simp [Value.IsDocument.bool])
    have hb : (Value.list [.int (-7), .null, .map [(.text "k", .bool true)]]).IsDocument :=
      .list (by simp [Value.IsDocument.int, Value.IsDocument.null, hk])
    exact .map (houter _ _) (by simp [hb, Value.IsDocument.text])

/-! ## Lemmas -/

/-- A read-only mapping is the same value as one that can be changed. -/
theorem Value.same_of_entries? (hv : v.entries? = some es) (fs : Entries) :
    v.same (.map fs) = (Value.map es).same (.map fs) := by
  cases v <;> cases hv <;> rfl

theorem Value.inOrder_swap {α : Type} {k l : Value} {x y : α} (h : k.notAfter l = false) :
    Value.inOrder [(k, x), (l, y)] = [(l, y), (k, x)] := by
  rw [Value.inOrder, ← Sorting.sortWithin_eq _ 2 _ (Nat.le_refl _)]
  simp [Sorting.sortWithin, Sorting.merge, Sorting.mergeFirst, h]

/-- A text that was written of a document is read as the document in the order of its keys. -/
theorem Json.read_of_document {t : String} (h : (Value.map es).IsDocument)
    (ht : Json.document es = .ok t) : '\r' ∉ t.toList ∧ Json.read t = .ok (Value.map es).ordered := by
  rcases Json.document_returns h with ⟨-, t', ht', hline, hread⟩ | ⟨-, hrefused⟩
  · obtain rfl : t' = t := Except.ok.inj (ht'.symm.trans ht)
    exact ⟨hline, hread⟩
  · cases hrefused.symm.trans ht

namespace LocalStore

theorem nodeText_of_entries? (hv : v.entries? = some es) : nodeText v = Json.document es := by
  unfold nodeText Value.asEntries
  rw [hv]
  rfl

theorem leads_readNode_written (hv : v.entries? = some es) (hes : (Value.map es).IsDocument)
    (h : NodeWritten p v s s') : Leads (readNode p) s' (.ok (Value.map es).ordered) s' := by
  obtain ⟨t, ht, hholds⟩ := h.holds
  obtain ⟨hline, hread⟩ := Json.read_of_document hes ((nodeText_of_entries? hv).symm.trans ht)
  have hexists := Site.leads_exists?_reached h.reaches
  rw [hholds] at hexists
  apply Leads.bind hexists
  refine Leads.bind (Site.leads_readText_reached h.reaches hholds hline) ?_
  rw [hread]
  exact Leads.pure _ s'

end LocalStore

namespace Workshop

variable {w w' : Workshop} {root : Path} {log log' : List Record} {kind : NodeKind} {name : String}

theorem leads_locate_root (hroot : w.store.root = some root) (kind : NodeKind) (name : String) :
    Leads (locate storePart kind name) w (.ok (nodePath root kind name)) w := by
  obtain ⟨site, ⟨_, answers⟩, uploader, launcher⟩ := w
  obtain rfl := hroot
  exact Leads.bind (Leads.within storePart (Leads.getWorld _)) (Leads.pure _ _)

theorem leads_locate_unknown (hroot : w.store.root = none) (kind : NodeKind) (name : String) :
    Leads (locate storePart kind name) w (.error (.failure notInitialized)) w := by
  obtain ⟨site, ⟨_, answers⟩, uploader, launcher⟩ := w
  obtain rfl := hroot
  exact Leads.bind (Leads.within storePart (Leads.getWorld _)) (Leads.fail _ _)

theorem written_of_writeNode
    (h : Act.run (Act.within sitePart (writeNode p v)) ⟨w, log⟩ = (.ok (), ⟨w', log'⟩)) :
    ∃ s, NodeWritten p v w.site s ∧ w' = { w with site := s } := by
  have hends : Ends (Act.within sitePart (writeNode p v)) w
      (fun _ w' => ∃ s, NodeWritten p v w.site s ∧ w' = { w with site := s }) fun _ => True :=
    .within ((ends_writeNode p v w.site).mono (fun _ s hs => ⟨s, hs, rfl⟩) fun _ _ => trivial)
  have hwritten := hends log
  rw [h] at hwritten
  exact hwritten

/-- What was set was written below the root of the state manager, and nothing but the site changed. -/
theorem written_of_setNode
    (hset : Act.run (stateManager.setNode kind v name) ⟨w, log⟩ = (.ok (), ⟨w', log'⟩)) :
    ∃ root s, w.store.root = some root ∧ NodeWritten (nodePath root kind name) v w.site s ∧
      w' = { w with site := s } := by
  cases hroot : w.store.root with
  | none =>
    have hfails : Leads (stateManager.setNode kind v name) w (.error (.failure notInitialized)) w :=
      Leads.bind_error (leads_locate_unknown hroot kind name) _
    have hresult := hfails.result log
    rw [hset] at hresult
    cases hresult
  | some root =>
    obtain ⟨log₁, hlocate⟩ := leads_locate_root hroot kind name log
    have hrun := Act.run_bind_ok hlocate fun p => Act.within sitePart (writeNode p v)
    obtain ⟨s, hwritten, rfl⟩ := written_of_writeNode (hrun.symm.trans hset)
    exact ⟨root, s, rfl, hwritten, rfl⟩

/-- A document that a state manager has set is what it then answers, whatever its site held before: the
same document, with the entries of every mapping in the order of their keys. -/
theorem getNode_of_setNode (hv : v.entries? = some es) (hes : (Value.map es).IsDocument)
    (hset : Act.run (stateManager.setNode kind v name) ⟨w, log⟩ = (.ok (), ⟨w', log'⟩)) :
    Leads (stateManager.getNode kind name) w' (.ok (Value.map es).ordered) w' ∧
      v.same (Value.map es).ordered = true := by
  obtain ⟨root, s, hroot, hwritten, rfl⟩ := written_of_setNode hset
  constructor
  · have hlocate := leads_locate_root (w := { w with site := s }) hroot kind name
    exact Leads.bind hlocate (Leads.within sitePart (leads_readNode_written hv hes hwritten))
  · have hordered : (Value.map es).ordered = .map (Value.inOrder (Value.orderedEntries es)) := rfl
    rw [hordered, Value.same_of_entries? hv]
    exact Value.same_ordered hes

theorem leads_setNode {m : Nodes} (hw : w.Stores root m) (hroom : Roomy root) (kind : NodeKind)
    (hname : Topology.IsShortName name) {d : Document} (hshort : d.isShort = true) :
    ∃ w', Leads (stateManager.setNode kind d.value name) w (.ok ()) w' := by
  obtain ⟨s, hwrite, -⟩ := leads_writeNode kind hw.site hroom
    (.of_isName hname.isName hname.length) (.temporaryName hname.isName hname.length) hshort
  exact ⟨_, Leads.bind (NodeCall.leads_locate hw kind hname) (Leads.within sitePart hwrite)⟩

/-- A document with nested parts is set for a topology on an empty site. -/
theorem getNode_of_setNode_nested :
    ∃ w' log',
      Act.run (stateManager.setNode .topology Document.nested.value "one")
        ⟨initialized.2.world, initialized.2.log⟩ = (.ok (), ⟨w', log'⟩) ∧
      Leads (stateManager.getNode .topology "one") w'
        (.ok (.map [(.text "a", .text "\"é😀\n"),
          (.text "b", .list [.int (-7), .null, .map [(.text "k", .bool true)]])])) w' := by
  obtain ⟨hready, hroot, hbare⟩ := initialized_ready
  have hstores := stores_of_configure hready hroot hbare
  have hshort : Document.nested.isShort = true := by decide
  obtain ⟨w', hset⟩ := leads_setNode hstores roomy_initialized .topology
    ⟨show Topology.isName "one" = true by decide, by decide⟩ hshort
  obtain ⟨log', hrun⟩ := hset initialized.2.log
  have hentries : Document.nested.value.entries? = some Document.nested.entries := rfl
  have hget := (getNode_of_setNode hentries Document.nested.isDocument hrun).1
  have hordered : (Value.map Document.nested.entries).ordered = .map [(.text "a", .text "\"é😀\n"),
      (.text "b", .list [.int (-7), .null, .map [(.text "k", .bool true)]])] := by
    have hkeys : (Value.text "b").notAfter (.text "a") = false := by decide
    have hinner : Value.inOrder [(Value.text "k", Value.bool true)] = [(.text "k", .bool true)] :=
      List.mergeSort_singleton _
    simp only [Document.nested, Value.ordered, Value.orderedItems, Value.orderedEntries,
      Value.inOrder_swap hkeys, hinner]
  rw [hordered] at hget
  exact ⟨w', log', hrun, hget⟩

end Workshop

end TopologySubmission
