import TopologySubmission.Proofs.Plugin.ReadBack
import TopologySubmission.Proofs.Site.Sight

/-!
# Nodes that could not be set

A node that could not be set is what it was before, and whoever asks for it gets the answer of before.
There is one exception. Setting a node makes the directory for its kind first, and that directory stays.
Where it is missing no name is looked up, so there is no node; in a directory that is there the system
refuses a name that is too long:

    readSeen, checkSeen    what is answered about a node, by what is seen at its path
    Uncovers s s' ..       a directory came up in which a name is too long
    what is seen           is the same, unless the name is uncovered        (sight_of_spares)
    a name that is long    is uncovered where the directory is missing      (uncovers_of_setNode_long)
    a set that failed      changes no answer but for an uncovered name      (getNode_of_setNode_error)
-/

namespace TopologySubmission

open Act (Ends Leads)
open FileTree (ways)
open LocalStore

/-! ## Algorithm -/

/-- The act ends alike in two worlds and changes neither of them. -/
def Act.Agrees {σ α : Type} (a : Act σ α) (w w' : σ) : Prop := ∃ r, Leads a w r w ∧ Leads a w' r w'

/-- The directory for a kind of nodes is missing on the first site and is there on the second one, where
the path of a node is not too long, but its last name is. -/
structure Site.Uncovers (s s' : Site) (root : Path) (kind : NodeKind) (name : String) : Prop where
  room : (nodePath root kind name).text.utf8ByteSize < FileTree.pathBytesLimit
  long : FileTree.maxNameBytes < name.utf8ByteSize
  missing : ¬ s.Opens (root.child kind.directory)
  opened : s'.Opens (root.child kind.directory)

namespace LocalStore

/-- What is read of a node at whose path something is seen. -/
def readSeen (p : Path) : Except Refusal (Option FileEntry) → Except Failure Value
  | .ok none => .ok .null
  | .ok (some .directory) => .error (Site.refusal p .isADirectory)
  | .ok (some (.file b)) => Site.decode b >>= Json.read
  | .error why => .error (Site.refusal p why)

/-- How a check of a node comes out at whose path something is seen. -/
def checkSeen (p : Path) : Except Refusal (Option FileEntry) → CheckAnswer
  | .ok e => .finished (.bool e.isSome)
  | .error why => .stopped (.failure (Site.refusal p why))

/-- Only a file beside a node was written, and only directories on the way to the node were made. -/
def Spares (root : Path) (kind : NodeKind) (name : String) (s s' : Site) : Prop :=
  Site.Keeps {s.place (beside (nodePath root kind name))} (ways s.cwd (nodePath root kind name).parent)
    s s'

end LocalStore

/-- The name of a topology with so many characters. -/
def Topology.nameOfLength (n : Nat) : String := String.ofList (List.replicate n 'a')

/-- A tree with one node. -/
def FileTree.oneNode : FileTree where
  entries := [(["state"], .directory), (["state", "topologies"], .directory),
    (["state", "topologies", "one"], .file "\x7b\x7d".toUTF8)]

namespace Workshop

/-- A root in which no directories are made. -/
def untouchedSettings : Settings where
  entries := [(.text Key.stateRoot, .text "/state"), (.text Key.stateMakesTree, .bool false)]

/-- The workshop with a state manager that was initialized there, where there is nothing but the root. -/
def untouched : Except Stop Unit × Scene Workshop :=
  Act.run (stateManager.configure untouchedSettings)
    ⟨{ site := { tree := ⟨[(["state"], .directory)]⟩ } }, []⟩

/-- The workshop with other files on its site. -/
def withTree (w : Workshop) (t : FileTree) : Workshop := { w with site := { w.site with tree := t } }

/-- The workshop with an initialized state manager, where there is a node for a topology. -/
def withNode : Workshop := initialized.2.world.withTree .oneNode

end Workshop

/-! ## Lemmas -/

theorem Topology.isName_nameOfLength {n : Nat} (h : 2 < n) : isName (nameOfLength n) = true := by
  have hchar : isNameChar 'a' = true := by decide
  have hlength : (nameOfLength n).length = n := String.length_ofList.trans List.length_replicate
  have hne : ∀ s : String, s.length ≤ 2 → nameOfLength n ≠ s := by
    rintro s hs rfl
    omega
  have hline : isNameLine (nameOfLength n).toList = true := by
    unfold isNameLine nameOfLength
    rw [String.toList_ofList, List.dropWhile_replicate, List.takeWhile_replicate, hchar]
    simp
    omega
  simp [isName, hline, hne "." (by decide), hne ".." (by decide)]

theorem Topology.utf8ByteSize_nameOfLength {n : Nat} (h : 2 < n) :
    (nameOfLength n).utf8ByteSize = n :=
  (utf8ByteSize_of_isName (isName_nameOfLength h)).trans
    (String.length_ofList.trans List.length_replicate)

theorem Act.eq_of_toOption {σ α : Type} {r : Except Stop α × Scene σ} {x : α}
    (h : r.1.toOption = some x) : r = (.ok x, ⟨r.2.world, r.2.log⟩) := by
  obtain ⟨e | y, d⟩ := r
  · cases h
  · obtain rfl : y = x := Option.some.inj h
    rfl

theorem Act.exists_of_toOption {σ α : Type} {r : Except Stop α × Scene σ} (h : r.1.toOption = none) :
    ∃ e w log, r = (.error e, ⟨w, log⟩) := by
  obtain ⟨e | x, w, log⟩ := r
  · exact ⟨e, w, log, rfl⟩
  · cases h

theorem Act.not_agrees {σ α : Type} {a : Act σ α} {w w' u u' : σ} {r r' : Except Stop α}
    (h : Leads a w r u) (h' : Leads a w' r' u') (hne : r ≠ r') : ¬ a.Agrees w w' := by
  rintro ⟨x, hx, hx'⟩
  exact hne (((h.result []).symm.trans (hx.result [])).trans
    ((hx'.result []).symm.trans (h'.result [])))

namespace LocalStore

variable {s s' : Site} {root p : Path} {kind k : NodeKind} {name : String}

/-! ### Answers -/

theorem leads_readNode_sight (hnul : p.hasNul = false) (s : Site) :
    Leads (readNode p) s ((readSeen p (s.sight p)).mapError .failure) s := by
  have hexists := Site.leads_exists?_sight hnul s
  cases hsight : s.sight p with
  | error why =>
    rw [hsight] at hexists
    exact Leads.bind_error hexists _
  | ok e =>
    rw [hsight] at hexists
    apply Leads.bind hexists
    rcases e with _ | _ | b
    · exact Leads.pure _ s
    · exact Leads.bind_error (Leads.bind_error
        (Site.leads_readBytes_directory (Site.finds_of_sight hnul hsight)) _) _
    · have hbytes := Site.leads_readBytes hnul (Site.finds_of_sight hnul hsight).readFile
      have htext : Leads (Site.readText p) s ((Site.decode b).mapError .failure) s :=
        Leads.bind hbytes (Leads.ofExcept _ s)
      show Leads _ s ((Site.decode b >>= Json.read).mapError Stop.failure) s
      cases hdecode : Site.decode b with
      | error f =>
        rw [hdecode] at htext
        exact Leads.bind_error htext _
      | ok text =>
        rw [hdecode] at htext
        exact Leads.bind htext (Leads.ofExcept _ s)

theorem leads_checkNode_sight (hnul : p.hasNul = false) (s : Site) :
    Leads (checkNode p) s (.ok (checkSeen p (s.sight p))) s := by
  have hexists := Site.leads_exists?_sight hnul s
  cases hsight : s.sight p with
  | error why =>
    rw [hsight] at hexists
    exact Leads.bind (Leads.attempt_failure hexists) (Leads.pure _ s)
  | ok e =>
    rw [hsight] at hexists
    exact Leads.bind (Leads.attempt hexists) (Leads.pure _ s)

/-! ### Paths -/

theorem direct_child (h : root.Direct) (kind : NodeKind) : (root.child kind.directory).Direct := by
  rw [child_directory]
  refine ⟨?_, ?_, ?_⟩
  · simp [h.plain, (directory_ne_up kind).symm]
  · intro n hn
    rcases List.mem_append.mp hn with hn | hn
    · exact h.short n hn
    · rw [List.mem_singleton.mp hn]
      exact (bytes_directory kind).trans (by decide)
  · have hroot := h.hasNul
    unfold Path.hasNul at *
    rw [List.any_append, hroot, List.any_cons, hasNul_directory]
    rfl

/-- The path of a node is a name below the path for its kind. -/
theorem nodePath_below (root : Path) (kind : NodeKind) (hname : Topology.isName name = true) :
    nodePath root kind name =
      { root.child kind.directory with names := (root.child kind.directory).names ++ [name] } := by
  rw [nodePath_eq_nodeAt root kind hname, child_directory]
  simp [nodeAt]

theorem hasNul_nodePath (h : root.Direct) (hname : Topology.isName name = true) :
    (nodePath root kind name).hasNul = false := by
  have hkind := (direct_child h kind).hasNul
  have hzero : name.toList.contains (Char.ofNat 0) = false := by
    rw [← Bool.not_eq_true, List.contains_iff_mem]
    exact zero_notMem_of_isName hname
  rw [nodePath_below root kind hname]
  unfold Path.hasNul at *
  rw [List.any_append, hkind, List.any_cons, hzero]
  rfl

/-- The path of a node is longer than its root by the directory and the name only. -/
theorem bytes_nodePath_le (root : Path) (kind : NodeKind) (hname : Topology.isName name = true) :
    (nodePath root kind name).text.utf8ByteSize ≤
      root.text.utf8ByteSize + "/executionstate/".utf8ByteSize + name.utf8ByteSize := by
  rw [nodePath_eq_nodeAt root kind hname]
  refine (bytes_below root [kind.directory, name]).trans ?_
  have hdir := bytes_directory kind
  have hslash : "/".utf8ByteSize = 1 := by decide
  have hlongest : "/executionstate/".utf8ByteSize = 16 := by decide
  rw [String.intercalate_cons_of_ne_nil (List.cons_ne_nil _ _), String.intercalate_singleton,
    String.utf8ByteSize_append, String.utf8ByteSize_append]
  omega

theorem place_child (s : Site) (root : Path) (kind : NodeKind) :
    s.place (root.child kind.directory) = s.place root ++ [kind.directory] := by
  rw [child_directory, place_kind]

/-! ### What is spared -/

theorem Spares.places (h : Spares root kind name s s') (hname : Topology.isName name = true)
    (hplain : ".." ∉ root.names) {l : Location}
    (htemporary : l ≠ s.place root ++ [kind.directory, temporaryName name])
    (hway : ¬ l <+: s.place root ++ [kind.directory]) : s'.tree.lookup l = s.tree.lookup l := by
  have hpath := nodePath_eq_nodeAt root kind hname
  have hbeside : s.place (beside (nodePath root kind name)) =
      s.place root ++ [kind.directory, temporaryName name] := by
    rw [hpath, beside_nodeAt]
    exact s.place_below root (by simp [(directory_ne_up kind).symm, (temporaryName_ne_up name).symm])
  have hparent : (nodePath root kind name).parent =
      { root with names := root.names ++ [kind.directory] } := by rw [hpath, parent_nodeAt]
  unfold Spares at h
  rw [hbeside, hparent] at h
  refine (h.tree.other l htemporary).resolve_right ?_
  rintro ⟨-, -, hl⟩
  have hup : ".." ∉ root.names ++ [kind.directory] := by
    simp [hplain, (directory_ne_up kind).symm]
  have habove := FileTree.prefix_of_mem_ways hup hl
  exact hway (place_kind s root kind ▸ habove)

/-- What stands at the places of nodes is not touched. -/
theorem Spares.node (h : Spares root kind name s s') (hname : Topology.isName name = true)
    (hplain : ".." ∉ root.names) (k : NodeKind) :
    s'.tree.lookup (s.place root ++ [k.directory, name]) =
      s.tree.lookup (s.place root ++ [k.directory, name]) := by
  apply h.places hname hplain
  · intro he
    have hlast := List.append_cancel_left he
    simp only [List.cons.injEq, and_true] at hlast
    exact temporaryName_ne name hlast.2.symm
  · intro habove
    simpa using habove.length_le

/-- The directory for another kind does not come up. -/
theorem Spares.opens_other (h : Spares root kind name s s') (hname : Topology.isName name = true)
    (hroot : root.Direct) (hgrounded : s.tree.Grounded) (hk : k ≠ kind)
    (hopens : s'.Opens (root.child k.directory)) : s.Opens (root.child k.directory) := by
  have hplace : s'.place (root.child k.directory) = s.place root ++ [k.directory] := by
    rw [Site.Keeps.place h, place_child]
  have hdir := hopens.directory
  rw [hplace, h.places hname hroot.plain, ← place_child] at hdir
  · exact .of_grounded hgrounded (direct_child hroot k) hdir
  · intro he
    simpa using congrArg List.length he
  · intro habove
    have he := List.append_cancel_left (habove.eq_of_length (by simp))
    exact hk (directory_injective _ _ (List.cons.inj he).1)

/-! ### What is seen -/

/-- A name that is uncovered was not seen and is refused now. -/
theorem sight_of_uncovers (hname : Topology.isName name = true) (hroot : root.Direct)
    (h : s.Uncovers s' root kind name) :
    s.sight (nodePath root kind name) = .ok none ∧
      s'.sight (nodePath root kind name) = .error .nameTooLong := by
  have hroom := h.room
  rw [nodePath_below root kind hname] at hroom ⊢
  constructor
  · exact Site.sight_of_not_opens (direct_child hroot kind) hroom h.missing
  · rw [Site.sight_of_opens (Topology.ne_up_of_isName hname) hroom h.opened, if_pos h.long]

/-- What is seen of the nodes for a topology is the same, unless a name was uncovered. -/
theorem sight_of_spares (hname : Topology.isName name = true) (hroot : root.Direct)
    (hgrounded : s.tree.Grounded) (h : Spares root kind name s s')
    (hcovered : k = kind → ¬ s.Uncovers s' root kind name) :
    s'.sight (nodePath root k name) = s.sight (nodePath root k name) := by
  have hdirect := direct_child hroot k
  have hup := Topology.ne_up_of_isName hname
  have hnode := h.node hname hroot.plain k
  by_cases hroom : FileTree.pathBytesLimit ≤ (nodePath root k name).text.utf8ByteSize
  · rw [Site.sight_of_long hroom, Site.sight_of_long hroom]
  rw [Nat.not_le] at hroom
  rw [List.append_cons, ← place_child] at hnode
  have hroom' := hroom
  rw [nodePath_below root k hname] at hroom' ⊢
  by_cases hopens : s.Opens (root.child k.directory)
  · have hplace : s'.place (root.child k.directory) = s.place (root.child k.directory) :=
      Site.Keeps.place h _
    rw [Site.sight_of_opens hup hroom' hopens, Site.sight_of_opens hup hroom' (hopens.keep h), hplace,
      hnode]
  rw [Site.sight_of_not_opens hdirect hroom' hopens]
  by_cases hopens' : s'.Opens (root.child k.directory)
  · -- the directory came up, so the name is short, and nothing stands in a directory that was missing
    obtain rfl : k = kind := by
      by_contra hk
      exact hopens (h.opens_other hname hroot hgrounded hk hopens')
    have hshort : ¬ FileTree.maxNameBytes < name.utf8ByteSize := fun hlong =>
      hcovered rfl ⟨hroom, hlong, hopens, hopens'⟩
    have hnone : s.tree.lookup (s.place (root.child k.directory) ++ [name]) = none := by
      by_contra hentry
      exact hopens (.of_grounded hgrounded hdirect (hgrounded _ _ (List.cons_ne_nil _ _) hentry))
    have hplace : s'.place (root.child k.directory) = s.place (root.child k.directory) :=
      Site.Keeps.place h _
    rw [Site.sight_of_opens hup hroom' hopens', if_neg hshort, hplace, hnode, hnone]
  · exact Site.sight_of_not_opens hdirect hroom' hopens'

/-! ### Names that are too long -/

/-- No path leads anywhere by a name that is too long. -/
theorem not_reaches_long {n : String} (hn : n ∈ p.names)
    (hlong : FileTree.maxNameBytes < n.utf8ByteSize) : ¬ s.Reaches p := fun h =>
  absurd (FileTree.short_of_walk (Site.walk_of_locate h.2) n hn) (Nat.not_le.mpr hlong)

/-- A node whose name is too long is not written, but the directory for it is made if it is missing. -/
theorem ends_writeNode_long {n : String} (hreaches : s.Reaches p.parent)
    (hnone : s.tree.lookup (s.place p.parent) = none) (hn : n ∈ (beside p).names)
    (hlong : FileTree.maxNameBytes < n.utf8ByteSize) (v : Value) :
    Ends (writeNode p v) s (fun _ _ => False) fun u => u.Opens p.parent := by
  have hmade := Site.leads_makeDirs hreaches hnone
  have hput := FileTree.keeps_put_directory hnone
  have hopened : Site.Opens { s with tree := s.tree.put (s.place p.parent) .directory } p.parent := by
    refine .of_locate hreaches.1 (FileTree.locate_of_directories hput.directory hreaches.2) ?_
    exact FileTree.lookup_put_self _ _ _ (FileTree.ne_nil_of_lookup (t := s.tree) (by rw [hnone]; nofun))
  refine .bind (hmade.ends (.ite (fun _ => .fail hopened) fun _ => ?_))
  refine .bind (.ofExcept (fun text _ => ?_) hopened)
  refine .bind ((Site.ends_writeText (beside p) text _).mono ?_ fun _ h => h ▸ hopened)
  rintro _ u ⟨-, -, hbeside⟩
  exact (not_reaches_long hn hlong hbeside).elim

end LocalStore

/-! ### The state manager -/

namespace Workshop

variable {settings : Settings} {before ready w w' : Workshop} {root : Path}
  {log₀ log₁ log log' : List Record} {kind : NodeKind} {name : String} {v : Value} {e : Stop}

theorem store_withTree (w : Workshop) (t : FileTree) : (w.withTree t).store = w.store := rfl

/-- A state manager that was initialized answers checks, and its root led to a directory. -/
theorem opens_of_configure
    (hready : Act.run (stateManager.configure settings) ⟨before, log₀⟩ = (.ok (), ⟨ready, log₁⟩)) :
    ∃ root, ready.store = ⟨some root, true⟩ ∧ ready.site.Opens root := by
  obtain ⟨site, store, uploader, launcher⟩ := before
  have hends := ends_configureState.and
    (ends_configureState_opens settings ⟨site, store, uploader, launcher⟩) log₀
  rw [hready] at hends
  obtain ⟨⟨root, s, -, -, rfl⟩, root', hroot', hopens⟩ := hends
  obtain rfl : root = root' := Option.some.inj hroot'
  exact ⟨root, rfl, hopens⟩

/-- Setting a node is writing it at its path, and nothing but the site changes. -/
theorem ends_setNode {D : Prop} {P : Site → Prop} {p : Path}
    (hlocate : Leads (locate storePart kind name) w (.ok p) w)
    (h : Ends (writeNode p v) w.site (fun _ _ => D) P) :
    Ends (stateManager.setNode kind v name) w (fun _ _ => D)
      fun w' => ∃ s, P s ∧ w' = { w with site := s } :=
  .bind (hlocate.ends (.within (h.mono (fun _ _ => id) fun s hs => ⟨s, hs, rfl⟩)))

/-- A set that failed changed the site only, and there nothing but what it may. -/
theorem spares_of_setNode_error (hroot : w.store.root = some root)
    (hset : Act.run (stateManager.setNode kind v name) ⟨w, log⟩ = (.error e, ⟨w', log'⟩)) :
    ∃ s, Spares root kind name w.site s ∧ w' = { w with site := s } := by
  have hlocate := leads_locate_root hroot kind name
  unfold Spares
  generalize nodePath root kind name = p at hlocate ⊢
  have hwrite := (ends_writeNode p v w.site).mono (fun _ _ _ => trivial) fun _ hs => hs
  have hends := ends_setNode hlocate hwrite log
  rw [hset] at hends
  cases e with
  | failure f => exact hends
  | interrupt i => exact hends.elim

theorem leads_getNode_sight (hroot : w.store.root = some root)
    (hnul : (nodePath root kind name).hasNul = false) :
    Leads (stateManager.getNode kind name) w
      ((readSeen (nodePath root kind name) (w.site.sight (nodePath root kind name))).mapError
        .failure) w :=
  Leads.bind (leads_locate_root hroot kind name)
    (Leads.within sitePart (leads_readNode_sight hnul w.site))

theorem leads_runningCheck_sight (hstore : w.store = ⟨some root, true⟩)
    (hnul : (nodePath root .topology name).hasNul = false) :
    Leads (stateManager.runningCheck name) w
      (.ok (checkSeen (nodePath root .topology name) (w.site.sight (nodePath root .topology name))))
      w := by
  have hlocate := leads_locate_root (w := w) (by rw [hstore]) .topology name
  obtain ⟨site, store, uploader, launcher⟩ := w
  obtain rfl : store = ⟨some root, true⟩ := hstore
  apply Leads.bind (Leads.within storePart (Leads.getWorld _))
  exact Leads.bind hlocate (Leads.within sitePart (leads_checkNode_sight hnul site))

/-- Where the same is seen, a get gives the same answer. -/
theorem agrees_getNode {s : Site} (hroot : w.store.root = some root)
    (hnul : (nodePath root kind name).hasNul = false)
    (hsame : s.sight (nodePath root kind name) = w.site.sight (nodePath root kind name)) :
    Act.Agrees (stateManager.getNode kind name) w { w with site := s } := by
  have hget' := leads_getNode_sight (w := { w with site := s }) hroot hnul
  rw [hsame] at hget'
  exact ⟨_, leads_getNode_sight hroot hnul, hget'⟩

/-- Where the same is seen of the node of a topology, a running check gives the same answer. -/
theorem agrees_runningCheck {s : Site} (hstore : w.store = ⟨some root, true⟩)
    (hnul : (nodePath root .topology name).hasNul = false)
    (hsame : s.sight (nodePath root .topology name) = w.site.sight (nodePath root .topology name)) :
    Act.Agrees (stateManager.runningCheck name) w { w with site := s } := by
  have hcheck' := leads_runningCheck_sight (w := { w with site := s }) hstore hnul
  rw [hsame] at hcheck'
  exact ⟨_, leads_runningCheck_sight hstore hnul, hcheck'⟩

/-- There was no node under a name that is uncovered, and now the name is refused. -/
theorem answers_of_uncovers (hstore : w.store = ⟨some root, true⟩) (hstore' : w'.store = w.store)
    (hname : Topology.isName name = true) (hroot : root.Direct)
    (h : w.site.Uncovers w'.site root kind name) :
    Leads (stateManager.getNode kind name) w (.ok .null) w ∧
    Leads (stateManager.getNode kind name) w'
      (.error (.failure (Site.refusal (nodePath root kind name) .nameTooLong))) w' ∧
    (kind = .topology →
      Leads (stateManager.runningCheck name) w (.ok (.finished (.bool false))) w ∧
      Leads (stateManager.runningCheck name) w'
        (.ok (.stopped (.failure (Site.refusal (nodePath root kind name) .nameTooLong)))) w') := by
  obtain ⟨hunseen, hrefused⟩ := sight_of_uncovers hname hroot h
  rw [hstore] at hstore'
  have hnul : (nodePath root kind name).hasNul = false := hasNul_nodePath hroot hname
  have hget := leads_getNode_sight (w := w) (by rw [hstore]) hnul
  have hget' := leads_getNode_sight (by rw [hstore']) hnul
  rw [hunseen] at hget
  rw [hrefused] at hget'
  refine ⟨hget, hget', ?_⟩
  rintro rfl
  have hcheck := leads_runningCheck_sight hstore hnul
  have hcheck' := leads_runningCheck_sight hstore' hnul
  rw [hunseen] at hcheck
  rw [hrefused] at hcheck'
  exact ⟨hcheck, hcheck'⟩

/-- Setting a node uncovers a name that is too long, if the directory for its kind is missing below a root
that is there. -/
theorem uncovers_of_setNode_long (hroot : w.store.root = some root) (hopens : w.site.Opens root)
    (hroomy : Roomy root) (hname : Topology.isName name = true)
    (hroom : (nodePath root kind name).text.utf8ByteSize < FileTree.pathBytesLimit)
    (hlong : FileTree.maxNameBytes < name.utf8ByteSize)
    (hnone : w.site.tree.lookup (w.site.place root ++ [kind.directory]) = none) (v : Value) :
    Ends (stateManager.setNode kind v name) w (fun _ _ => False)
      fun w' => ∃ s, w.site.Uncovers s root kind name ∧ w' = { w with site := s } := by
  have hmissing : ¬ w.site.Opens (root.child kind.directory) := by
    intro h
    have hdir := h.directory
    rw [place_child, hnone] at hdir
    cases hdir
  have hpath := nodePath_eq_nodeAt root kind hname
  have hparent : (nodePath root kind name).parent = root.child kind.directory := by
    rw [hpath, parent_nodeAt, child_directory]
  have hreaches := reaches_kind hopens hroomy kind
  rw [← child_directory, ← hparent] at hreaches
  rw [← place_child, ← hparent] at hnone
  have htemporary : temporaryName name ∈ (beside (nodePath root kind name)).names := by
    rw [hpath, beside_nodeAt]
    simp [nodeAt]
  have hlonger : FileTree.maxNameBytes < (temporaryName name).utf8ByteSize := by
    unfold temporaryName
    rw [String.utf8ByteSize_append, String.utf8ByteSize_append]
    omega
  have hlocate := leads_locate_root hroot kind name
  have huncovers : ∀ s : Site, s.Opens (nodePath root kind name).parent →
      w.site.Uncovers s root kind name := fun s hs => ⟨hroom, hlong, hmissing, hparent ▸ hs⟩
  generalize nodePath root kind name = p at *
  have hwrite := ends_writeNode_long hreaches hnone htemporary hlonger v
  exact ends_setNode hlocate (hwrite.mono (fun _ _ => id) huncovers)

/-- A set that failed leaves what stands at the place of its node. A get of the node and a running check
answer what they answered before, unless the name is uncovered: then there was no node, and now the
name is refused. -/
theorem getNode_of_setNode_error
    (hready : Act.run (stateManager.configure settings) ⟨before, log₀⟩ = (.ok (), ⟨ready, log₁⟩))
    (hstore : w.store = ready.store) (hroot : w.store.root = some root) (hplain : ".." ∉ root.names)
    (hgrounded : w.site.tree.Grounded) (hname : Topology.isName name = true)
    (hset : Act.run (stateManager.setNode kind v name) ⟨w, log⟩ = (.error e, ⟨w', log'⟩)) :
    w'.site.tree.lookup (w'.site.place (nodePath root kind name)) =
      w.site.tree.lookup (w.site.place (nodePath root kind name)) ∧
    (¬ w.site.Uncovers w'.site root kind name →
      Act.Agrees (stateManager.getNode kind name) w w' ∧
      Act.Agrees (stateManager.runningCheck name) w w') ∧
    (w.site.Uncovers w'.site root kind name →
      Leads (stateManager.getNode kind name) w (.ok .null) w ∧
      Leads (stateManager.getNode kind name) w'
        (.error (.failure (Site.refusal (nodePath root kind name) .nameTooLong))) w' ∧
      if kind = .topology then
        Leads (stateManager.runningCheck name) w (.ok (.finished (.bool false))) w ∧
        Leads (stateManager.runningCheck name) w'
          (.ok (.stopped (.failure (Site.refusal (nodePath root kind name) .nameTooLong)))) w'
      else Act.Agrees (stateManager.runningCheck name) w w') := by
  obtain ⟨known, hknown, hopens⟩ := opens_of_configure hready
  rw [hknown] at hstore
  obtain rfl : known = root := by
    rw [hstore] at hroot
    exact Option.some.inj hroot
  have hdirect : known.Direct := ⟨hplain, hopens.short, hopens.hasNul⟩
  obtain ⟨s, hspares, rfl⟩ := spares_of_setNode_error hroot hset
  have hnul : ∀ k, (nodePath known k name).hasNul = false := fun k => hasNul_nodePath hdirect hname
  have hsame : ∀ k, (k = kind → ¬ w.site.Uncovers s known kind name) →
      s.sight (nodePath known k name) = w.site.sight (nodePath known k name) := fun _ =>
    sight_of_spares hname hdirect hgrounded hspares
  have hchecks : (NodeKind.topology = kind → ¬ w.site.Uncovers s known kind name) →
      Act.Agrees (stateManager.runningCheck name) w { w with site := s } := fun hcovered =>
    agrees_runningCheck hstore (hnul .topology) (hsame .topology hcovered)
  refine ⟨?_, fun hcovered => ⟨?_, ?_⟩, fun hu => ?_⟩
  · rw [Site.Keeps.place hspares, Site.place_nodePath w.site known kind hname]
    exact hspares.node hname hplain kind
  · exact agrees_getNode hroot (hnul kind) (hsame kind fun _ => hcovered)
  · exact hchecks fun _ => hcovered
  · have hstore' : ({ w with site := s } : Workshop).store = w.store := rfl
    obtain ⟨hbefore, hafter, hrunning⟩ := answers_of_uncovers hstore hstore' hname hdirect hu
    refine ⟨hbefore, hafter, ?_⟩
    split
    · next hkind => exact hrunning hkind
    · next hkind => exact hchecks fun he => absurd he.symm hkind

/-- A document whose keys have no order could not be set, and the node of before is still there. -/
theorem getNode_of_setNode_error_unordered :
    ∃ e w' log',
      Act.run (stateManager.setNode .topology (.map [(.int 1, .null), (.text "a", .null)]) "one")
        ⟨withNode, []⟩ = (.error e, ⟨w', log'⟩) ∧
      w'.site.tree.lookup ["state", "topologies", "one"] = some (.file "\x7b\x7d".toUTF8) ∧
      Act.Agrees (stateManager.getNode .topology "one") withNode w' ∧
      Act.Agrees (stateManager.runningCheck "one") withNode w' := by
  obtain ⟨hready, hroot, -⟩ := initialized_ready
  have hstore : withNode.store = initialized.2.world.store := store_withTree _ _
  rw [← hstore] at hroot
  have htree : withNode.site.tree = .oneNode := rfl
  have hgrounded : withNode.site.tree.Grounded := by
    rw [htree]
    exact FileTree.grounded_of_entries (by decide +kernel)
  have hplace : ∀ s : Site, s.place (nodePath ⟨"/", ["state"]⟩ .topology "one") =
      ["state", "topologies", "one"] := fun s => s.place_nodePath _ _ (by decide)
  have hbefore : withNode.site.tree.lookup ["state", "topologies", "one"] =
      some (.file "\x7b\x7d".toUTF8) := by
    rw [htree]
    decide +kernel
  have hfails : (Act.run (stateManager.setNode .topology
      (.map [(.int 1, .null), (.text "a", .null)]) "one") ⟨withNode, []⟩).1.toOption = none := by
    decide +kernel
  obtain ⟨e, w', log', hset⟩ := Act.exists_of_toOption hfails
  obtain ⟨hnode, hanswers, -⟩ := getNode_of_setNode_error hready hstore hroot (by decide) hgrounded
    (by decide) hset
  rw [hplace, hplace] at hnode
  refine ⟨e, w', log', hset, ?_, hanswers fun hu => absurd hu.long (by decide)⟩
  rw [hnode, hbefore]

theorem untouched_ready :
    Act.run (stateManager.configure untouchedSettings)
        ⟨{ site := { tree := ⟨[(["state"], .directory)]⟩ } }, []⟩ =
      (.ok (), ⟨untouched.2.world, untouched.2.log⟩) ∧
    untouched.2.world.store.root = some ⟨"/", ["state"]⟩ ∧
    untouched.2.world.site.tree.lookup
      (untouched.2.world.site.place ⟨"/", ["state"]⟩ ++ [NodeKind.directory .topology]) = none ∧
    untouched.2.world.site.tree.Grounded := by
  have hends : untouched.1.toOption = some () ∧
      untouched.2.world.store.root = some ⟨"/", ["state"]⟩ ∧
      untouched.2.world.site.tree.lookup ["state", "topologies"] = none := by decide +kernel
  obtain ⟨hdone, hroot, hnone⟩ := hends
  exact ⟨Act.eq_of_toOption hdone, hroot, hnone, FileTree.grounded_of_entries (by decide +kernel)⟩

/-- Where a name was uncovered, the answers are no longer those of before. -/
theorem not_agrees_of_nameOfLength :
    Topology.isName (Topology.nameOfLength 256) = true ∧
    ∃ w w' e log log',
      Act.run (stateManager.configure untouchedSettings)
        ⟨{ site := { tree := ⟨[(["state"], .directory)]⟩ } }, []⟩ = (.ok (), ⟨w, log⟩) ∧
      w.store.root = some ⟨"/", ["state"]⟩ ∧ w.site.tree.Grounded ∧
      Act.run (stateManager.setNode .topology (.map []) (Topology.nameOfLength 256)) ⟨w, log⟩ =
        (.error e, ⟨w', log'⟩) ∧
      Leads (stateManager.getNode .topology (Topology.nameOfLength 256)) w (.ok .null) w ∧
      ¬ Act.Agrees (stateManager.getNode .topology (Topology.nameOfLength 256)) w w' ∧
      Leads (stateManager.runningCheck (Topology.nameOfLength 256)) w (.ok (.finished (.bool false))) w ∧
      ¬ Act.Agrees (stateManager.runningCheck (Topology.nameOfLength 256)) w w' := by
  have hname := Topology.isName_nameOfLength (n := 256) (by decide)
  have hbytes := Topology.utf8ByteSize_nameOfLength (n := 256) (by decide)
  have hlong : FileTree.maxNameBytes < (Topology.nameOfLength 256).utf8ByteSize := by
    rw [hbytes]
    decide
  have hroom := bytes_nodePath_le ⟨"/", ["state"]⟩ .topology hname
  rw [hbytes] at hroom
  obtain ⟨hready, hroot, hnone, hgrounded⟩ := untouched_ready
  generalize untouched.2.world = w at *
  generalize untouched.2.log = log at *
  obtain ⟨root, hstore, hopens⟩ := opens_of_configure hready
  obtain rfl : root = ⟨"/", ["state"]⟩ := by
    rw [hstore] at hroot
    exact Option.some.inj hroot
  have hdirect : Path.Direct ⟨"/", ["state"]⟩ := ⟨by decide, hopens.short, hopens.hasNul⟩
  have hends := uncovers_of_setNode_long hroot hopens roomy_initialized hname
    (hroom.trans_lt (by decide)) hlong hnone (.map [])
  rcases hends.of_run log with ⟨_, _, -, ⟨⟩⟩ | ⟨f, ⟨_, log'⟩, hset, s, hu, rfl⟩
  have hstore' : ({ w with site := s } : Workshop).store = w.store := rfl
  obtain ⟨hget, hget', hrunning⟩ := answers_of_uncovers hstore hstore' hname hdirect hu
  obtain ⟨hcheck, hcheck'⟩ := hrunning rfl
  exact ⟨hname, w, _, .failure f, log, log', hready, hroot, hgrounded, hset, hget,
    Act.not_agrees hget hget' nofun, hcheck, Act.not_agrees hcheck hcheck' nofun⟩

end Workshop

end TopologySubmission
