import TopologySubmission.Proofs.Plugin.Nodes

/-!
# Calls that work with nodes

A state manager that was just initialized on an empty tree answers any calls for nodes as maps from
names to documents would, of which it keeps one for each kind, but for one thing: what is stored under
the temporary name of a node is forgotten when the node is set. So the three maps are independent of
each other always, and the names within a map exactly if none of them is the temporary name of another:

    performAll       answers as maps that forget temporary names do       (leads_performAll)
    the maps         forget nothing where no name is temporary            (answers_filed)
-/

namespace TopologySubmission

open Act (Ends Leads)
open LocalStore

/-! ## Algorithm -/

/-- A call that works with the node of a kind and a name. -/
inductive NodeCall where
  | set (kind : NodeKind) (name : String) (d : Document)
  | delete (kind : NodeKind) (name : String)
  | get (kind : NodeKind) (name : String)
  | check (name : String) (timeout : Value)

namespace NodeCall

def kind : NodeCall → NodeKind
  | .set kind _ _ => kind
  | .delete kind _ => kind
  | .get kind _ => kind
  | .check _ _ => .topology

def name : NodeCall → String
  | .set _ name _ => name
  | .delete _ name => name
  | .get _ name => name
  | .check name _ => name

/-- Calls the state manager of a workshop. A call without an answer answers nothing. -/
def perform : NodeCall → Act Workshop Value
  | .set kind name d => do
    Workshop.stateManager.setNode kind d.value name
    return .null
  | .delete kind name => do
    Workshop.stateManager.deleteNode kind name
    return .null
  | .get kind name => Workshop.stateManager.getNode kind name
  | .check name timeout => Workshop.stateManager.askRunning name timeout

/-- Performs calls one after another, and goes on after failures. -/
def performAll : List NodeCall → Act Workshop (List (Except Failure Value))
  | [] => return []
  | c :: cs => do
    let answer ← Act.attempt c.perform
    return answer :: (← performAll cs)

end NodeCall

namespace Nodes

/-- What a call answers. A document with an integer that is too long is refused. -/
def answer (m : Nodes) : NodeCall → Except Failure Value
  | .set _ _ d => if d.isShort then .ok .null else .error (.badValue .tooLongForText)
  | .delete _ _ => .ok .null
  | .get kind name => .ok (((m kind name).map fun d => d.value.ordered).getD .null)
  | .check name _ => .ok (.bool (m .topology name).isSome)

/-- The documents after a call: it changes its own node only. -/
def after (m : Nodes) : NodeCall → Nodes
  | .set kind name d => if d.isShort then m.put kind name (some d) else m
  | .delete kind name => m.put kind name none
  | .get _ _ => m
  | .check _ _ => m

/-- The documents after a call where a node is written under its temporary name first. -/
def filed (m : Nodes) : NodeCall → Nodes
  | .set kind name d =>
    if d.isShort then (m.put kind (temporaryName name) none).put kind name (some d) else m
  | c => m.after c

/-- The answers to calls one after another, where each leads from documents to documents. -/
def answers (next : Nodes → NodeCall → Nodes) (m : Nodes) : List NodeCall → List (Except Failure Value)
  | [] => []
  | c :: cs => m.answer c :: answers next (next m c) cs

end Nodes

/-- The document without entries. -/
def Document.blank : Document := ⟨[], .map Entries.named_nil nofun⟩

/-- Calls that set the node under the temporary name of another one, set the other one, and ask for the
first. -/
def NodeCall.overwriting (kind : NodeKind) (name : String) : List NodeCall :=
  [.set kind (temporaryName name) .blank, .set kind name .blank, .get kind (temporaryName name)]

/-- A name of a topology that has at most 200 characters. -/
structure Topology.IsShortName (name : String) : Prop where
  isName : Topology.isName name = true
  length : name.length ≤ 200

/-- No node is below a root: there is nothing but directories for the kinds of nodes. -/
structure Site.Bare (s : Site) (root : Path) : Prop where
  directory : ∀ kind : NodeKind, s.tree.lookup (s.place root ++ [kind.directory]) = none ∨
    s.tree.lookup (s.place root ++ [kind.directory]) = some .directory
  node : ∀ (kind : NodeKind) (name : String),
    s.tree.lookup (s.place root ++ [kind.directory, name]) = none

/-- A root on an empty site. -/
def Workshop.stateSettings : Settings := { entries := [(.text Key.stateRoot, .text "/state")] }

/-- The workshop with a state manager that was initialized there. -/
def Workshop.initialized : Except Stop Unit × Scene Workshop :=
  Act.run (Workshop.stateManager.configure Workshop.stateSettings) ⟨{ site := {} }, []⟩

/-- The state manager of a workshop answers from the documents in its files. -/
structure Workshop.Stores (w : Workshop) (root : Path) (m : Nodes) : Prop where
  store : w.store = ⟨some root, true⟩
  site : w.site.Stores root m

/-! ## Lemmas -/

theorem Document.ordered_blank : Document.blank.value.ordered = .map [] :=
  congrArg Value.map List.mergeSort_nil

/-! ### One call -/

namespace NodeCall

variable {w : Workshop} {root : Path} {m : Nodes} {c : NodeCall}

theorem leads_locate (hw : w.Stores root m) (kind : NodeKind) {name : String}
    (hname : Topology.IsShortName name) :
    Leads (LocalStore.locate Workshop.storePart kind name) w (.ok (nodeAt root kind name)) w := by
  obtain ⟨site, store, uploader, launcher⟩ := w
  obtain rfl : store = ⟨some root, true⟩ := hw.store
  rw [← nodePath_eq_nodeAt root kind hname.isName]
  exact Leads.bind (Leads.within Workshop.storePart (Leads.getWorld _)) (Leads.pure _ _)

/-- Setting a node files its document, or refuses one that is too long. -/
theorem leads_set (hw : w.Stores root m) (hroom : Roomy root) (kind : NodeKind) {name : String}
    (hname : Topology.IsShortName name) (d : Document) :
    ∃ w', Leads (Act.attempt (perform (.set kind name d))) w (.ok (m.answer (.set kind name d))) w' ∧
      w'.Stores root (m.filed (.set kind name d)) := by
  have hfile := FileName.of_isName hname.isName hname.length
  have htemporary := FileName.temporaryName hname.isName hname.length
  have hlocate := leads_locate hw kind hname
  cases hshort : d.isShort with
  | true =>
    have hanswer : m.answer (.set kind name d) = .ok .null := if_pos hshort
    have hfiled : m.filed (.set kind name d) =
        (m.put kind (temporaryName name) none).put kind name (some d) := if_pos hshort
    obtain ⟨s, hwrite, hs⟩ := leads_writeNode kind hw.site hroom hfile htemporary hshort
    have hset : Leads (Workshop.stateManager.setNode kind d.value name) w (.ok ())
        { w with site := s } := Leads.bind hlocate (Leads.within Workshop.sitePart hwrite)
    rw [hanswer, hfiled]
    exact ⟨_, Leads.attempt (Leads.bind hset (Leads.pure _ _)), hw.store, hs⟩
  | false =>
    have hanswer : m.answer (.set kind name d) = .error (.badValue .tooLongForText) :=
      if_neg (by rw [hshort]; nofun)
    have hfiled : m.filed (.set kind name d) = m := if_neg (by rw [hshort]; nofun)
    obtain ⟨s, hwrite, hs⟩ := leads_writeNode_refused kind hw.site hroom hfile.ne_empty hshort
    have hset : Leads (Workshop.stateManager.setNode kind d.value name) w
        (.error (.failure (.badValue .tooLongForText))) { w with site := s } :=
      Leads.bind hlocate (Leads.within Workshop.sitePart hwrite)
    rw [hanswer, hfiled]
    exact ⟨_, Leads.attempt_failure (Leads.bind_error hset _), hw.store, hs⟩

/-- A running check answers whether there is a document for the topology. -/
theorem leads_check (hw : w.Stores root m) (hroom : Roomy root) {name : String}
    (hname : Topology.IsShortName name) (timeout : Value) :
    Leads (perform (.check name timeout)) w (.ok (.bool (m .topology name).isSome)) w := by
  have hcheck := leads_checkNode .topology hw.site hroom (.of_isName hname.isName hname.length)
  have hlocate := leads_locate hw .topology hname
  obtain ⟨site, store, uploader, launcher⟩ := w
  obtain rfl : store = ⟨some root, true⟩ := hw.store
  have hrunning : Leads (Workshop.stateManager.runningCheck name)
      ⟨site, ⟨some root, true⟩, uploader, launcher⟩
      (.ok (.finished (.bool (m .topology name).isSome)))
      ⟨site, ⟨some root, true⟩, uploader, launcher⟩ := by
    apply Leads.bind (Leads.within Workshop.storePart (Leads.getWorld _))
    exact Leads.bind hlocate (Leads.within Workshop.sitePart hcheck)
  exact Leads.bind hrunning (Leads.pure _ _)

/-- A call for a topology with a short name answers as the documents do, and leaves the documents
without the one under the temporary name. -/
theorem leads_perform (hw : w.Stores root m) (hroom : Roomy root)
    (hname : Topology.IsShortName c.name) :
    ∃ w', Leads (Act.attempt c.perform) w (.ok (m.answer c)) w' ∧ w'.Stores root (m.filed c) := by
  have hfile := FileName.of_isName hname.isName hname.length
  cases c with
  | set kind name d => exact leads_set hw hroom kind hname d
  | delete kind name =>
    obtain ⟨s, hremove, hs⟩ := leads_removeNode kind hw.site hroom hfile
    have hdelete : Leads (Workshop.stateManager.deleteNode kind name) w (.ok ())
        { w with site := s } :=
      Leads.bind (leads_locate hw kind hname) (Leads.within Workshop.sitePart hremove)
    exact ⟨_, Leads.attempt (Leads.bind hdelete (Leads.pure _ _)), hw.store, hs⟩
  | get kind name =>
    have hread := leads_readNode kind hw.site hroom hfile
    refine ⟨w, Leads.attempt ?_, hw⟩
    exact Leads.bind (leads_locate hw kind hname) (Leads.within Workshop.sitePart hread)
  | check name timeout => exact ⟨w, Leads.attempt (leads_check hw hroom hname timeout), hw⟩

/-- Calls answer as the documents do that forget temporary names. -/
theorem leads_performAll {cs : List NodeCall} (hw : w.Stores root m) (hroom : Roomy root)
    (hnames : ∀ c ∈ cs, Topology.IsShortName c.name) :
    ∃ w', Leads (performAll cs) w (.ok (m.answers Nodes.filed cs)) w' ∧
      w'.Stores root (cs.foldl Nodes.filed m) := by
  induction cs generalizing w m with
  | nil => exact ⟨w, Leads.pure [] w, hw⟩
  | cons c cs ih =>
    obtain ⟨hname, hnames⟩ := List.forall_mem_cons.mp hnames
    obtain ⟨w₁, hfirst, hw₁⟩ := leads_perform hw hroom hname
    obtain ⟨w₂, hrest, hw₂⟩ := ih hw₁ hnames
    exact ⟨w₂, Leads.bind hfirst (Leads.bind hrest (Leads.pure _ w₂)), hw₂⟩

end NodeCall

/-! ### Names that are temporary -/

namespace Nodes

variable {m m' : Nodes} {S : NodeKind → Set String} {c : NodeCall} {cs : List NodeCall}

theorem answer_congr (hm : ∀ kind, ∀ name ∈ S kind, m kind name = m' kind name)
    (hc : c.name ∈ S c.kind) : m.answer c = m'.answer c := by
  cases c with
  | set kind name d => rfl
  | delete kind name => rfl
  | get kind name =>
    exact congrArg (fun d => Except.ok (Option.getD (Option.map _ d) _)) (hm kind name hc)
  | check name timeout =>
    exact congrArg (fun d => Except.ok (Value.bool (Option.isSome d))) (hm .topology name hc)

theorem put_congr (hm : ∀ kind, ∀ name ∈ S kind, m kind name = m' kind name) (kind : NodeKind)
    (name : String) (d : Option Document) :
    ∀ k, ∀ n ∈ S k, m.put kind name d k n = m'.put kind name d k n := by
  intro k n hn
  unfold put
  rw [hm k n hn]

/-- Where no name is temporary, only the node of the call changes. -/
theorem filed_congr (hS : ∀ kind, ∀ name ∈ S kind, temporaryName name ∉ S kind)
    (hm : ∀ kind, ∀ name ∈ S kind, m kind name = m' kind name) (hc : c.name ∈ S c.kind) :
    ∀ k, ∀ n ∈ S k, m.filed c k n = m'.after c k n := by
  cases c with
  | set kind name d =>
    simp only [filed, after]
    split
    · -- what is forgotten stands under a name that is not asked for
      apply put_congr
      intro k n hn
      rw [put_ne]
      · exact hm k n hn
      · rintro ⟨rfl, rfl⟩
        exact hS k name hc hn
    · exact hm
  | delete kind name => exact put_congr hm kind name none
  | get kind name => exact hm
  | check name timeout => exact hm

/-- Where no name is temporary, nothing is forgotten. -/
theorem answers_filed (hS : ∀ kind, ∀ name ∈ S kind, temporaryName name ∉ S kind)
    (hcs : ∀ c ∈ cs, c.name ∈ S c.kind)
    (hm : ∀ kind, ∀ name ∈ S kind, m kind name = m' kind name) :
    m.answers filed cs = m'.answers after cs := by
  induction cs generalizing m m' with
  | nil => rfl
  | cons c cs ih =>
    obtain ⟨hc, hcs⟩ := List.forall_mem_cons.mp hcs
    rw [answers, answers, answer_congr hm hc, ih hcs (filed_congr hS hm hc)]

/-- The node under the temporary name is forgotten. -/
theorem answers_overwriting (m : Nodes) (kind : NodeKind) (name : String) :
    m.answers filed (NodeCall.overwriting kind name) = [.ok .null, .ok .null, .ok .null] ∧
      m.answers after (NodeCall.overwriting kind name) =
        [.ok .null, .ok .null, .ok Document.blank.value.ordered] := by
  have hshort : Document.blank.isShort = true := rfl
  have hne : ¬ (kind = kind ∧ temporaryName name = name) := fun h => temporaryName_ne name h.2
  constructor
  · simp only [NodeCall.overwriting, answers, answer, filed, hshort, if_true, put_ne hne, put_self]
    rfl
  · simp only [NodeCall.overwriting, answers, answer, after, hshort, if_true, put_ne hne, put_self]
    rfl

/-- Maps from names to documents say what is kept exactly if no name is the temporary name of another
one. -/
theorem answers_filed_iff (m : Nodes) :
    (∀ cs : List NodeCall, (∀ c ∈ cs, c.name ∈ S c.kind) → m.answers filed cs = m.answers after cs) ↔
      ∀ kind, ∀ name ∈ S kind, temporaryName name ∉ S kind := by
  constructor
  · -- a temporary name among the names is lost by the calls that set both
    intro h kind name hname htemporary
    have hcalls : ∀ c ∈ NodeCall.overwriting kind name, c.name ∈ S c.kind := by
      simp [NodeCall.overwriting, NodeCall.name, NodeCall.kind, hname, htemporary]
    have hsame := h _ hcalls
    obtain ⟨hfiled, hafter⟩ := answers_overwriting m kind name
    rw [hfiled, hafter] at hsame
    cases hsame
  · intro hS cs hcs
    exact answers_filed hS hcs fun _ _ _ => rfl

end Nodes

/-! ### Initialized state managers -/

namespace Workshop

variable {settings : Settings} {before w : Workshop} {root : Path} {log log' : List Record}
  {S : NodeKind → Set String}

/-- A state manager that was initialized keeps no documents in a bare tree. -/
theorem stores_of_configure
    (hready : Act.run (stateManager.configure settings) ⟨before, log⟩ = (.ok (), ⟨w, log'⟩))
    (hroot : w.store.root = some root) (hbare : w.site.Bare root) : w.Stores root Nodes.empty := by
  obtain ⟨site, store, uploader, launcher⟩ := before
  have hends := ends_configureState.and
    (ends_configureState_opens settings ⟨site, store, uploader, launcher⟩) log
  rw [hready] at hends
  obtain ⟨⟨known, s, -, -, rfl⟩, known', hknown', hopens⟩ := hends
  obtain rfl : known = root := Option.some.inj hroot
  obtain rfl : known = known' := Option.some.inj hknown'
  refine ⟨rfl, hopens, fun kind => ?_, fun kind name => hbare.node kind name, nofun⟩
  exact (hbare.directory kind).symm.imp_right fun hnone => ⟨hnone, fun _ => rfl⟩

/-- Initializing puts no nodes into an empty tree, unless the path of its root goes up. -/
theorem bare_of_configure
    (hready : Act.run (stateManager.configure settings) ⟨before, log⟩ = (.ok (), ⟨w, log'⟩))
    (hroot : w.store.root = some root) (hplain : ".." ∉ root.names)
    (hempty : ∀ names, names ≠ [] → before.site.tree.lookup (before.site.place root ++ names) = none) :
    w.site.Bare root := by
  obtain ⟨site, store, uploader, launcher⟩ := before
  have hconfigure : Ends (stateManager.configure settings) ⟨site, store, uploader, launcher⟩ _ _ :=
    ends_configureState
  have hends := hconfigure log
  rw [hready] at hends
  obtain ⟨known, s, -, hk, rfl⟩ := hends
  obtain rfl : known = root := Option.some.inj hroot
  have hother := fun l => hk.tree.other l (Set.notMem_empty l)
  constructor
  · intro kind
    dsimp only
    rw [hk.place]
    rcases hother (site.place known ++ [kind.directory]) with hsame | ⟨-, hdir, -⟩
    · rw [hsame]
      exact .inl (hempty _ (by simp))
    · exact .inr hdir
  · intro kind name
    dsimp only
    rw [hk.place]
    rcases hother (site.place known ++ [kind.directory, name]) with hsame | ⟨-, -, k, hways⟩
    · rw [hsame]
      exact hempty _ (by simp)
    · -- a node lies deeper than the directories of nodes
      rw [child_directory] at hways
      have hup : ".." ∉ known.names ++ [k.directory] := by
        simp [hplain, (directory_ne_up k).symm]
      have hprefix : site.place known ++ [kind.directory, name] <+:
          site.place { known with names := known.names ++ [k.directory] } :=
        FileTree.prefix_of_mem_ways hup hways
      rw [place_kind] at hprefix
      simpa using hprefix.length_le

theorem run_performAll
    (hready : Act.run (stateManager.configure settings) ⟨before, log⟩ = (.ok (), ⟨w, log'⟩))
    (hroot : w.store.root = some root) (hroom : Roomy root) (hbare : w.site.Bare root)
    {cs : List NodeCall} (hnames : ∀ c ∈ cs, Topology.IsShortName c.name) :
    (Act.run (NodeCall.performAll cs) ⟨w, log'⟩).1 = .ok (Nodes.empty.answers Nodes.filed cs) := by
  obtain ⟨w', hleads, -⟩ :=
    NodeCall.leads_performAll (stores_of_configure hready hroot hbare) hroom hnames
  exact hleads.result log'

/-- After an initialization on a bare tree, any calls for nodes with short names are answered as by maps
that forget what is under temporary names, and as by three independent maps from names to documents
exactly if no name is the temporary name of another one of its kind. A document that is answered is the
same as the one that was set. -/
theorem performAll_answers
    (hready : Act.run (stateManager.configure settings) ⟨before, log⟩ = (.ok (), ⟨w, log'⟩))
    (hroot : w.store.root = some root) (hroom : Roomy root) (hbare : w.site.Bare root)
    (hnames : ∀ kind, ∀ name ∈ S kind, Topology.IsShortName name) :
    (∀ cs : List NodeCall, (∀ c ∈ cs, c.name ∈ S c.kind) →
      (Act.run (NodeCall.performAll cs) ⟨w, log'⟩).1 = .ok (Nodes.empty.answers Nodes.filed cs)) ∧
    ((∀ cs : List NodeCall, (∀ c ∈ cs, c.name ∈ S c.kind) →
      (Act.run (NodeCall.performAll cs) ⟨w, log'⟩).1 = .ok (Nodes.empty.answers Nodes.after cs)) ↔
      ∀ kind, ∀ name ∈ S kind, temporaryName name ∉ S kind) ∧
    ∀ d : Document, d.value.same d.value.ordered = true := by
  have hrun : ∀ cs : List NodeCall, (∀ c ∈ cs, c.name ∈ S c.kind) →
      (Act.run (NodeCall.performAll cs) ⟨w, log'⟩).1 = .ok (Nodes.empty.answers Nodes.filed cs) :=
    fun cs hcs => run_performAll hready hroot hroom hbare fun c hc => hnames c.kind c.name (hcs c hc)
  refine ⟨hrun, Iff.trans ?_ (Nodes.answers_filed_iff Nodes.empty),
    fun d => Value.same_ordered d.isDocument⟩
  constructor
  · intro h cs hcs
    exact Except.ok.inj ((hrun cs hcs).symm.trans (h cs hcs))
  · intro h cs hcs
    rw [hrun cs hcs, h cs hcs]

theorem initialized_ready :
    Act.run (stateManager.configure stateSettings) ⟨{ site := {} }, []⟩ =
        (.ok (), ⟨initialized.2.world, initialized.2.log⟩) ∧
      initialized.2.world.store.root = some ⟨"/", ["state"]⟩ ∧
      initialized.2.world.site.Bare ⟨"/", ["state"]⟩ := by
  have hends : initialized.1.toOption = some () ∧
      initialized.2.world.store.root = some ⟨"/", ["state"]⟩ := by
    decide +kernel
  have hok : ∀ c : Except Stop Unit × Scene Workshop, c.1.toOption = some () →
      c = (.ok (), ⟨c.2.world, c.2.log⟩) := by
    rintro ⟨e | _, _⟩ h
    · cases h
    · rfl
  have hready : Act.run (stateManager.configure stateSettings) ⟨{ site := {} }, []⟩ =
      (.ok (), ⟨initialized.2.world, initialized.2.log⟩) := hok initialized hends.1
  refine ⟨hready, hends.2, bare_of_configure hready hends.2 (by decide) fun names hnames => ?_⟩
  exact if_neg fun h => hnames (List.append_eq_nil_iff.mp h).2

theorem roomy_initialized : Roomy ⟨"/", ["state"]⟩ := by
  unfold Roomy
  decide +kernel

/-- Two topologies on an empty site, neither of which has the temporary name of the other. -/
theorem performAll_answers_two :
    (Act.run (NodeCall.performAll
      [.set .topology "one" .blank, .set .packingPlan "one" .blank, .set .topology "two" .blank,
        .delete .topology "two", .check "one" .null, .check "two" .null, .get .packingPlan "one"])
      ⟨initialized.2.world, initialized.2.log⟩).1 =
    .ok [.ok .null, .ok .null, .ok .null, .ok .null, .ok (.bool true), .ok (.bool false),
      .ok (.map [])] := by
  obtain ⟨hready, hroot, hbare⟩ := initialized_ready
  have hnames : ∀ kind : NodeKind, ∀ name ∈ ({"one", "two"} : Set String),
      Topology.IsShortName name := by
    rintro - name (rfl | rfl) <;> exact ⟨by decide, by decide⟩
  have hapart : ∀ kind : NodeKind, ∀ name ∈ ({"one", "two"} : Set String),
      temporaryName name ∉ ({"one", "two"} : Set String) := by
    rintro - name (rfl | rfl) (h | h) <;> exact absurd h (by decide)
  have hanswers := (performAll_answers (S := fun _ => {"one", "two"}) hready hroot roomy_initialized
    hbare hnames).2.1.mpr hapart
  rw [hanswers _ (by simp [NodeCall.name]), ← Document.ordered_blank]
  rfl

/-- A topology whose name is the temporary name of another one is lost when the other one is set. -/
theorem performAll_loses_temporary :
    Topology.IsShortName ".a.tmp" ∧ Topology.IsShortName "a" ∧
    (Act.run (NodeCall.performAll
      [.set .topology ".a.tmp" .blank, .set .topology "a" .blank, .get .topology ".a.tmp",
        .check ".a.tmp" .null]) ⟨initialized.2.world, initialized.2.log⟩).1 =
      .ok [.ok .null, .ok .null, .ok .null, .ok (.bool false)] ∧
    Nodes.empty.answers Nodes.after
      [.set .topology ".a.tmp" .blank, .set .topology "a" .blank, .get .topology ".a.tmp",
        .check ".a.tmp" .null] =
      [.ok .null, .ok .null, .ok (.map []), .ok (.bool true)] := by
  obtain ⟨hready, hroot, hbare⟩ := initialized_ready
  have hfirst : Topology.IsShortName ".a.tmp" := ⟨by decide, by decide⟩
  have hsecond : Topology.IsShortName "a" := ⟨by decide, by decide⟩
  refine ⟨hfirst, hsecond, ?_, ?_⟩
  · rw [run_performAll hready hroot roomy_initialized hbare]
    · rfl
    · simp [NodeCall.name, hfirst, hsecond]
  · rw [← Document.ordered_blank]
    rfl

end Workshop

end TopologySubmission
