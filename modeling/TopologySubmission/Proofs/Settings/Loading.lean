import TopologySubmission.Proofs.Settings.Items
import TopologySubmission.Proofs.Settings.Layered
import TopologySubmission.Proofs.Topology.Loading

/-!
# How the inputs of a submission fail

A submission is prepared from a definition, the files of a cluster and the overrides of the command
line. What is wrong with them ends in an error of that class which the command line reports. Beside it
there are failures from below: the file system refuses a path, the home of a user is not known, the
reader of YAML fails with a value, an integer is too long to be written. They are let through, and which
ones they are is known exactly, for every reader of YAML:

    confined_loadCluster      the failures of the files of a cluster
    inputs_confined           the failures of all three inputs
    inputs_pass_misdated      a month that no year has passes through each of the three
-/

namespace TopologySubmission

open Act (Leads Reads Confined)

/-! ## Algorithm -/

namespace Settings

/-- What the text of a file lets through. -/
inductive TextLetsThrough (load : Yaml.Loader) (text : String) : Failure → Prop
  | parser {f : Failure} {foreign : f.submissionError? = none}
      (h : load text = .error (.failed f foreign)) : TextLetsThrough load text f
  | longKey {v : Value} {es : Entries} (hv : load text = .ok v) (hes : v.entries? = some es)
      (h : keysWritable es = false) : TextLetsThrough load text (.badValue .tooLongForText)

/-- What loading the file at a path lets through. -/
inductive FileLetsThrough (s : Site) (p : Path) : Failure → Prop
  | path {f : Failure} (h : s.Unanswered p f) : FileLetsThrough s p f
  | text {b : ByteArray} {text : String} {f : Failure} (hb : s.Finds p (.file b))
      (ht : Site.decode b = .ok text) (h : TextLetsThrough s.yaml.load text f) : FileLetsThrough s p f

/-- What loading files of a directory lets through: the files before are loaded. -/
inductive FilesLetThrough (s : Site) (dir : Path) : List String → Failure → Prop
  | here {name : String} {names : List String} {f : Failure}
      (h : FileLetsThrough s (dir.child name) f) : FilesLetThrough s dir (name :: names) f
  | later {name : String} {names : List String} {es : Entries} {f : Failure}
      (hname : Leads (loadFile (dir.child name)) s (.ok es) s) (h : FilesLetThrough s dir names f) :
      FilesLetThrough s dir (name :: names) f

/-- What loading the files of a cluster lets through. -/
inductive ClusterLetsThrough (s : Site) (home conf : String) : Failure → Prop
  | place (h : Leads (configPath home conf) s (.error (.failure (.misuse .noHomeDirectory))) s) :
      ClusterLetsThrough s home conf (.misuse .noHomeDirectory)
  | path {dir : Path} {f : Failure} (hdir : Leads (configPath home conf) s (.ok dir) s)
      (h : s.Unanswered dir f) : ClusterLetsThrough s home conf f
  | home {dir : Path} (hdir : Leads (configPath home conf) s (.ok dir) s)
      (hthere : s.Finds dir .directory)
      (h : s.expandHome (Path.ofText home) = .error (.misuse .noHomeDirectory)) :
      ClusterLetsThrough s home conf (.misuse .noHomeDirectory)
  | files {dir base : Path} {f : Failure} (hdir : Leads (configPath home conf) s (.ok dir) s)
      (hthere : s.Finds dir .directory) (hbase : s.expandHome (Path.ofText home) = .ok base)
      (h : FilesLetThrough s dir clusterFiles f) : ClusterLetsThrough s home conf f

end Settings

/-! ## Lemmas -/

variable {load : Yaml.Loader} {s : Site} {p dir : Path} {b : ByteArray} {text home conf : String}
  {names : List String} {f : Failure}

theorem Site.expandHome_eq_error (h : s.expandHome p = .error f) : f = .misuse .noHomeDirectory := by
  unfold Site.expandHome at h
  dsimp only at h
  repeat' split at h
  all_goals cases h
  all_goals rfl

theorem Site.leads_resolveHome_error (h : s.expandHome p = .error f) :
    Leads (Site.resolveHome p) s (.error (.failure f)) s := by
  apply Leads.bind (Leads.getWorld s)
  rw [h]
  exact Leads.fail f s

theorem Site.reads_resolveHome (s : Site) (p : Path) :
    Reads (fun f => f = .misuse .noHomeDirectory) (Site.resolveHome p) s :=
  match h : s.expandHome p with
  | .ok _ => Reads.of_leads (Site.leads_resolveHome h)
  | .error _ => Reads.of_failure (Site.leads_resolveHome_error h) (Site.expandHome_eq_error h)

namespace Settings

/-! ### One file -/

theorem ofFileText_failure (h : ofFileText load p text = .error f) :
    f.kind = .submission .configuration ∨ TextLetsThrough load text f := by
  unfold ofFileText at h
  split at h
  · next v hv =>
    unfold ofFileValue at h
    split at h
    · cases h
    · split at h
      · next es hes =>
        unfold flattenKeys at h
        split at h
        · cases h
        · next hkeys =>
          cases h
          exact .inr (.longKey hv hes (Bool.not_eq_true _ ▸ hkeys))
      · cases h
        exact .inl rfl
  · next hread =>
    cases h
    exact .inr (.parser hread)
  · cases h
    exact .inl rfl

theorem TextLetsThrough.ofFileText (h : TextLetsThrough load text f) :
    f.submissionError? = none ∧ ofFileText load p text = .error f := by
  cases h with
  | @parser _ foreign h =>
    refine ⟨foreign, ?_⟩
    unfold Settings.ofFileText
    rw [h]
  | longKey hv hes h =>
    refine ⟨rfl, ?_⟩
    rw [ofFileText_of_read hv, ofFileValue_of_entries hes, flattenKeys_of_not_writable h]

theorem reads_loadFile (s : Site) (p : Path) :
    Reads (fun f => f.kind = .submission .configuration ∨ FileLetsThrough s p f) (loadFile p) s := by
  unfold loadFile
  -- a directory, a file, nothing, or a path without an answer
  rcases Site.find?_cases p s with ⟨_ | b, he⟩ | hnone | ⟨f, hf⟩
  · apply Reads.step (Site.leads_exists? he.path he.status)
    rw [if_pos rfl]
    have hread : Leads (Site.readText p) s (.error (.failure (Site.refusal p .isADirectory))) s :=
      Leads.bind_error (Site.leads_readBytes_directory he) _
    apply Reads.step (Leads.attempt_failure hread)
    exact Reads.fail (.inl rfl)
  · apply Reads.step (Site.leads_exists? he.path he.status)
    rw [if_pos rfl]
    cases ht : Site.decode b with
    | ok text =>
      apply Reads.step (Leads.attempt (Site.leads_readText he.path he.readFile ht))
      apply Reads.step (Leads.getWorld s)
      exact Reads.ofExcept fun f hf => (ofFileText_failure hf).imp_right fun hf => .text he ht hf
    | error f =>
      have hread : Leads (Site.readText p) s (.error (.failure f)) s := by
        apply Leads.bind (Site.leads_readBytes he.path he.readFile)
        rw [ht]
        exact Leads.fail f s
      apply Reads.step (Leads.attempt_failure hread)
      obtain rfl := Site.decode_eq_error ht
      exact Reads.fail (.inl rfl)
  · apply Reads.step (Leads.bind hnone (Leads.pure false s))
    rw [if_neg (by decide)]
    exact Reads.of_leads (Leads.bind (Leads.log _ _ s) (Leads.pure [] s))
  · exact Reads.of_failure (Leads.bind_error (Site.leads_exists?_unanswered hf) _) (.inr (.path hf))

theorem leads_loadFile_through (h : FileLetsThrough s p f) :
    f.submissionError? = none ∧ Leads (loadFile p) s (.error (.failure f)) s := by
  cases h with
  | path h => exact ⟨h.foreign, Leads.bind_error (Site.leads_exists?_unanswered h) _⟩
  | text hb ht h =>
    obtain ⟨hforeign, htext⟩ := h.ofFileText (p := p)
    have hleads := leads_loadFile_of_text hb.path hb.readFile ht
    rw [htext] at hleads
    exact ⟨hforeign, hleads⟩

/-! ### All files -/

theorem reads_loadFiles (s : Site) (dir : Path) (names : List String) (found : Entries) :
    Reads (fun f => f.kind = .submission .configuration ∨ FilesLetThrough s dir names f)
      (loadFiles dir found names) s := by
  -- along the files; a failure of a later one counts since the files before were loaded
  induction names generalizing found with
  | nil => exact Reads.of_leads (Leads.pure found s)
  | cons name names ih =>
    refine Reads.bind ((reads_loadFile s (dir.child name)).mono fun f => ?_) fun es hes => ?_
    · exact Or.imp_right .here
    · exact (ih (found.merge es)).mono fun f => Or.imp_right (.later hes)

theorem leads_loadFiles_through (h : FilesLetThrough s dir names f) :
    f.submissionError? = none ∧
      ∀ found, Leads (loadFiles dir found names) s (.error (.failure f)) s := by
  induction h with
  | here h =>
    obtain ⟨hforeign, hleads⟩ := leads_loadFile_through h
    exact ⟨hforeign, fun found => Leads.bind_error hleads _⟩
  | later hname _ ih => exact ⟨ih.1, fun found => Leads.bind hname (ih.2 _)⟩

/-! ### The cluster -/

theorem reads_configPath (s : Site) (home conf : String) :
    Reads (fun f => f = .misuse .noHomeDirectory) (configPath home conf) s := by
  refine Reads.bind (Site.reads_resolveHome s _) fun q _ => ?_
  split
  · exact Reads.of_leads (Leads.pure q s)
  · exact Reads.bind (Site.reads_resolveHome s _) fun base _ => Reads.of_leads (Leads.pure _ s)

theorem reads_loadCluster (s : Site) (home conf : String) :
    Reads (fun f => f.kind = .submission .configuration ∨ ClusterLetsThrough s home conf f)
      (loadCluster home conf) s := by
  obtain ⟨r, hr, hplace⟩ := reads_configPath s home conf
  cases r with
  | error f =>
    obtain rfl := hplace f rfl
    exact Reads.of_failure (Leads.bind_error hr _) (.inr (.place hr))
  | ok dir =>
    apply Reads.step hr
    rcases Site.find?_cases dir s with ⟨_ | b, he⟩ | hnone | ⟨f, hf⟩
    · apply Reads.step (Site.leads_isDir? he.path he.status)
      rw [if_pos rfl]
      cases hbase : s.expandHome (Path.ofText home) with
      | error f =>
        obtain rfl := Site.expandHome_eq_error hbase
        exact Reads.of_failure (Leads.bind_error (Site.leads_resolveHome_error hbase) _)
          (.inr (.home hr he hbase))
      | ok base =>
        apply Reads.step (Site.leads_resolveHome hbase)
        exact (reads_loadFiles s dir clusterFiles _).mono fun f =>
          Or.imp_right (.files hr he hbase)
    · apply Reads.step (Leads.bind (Site.leads_find? he.path he.status) (Leads.pure false s))
      exact Reads.fail (.inl rfl)
    · apply Reads.step (Leads.bind hnone (Leads.pure false s))
      exact Reads.fail (.inl rfl)
    · exact Reads.of_failure (Leads.bind_error (Site.leads_isDir?_unanswered hf) _)
        (.inr (.path hr hf))

theorem leads_loadCluster_through (h : ClusterLetsThrough s home conf f) :
    f.submissionError? = none ∧ Leads (loadCluster home conf) s (.error (.failure f)) s := by
  cases h with
  | place h => exact ⟨rfl, Leads.bind_error h _⟩
  | path hdir h =>
    exact ⟨h.foreign, Leads.bind hdir (Leads.bind_error (Site.leads_isDir?_unanswered h) _)⟩
  | home hdir hthere h =>
    refine ⟨rfl, Leads.bind hdir (Leads.bind (Site.leads_isDir? hthere.path hthere.status) ?_)⟩
    rw [if_pos rfl]
    exact Leads.bind_error (Site.leads_resolveHome_error h) _
  | files hdir hthere hbase h =>
    obtain ⟨hforeign, hleads⟩ := leads_loadFiles_through h
    refine ⟨hforeign, Leads.bind hdir
      (Leads.bind (Site.leads_isDir? hthere.path hthere.status) ?_)⟩
    rw [if_pos rfl]
    exact Leads.bind (Site.leads_resolveHome hbase) (hleads _)

/-- Loading changes nothing. It gives settings or refuses the configuration, or else it fails with exactly
what it lets through. -/
theorem confined_loadCluster (s : Site) (home conf : String) :
    Confined .configuration (ClusterLetsThrough s home conf) (loadCluster home conf) s :=
  ⟨reads_loadCluster s home conf, fun _ h => leads_loadCluster_through h⟩

end Settings

/-! ### All inputs -/

/-- Whatever reads YAML, and whatever the site holds: a definition and the files of a cluster are loaded,
or refused with the error of their class, or they fail with exactly what their loading lets through. The
overrides are parsed if every item is read. Otherwise the first item that is not read decides: one without
a key is refused as configuration, and of another one exactly the failure of its value is let through. -/
theorem inputs_confined (s : Site) (file home conf : String) (load : Yaml.Loader)
    (items : List String) :
    Confined .topologyDefinition (Topology.LetsThrough s (Path.ofText file)) (Topology.load file) s ∧
      Confined .configuration (Settings.ClusterLetsThrough s home conf)
        (Settings.loadCluster home conf) s ∧
      ((∃ es, Overrides.parse items load = .ok es) ↔ ∀ item ∈ items, Overrides.IsRead load item) ∧
      ((∃ f, Overrides.parse items load = .error f ∧ f.kind = .submission .configuration) ↔
        ∃ item, Overrides.FirstUnread load items item ∧ ¬Overrides.HasKey item) ∧
      ∀ f, Overrides.parse items load = .error f ∧ f.submissionError? = none ↔
        ∃ item, Overrides.FirstUnread load items item ∧ Overrides.Fails load item f := by
  refine ⟨Topology.confined_load s file, Settings.confined_loadCluster s home conf,
    Overrides.parse_ok_iff load items, ⟨?_, ?_⟩, fun f => ⟨?_, ?_⟩⟩
  · rintro ⟨f, hf, hkind⟩
    obtain ⟨item, hfirst, ⟨hkey, -⟩ | hfails⟩ := (Overrides.parse_eq_error_iff load items f).mp hf
    · exact ⟨item, hfirst, hkey⟩
    · exact absurd hkind (Failure.kind_ne_of_foreign hfails.foreign .configuration)
  · rintro ⟨item, hfirst, hkey⟩
    exact ⟨_, (Overrides.parse_eq_error_iff load items _).mpr ⟨item, hfirst, .inl ⟨hkey, rfl⟩⟩, rfl⟩
  · rintro ⟨hf, hforeign⟩
    obtain ⟨item, hfirst, ⟨-, rfl⟩ | hfails⟩ := (Overrides.parse_eq_error_iff load items f).mp hf
    · cases hforeign
    · exact ⟨item, hfirst, hfails⟩
  · rintro ⟨item, hfirst, hfails⟩
    exact ⟨(Overrides.parse_eq_error_iff load items f).mpr ⟨item, hfirst, .inr hfails⟩, hfails.foreign⟩

/-- What YAML fails with for a date in a month that no year has. -/
def misdated : Failure := .badValue (.calendar .month)

/-- A reader that fails in its own way where a text holds such a date. -/
def misdatedLoader : Yaml.Loader
  | "2024-13-01" | "a: 2024-13-01" | "id: 2024-13-01\nname: n\n" => .error (.failed misdated rfl)
  | _ => .error (.noYaml "not a YAML document")

/-- A site whose definition and whose file of a cluster hold such a date. -/
def misdatedSite : Site where
  tree := ⟨[(["t.yaml"], .file "id: 2024-13-01\nname: n\n".toUTF8), (["h"], .directory),
    (["h", "conf"], .directory), (["h", "conf", "cluster.yaml"], .file "a: 2024-13-01".toUTF8)]⟩
  yaml := { load := misdatedLoader }

/-- Such a date passes through all three as a failure that is no error of a submission, though the file
is a definition in YAML, the directory and its file are there and the item has a key. -/
theorem inputs_pass_misdated :
    misdated.submissionError? = none ∧
      (Act.run (Topology.load "/t.yaml") ⟨misdatedSite, []⟩).1 = .error (.failure misdated) ∧
      (Act.run (Settings.loadCluster "/h" "/h/conf") ⟨misdatedSite, []⟩).1 =
        .error (.failure misdated) ∧
      Overrides.HasKey "a=2024-13-01" ∧
      Overrides.parse ["a=2024-13-01"] misdatedLoader = .error misdated := by
  have hcut : Overrides.IsCut "a=2024-13-01" "a" "2024-13-01" := ⟨rfl, by decide⟩
  refine ⟨rfl, ?_, ?_, ⟨_, _, hcut, rfl⟩, ?_⟩
  · have h : Topology.LetsThrough misdatedSite (Path.ofText "/t.yaml") misdated :=
      .parser ⟨rfl, rfl⟩ rfl rfl (.yaml rfl)
    exact (Topology.leads_load_through h).2.result []
  · have h : Settings.FileLetsThrough misdatedSite ((Path.ofText "/h/conf").child "cluster.yaml")
        misdated := .text ⟨rfl, rfl⟩ rfl (.parser rfl)
    have hdir : Leads (Settings.configPath "/h" "/h/conf") misdatedSite (.ok (Path.ofText "/h/conf"))
        misdatedSite := fun log => ⟨log, rfl⟩
    exact (Settings.leads_loadCluster_through (.files hdir ⟨rfl, rfl⟩ rfl (.here h))).2.result []
  · have h : Overrides.Fails misdatedLoader "a=2024-13-01" misdated :=
      ⟨_, _, hcut, rfl, rfl, rfl, rfl⟩
    exact (Overrides.parse_eq_error_iff _ _ _).mpr ⟨_, .here fun hread => hread.2 _ h, .inr h⟩

end TopologySubmission
