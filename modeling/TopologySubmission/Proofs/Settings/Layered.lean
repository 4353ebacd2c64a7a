import TopologySubmission.Proofs.Site.Lookup
import TopologySubmission.Proofs.Site.Place
import TopologySubmission.Proofs.Value.Merging
import TopologySubmission.Proofs.Value.Plain
import TopologySubmission.Settings.Layers

/-!
# The layers of the settings

Eleven layers make the settings of a submission. `build` puts them over one another in five steps,
some of which put smaller groups together first, and the groups do not matter:

    merged = layered (layers …)                                     (merged_eq_layered)

So a key stands where its lowest layer puts it and has the value that its highest layer gives. What
`build` answers is what becomes of these settings when their placeholders are replaced and the required
keys are checked, unless a key in a file has no text: then no layer is made      (build_answers).
-/

namespace TopologySubmission.Settings

open Act (Leads)

/-! ## Algorithm -/

/-- The nested settings that a file of the cluster holds: none where it is missing or empty. -/
inductive FileHolds (s : Site) (p : Path) : Entries → Prop
  | missing (h : s.tree.status s.cwd p = .error .noSuchFile) : FileHolds s p []
  | empty {b : ByteArray} {text : String} (hb : s.tree.readFile s.cwd p = .ok b)
      (ht : Site.decode b = .ok text) (hv : s.yaml.load text = .ok .null) : FileHolds s p []
  | mapping {b : ByteArray} {text : String} {v : Value} {es : Entries}
      (hb : s.tree.readFile s.cwd p = .ok b) (ht : Site.decode b = .ok text)
      (hv : s.yaml.load text = .ok v) (hes : v.entries? = some es) : FileHolds s p es

/-- The directory of the files of a cluster, from the paths that the home and the configuration
stand for. -/
def filesDirectory (home conf : Path) : Path := if conf.isAbsolute then conf else home.join conf

/-- The layers of the settings, the lowest first; those of the files are made flat. -/
def layers (home dir : Path) (files : String → Entries) (r : Request) : List Entries :=
  defaults :: [(.text Key.home, .text home.text), (.text Key.conf, .text dir.text)] ::
    (clusterFiles.map (fun name => flatten (files name)) ++
      [[(.text Key.cluster, r.cluster), (.text Key.role, r.role), (.text Key.environ, r.environ)],
        r.overrides, (ofTopology r.package r.jar r.definition r.topology).entries])

/-- The variables that the placeholders of a request may name. -/
def Request.variables (r : Request) (s : Site) : Environment :=
  r.environment.getD (.ofTexts s.environment)

/-- Settings with their placeholders replaced and the required keys checked. -/
def finished (s : Settings) (env : Environment) : Except Failure Settings := do
  let c ← s.expand env defaultPasses
  c.validate
  return c

/-! ## Lemmas -/

/-! ### The layers have names -/

mutual

theorem named_flattenValue (key : String) : ∀ v : Value, (flattenValue key v).Named
  | .map es => named_flattenOnto key [] es Entries.named_nil
  | .readOnlyMap es => named_flattenOnto key [] es Entries.named_nil
  | .null | .bool _ | .int _ | .float _ | .text _ | .bytes _ | .date _ | .moment _ | .list _
  | .tuple _ | .set _ => ⟨rfl, List.nodup_singleton key⟩

/-- What is made flat is a mapping of names. -/
theorem named_flattenOnto (outer : String) (flat : Entries) :
    ∀ es : Entries, flat.Named → (flattenOnto outer flat es).Named
  | [], h => h
  | (k, v) :: es, h =>
    named_flattenOnto outer _ es
      (h.merge (named_flattenValue (pathKey outer k) v).keys_eq).1

end

theorem named_flatten (es : Entries) : (flatten es).Named :=
  named_flattenOnto "" [] es Entries.named_nil

theorem named_defaults : defaults.Named := ⟨rfl, by decide⟩

/-- Entries that are listed one by one. -/
theorem named_listed (ps : List (String × Value)) (h : (ps.map Prod.fst).Nodup) :
    Entries.Named (ps.map fun p => (.text p.1, p.2)) :=
  Entries.Named.of_keys (Entries.keys_map_text ps) h

theorem named_directories (home dir : Path) :
    Entries.Named [(.text Key.home, .text home.text), (.text Key.conf, .text dir.text)] :=
  named_listed [(Key.home, .text home.text), (Key.conf, .text dir.text)]
    (show [Key.home, Key.conf].Nodup by decide)

theorem named_place (cluster role environ : Value) :
    Entries.Named [(.text Key.cluster, cluster), (.text Key.role, role),
      (.text Key.environ, environ)] :=
  named_listed [(Key.cluster, cluster), (Key.role, role), (Key.environ, environ)]
    (show [Key.cluster, Key.role, Key.environ].Nodup by decide)

theorem named_ofTopology (package jar definition : String) (t : Topology) :
    (ofTopology package jar definition t).entries.Named :=
  named_listed [(Key.topologyId, t.id), (Key.topologyName, .text t.name),
      (Key.definitionFile, .text definition), (Key.packageFile, .text package),
      (Key.jarFile, .text jar), (Key.packageType, .text (packageType jar))]
    (show [Key.topologyId, Key.topologyName, Key.definitionFile, Key.packageFile, Key.jarFile,
      Key.packageType].Nodup by decide)

/-- All layers are mappings of names, if the overrides are. -/
theorem named_layers (home dir : Path) (files : String → Entries) {r : Request}
    (hoverrides : r.overrides.Named) : ∀ l ∈ layers home dir files r, l.Named := by
  intro l hl
  unfold layers at hl
  rcases List.mem_cons.mp hl with rfl | hl
  · exact named_defaults
  rcases List.mem_cons.mp hl with rfl | hl
  · exact named_directories home dir
  rcases List.mem_append.mp hl with hl | hl
  · obtain ⟨name, -, rfl⟩ := List.mem_map.mp hl
    exact named_flatten _
  · rcases List.mem_cons.mp hl with rfl | hl
    · exact named_place _ _ _
    rcases List.mem_cons.mp hl with rfl | hl
    · exact hoverrides
    · rw [List.mem_singleton.mp hl]
      exact named_ofTopology _ _ _ _

/-- The settings that `build` puts together in groups are its layers over one another. -/
theorem mergeLayers_eq_layered {home dir : Path} {files : String → Entries} {r : Request}
    (h : ∀ l ∈ layers home dir files r, l.Named) :
    mergeLayers ((({} : Settings).putAll defaults).putAll
        ((clusterFiles.map fun name => flatten (files name)).foldl Entries.merge
          [(.text Key.home, .text home.text), (.text Key.conf, .text dir.text)])) r =
      ⟨Entries.layered (layers home dir files r)⟩ := by
  have hfiles : ∀ l ∈ clusterFiles.map fun name => flatten (files name), l.Named := fun l hl =>
    h l (List.mem_cons_of_mem _ (List.mem_cons_of_mem _ (List.mem_append_left _ hl)))
  have hoverrides : r.overrides.Named := h _ (by simp [layers])
  have hcluster : ∀ l ∈ [(.text Key.home, .text home.text), (.text Key.conf, .text dir.text)] ::
      clusterFiles.map fun name => flatten (files name), Entries.Named l :=
    List.forall_mem_cons.mpr ⟨named_directories home dir, hfiles⟩
  have hline : ∀ l ∈ [[(.text Key.cluster, r.cluster), (.text Key.role, r.role),
      (.text Key.environ, r.environ)], r.overrides], Entries.Named l :=
    List.forall_mem_cons.mpr ⟨named_place _ _ _, List.forall_mem_singleton.mpr hoverrides⟩
  have hdefaults : ∀ l ∈ [defaults], Entries.Named l := List.forall_mem_singleton.mpr named_defaults
  have hcommand : (commandLine r.cluster r.role r.environ r.overrides).entries =
      Entries.layered [[(.text Key.cluster, r.cluster), (.text Key.role, r.role),
        (.text Key.environ, r.environ)], r.overrides] := rfl
  have hbase : ({} : Settings).putAll defaults = ⟨Entries.layered [defaults]⟩ := rfl
  unfold mergeLayers
  rw [hbase, ← Entries.layered_cons (named_directories home dir), hcommand]
  simp only [putAll]
  rw [Entries.merge_layered hdefaults hcluster,
    Entries.merge_layered (fun l hl => (List.mem_append.mp hl).elim (hdefaults l) (hcluster l)) hline,
    ← Entries.layered_concat]
  simp [layers]

/-! ### Loading -/

theorem hasNul_child {dir : Path} {name : String} (hdir : dir.hasNul = false)
    (hname : (Path.ofText name).hasNul = false) : (dir.child name).hasNul = false := by
  unfold Path.child Path.join
  split
  · exact hname
  · unfold Path.hasNul at *
    rw [List.any_append, hdir, hname]
    rfl

theorem ofFileText_of_read {load : Yaml.Loader} {p : Path} {text : String} {v : Value}
    (h : load text = .ok v) : ofFileText load p text = ofFileValue p v := by
  unfold ofFileText
  rw [h]

theorem ofFileValue_of_entries {p : Path} {v : Value} {es : Entries} (h : v.entries? = some es) :
    ofFileValue p v = flattenKeys es := by
  cases v with
  | map fs => obtain rfl := Option.some.inj h; rfl
  | readOnlyMap fs => obtain rfl := Option.some.inj h; rfl
  | _ => cases h

/-- The text of a file that can be read decides what it gives. -/
theorem leads_loadFile_of_text {s : Site} {p : Path} {b : ByteArray} {text : String}
    (hnul : p.hasNul = false) (hb : s.tree.readFile s.cwd p = .ok b)
    (ht : Site.decode b = .ok text) :
    Leads (loadFile p) s ((ofFileText s.yaml.load p text).mapError .failure) s := by
  apply Leads.bind (Site.leads_exists? hnul (Site.status_of_readFile hb))
  rw [if_pos rfl]
  apply Leads.bind (Leads.attempt (Site.leads_readText hnul hb ht))
  exact Leads.bind (Leads.getWorld s) (Leads.ofExcept _ s)

/-- What a file holds is made flat, if its keys have texts. -/
theorem leads_loadFile {s : Site} {p : Path} {es : Entries} (hnul : p.hasNul = false)
    (h : FileHolds s p es) : Leads (loadFile p) s ((flattenKeys es).mapError .failure) s := by
  cases h with
  | missing h =>
    apply Leads.bind (Site.leads_exists?_missing h)
    rw [if_neg (by decide)]
    exact Leads.bind (Leads.log _ _ s) (Leads.pure [] s)
  | empty hb ht hv =>
    have hleads := leads_loadFile_of_text hnul hb ht
    rwa [ofFileText_of_read hv] at hleads
  | mapping hb ht hv hes =>
    have hleads := leads_loadFile_of_text hnul hb ht
    rwa [ofFileText_of_read hv, ofFileValue_of_entries hes] at hleads

theorem flattenKeys_of_writable {es : Entries} (h : keysWritable es = true) :
    flattenKeys es = .ok (flatten es) := if_pos h

theorem flattenKeys_of_not_writable {es : Entries} (h : keysWritable es = false) :
    flattenKeys es = .error (.badValue .tooLongForText) := if_neg (Bool.not_eq_true _ ▸ h)

/-- The files are put over one another, unless a key in one of them has no text. -/
theorem leads_loadFiles {s : Site} {dir : Path} {files : String → Entries} {names : List String}
    (h : ∀ name ∈ names, (dir.child name).hasNul = false ∧
      FileHolds s (dir.child name) (files name)) (found : Entries) :
    ((∀ name ∈ names, keysWritable (files name) = true) → Leads (loadFiles dir found names) s
      (.ok ((names.map fun name => flatten (files name)).foldl Entries.merge found)) s) ∧
    ((∃ name ∈ names, keysWritable (files name) = false) → Leads (loadFiles dir found names) s
      (.error (.failure (.badValue .tooLongForText))) s) := by
  induction names generalizing found with
  | nil => exact ⟨fun _ => Leads.pure found s, nofun⟩
  | cons name names ih =>
    obtain ⟨hnul, hholds⟩ := h name List.mem_cons_self
    have hleads := leads_loadFile hnul hholds
    obtain ⟨hgiven, hrefused⟩ := ih (fun n hn => h n (List.mem_cons_of_mem _ hn))
      (found.merge (flatten (files name)))
    cases hwritable : keysWritable (files name) with
    | true =>
      rw [flattenKeys_of_writable hwritable] at hleads
      constructor
      · intro hall
        exact Leads.bind hleads (hgiven fun n hn => hall n (List.mem_cons_of_mem _ hn))
      · rintro ⟨n, hn, hnone⟩
        refine Leads.bind hleads (hrefused ⟨n, ?_, hnone⟩)
        rcases List.mem_cons.mp hn with rfl | hn
        · exact absurd (hwritable.symm.trans hnone) (by decide)
        · exact hn
    | false =>
      rw [flattenKeys_of_not_writable hwritable] at hleads
      constructor
      · intro hall
        exact absurd (hwritable.symm.trans (hall name List.mem_cons_self)) (by decide)
      · exact fun _ => Leads.bind_error hleads _

theorem leads_configPath {s : Site} {r : Request} {home conf : Path}
    (hhome : s.expandHome (Path.ofText r.home) = .ok home)
    (hconf : s.expandHome (Path.ofText r.conf) = .ok conf) :
    Leads (configPath r.home r.conf) s (.ok (filesDirectory home conf)) s := by
  apply Leads.bind (Site.leads_resolveHome hconf)
  unfold filesDirectory
  split
  · exact Leads.pure conf s
  · exact Leads.bind (Site.leads_resolveHome hhome) (Leads.pure (home.join conf) s)

theorem leads_loadDefaults {s : Site} {r : Request} {home conf : Path} {files : String → Entries}
    (hhome : s.expandHome (Path.ofText r.home) = .ok home)
    (hconf : s.expandHome (Path.ofText r.conf) = .ok conf)
    (hnul : (filesDirectory home conf).hasNul = false)
    (hdir : s.tree.status s.cwd (filesDirectory home conf) = .ok .directory)
    (hfiles : ∀ name ∈ clusterFiles,
      FileHolds s ((filesDirectory home conf).child name) (files name)) :
    ((∀ name ∈ clusterFiles, keysWritable (files name) = true) →
      Leads (loadDefaults r.home r.conf) s
        (.ok ((({} : Settings).putAll defaults).putAll
          ((clusterFiles.map fun name => flatten (files name)).foldl Entries.merge
            [(.text Key.home, .text home.text),
              (.text Key.conf, .text (filesDirectory home conf).text)]))) s) ∧
    ((∃ name ∈ clusterFiles, keysWritable (files name) = false) →
      Leads (loadDefaults r.home r.conf) s (.error (.failure (.badValue .tooLongForText))) s) := by
  have hplain : ∀ name ∈ clusterFiles, (Path.ofText name).hasNul = false := by decide
  have hcluster {x : Except Stop Entries} (h : Leads (loadFiles (filesDirectory home conf)
      [(.text Key.home, .text home.text), (.text Key.conf, .text (filesDirectory home conf).text)]
      clusterFiles) s x s) : Leads (loadCluster r.home r.conf) s x s := by
    apply Leads.bind (leads_configPath hhome hconf)
    apply Leads.bind (Site.leads_isDir? hnul hdir)
    rw [if_pos rfl]
    exact Leads.bind (Site.leads_resolveHome hhome) h
  obtain ⟨hgiven, hrefused⟩ := leads_loadFiles (fun name hname =>
    ⟨hasNul_child hnul (hplain name hname), hfiles name hname⟩) _
  exact ⟨fun hall => Leads.bind (hcluster (hgiven hall)) (Leads.pure _ s),
    fun hnone => Leads.bind_error (hcluster (hrefused hnone)) _⟩

/-! ### Building -/

theorem finished_eq_ok_iff {s c : Settings} {env : Environment} :
    s.finished env = .ok c ↔
      s.expand env defaultPasses = .ok c ∧ ∀ key ∈ Key.required, isMissing (c.get key) = false := by
  unfold finished
  rw [bind_eq_ok_iff]
  constructor
  · rintro ⟨c', hc, h⟩
    obtain ⟨_, hvalid, h⟩ := bind_eq_ok_iff.mp h
    obtain rfl := Except.ok.inj h
    exact ⟨hc, (validate_ok_iff c').mp hvalid⟩
  · rintro ⟨hc, h⟩
    exact ⟨c, hc, bind_eq_ok_iff.mpr ⟨(), (validate_ok_iff c).mpr h, rfl⟩⟩

/-- Missing keys are listed in the order in which they are required. -/
theorem finished_of_missing {s c : Settings} {env : Environment}
    (hc : s.expand env defaultPasses = .ok c)
    (h : ∃ key ∈ Key.required, isMissing (c.get key) = true) :
    s.finished env = .error (.configuration ("Missing required config: " ++
      ", ".intercalate (Key.required.filter fun key => isMissing (c.get key)))) := by
  have hmissing : c.missing ≠ [] := by
    obtain ⟨key, hkey, hm⟩ := h
    exact List.ne_nil_of_mem (List.mem_filter.mpr ⟨hkey, hm⟩)
  unfold finished
  rw [hc]
  show (c.validate >>= fun _ => pure c) = _
  unfold validate
  split
  · next hnil => exact absurd hnil hmissing
  · rfl

theorem leads_finish (s : Settings) (env : Environment) (w : Site) :
    Leads (do
      let c ← Act.ofExcept (s.expand env defaultPasses)
      Act.ofExcept c.validate
      return c) w ((s.finished env).mapError .failure) w := by
  unfold finished
  cases s.expand env defaultPasses with
  | error f => exact Leads.bind_error (Leads.fail f w) _
  | ok c =>
    apply Leads.bind (Leads.pure c w)
    show Leads _ w ((c.validate >>= fun _ => pure c).mapError .failure) w
    cases c.validate with
    | error f => exact Leads.bind_error (Leads.fail f w) _
    | ok _ => exact Leads.bind (Leads.pure () w) (Leads.pure c w)

/-- The settings of a submission are its eleven layers over one another, expanded and checked. Where a key
in a file has no text, they are not even put together. -/
theorem build_answers {s : Site} {r : Request} {home conf : Path} {files : String → Entries}
    (hhome : s.expandHome (Path.ofText r.home) = .ok home)
    (hconf : s.expandHome (Path.ofText r.conf) = .ok conf)
    (hnul : (filesDirectory home conf).hasNul = false)
    (hdir : s.tree.status s.cwd (filesDirectory home conf) = .ok .directory)
    (hfiles : ∀ name ∈ clusterFiles,
      FileHolds s ((filesDirectory home conf).child name) (files name))
    (hoverrides : r.overrides.Named) :
    ∃ merged : Settings,
      merged.entries.keys = ((layers home (filesDirectory home conf) files r).flatMap
        Entries.names).eraseDups.map .text ∧
      (∀ key, merged.get? key = (layers home (filesDirectory home conf) files r).reverse.findSome?
        fun l => l.getText? key) ∧
      ∀ log, (Act.run (build r) ⟨s, log⟩).2.world = s ∧
        ((∀ name ∈ clusterFiles, keysWritable (files name) = true) →
          (Act.run (build r) ⟨s, log⟩).1 = (merged.finished (r.variables s)).mapError .failure ∧
          (∀ c, (Act.run (build r) ⟨s, log⟩).1 = .ok c ↔
            merged.expand (r.variables s) defaultPasses = .ok c ∧
              ∀ key ∈ Key.required, isMissing (c.get key) = false) ∧
          ∀ c, merged.expand (r.variables s) defaultPasses = .ok c →
            (∃ key ∈ Key.required, isMissing (c.get key) = true) →
            (Act.run (build r) ⟨s, log⟩).1 =
              .error (.failure (.configuration ("Missing required config: " ++
                ", ".intercalate (Key.required.filter fun key => isMissing (c.get key)))))) ∧
        ((∃ name ∈ clusterFiles, keysWritable (files name) = false) →
          (Act.run (build r) ⟨s, log⟩).1 = .error (.failure (.badValue .tooLongForText))) := by
  have hnamed : ∀ l ∈ layers home (filesDirectory home conf) files r, l.Named :=
    named_layers home (filesDirectory home conf) files hoverrides
  obtain ⟨hmerged, hnames⟩ := Entries.names_layered hnamed
  obtain ⟨hgiven, hrefused⟩ := leads_loadDefaults hhome hconf hnul hdir hfiles
  have hall : (∀ name ∈ clusterFiles, keysWritable (files name) = true) → Leads (build r) s
      ((finished ⟨Entries.layered (layers home (filesDirectory home conf) files r)⟩
        (r.variables s)).mapError .failure) s := by
    intro hwritable
    apply Leads.bind (hgiven hwritable)
    apply Leads.bind (Leads.getWorld s)
    rw [mergeLayers_eq_layered hnamed]
    exact leads_finish _ _ s
  have hnone : (∃ name ∈ clusterFiles, keysWritable (files name) = false) →
      Leads (build r) s (.error (.failure (.badValue .tooLongForText))) s :=
    fun hlong => Leads.bind_error (hrefused hlong) _
  refine ⟨⟨Entries.layered (layers home (filesDirectory home conf) files r)⟩, ?_, ?_,
    fun log => ⟨?_, fun hwritable => ?_, fun hlong => (hnone hlong).result log⟩⟩
  · rw [hmerged.keys_eq, hnames]
  · exact Entries.getText?_layered hnamed
  · by_cases hlong : ∃ name ∈ clusterFiles, keysWritable (files name) = false
    · exact (hnone hlong).world log
    · refine (hall fun name hname => ?_).world log
      rw [← Bool.not_eq_false]
      exact fun h => hlong ⟨name, hname, h⟩
  · have hresult := (hall hwritable).result log
    refine ⟨hresult, fun c => ?_, fun c hc hmissing => ?_⟩
    · rw [hresult, ← finished_eq_ok_iff]
      cases finished ⟨Entries.layered (layers home (filesDirectory home conf) files r)⟩
          (r.variables s) with
      | ok c' => simp [Except.mapError]
      | error f => simp [Except.mapError]
    · rw [hresult, finished_of_missing hc hmissing]
      rfl

/-- A site with a home, a directory of configuration in it and one file there, whose text is read as these
nested settings. -/
def siteHolding (text : String) (es : Entries) : Site where
  tree := ⟨[(["h"], .directory), (["h", "conf"], .directory),
    (["h", "conf", "cluster.yaml"], .file text.toUTF8)]⟩
  yaml := { load := fun _ => .ok (.map es) }

/-- What the files of that site hold. -/
def heldBy (es : Entries) (name : String) : Entries := if name = "cluster.yaml" then es else []

theorem fileHolds_siteHolding {text : String} (htext : '\r' ∉ text.toList) (es : Entries) :
    ∀ name ∈ clusterFiles, FileHolds (siteHolding text es)
      ((filesDirectory (Path.ofText "/h") (Path.ofText "conf")).child name) (heldBy es name) := by
  intro name hname
  simp only [clusterFiles, List.mem_cons, List.not_mem_nil, or_false] at hname
  rcases hname with rfl | rfl | rfl | rfl | rfl | rfl
  · exact .mapping rfl (Site.decode_toUTF8 htext) rfl rfl
  iterate 5 exact .missing rfl

/-- A request that overrides a key of the defaults and one of the files. -/
def requestWithOverride : Request where
  home := "/h"
  conf := "conf"
  cluster := .text "local"
  role := .text "me"
  environ := .text "dev"
  package := "p.tar"
  jar := "p.jar"
  definition := "d.yaml"
  topology := ⟨.text "1", "t", .map []⟩
  overrides := [(.text Key.uploaderClass, .text "scp"), (.text "a.b", .int 2)]
  environment := some (.ofTexts [("HOME", "/h")])

/-- The overrides stand over the files and the defaults. -/
theorem build_answers_override :
    ∃ merged : Settings, merged.get? Key.uploaderClass = some (.text "scp") ∧
      merged.get? "a.b" = some (.int 2) ∧
      (Act.run (build requestWithOverride)
          ⟨siteHolding "a: \x7bb: 1\x7d" [(.text "a", .map [(.text "b", .int 1)])], []⟩).1 =
        (merged.finished (.ofTexts [("HOME", "/h")])).mapError .failure := by
  have htext : '\r' ∉ "a: \x7bb: 1\x7d".toList := by decide
  have hfiles := fileHolds_siteHolding htext [(.text "a", .map [(.text "b", .int 1)])]
  obtain ⟨merged, -, hvalue, hrun⟩ := build_answers (r := requestWithOverride) rfl rfl rfl rfl hfiles
    ⟨rfl, by decide⟩
  exact ⟨merged, hvalue _, hvalue _, ((hrun []).2.1 (by decide)).1⟩

/-- A text with a hexadecimal integer of many digits as the key of an empty mapping. -/
def hexText : String := "? 0x" ++ String.ofList (List.replicate 3600 'f') ++ "\n: \x7b\x7d\n"

/-- The settings that this text is read as, which have no leaves. -/
def hexKeyed : Entries := [(.int (16 ^ 3600 - 1 : Nat), .map [])]

theorem keysWritable_hexKeyed : keysWritable hexKeyed = false := by
  have hlong : (Value.int (16 ^ 3600 - 1 : Nat)).isWritable = false := by
    rw [← Bool.not_eq_true, Value.isWritable_int_iff]
    decide +kernel
  unfold hexKeyed keysWritable
  rw [hlong]
  rfl

/-- An empty mapping adds nothing to the layers, whatever its key is. -/
theorem layers_heldBy (home dir : Path) (k : Value) (r : Request) :
    layers home dir (heldBy [(k, .map [])]) r = layers home dir (fun _ => []) r := by
  have hflat : ∀ name, flatten (heldBy [(k, .map [])] name) = flatten [] := by
    intro name
    unfold heldBy
    split <;> rfl
  simp only [layers, hflat]

/-- The layers of such a file can be expanded and lack nothing, but no settings are built of them. -/
theorem build_refuses_leafless :
    (∀ name ∈ clusterFiles, FileHolds (siteHolding hexText hexKeyed)
      ((filesDirectory (Path.ofText "/h") (Path.ofText "conf")).child name) (heldBy hexKeyed name)) ∧
    (∃ c, finished ⟨Entries.layered (layers (Path.ofText "/h")
      (filesDirectory (Path.ofText "/h") (Path.ofText "conf")) (heldBy hexKeyed) requestWithOverride)⟩
        (.ofTexts [("HOME", "/h")]) = .ok c) ∧
    (Act.run (build requestWithOverride) ⟨siteHolding hexText hexKeyed, []⟩).1 =
      .error (.failure (.badValue .tooLongForText)) := by
  have htext : ∀ n, '\r' ∉ ("? 0x" ++ String.ofList (List.replicate n 'f') ++ "\n: \x7b\x7d\n").toList := by
    simp
  have hfiles := fileHolds_siteHolding (htext 3600) hexKeyed
  refine ⟨hfiles, ?_, ?_⟩
  · have hfinished : (finished ⟨Entries.layered (layers (Path.ofText "/h")
        (filesDirectory (Path.ofText "/h") (Path.ofText "conf")) (fun _ => []) requestWithOverride)⟩
          (.ofTexts [("HOME", "/h")])).toOption.isSome = true := by
      decide +kernel
    rw [hexKeyed, layers_heldBy]
    generalize finished _ _ = r at hfinished
    cases r with
    | error f => cases hfinished
    | ok c => exact ⟨c, rfl⟩
  · obtain ⟨-, hrefused⟩ := leads_loadDefaults (r := requestWithOverride) rfl rfl rfl rfl hfiles
    have hnone := hrefused ⟨"cluster.yaml", by decide, keysWritable_hexKeyed⟩
    exact (Leads.bind_error hnone _).result []

end TopologySubmission.Settings
