import TopologySubmission.Proofs.Site.Lookup
import TopologySubmission.Proofs.Topology.Accepted
import TopologySubmission.Topology.Load

/-!
# How loading a definition fails

Whatever a file holds, loading it gives a topology or refuses the definition, unless a failure comes from
below: the file system refuses the path, a parser fails in its own way, or a text that is needed is too
long. Such a failure is let through and is no error of a submission:

    confined_load      the failures of `load` are those of definitions and what is let through
-/

namespace TopologySubmission

/-! ## Algorithm -/

namespace Topology

/-- Reading a text in a form fails, though not because the text is no document. -/
inductive ParserFails (load : Yaml.Loader) : Form → String → Failure → Prop
  | yaml {text : String} {f : Failure} {foreign : f.submissionError? = none}
      (h : load text = .error (.failed f foreign)) : ParserFails load .yaml text f
  | json {text : String} {f : Failure} (h : Json.read text = .error f) (hother : ∀ e, f ≠ .json e) :
      ParserFails load .json text f

/-- What loading the definition at a path lets through. -/
inductive LetsThrough (s : Site) (p : Path) : Failure → Prop
  | path {f : Failure} (h : s.Unanswered p f) : LetsThrough s p f
  | parser {b : ByteArray} {form : Form} {text : String} {f : Failure} (hb : s.Finds p (.file b))
      (hform : formOf (Text.lower p.suffix) = some form) (ht : Site.decode b = .ok text)
      (h : ParserFails s.yaml.load form text f) : LetsThrough s p f
  | longText {b : ByteArray} {v : Value} (hb : s.Finds p (.file b))
      (hv : parseBytes s.yaml.load p b = .ok v)
      (h : ofDefinition (if v.isTruthy then v else .map []) = .error (.badValue .tooLongForText)) :
      LetsThrough s p (.badValue .tooLongForText)

end Topology

/-! ## Lemmas -/

theorem Json.read_foreign (s : String) : Failure.AreForeign (Json.read s) := by
  intro f h
  unfold Json.read at h
  split at h
  · cases h
  · next foreign _ =>
    cases h
    exact foreign
  · cases h
    rfl

namespace Topology

open Act (Leads Reads Confined)

variable {load : Yaml.Loader} {s : Site} {p : Path} {b : ByteArray} {form : Form}
  {text file : String} {f : Failure}

/-! ### Bytes -/

theorem parseText_failure (h : parseText load p form text = .error f) :
    f.kind = .submission .topologyDefinition ∨ ParserFails load form text f := by
  cases form with
  | yaml =>
    unfold parseText at h
    dsimp only at h
    split at h
    · cases h
    · next hread =>
      cases h
      exact .inr (.yaml hread)
    · cases h
      exact .inl rfl
  | json =>
    unfold parseText at h
    dsimp only at h
    split at h
    · cases h
    · cases h
      exact .inl rfl
    · next hother hread =>
      cases h
      exact .inr (.json hread fun e he => hother e he)

theorem ParserFails.parseText (h : ParserFails load form text f) :
    f.submissionError? = none ∧ parseText load p form text = .error f := by
  cases h with
  | @yaml _ _ foreign h =>
    refine ⟨foreign, ?_⟩
    unfold Topology.parseText
    dsimp only
    rw [h]
  | json h hother =>
    refine ⟨Json.read_foreign text f h, ?_⟩
    unfold Topology.parseText
    dsimp only
    rw [h]
    cases f with
    | json e => exact absurd rfl (hother e)
    | _ => rfl

/-- Bytes that hold no document are refused as a definition, unless the parser fails. -/
theorem parseBytes_failure (h : parseBytes load p b = .error f) :
    f.kind = .submission .topologyDefinition ∨ ∃ form text,
      formOf (Text.lower p.suffix) = some form ∧ Site.decode b = .ok text ∧
        ParserFails load form text f := by
  unfold parseBytes at h
  dsimp only at h
  split at h
  · cases h
    exact .inl rfl
  · next form hform =>
    split at h
    · next text ht => exact (parseText_failure h).imp_right fun hf => ⟨form, text, hform, ht, hf⟩
    · next hdecode =>
      obtain rfl := Site.decode_eq_error hdecode
      cases h
      exact .inl rfl

theorem parseBytes_of_text (hform : formOf (Text.lower p.suffix) = some form)
    (ht : Site.decode b = .ok text) : parseBytes load p b = parseText load p form text := by
  unfold parseBytes
  dsimp only
  rw [hform, ht]

/-! ### Files -/

/-- The bytes of a file decide what loading it gives. -/
theorem leads_load_of_file (hb : s.Finds (Path.ofText file) (.file b)) :
    Leads (Topology.load file) s ((do
      let v ← parseBytes s.yaml.load (Path.ofText file) b
      ofDefinition (if v.isTruthy then v else .map [])).mapError .failure) s := by
  unfold Topology.load
  apply Leads.bind (Site.leads_exists? hb.path hb.status)
  rw [if_pos rfl]
  apply Leads.bind (Leads.attempt (Site.leads_readBytes hb.path hb.readFile))
  apply Leads.bind (Leads.getWorld s)
  cases parseBytes s.yaml.load (Path.ofText file) b with
  | error f => exact Leads.bind_error (Leads.fail f s) _
  | ok v => exact Leads.bind (Leads.pure v s) (Leads.ofExcept _ s)

theorem reads_load (s : Site) (file : String) :
    Reads (fun f => f.kind = .submission .topologyDefinition ∨ LetsThrough s (Path.ofText file) f)
      (Topology.load file) s := by
  -- a directory, a file, nothing, or a path without an answer
  rcases Site.find?_cases (Path.ofText file) s with ⟨_ | b, he⟩ | hnone | ⟨f, hf⟩
  · apply Reads.step (Site.leads_exists? he.path he.status)
    rw [if_pos rfl]
    apply Reads.step (Leads.attempt_failure (Site.leads_readBytes_directory he))
    exact Reads.fail (.inl rfl)
  · refine ⟨_, leads_load_of_file he, fun f hf => ?_⟩
    cases hv : parseBytes s.yaml.load (Path.ofText file) b with
    | error g =>
      rw [hv] at hf
      cases hf
      refine (parseBytes_failure hv).imp_right ?_
      rintro ⟨form, text, hform, ht, hfails⟩
      exact .parser he hform ht hfails
    | ok v =>
      rw [hv] at hf
      refine ((ofDefinition_judges _).failure f hf).imp_right ?_
      rintro ⟨rfl, -⟩
      exact .longText he hv hf
  · apply Reads.step (Leads.bind hnone (Leads.pure false s))
    exact Reads.fail (.inl rfl)
  · exact Reads.of_failure (Leads.bind_error (Site.leads_exists?_unanswered hf) _) (.inr (.path hf))

theorem leads_load_through (h : LetsThrough s (Path.ofText file) f) :
    f.submissionError? = none ∧ Leads (Topology.load file) s (.error (.failure f)) s := by
  cases h with
  | path h => exact ⟨h.foreign, Leads.bind_error (Site.leads_exists?_unanswered h) _⟩
  | parser hb hform ht h =>
    obtain ⟨hforeign, hparse⟩ := h.parseText (p := Path.ofText file)
    have hleads := leads_load_of_file hb
    rw [parseBytes_of_text hform ht, hparse] at hleads
    exact ⟨hforeign, hleads⟩
  | longText hb hv h =>
    have hleads := leads_load_of_file hb
    rw [hv] at hleads
    refine ⟨rfl, ?_⟩
    change Leads _ _ ((ofDefinition _).mapError _) _ at hleads
    rw [h] at hleads
    exact hleads

/-- Loading changes nothing. It gives a topology or refuses the definition, or else it fails with exactly
what it lets through. -/
theorem confined_load (s : Site) (file : String) :
    Confined .topologyDefinition (LetsThrough s (Path.ofText file)) (Topology.load file) s :=
  ⟨reads_load s file, fun _ h => leads_load_through h⟩

end Topology

end TopologySubmission
