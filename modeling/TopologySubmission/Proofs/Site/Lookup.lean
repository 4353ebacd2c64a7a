import TopologySubmission.Proofs.Act.Reads
import TopologySubmission.Site.Files

/-!
# What a site answers

The questions about a path answer what the tree knows of it and change nothing: a path that leads to
an entry is there, and one that leads to nothing is not.

    find?        the entry at the path, or nothing      (leads_find?, leads_find?_missing)
    readText     the text of the file at the path       (leads_readText)

A path that is too long for the file system has no answer      (find?_cases).
-/

namespace TopologySubmission.Site

open Act (Leads Reads)

variable {s : Site} {p : Path}

/-! ## Algorithm -/

/-- The path leads to an entry. -/
structure Finds (s : Site) (p : Path) (e : FileEntry) : Prop where
  path : p.hasNul = false
  status : s.tree.status s.cwd p = .ok e

/-- The question what a path leads to has no answer, since the file system refuses the path. -/
inductive Unanswered (s : Site) (p : Path) : Failure → Prop
  | refused {why : Refusal} (path : p.hasNul = false) (status : s.tree.status s.cwd p = .error why)
      (hfile : why ≠ .noSuchFile) (hdirectory : why ≠ .notADirectory) : Unanswered s p (refusal p why)

/-! ## Lemmas -/

theorem leads_find? {e : FileEntry} (hnul : p.hasNul = false) (h : s.tree.status s.cwd p = .ok e) :
    Leads (find? p) s (.ok (some e)) s := by
  apply Leads.bind (Leads.getWorld s)
  rw [hnul, h]
  exact Leads.pure (some e) s

theorem leads_find?_missing (h : s.tree.status s.cwd p = .error .noSuchFile) :
    Leads (find? p) s (.ok none) s := by
  apply Leads.bind (Leads.getWorld s)
  cases p.hasNul with
  | true => exact Leads.pure none s
  | false =>
    rw [h]
    exact Leads.pure none s

theorem leads_exists? {e : FileEntry} (hnul : p.hasNul = false)
    (h : s.tree.status s.cwd p = .ok e) : Leads (exists? p) s (.ok true) s :=
  Leads.bind (leads_find? hnul h) (Leads.pure true s)

theorem leads_exists?_missing (h : s.tree.status s.cwd p = .error .noSuchFile) :
    Leads (exists? p) s (.ok false) s :=
  Leads.bind (leads_find?_missing h) (Leads.pure false s)

theorem leads_isDir? (hnul : p.hasNul = false) (h : s.tree.status s.cwd p = .ok .directory) :
    Leads (isDir? p) s (.ok true) s :=
  Leads.bind (leads_find? hnul h) (Leads.pure true s)

theorem leads_find?_unanswered {f : Failure} (h : s.Unanswered p f) :
    Leads (find? p) s (.error (.failure f)) s := by
  cases h with
  | @refused why hnul hstatus hfile hdirectory =>
    apply Leads.bind (Leads.getWorld s)
    rw [hnul, hstatus]
    cases why with
    | noSuchFile => exact absurd rfl hfile
    | notADirectory => exact absurd rfl hdirectory
    | _ => exact Leads.fail _ s

theorem leads_exists?_unanswered {f : Failure} (h : s.Unanswered p f) :
    Leads (exists? p) s (.error (.failure f)) s := Leads.bind_error (leads_find?_unanswered h) _

theorem leads_isDir?_unanswered {f : Failure} (h : s.Unanswered p f) :
    Leads (isDir? p) s (.error (.failure f)) s := Leads.bind_error (leads_find?_unanswered h) _

theorem Unanswered.foreign {f : Failure} (h : s.Unanswered p f) : f.submissionError? = none := by
  cases h
  rfl

/-- A path leads to an entry or to nothing, or there is no answer. -/
theorem find?_cases (p : Path) (s : Site) :
    (∃ e, s.Finds p e) ∨ Leads (find? p) s (.ok none) s ∨ ∃ f, s.Unanswered p f := by
  cases hnul : p.hasNul with
  | true =>
    refine .inr (.inl (Leads.bind (Leads.getWorld s) ?_))
    rw [hnul]
    exact Leads.pure none s
  | false =>
    cases hstatus : s.tree.status s.cwd p with
    | ok e => exact .inl ⟨e, hnul, hstatus⟩
    | error why =>
      by_cases hmissing : why = .noSuchFile ∨ why = .notADirectory
      · refine .inr (.inl (Leads.bind (Leads.getWorld s) ?_))
        rw [hnul, hstatus]
        rcases hmissing with rfl | rfl <;> exact Leads.pure none s
      · exact .inr (.inr ⟨_, .refused hnul hstatus (fun h => hmissing (.inl h))
          fun h => hmissing (.inr h)⟩)

/-- A question about a path changes nothing, however it is answered. -/
theorem exists_leads_find? (p : Path) (s : Site) : ∃ r, Leads (find? p) s r s := by
  rcases find?_cases p s with ⟨e, he⟩ | hnone | ⟨f, hf⟩
  · exact ⟨_, leads_find? he.path he.status⟩
  · exact ⟨_, hnone⟩
  · exact ⟨_, leads_find?_unanswered hf⟩

theorem exists_leads_isFile? (p : Path) (s : Site) : ∃ r, Leads (isFile? p) s r s := by
  obtain ⟨r, h⟩ := exists_leads_find? p s
  rcases r with e | _ | _ | b
  · exact ⟨_, .bind_error h _⟩
  · exact ⟨_, .bind h (.pure false s)⟩
  · exact ⟨_, .bind h (.pure false s)⟩
  · exact ⟨_, .bind h (.pure true s)⟩

theorem leads_checkPath (hnul : p.hasNul = false) (s : Site) :
    Leads (checkPath p) s (.ok ()) s := by
  unfold checkPath
  rw [hnul]
  exact Leads.pure () s

theorem status_of_readFile {b : ByteArray} (h : s.tree.readFile s.cwd p = .ok b) :
    s.tree.status s.cwd p = .ok (.file b) := by
  unfold FileTree.readFile at h
  cases hs : s.tree.status s.cwd p with
  | error why => rw [hs] at h; cases h
  | ok e =>
    rw [hs] at h
    cases e with
    | directory => cases h
    | file c => exact congrArg (Except.ok ∘ FileEntry.file) (Except.ok.inj h)

theorem Finds.readFile {b : ByteArray} (h : s.Finds p (.file b)) : s.tree.readFile s.cwd p = .ok b := by
  unfold FileTree.readFile
  rw [h.status]
  rfl

/-- A directory has no bytes. -/
theorem leads_readBytes_directory (h : s.Finds p .directory) :
    Leads (readBytes p) s (.error (.failure (refusal p .isADirectory))) s := by
  apply Leads.bind (leads_checkPath h.path s)
  apply Leads.bind (Leads.getWorld s)
  unfold FileTree.readFile
  rw [h.status]
  exact Leads.fail _ s

theorem leads_readBytes {b : ByteArray} (hnul : p.hasNul = false)
    (h : s.tree.readFile s.cwd p = .ok b) : Leads (readBytes p) s (.ok b) s := by
  apply Leads.bind (leads_checkPath hnul s)
  apply Leads.bind (Leads.getWorld s)
  rw [h]
  exact Leads.pure b s

theorem decode_eq_error {b : ByteArray} {f : Failure} (h : decode b = .error f) : f = .undecodable := by
  unfold decode at h
  split at h <;> cases h
  rfl

theorem leads_readText {b : ByteArray} {text : String} (hnul : p.hasNul = false)
    (h : s.tree.readFile s.cwd p = .ok b) (ht : decode b = .ok text) :
    Leads (readText p) s (.ok text) s := by
  apply Leads.bind (leads_readBytes hnul h)
  rw [ht]
  exact Leads.pure text s

theorem leads_resolveHome {q : Path} (h : s.expandHome p = .ok q) :
    Leads (resolveHome p) s (.ok q) s := by
  apply Leads.bind (Leads.getWorld s)
  rw [h]
  exact Leads.pure q s

end TopologySubmission.Site
