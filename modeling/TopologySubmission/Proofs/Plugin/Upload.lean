import TopologySubmission.Proofs.Plugin.Conduct
import TopologySubmission.Proofs.Plugin.Delivery
import TopologySubmission.Proofs.Site.Place

/-!
# Copies in a directory

An uploader into a directory is set up once and then called for uploads and undos in any order, and
nothing else touches the files. Between the calls the package is what it was, and so is every file but
the copy. The copy is removed only if an upload gave its place, and an upload gives a place only if the
copy is no other spelling of the package:

    a copy is made at another place than the package          (ends_copyFile_apart)
    a call keeps what is guarded                              (guards_upload, guards_undo)
    so do calls in any order                                  (guards_deliverAll)
    what the next upload and the next undo do after them      (deliverAll_keeps)
-/

namespace TopologySubmission

open Act (Ends Leads)

/-! ## Algorithm -/

namespace LocalUploader

/-- Calls with what they answered, the oldest first. -/
abbrev History := List (DeliveryCall × Except Stop Value)

/-- An upload gave a place, and no undo came after it. -/
def UploadedSince (history : History) : Prop :=
  HoldsSince (fun x => ∃ uri, x = (.upload, .ok (.text uri))) (fun x => x.1 = .undo) history

/-- The package is as it was, and so is every file but the copy. -/
structure Spares (u : LocalUploader) (s s' : Site) : Prop where
  package : ∀ package b, u.package = some package → s.Holds package b → s'.Holds package b
  other : ∀ l b, (∀ destination, u.destination = some destination → l ≠ s.place destination) →
    (s'.tree.lookup l = some (.file b) ↔ s.tree.lookup l = some (.file b))

/-- The uploader knows the package and the place of the copy from the settings. -/
def IsSet (u : LocalUploader) (settings : Settings) (s : Site) : Prop :=
  ∃ package directory, s.settingPath? settings Key.packageFile = some package ∧
    s.settingPath? settings Key.uploadDirectory = some directory ∧ u.package = some package ∧
    u.destination = some (directory.child package.name)

/-- How an upload ends: the copy has the bytes that the package had on the first site, or no file
changed. -/
inductive UploadEnds (u : LocalUploader) (first before : Site) : Except Stop Value → Site → Prop
  | copied {package destination : Path} {b : ByteArray} {after : Site}
      (hpackage : u.package = some package) (hdestination : u.destination = some destination)
      (hbytes : first.Holds package b) (hcopy : after.Holds destination b) :
      UploadEnds u first before (.ok (.text (Text.fileUri (Site.absoluteText first destination)))) after
  | missed {after : Site} (hfiles : before.SameFiles after) : UploadEnds u first before (.ok .null) after
  | failed {f : Failure} {after : Site} (hfiles : before.SameFiles after) :
      UploadEnds u first before (.error (.failure f)) after

/-- How an undo ends: the copy is gone if there was one to remove, and nothing else changed. -/
structure UndoEnds (u : LocalUploader) (history : History) (before : Site)
    (answer : Except Stop Value) (after : Site) : Prop where
  returns : answer = .ok .null
  removed : UploadedSince history → ∃ destination b, u.destination = some destination ∧
    before.Holds destination b ∧ after.tree.lookup (before.place destination) = none ∧
    ∀ l, l ≠ before.place destination → after.tree.lookup l = before.tree.lookup l
  idle : ¬ UploadedSince history → after = before

/-- A site after some calls, and the mark of the uploader. -/
structure Guards (u : LocalUploader) (first : Site) (history : History) (s : Site)
    (uploaded : Bool) : Prop where
  cwd : s.cwd = first.cwd
  spares : u.Spares first s
  uploaded_iff : uploaded = true ↔ UploadedSince history
  /-- There is a copy to remove, and it is not the package. -/
  copied : uploaded = true → ∃ package destination b, u.package = some package ∧
    u.destination = some destination ∧ first.place package ≠ first.place destination ∧
    s.Shows destination b

end LocalUploader

namespace Workshop

/-- What the uploader into a directory does at a call. An undo that returns gives nothing. -/
def deliver : DeliveryCall → Act Workshop Value
  | .upload => localUploader.uploadPackage
  | .undo => do
    localUploader.undo
    return .null

/-- Calls one after another, however each of them ends. -/
def deliverAll : List DeliveryCall → Scene Workshop → LocalUploader.History × Scene Workshop
  | [], c => ([], c)
  | k :: ks, c =>
    let (answer, d) := Act.run (deliver k) c
    let (history, e) := deliverAll ks d
    ((k, answer) :: history, e)

end Workshop

/-! ## Lemmas -/

/-! ### A copy is not the package -/

/-- What was read at one path and written at another, the file system having found that these are not
the same file, is at two places. -/
theorem FileTree.normalize_ne_of_copied {t t' : FileTree} {cwd : Location} {p q : Path}
    {b c : ByteArray} (hsame : t.sameFile cwd p q = false) (hread : t.readFile cwd p = .ok b)
    (hwrite : t.writeFile cwd q c = .ok t') : normalize cwd p ≠ normalize cwd q := by
  intro he
  unfold readFile status at hread
  cases hp : t.locate cwd p with
  | error why => rw [hp] at hread; cases hread
  | ok l =>
    unfold writeFile at hwrite
    cases hq : t.locate cwd q with
    | error why => rw [hq] at hwrite; cases hwrite
    | ok m =>
      obtain rfl : l = m := (locate_eq_normalize hp).trans (he.trans (locate_eq_normalize hq).symm)
      rw [hp] at hread
      cases hl : t.lookup l with
      | none => simp [bind, Except.bind, hl] at hread
      | some e =>
        unfold sameFile status at hsame
        simp [hp, hq, hl, bind, Except.bind] at hsame

namespace Site

theorem ends_copyFile_apart (p q : Path) (s : Site) :
    Ends (copyFile p q) s (fun _ _ => s.place p ≠ s.place q) fun _ => True := by
  have hread : Ends (readBytes p) s (fun b v => s = v ∧ s.tree.readFile s.cwd p = .ok b)
      fun _ => True := by
    refine .bind ((ends_checkPath p s).mono ?_ fun _ _ => trivial)
    rintro _ _ ⟨rfl, -⟩
    refine .bind (.getWorld ?_)
    cases hb : s.tree.readFile s.cwd p with
    | error why => exact .fail trivial
    | ok b => exact .pure ⟨rfl, rfl⟩
  have hwrite : ∀ b, Ends (writeBytes q b) s (fun _ _ => ∃ t, s.tree.writeFile s.cwd q b = .ok t)
      fun _ => True := by
    intro b
    refine .bind ((ends_checkPath q s).mono ?_ fun _ _ => trivial)
    rintro _ _ ⟨rfl, -⟩
    refine .bind (.getWorld ?_)
    cases ht : s.tree.writeFile s.cwd q b with
    | error why => exact .bind (.fail trivial)
    | ok t => exact .bind (.pure (.change ⟨t, rfl⟩))
  refine .bind (.getWorld (.ite (fun _ => .fail trivial) fun hsame => ?_))
  refine .bind (hread.mono ?_ fun _ => id)
  rintro b _ ⟨rfl, hb⟩
  refine (hwrite b).mono ?_ fun _ => id
  rintro _ _ ⟨t, ht⟩
  exact FileTree.normalize_ne_of_copied (Bool.not_eq_true _ ▸ hsame) hb ht

end Site

namespace Workshop

variable {site : Site} {store : LocalStore} {launcher : LocalLauncher} {u : LocalUploader}

theorem ends_place_apart (package destination : Path) (s : Site) :
    Ends (LocalUploader.place package destination) s (fun _ _ => s.place package ≠ s.place destination)
      fun _ => True := by
  refine .bind ((Site.ends_makeDirs destination.parent s).mono (fun _ d hd => ?_) fun _ _ => trivial)
  refine (Site.ends_copyFile_apart package destination d).mono (fun _ _ h => ?_) fun _ => id
  rwa [hd.place, hd.place] at h

/-- An upload that gives a place was one to another place than that of the package. -/
theorem ends_upload_apart :
    Ends localUploader.uploadPackage ⟨site, store, .toDirectory u, launcher⟩
      (fun x _ => x ≠ .null → ∀ package destination, u.package = some package →
        u.destination = some destination → site.place package ≠ site.place destination)
      fun _ => True := by
  refine .bind (.within (.getWorld ?_))
  obtain ⟨package, destination, uploaded⟩ := u
  rcases package with _ | package
  · exact .fail trivial
  rcases destination with _ | destination
  · exact .fail trivial
  refine .bind (.within ((Site.ends_isFile? package site).mono ?_ fun _ _ => trivial))
  rintro b _ rfl
  refine .ite (fun _ => ?_) fun _ => .bind (.log (.pure fun h => absurd rfl h))
  refine .bind (.within ((Site.ends_exists? destination site).mono ?_ fun _ _ => trivial))
  rintro there _ rfl
  dsimp only
  refine .ite (fun _ => .bind (.log ?_)) fun _ => ?_
  all_goals
    refine .bind (.attempt (.within ((ends_place_apart package destination site).mono ?_ ?_)))
    · intro _ s hs
      refine .bind (.within (.change (.bind (.log (.bind (.within (.getWorld (.pure ?_))))))))
      rintro - _ _ hpackage hdestination
      cases hpackage
      cases hdestination
      exact hs
    · intro s _ f
      exact .ite (fun _ => .bind (.log (.pure fun h => absurd rfl h))) fun _ => .fail trivial

end Workshop

/-! ### What a call keeps -/

namespace LocalUploader

variable {u : LocalUploader} {first s s' : Site} {history : History} {uploaded : Bool}
  {dirs : Set Location} {package destination : Path} {b : ByteArray}

/-- An upload that gives no place changes nothing about that. -/
theorem uploadedSince_upload {answer : Except Stop Value} (h : ∀ uri, answer ≠ .ok (.text uri)) :
    UploadedSince (history ++ [(.upload, answer)]) ↔ UploadedSince history := by
  unfold UploadedSince
  rw [holdsSince_concat]
  constructor
  · rintro (⟨uri, he⟩ | ⟨hsince, -⟩)
    · exact absurd (congrArg Prod.snd he) (h uri)
    · exact hsince
  · exact fun hsince => .inr ⟨hsince, nofun⟩

theorem not_uploadedSince_undo {answer : Except Stop Value} :
    ¬ UploadedSince (history ++ [(.undo, answer)]) := by
  unfold UploadedSince
  rw [holdsSince_concat]
  rintro (⟨uri, he⟩ | ⟨-, hne⟩)
  · cases he
  · exact hne rfl

namespace Guards

theorem place (h : u.Guards first history s uploaded) (p : Path) : s.place p = first.place p := by
  unfold Site.place
  rw [h.cwd]

/-- A call that is no undo and gives no place, and after which the files are the same. -/
theorem idle (h : u.Guards first history s uploaded) (hk : Site.Keeps ∅ dirs s s')
    {answer : Except Stop Value} (hanswer : ∀ uri, answer ≠ .ok (.text uri)) :
    u.Guards first (history ++ [(.upload, answer)]) s' uploaded where
  cwd := hk.cwd.trans h.cwd
  spares := {
    package := fun p b hp hb => (hk.holds_iff (Set.notMem_empty _) b).mpr (h.spares.package p b hp hb)
    other := fun l b hl => (hk.tree.file_iff (Set.notMem_empty l) b).trans (h.spares.other l b hl) }
  uploaded_iff := h.uploaded_iff.trans (uploadedSince_upload hanswer).symm
  copied hmark := by
    obtain ⟨package, destination, b, hp, hd, hapart, hshows⟩ := h.copied hmark
    exact ⟨package, destination, b, hp, hd, hapart, hk.reaches hshows.1,
      (hk.holds_iff (Set.notMem_empty _) b).mpr hshows.2⟩

/-- An upload that gives a place. -/
theorem copy (h : u.Guards first history s uploaded) (hp : u.package = some package)
    (hd : u.destination = some destination) (hapart : s.place package ≠ s.place destination)
    (hc : Workshop.Copied package destination s s') (uri : String) :
    u.Guards first (history ++ [(.upload, .ok (.text uri))]) s' true where
  cwd := hc.keeps.cwd.trans h.cwd
  spares := {
    package := fun p b hp' hb => by
      obtain rfl := Option.some.inj (hp.symm.trans hp')
      exact (hc.keeps.holds_iff hapart b).mpr (h.spares.package _ b hp hb)
    other := fun l b hl => by
      have hne := hl destination hd
      rw [← h.place] at hne
      exact (hc.keeps.tree.file_iff hne b).trans (h.spares.other l b hl) }
  uploaded_iff := iff_of_true rfl (holdsSince_concat.mpr (.inl ⟨uri, rfl⟩))
  copied _ := by
    obtain ⟨b, -, hholds⟩ := hc.holds
    rw [h.place, h.place] at hapart
    exact ⟨package, destination, b, hp, hd, hapart, hc.reaches, hholds⟩

/-- What is copied are the bytes that the package had at first. -/
theorem bytes (h : u.Guards first history s uploaded) (hd : u.destination = some destination)
    (hapart : s.place package ≠ s.place destination) (hb : s.Holds package b) :
    first.Holds package b := by
  rw [h.place, h.place] at hapart
  have hother := (h.spares.other (first.place package) b fun q hq => by
    obtain rfl := Option.some.inj (hd.symm.trans hq)
    exact hapart).mp
  apply hother
  rwa [← h.place]

/-- An undo that has nothing to remove. -/
theorem rest (h : u.Guards first history s false) :
    u.Guards first (history ++ [(.undo, .ok .null)]) s false where
  cwd := h.cwd
  spares := h.spares
  uploaded_iff := iff_of_false Bool.false_ne_true not_uploadedSince_undo
  copied := nofun

/-- An undo that removes the copy. -/
theorem remove (h : u.Guards first history s true) (hd : u.destination = some destination) :
    u.Guards first (history ++ [(.undo, .ok .null)])
      { s with tree := s.tree.remove (s.place destination) } false where
  cwd := h.cwd
  spares := {
    package := fun p b hp hb => by
      obtain ⟨_, _, _, hp', hd', hapart, -⟩ := h.copied rfl
      obtain rfl := Option.some.inj (hp.symm.trans hp')
      obtain rfl := Option.some.inj (hd.symm.trans hd')
      rw [← h.place, ← h.place] at hapart
      exact (FileTree.lookup_remove_ne _ _ _ hapart).trans (h.spares.package _ b hp hb)
    other := fun l b hl => by
      have hne := hl destination hd
      rw [← h.place] at hne
      dsimp only
      rw [FileTree.lookup_remove_ne _ _ _ hne]
      exact h.spares.other l b hl }
  uploaded_iff := iff_of_false Bool.false_ne_true not_uploadedSince_undo
  copied := nofun

end Guards

end LocalUploader

/-! ### Calls -/

namespace Workshop

open LocalUploader (History UploadedSince)

variable {first site : Site} {store : LocalStore} {launcher : LocalLauncher} {u : LocalUploader}
  {history : History} {uploaded : Bool}

/-- What an upload does, and what it keeps. -/
theorem guards_upload (h : u.Guards first history site uploaded) (log : List Record) :
    ∃ answer s marked log', Act.run (deliver .upload)
        ⟨⟨site, store, .toDirectory { u with uploaded }, launcher⟩, log⟩ =
          (answer, ⟨⟨s, store, .toDirectory { u with uploaded := marked }, launcher⟩, log'⟩) ∧
      u.Guards first (history ++ [(.upload, answer)]) s marked ∧ u.UploadEnds first site answer s := by
  have hends : Ends localUploader.uploadPackage
      ⟨site, store, .toDirectory { u with uploaded }, launcher⟩ _ _ := ends_upload.and ends_upload_apart
  rcases hends.of_run log with ⟨x, ⟨w, log'⟩, hrun, hdone, hapart⟩ | ⟨f, ⟨w, log'⟩, hrun, hfailed, -⟩
  · rcases hdone with ⟨rfl, s, hk, rfl⟩ | ⟨package, destination, s, hp, hd, rfl, hc, rfl⟩
    · exact ⟨_, s, uploaded, log', hrun, h.idle hk nofun, .missed ((Site.SameFiles.refl site).keep hk)⟩
    · have hne := hapart nofun package destination hp hd
      have huri : Site.absoluteText site destination = Site.absoluteText first destination := by
        unfold Site.absoluteText
        rw [h.cwd]
      rw [huri] at hrun
      obtain ⟨b, hb, hcopy⟩ := hc.holds
      exact ⟨_, s, true, log', hrun, h.copy hp hd hne hc _, .copied hp hd (h.bytes hd hne hb) hcopy⟩
  · obtain ⟨s, hk, rfl⟩ := hfailed
    exact ⟨_, s, uploaded, log', hrun, h.idle hk nofun, .failed ((Site.SameFiles.refl site).keep hk)⟩

/-- An undo without the mark changes nothing. -/
theorem leads_undo_idle :
    Leads (deliver .undo) ⟨site, store, .toDirectory { u with uploaded := false }, launcher⟩
      (.ok .null) ⟨site, store, .toDirectory { u with uploaded := false }, launcher⟩ := by
  have hundo : Leads localUploader.undo
      ⟨site, store, .toDirectory { u with uploaded := false }, launcher⟩ (.ok ())
      ⟨site, store, .toDirectory { u with uploaded := false }, launcher⟩ :=
    Leads.bind (Leads.within _ (Leads.getWorld _)) (Leads.pure () _)
  exact Leads.bind hundo (Leads.pure Value.null _)

/-- An undo with the mark takes the copy away, which is there. -/
theorem leads_undo_copy {destination : Path} {b : ByteArray} (hd : u.destination = some destination)
    (hshows : site.Shows destination b) :
    Leads (deliver .undo) ⟨site, store, .toDirectory { u with uploaded := true }, launcher⟩ (.ok .null)
      ⟨{ site with tree := site.tree.remove (site.place destination) }, store,
        .toDirectory { u with uploaded := false }, launcher⟩ := by
  obtain ⟨package, _, _⟩ := u
  obtain rfl := hd
  let w : Workshop := ⟨site, store, .toDirectory ⟨package, some destination, true⟩, launcher⟩
  have hremove : Leads (Act.within sitePart (Site.removeIfThere destination)) w (.ok ())
      { w with site := { site with tree := site.tree.remove (site.place destination) } } :=
    Leads.within sitePart (w := w) (Site.leads_removeIfThere hshows.1 hshows.2)
  have hundo : Leads localUploader.undo w (.ok ())
      ⟨{ site with tree := site.tree.remove (site.place destination) }, store,
        .toDirectory ⟨package, some destination, false⟩, launcher⟩ := by
    apply Leads.bind (Leads.within _ (Leads.getWorld _))
    apply Leads.bind (Leads.log _ _ _)
    exact Leads.bind hremove (Leads.within _ (Leads.change _ _))
  exact Leads.bind hundo (Leads.pure Value.null _)

/-- What an undo does, and what it keeps. -/
theorem guards_undo (h : u.Guards first history site uploaded) (log : List Record) :
    ∃ answer s marked log', Act.run (deliver .undo)
        ⟨⟨site, store, .toDirectory { u with uploaded }, launcher⟩, log⟩ =
          (answer, ⟨⟨s, store, .toDirectory { u with uploaded := marked }, launcher⟩, log'⟩) ∧
      u.Guards first (history ++ [(.undo, answer)]) s marked ∧ u.UndoEnds history site answer s := by
  cases uploaded with
  | false =>
    have hnone : ¬ UploadedSince history := fun hsince => by
      cases h.uploaded_iff.mpr hsince
    have hundo : Leads (deliver .undo)
        ⟨site, store, .toDirectory { u with uploaded := false }, launcher⟩ _ _ := leads_undo_idle
    obtain ⟨log', hrun⟩ := hundo log
    exact ⟨_, site, false, log', hrun, h.rest, rfl, fun hsince => absurd hsince hnone, fun _ => rfl⟩
  | true =>
    obtain ⟨package, destination, b, hp, hd, hapart, hshows⟩ := h.copied rfl
    have hundo : Leads (deliver .undo)
        ⟨site, store, .toDirectory { u with uploaded := true }, launcher⟩ _ _ :=
      leads_undo_copy hd hshows
    obtain ⟨log', hrun⟩ := hundo log
    have hne : site.place destination ≠ [] :=
      FileTree.ne_nil_of_lookup (t := site.tree) (by rw [hshows.2]; nofun)
    refine ⟨_, _, false, log', hrun, h.remove hd, rfl, fun _ => ?_, fun hnone => ?_⟩
    · exact ⟨destination, b, hd, hshows.2, FileTree.lookup_remove_self _ _ hne,
        fun l hl => FileTree.lookup_remove_ne _ _ _ hl⟩
    · exact absurd (h.uploaded_iff.mp rfl) hnone

theorem guards_call (k : DeliveryCall) (h : u.Guards first history site uploaded)
    (log : List Record) :
    ∃ answer s marked log', Act.run (deliver k)
        ⟨⟨site, store, .toDirectory { u with uploaded }, launcher⟩, log⟩ =
          (answer, ⟨⟨s, store, .toDirectory { u with uploaded := marked }, launcher⟩, log'⟩) ∧
      u.Guards first (history ++ [(k, answer)]) s marked := by
  cases k with
  | upload =>
    obtain ⟨answer, s, marked, log', hrun, hguards, -⟩ := guards_upload h log
    exact ⟨answer, s, marked, log', hrun, hguards⟩
  | undo =>
    obtain ⟨answer, s, marked, log', hrun, hguards, -⟩ := guards_undo h log
    exact ⟨answer, s, marked, log', hrun, hguards⟩

/-- Calls in any order keep what is guarded, whatever was called before. -/
theorem guards_deliverAll (calls : List DeliveryCall) (h : u.Guards first history site uploaded)
    (log : List Record) :
    ∃ answered s marked log', deliverAll calls
        ⟨⟨site, store, .toDirectory { u with uploaded }, launcher⟩, log⟩ =
          (answered, ⟨⟨s, store, .toDirectory { u with uploaded := marked }, launcher⟩, log'⟩) ∧
      u.Guards first (history ++ answered) s marked := by
  induction calls generalizing history site uploaded log with
  | nil => exact ⟨[], site, uploaded, log, rfl, by rwa [List.append_nil]⟩
  | cons k calls ih =>
    obtain ⟨answer, s₁, marked₁, log₁, hfirst, hguards⟩ := guards_call k h log
    obtain ⟨answered, s₂, marked₂, log₂, hrest, hguards⟩ := ih hguards log₁
    refine ⟨(k, answer) :: answered, s₂, marked₂, log₂, ?_, ?_⟩
    · rw [deliverAll, hfirst]
      dsimp only
      rw [hrest]
    · rwa [List.append_assoc, List.singleton_append] at hguards

/-- An uploader that was just made and set up, however that ended, has changed nothing. -/
theorem guards_configure (settings : Settings) (site : Site) (store : LocalStore)
    (launcher : LocalLauncher) (log : List Record) :
    ∃ answer package destination log', Act.run (localUploader.configure settings)
        ⟨⟨site, store, .toDirectory {}, launcher⟩, log⟩ =
          (answer, ⟨⟨site, store, .toDirectory ⟨package, destination, false⟩, launcher⟩, log'⟩) ∧
      (answer = .ok () → LocalUploader.IsSet ⟨package, destination, false⟩ settings site) ∧
      LocalUploader.Guards ⟨package, destination, false⟩ site [] site false := by
  have hstart : ∀ u : LocalUploader, u.Guards site [] site false := fun u =>
    ⟨rfl, ⟨fun _ _ _ h => h, fun _ _ _ => Iff.rfl⟩,
      iff_of_false Bool.false_ne_true not_holdsSince_nil, nofun⟩
  have hends : Ends (localUploader.configure settings) ⟨site, store, .toDirectory {}, launcher⟩ _ _ :=
    ends_configureUploader
  rcases hends.of_run log with ⟨⟨⟩, ⟨w, log'⟩, hrun, hdone⟩ | ⟨f, ⟨w, log'⟩, hrun, hfailed⟩
  · obtain ⟨package, directory, hp, hd, rfl⟩ := hdone
    exact ⟨_, some package, some (directory.child package.name), log', hrun,
      fun _ => ⟨package, directory, hp, hd, rfl, rfl⟩, hstart _⟩
  · obtain ⟨package, rfl⟩ := hfailed
    exact ⟨_, package, none, log', hrun, nofun, hstart _⟩

/-- For every site, all settings and every row of uploads and undos after an uploader was set up once:
the package keeps its bytes, and no other file but the copy changes. The next upload either gives the
place of the copy, which then has the bytes of the package, or it leaves every file as it was. The next
undo returns; it removes the copy if an upload gave a place since the last undo, and else it changes
nothing. The package may be at the place of the copy. -/
theorem deliverAll_keeps (settings : Settings) (site : Site) (store : LocalStore)
    (launcher : LocalLauncher) (log : List Record) (calls : List DeliveryCall) :
    let start := Act.run (localUploader.configure settings)
      ⟨⟨site, store, .toDirectory {}, launcher⟩, log⟩
    let called := deliverAll calls start.2
    let before := called.2.world.site
    let upload := Act.run (deliver .upload) called.2
    let undo := Act.run (deliver .undo) called.2
    ∃ u : LocalUploader, start.2.world.uploader = .toDirectory u ∧
      (start.1 = .ok () → u.IsSet settings site) ∧ u.Spares site before ∧
      u.UploadEnds site before upload.1 upload.2.world.site ∧
      u.UndoEnds called.1 before undo.1 undo.2.world.site := by
  intro start called before upload undo
  obtain ⟨answer, package, destination, log₁, hstart, hset, hguards⟩ :=
    guards_configure settings site store launcher log
  obtain ⟨history, s, uploaded, log₂, hcalled, hguards⟩ := guards_deliverAll calls hguards log₁
  rw [List.nil_append] at hguards
  obtain ⟨uploadAnswer, s₃, _, _, hupload, -, huploadEnds⟩ := guards_upload hguards log₂
  obtain ⟨undoAnswer, s₄, _, _, hundo, -, hundoEnds⟩ := guards_undo hguards log₂
  have hworld : called = (history, ⟨⟨s, store, .toDirectory ⟨package, destination, uploaded⟩,
      launcher⟩, log₂⟩) := by
    rw [← hcalled]
    exact congrArg (fun r => deliverAll calls r.2) hstart
  refine ⟨⟨package, destination, false⟩, ?_, ?_, ?_, ?_, ?_⟩
  · exact congrArg (fun r => r.2.world.uploader) hstart
  · exact fun h => hset ((congrArg Prod.fst hstart).symm.trans h)
  · dsimp only [before]
    rw [hworld]
    exact hguards.spares
  · dsimp only [before, upload]
    rw [hworld, hupload]
    exact huploadEnds
  · dsimp only [before, undo]
    rw [hworld, hundo]
    exact hundoEnds

/-- Settings with the place of the copy, in another spelling, as the package. -/
def respelled : Settings :=
  ⟨[(.text Key.packageFile, .text "/up/../up/p.tar"), (.text Key.uploadDirectory, .text "/up")]⟩

/-- A site with that package. -/
def siteWithCopy : Site where
  tree := ⟨[(["up"], .directory), (["up", "p.tar"], .file "package".toUTF8)]⟩

/-- The package survives, since the upload finds that it is the copy and does not set the mark. -/
example (store : LocalStore) (launcher : LocalLauncher) :
    (deliverAll [.upload, .undo] (Act.run (localUploader.configure respelled)
      ⟨⟨siteWithCopy, store, .toDirectory {}, launcher⟩, []⟩).2).2.world.site = siteWithCopy := by
  rfl

end Workshop

end TopologySubmission
