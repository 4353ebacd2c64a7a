import TopologySubmission.Plugin.ScpUploader
import TopologySubmission.Proofs.Act.Preserves
import TopologySubmission.Proofs.Site.Lookup

/-!
# Copies on another host

An uploader stands beside its site, whose other programs may end in any way, and whose files may change
between its calls. The runs of other programs and how they ended are listed as exchanges; what an undo
does is said by this list alone. It removes the copy that a command made which ended well, and nothing
else: the rest of a copy that failed or took too long stays.

    a call adds its exchanges to the list                       (tracks_call)
    the mark of the uploader says if a copy ended well and was not removed since     (tracks_callAll)
    an undo removes the copy exactly then, and else runs nothing      (undo_removes_iff)
-/

namespace TopologySubmission

open Act (Leads Preserves)

/-! ## Algorithm -/

/-- Something starts in a row, and nothing that ends it comes later. -/
def HoldsSince {α : Type} (starts ends : α → Prop) (xs : List α) : Prop :=
  ∃ front x back, xs = front ++ x :: back ∧ starts x ∧ ∀ y ∈ back, ¬ ends y

/-- The command ended, and well. -/
def CommandAnswer.endedWell : CommandAnswer → Bool
  | .ended code _ => code == 0
  | _ => false

/-- The command was begun: it ended with any code or took too long. -/
def CommandAnswer.wasBegun : CommandAnswer → Bool
  | .stopped _ => false
  | _ => true

/-- What comes of a command that is answered so. -/
def CommandAnswer.outcome : CommandAnswer → Except Stop Bool
  | .ended code _ => .ok (code == 0)
  | .timedOut => .ok false
  | .stopped (.failure f) => if f.isSystem then .ok false else .error (.failure f)
  | .stopped s => .error s

/-- A run of another program, and how it ended. -/
structure Exchange where
  run : CommandRun
  answer : CommandAnswer

/-- The exchanges of a site, whose files may change meanwhile. -/
inductive Site.Exchanged (s : Site) : List Exchange → Site → Prop
  | none : Exchanged s [] s
  | files {xs t} (tree : FileTree) (h : Exchanged s xs t) : Exchanged s xs { t with tree := tree }
  | ran {xs t} (r : CommandRun) (h : Exchanged s xs t) :
      Exchanged s (xs ++ [⟨r, (t.runCommand r).1⟩]) (t.runCommand r).2

/-- A site with an uploader at work in it. -/
structure Shipping where
  site : Site
  uploader : ScpUploader

namespace Shipping

def sitePart : Part Shipping Site := ⟨Shipping.site, fun w s => { w with site := s }⟩

def uploaderPart : Part Shipping ScpUploader :=
  ⟨Shipping.uploader, fun w u => { w with uploader := u }⟩

/-- The uploader to another host. -/
def sender : Uploader Shipping := ScpUploader.uploader sitePart uploaderPart

/-- The run of a command. -/
def commandRun (w : Shipping) (words : List Value) : CommandRun := ⟨words, w.uploader.timeout⟩

/-- How a command ends. -/
def answer (w : Shipping) (words : List Value) : CommandAnswer :=
  (w.site.runCommand (w.commandRun words)).1

/-- The site with an uploader after a command. -/
def after (w : Shipping) (words : List Value) : Shipping :=
  { w with site := (w.site.runCommand (w.commandRun words)).2 }

/-- The uploader with its mark for a copy set or not. -/
def marked (w : Shipping) (uploaded : Bool) : Shipping :=
  { w with uploader := { w.uploader with uploaded := uploaded } }

/-- The uploader has no copy to remove. -/
def Unmarked (w : Shipping) : Prop := w.uploader.uploaded = false

end Shipping

/-- A call of an uploader. -/
inductive DeliveryCall where
  | upload
  | undo
  deriving DecidableEq, Repr

namespace DeliveryCall

/-- What an uploader does at a call. An undo that returns gives nothing. -/
def act : DeliveryCall → Act Shipping Value
  | .upload => Shipping.sender.uploadPackage
  | .undo => do
    Shipping.sender.undo
    return .null

/-- Calls one after another, however each of them ends, and each with the files that are there then. -/
def callAll : List (FileTree × DeliveryCall) → Scene Shipping → Scene Shipping
  | [], c => c
  | (tree, k) :: ks, c =>
    callAll ks (Act.run k.act ⟨{ c.world with site := { c.world.site with tree := tree } }, c.log⟩).2

end DeliveryCall

namespace ScpUploader

/-- The command that makes the directory on the other host. -/
def directoryCommand (u : ScpUploader) (quoted : String) : List Value :=
  u.overSsh ("mkdir -p " ++ quoted)

/-- The command that removes the copy. -/
def removalCommand (u : ScpUploader) (destination : String) : List Value :=
  u.overSsh ("rm -f " ++ Text.quoteWord destination)

/-- The words copy the package to its destination. -/
def Copies (u : ScpUploader) (words : List Value) : Prop :=
  ∃ package destination, u.package = some package ∧ u.destination = .ok destination ∧
    words = u.copyCommand package destination

/-- The words remove the copy. -/
def Removes (u : ScpUploader) (words : List Value) : Prop :=
  ∃ destination, u.destination = .ok destination ∧ words = u.removalCommand destination

/-- A copy was tried, with an answer that counts, and no removal ended well since. -/
def CopiedSince (u : ScpUploader) (counts : CommandAnswer → Bool) (xs : List Exchange) : Prop :=
  ∃ front x back, xs = front ++ x :: back ∧ u.Copies x.run.words ∧ counts x.answer = true ∧
    ∀ y ∈ back, ¬(u.Removes y.run.words ∧ y.answer.endedWell = true)

/-- The undo runs one command, which removes the copy, and it returns if that ends well. -/
def RunsRemoval (u : ScpUploader) (d : Shipping) (e : Except Stop Unit × Scene Shipping) : Prop :=
  ∃ destination a, u.destination = .ok destination ∧
    d.site.Exchanged [⟨⟨u.removalCommand destination, u.timeout⟩, a⟩] e.2.world.site ∧
    (e.1 = .ok () ↔ a.endedWell = true)

/-- What has happened since an uploader was initialized, and what it remembers of it. -/
structure Tracks (u : ScpUploader) (s : Site) (xs : List Exchange) (w : Shipping) : Prop where
  same : w.uploader = { u with uploaded := w.uploader.uploaded }
  exchanged : s.Exchanged xs w.site
  uploaded_iff : w.uploader.uploaded = true ↔ u.CopiedSince CommandAnswer.endedWell xs
  /-- The removal can be written as a line. -/
  removable : w.uploader.uploaded = true → ∃ destination line, u.destination = .ok destination ∧
    commandLine (u.removalCommand destination) = .ok line

/-- The act ends where what has happened is tracked again. -/
def KeepsTrack {α : Type} (u : ScpUploader) (s : Site) (a : Act Shipping α) (w : Shipping) : Prop :=
  ∃ r v xs, Leads a w r v ∧ u.Tracks s xs v

end ScpUploader

/-! ## Lemmas -/

/-! ### Rows that grow -/

section HoldsSince

variable {α : Type} {starts ends : α → Prop} {xs : List α} {x : α}

theorem not_holdsSince_nil : ¬ HoldsSince starts ends [] := by
  rintro ⟨front, x, back, h, -⟩
  exact List.append_ne_nil_of_right_ne_nil _ (List.cons_ne_nil _ _) h.symm

/-- What one more element does. -/
theorem holdsSince_concat :
    HoldsSince starts ends (xs ++ [x]) ↔ starts x ∨ (HoldsSince starts ends xs ∧ ¬ ends x) := by
  constructor
  -- the last element starts it, or it came after the one that does
  · rintro ⟨front, y, back, h, hy, hback⟩
    rcases List.eq_nil_or_concat back with rfl | ⟨back, z, rfl⟩
    · obtain ⟨-, rfl⟩ := List.append_inj' h rfl |>.imp_right List.singleton_inj.mp
      exact .inl hy
    · rw [List.concat_eq_append] at h hback
      rw [← List.cons_append, ← List.append_assoc] at h
      obtain ⟨rfl, rfl⟩ := List.append_inj' h rfl |>.imp_right List.singleton_inj.mp
      exact .inr ⟨⟨front, y, back, rfl, hy, fun z hz => hback z (List.mem_append_left _ hz)⟩,
        hback x (by simp)⟩
  · rintro (hx | ⟨⟨front, y, back, rfl, hy, hback⟩, hx⟩)
    · exact ⟨xs, x, [], rfl, hx, fun z hz => absurd hz List.not_mem_nil⟩
    · refine ⟨front, y, back ++ [x], by simp, hy, fun z hz => ?_⟩
      rcases List.mem_append.mp hz with hz | hz
      · exact hback z hz
      · rwa [List.mem_singleton.mp hz]

end HoldsSince

/-! ### Exchanges -/

theorem CommandAnswer.outcome_eq_ok_true_iff (a : CommandAnswer) :
    a.outcome = .ok true ↔ a.endedWell = true := by
  cases a with
  | ended code errors => simp [CommandAnswer.outcome, CommandAnswer.endedWell]
  | timedOut => simp [CommandAnswer.outcome, CommandAnswer.endedWell]
  | stopped e =>
    cases e with
    | failure f => cases hf : f.isSystem <;> simp [CommandAnswer.outcome, CommandAnswer.endedWell, hf]
    | interrupt i => simp [CommandAnswer.outcome, CommandAnswer.endedWell]

theorem CommandAnswer.outcome_of_not_endedWell {a : CommandAnswer} (h : a.endedWell = false) :
    (∃ e, a.outcome = .error e) ∨ a.outcome = .ok false := by
  cases ho : a.outcome with
  | error e => exact .inl ⟨e, rfl⟩
  | ok b =>
    cases b with
    | false => exact .inr rfl
    | true =>
      rw [a.outcome_eq_ok_true_iff.mp ho] at h
      cases h

namespace Site.Exchanged

variable {s t t' : Site} {xs ys : List Exchange}

/-- The site remembers what was run. -/
theorem commands (h : s.Exchanged xs t) : t.commands = s.commands ++ xs.map (·.run) := by
  induction h with
  | none => exact (List.append_nil _).symm
  | files tree h ih => exact ih
  | ran r h ih =>
    rw [commands_runCommand, ih, List.map_append, List.append_assoc]
    rfl

end Site.Exchanged

namespace ScpUploader

variable {u : ScpUploader} {counts : CommandAnswer → Bool} {xs : List Exchange} {x : Exchange}
  {s : Site} {w : Shipping}

theorem copiedSince_iff : u.CopiedSince counts xs ↔
    HoldsSince (fun x => u.Copies x.run.words ∧ counts x.answer = true)
      (fun y => u.Removes y.run.words ∧ y.answer.endedWell = true) xs := by
  simp only [CopiedSince, HoldsSince, and_assoc]

theorem not_copiedSince_nil : ¬ u.CopiedSince counts [] := by
  rw [copiedSince_iff]
  exact not_holdsSince_nil

/-- What one more exchange does to the copy. -/
theorem copiedSince_concat : u.CopiedSince counts (xs ++ [x]) ↔
    (u.Copies x.run.words ∧ counts x.answer = true) ∨
      (u.CopiedSince counts xs ∧ ¬(u.Removes x.run.words ∧ x.answer.endedWell = true)) := by
  rw [copiedSince_iff, copiedSince_iff]
  exact holdsSince_concat

/-- A copy that ended well was tried. -/
theorem CopiedSince.mono {counts' : CommandAnswer → Bool} (h : u.CopiedSince counts xs)
    (hcounts : ∀ a, counts a = true → counts' a = true) : u.CopiedSince counts' xs := by
  obtain ⟨front, x, back, hxs, hcopies, hx, hback⟩ := h
  exact ⟨front, x, back, hxs, hcopies, hcounts _ hx, hback⟩

/-! ### Commands -/

theorem shellWord_text (t : String) : shellWord (.text t) = .ok (Text.quoteWord t) := by
  unfold shellWord
  split
  · rfl
  · next h =>
    have hempty : t = "" := by simpa [Value.isTruthy, String.isEmpty_iff] using h
    rw [hempty]

/-- A command is written as a line if each of its words is. -/
theorem commandLine_ok_iff (words : List Value) :
    (∃ line, commandLine words = .ok line) ↔ ∀ v ∈ words, ∃ t, shellWord v = .ok t := by
  have hmap : (∃ ts, words.mapM shellWord = .ok ts) ↔ ∀ v ∈ words, ∃ t, shellWord v = .ok t := by
    induction words with
    | nil => exact ⟨fun _ => nofun, fun _ => ⟨[], rfl⟩⟩
    | cons v words ih =>
      rw [List.forall_mem_cons, ← ih, List.mapM_cons]
      constructor
      · rintro ⟨ts, h⟩
        obtain ⟨t, ht, h⟩ := bind_eq_ok_iff.mp h
        obtain ⟨ts', hts, -⟩ := bind_eq_ok_iff.mp h
        exact ⟨⟨t, ht⟩, ts', hts⟩
      · rintro ⟨⟨t, ht⟩, ts, hts⟩
        exact ⟨t :: ts, bind_eq_ok_iff.mpr ⟨t, ht, bind_eq_ok_iff.mpr ⟨ts, hts, rfl⟩⟩⟩
  rw [← hmap]
  constructor
  · rintro ⟨line, h⟩
    obtain ⟨ts, hts, -⟩ := bind_eq_ok_iff.mp h
    exact ⟨ts, hts⟩
  · rintro ⟨ts, hts⟩
    exact ⟨_, bind_eq_ok_iff.mpr ⟨ts, hts, rfl⟩⟩

/-- Whether a command for the other host can be written does not depend on what it does there. -/
theorem commandLine_overSsh {line written : String} (h : commandLine (u.overSsh line) = .ok written)
    (line' : String) : ∃ written', commandLine (u.overSsh line') = .ok written' := by
  have hwords := (commandLine_ok_iff _).mp ⟨written, h⟩
  refine (commandLine_ok_iff _).mpr fun v hv => ?_
  simp only [overSsh, List.cons_append, List.mem_cons, List.mem_append] at hv hwords
  rcases hv with hv | hv | hv | hv | hv
  · exact hwords v (.inl hv)
  · exact hwords v (.inr (.inl hv))
  · exact hwords v (.inr (.inr (.inl hv)))
  · exact ⟨_, hv ▸ shellWord_text line'⟩
  · cases hv

theorem commandLine_copyCommand (p : Path) (destination : String) :
    ∃ line, commandLine (u.copyCommand p destination) = .ok line := by
  refine (commandLine_ok_iff _).mpr fun v hv => ?_
  simp only [copyCommand, List.cons_append, List.mem_cons, List.mem_append, List.mem_map] at hv
  rcases hv with rfl | ⟨t, -, rfl⟩ | rfl | rfl | hv
  · exact ⟨_, shellWord_text _⟩
  · exact ⟨_, shellWord_text _⟩
  · exact ⟨_, shellWord_text _⟩
  · exact ⟨_, shellWord_text _⟩
  · cases hv

theorem overSsh_ne_copyCommand (line : String) (p : Path) (destination : String) :
    u.overSsh line ≠ u.copyCommand p destination := by
  intro h
  have hhead : Value.text "ssh" = .text "scp" := (List.cons.inj h).1
  simp at hhead

theorem overSsh_inj {line line' : String} (h : u.overSsh line = u.overSsh line') : line = line' := by
  have hlast : [u.sshConnection, Value.text line] = [u.sshConnection, .text line'] :=
    List.append_cancel_left h
  simpa using hlast

theorem not_copies_overSsh (line : String) : ¬ u.Copies (u.overSsh line) := by
  rintro ⟨p, destination, -, -, h⟩
  exact overSsh_ne_copyCommand line p destination h

theorem not_removes_copyCommand (p : Path) (destination : String) :
    ¬ u.Removes (u.copyCommand p destination) := by
  rintro ⟨destination', -, h⟩
  exact overSsh_ne_copyCommand _ p destination h.symm

theorem not_removes_directoryCommand (quoted : String) :
    ¬ u.Removes (u.directoryCommand quoted) := by
  rintro ⟨destination, -, h⟩
  have hline := congrArg String.toList (overSsh_inj h)
  simp at hline

/-! ### What a command changes -/

/-- One more exchange, after which the mark says again if there is a copy. -/
theorem Tracks.exchange (h : u.Tracks s xs w) (words : List Value) (uploaded : Bool)
    (hmark : uploaded = true ↔ (u.Copies words ∧ (w.answer words).endedWell = true) ∨
      (w.uploader.uploaded = true ∧ ¬(u.Removes words ∧ (w.answer words).endedWell = true)))
    (hremovable : uploaded = true → ∃ destination line, u.destination = .ok destination ∧
      commandLine (u.removalCommand destination) = .ok line) :
    u.Tracks s (xs ++ [⟨w.commandRun words, w.answer words⟩]) ((w.after words).marked uploaded) where
  same := by
    show { w.uploader with uploaded := uploaded } = { u with uploaded := uploaded }
    rw [h.same]
  exchanged := h.exchanged.ran _
  uploaded_iff := by
    rw [copiedSince_concat, ← h.uploaded_iff]
    exact hmark
  removable := hremovable

/-- A command that neither copies nor removes. -/
theorem Tracks.other (h : u.Tracks s xs w) {words : List Value} (hcopies : ¬ u.Copies words)
    (hremoves : ¬ u.Removes words) :
    u.Tracks s (xs ++ [⟨w.commandRun words, w.answer words⟩]) (w.after words) := by
  refine h.exchange words w.uploader.uploaded ?_ h.removable
  simp only [hcopies, hremoves, false_and, false_or, not_false_iff, and_true]

theorem Tracks.files (h : u.Tracks s xs w) (tree : FileTree) :
    u.Tracks s xs { w with site := { w.site with tree := tree } } :=
  ⟨h.same, h.exchanged.files tree, h.uploaded_iff, h.removable⟩

/-- What the uploader has in hand is as it was set, but for the mark. -/
theorem Tracks.overSsh (h : u.Tracks s xs w) (line : String) :
    w.uploader.overSsh line = u.overSsh line := by rw [h.same]; rfl

theorem Tracks.directoryCommand (h : u.Tracks s xs w) (quoted : String) :
    w.uploader.directoryCommand quoted = u.directoryCommand quoted := h.overSsh _

theorem Tracks.removalCommand (h : u.Tracks s xs w) (destination : String) :
    w.uploader.removalCommand destination = u.removalCommand destination := h.overSsh _

theorem Tracks.destination (h : u.Tracks s xs w) : w.uploader.destination = u.destination := by
  rw [h.same]
  rfl

theorem Tracks.package (h : u.Tracks s xs w) : w.uploader.package = u.package := by rw [h.same]

theorem Tracks.copyCommand (h : u.Tracks s xs w) (p : Path) (destination : String) :
    w.uploader.copyCommand p destination = u.copyCommand p destination := by rw [h.same]; rfl

/-! ### Running a command -/

theorem leads_reportAnswer (line : String) (words : List Value) (timeout : Value)
    (a : CommandAnswer) (w : Shipping) :
    Leads (reportAnswer line words timeout a) w a.outcome w := by
  unfold reportAnswer CommandAnswer.outcome
  cases a with
  | ended code errors =>
    by_cases hcode : code = 0
    · simp only [hcode, if_true, beq_self_eq_true]
      exact .pure true w
    · simp only [hcode, if_false, beq_eq_false_iff_ne.mpr hcode]
      exact .bind (.log _ _ w) (.pure false w)
  | timedOut => exact .bind (.log _ _ w) (.pure false w)
  | stopped e =>
    cases e with
    | failure f =>
      cases hf : f.isSystem with
      | true =>
        simp only [hf, if_true]
        exact .bind (.log _ _ w) (.pure false w)
      | false =>
        simp only [hf, if_false, Bool.false_eq_true]
        exact .fail f w
    | interrupt i => exact fun log => ⟨log, rfl⟩

/-- A command that cannot be written as a line is not run. -/
theorem leads_run_unwritten {words : List Value} {f : Failure}
    (h : commandLine words = .error f) (w : Shipping) :
    Leads (run Shipping.sitePart Shipping.uploaderPart words) w (.error (.failure f)) w := by
  unfold run
  rw [h]
  exact .bind_error (.fail f w) _

theorem leads_run {words : List Value} {line : String} (h : commandLine words = .ok line)
    (w : Shipping) :
    Leads (run Shipping.sitePart Shipping.uploaderPart words) w (w.answer words).outcome
      (w.after words) := by
  unfold run
  rw [h]
  refine .bind (.pure line w) (.bind (.log _ _ w) ?_)
  refine .bind (.within _ (.getWorld _)) (.bind (.within _ (.getWorld _)) ?_)
  exact .bind (fun log => ⟨log, rfl⟩) (leads_reportAnswer _ _ _ _ _)

/-! ### Calls -/

theorem run_undo_idle {d : Scene Shipping} (h : d.world.Unmarked) :
    Act.run Shipping.sender.undo d = (.ok (), d) := by
  have hmark : d.world.uploader.uploaded = false := h
  show Act.run (if d.world.uploader.uploaded = true then _ else pure ()) d = _
  rw [hmark]
  rfl

theorem leads_undo_idle (h : w.Unmarked) : Leads Shipping.sender.undo w (.ok ()) w :=
  fun log => ⟨log, run_undo_idle h⟩

theorem remove_eq {destination : String} (h : u.destination = .ok destination) :
    remove Shipping.sitePart Shipping.uploaderPart u = (do
      if ← run Shipping.sitePart Shipping.uploaderPart (u.removalCommand destination) then
        remember Shipping.uploaderPart fun u => { u with uploaded := false }
      else
        Act.fail (.ofClass .undoFailed
          ("Failed to remove " ++ destination ++ " on " ++ u.sshConnection.plain))) := by
  unfold remove
  rw [h]
  show (pure destination >>= _) = _
  rw [pure_bind, shellWord_text]
  rfl

theorem leads_remove {destination line : String} (h : w.uploader.uploaded = true)
    (hd : w.uploader.destination = .ok destination)
    (hline : commandLine (w.uploader.removalCommand destination) = .ok line) :
    ∃ r, (r = .ok () ↔ (w.answer (w.uploader.removalCommand destination)).endedWell = true) ∧
      Leads (remove Shipping.sitePart Shipping.uploaderPart w.uploader) w r
        ((w.after (w.uploader.removalCommand destination)).marked
          (!(w.answer (w.uploader.removalCommand destination)).endedWell)) := by
  have hrun := leads_run hline w
  have hstays : (w.after (w.uploader.removalCommand destination)).marked true =
      w.after (w.uploader.removalCommand destination) := by
    unfold Shipping.marked Shipping.after
    rw [← h]
  rw [remove_eq hd]
  generalize w.answer (w.uploader.removalCommand destination) = a at *
  cases hwell : a.endedWell with
  | true =>
    rw [a.outcome_eq_ok_true_iff.mpr hwell] at hrun
    refine ⟨.ok (), by simp, .bind hrun ?_⟩
    rw [if_pos rfl]
    exact .within Shipping.uploaderPart (.change _ _)
  | false =>
    rw [Bool.not_false, hstays]
    rcases CommandAnswer.outcome_of_not_endedWell hwell with ⟨e, ho⟩ | ho <;> rw [ho] at hrun
    · exact ⟨.error e, by simp, .bind_error hrun _⟩
    · exact ⟨_, by simp, .bind hrun (.fail _ _)⟩

/-- With a copy to remove, an undo runs the removal; it returns and forgets the copy if that ends well. -/
theorem leads_undo {destination line : String} (h : w.uploader.uploaded = true)
    (hd : w.uploader.destination = .ok destination)
    (hline : commandLine (w.uploader.removalCommand destination) = .ok line) :
    ∃ r, (r = .ok () ↔ (w.answer (w.uploader.removalCommand destination)).endedWell = true) ∧
      Leads Shipping.sender.undo w r ((w.after (w.uploader.removalCommand destination)).marked
        (!(w.answer (w.uploader.removalCommand destination)).endedWell)) := by
  obtain ⟨r, hr, hremove⟩ := leads_remove h hd hline
  refine ⟨r, hr, .bind (.within _ (.getWorld _)) ?_⟩
  show Leads (if w.uploader.uploaded = true then _ else _) w r _
  rw [h]
  exact hremove

theorem tracks_undo (h : u.Tracks s xs w) : u.KeepsTrack s Shipping.sender.undo w := by
  cases hm : w.uploader.uploaded with
  | false => exact ⟨_, w, xs, leads_undo_idle hm, h⟩
  | true =>
    obtain ⟨destination, line, hd, hline⟩ := h.removable hm
    have hsame := h.removalCommand destination
    rw [← hsame] at hline
    obtain ⟨r, -, hundo⟩ := leads_undo hm (h.destination.trans hd) hline
    have hremoves : u.Removes (w.uploader.removalCommand destination) := ⟨destination, hd, hsame⟩
    have hcopies : ¬ u.Copies (w.uploader.removalCommand destination) := by
      rw [hsame]
      exact not_copies_overSsh _
    refine ⟨r, _, _, hundo, h.exchange _ _ ?_ fun _ => h.removable hm⟩
    simp only [hcopies, hremoves, hm, false_and, false_or, true_and, Bool.not_eq_true',
      Bool.not_eq_true]

/-- Where the connection has no text or the destination is not known, nothing is run. -/
theorem leads_copy_unplaced (p : Path) {f : Failure}
    (h : (do
      let _ ← w.uploader.scpConnection.asText
      w.uploader.destination) = .error f) :
    Leads (copy Shipping.sitePart Shipping.uploaderPart p) w (.error (.failure f)) w := by
  refine .bind (.within _ (.getWorld _)) ?_
  show Leads (Act.ofExcept w.uploader.scpConnection.asText >>= fun _ =>
    Act.ofExcept w.uploader.destination >>= _) w _ w
  cases hc : w.uploader.scpConnection.asText with
  | error g =>
    rw [hc] at h
    cases h
    exact .bind_error (.fail f w) _
  | ok connection =>
    rw [hc] at h
    refine .bind (.pure _ _) ?_
    rw [show w.uploader.destination = .error f from h]
    exact .bind_error (.fail f w) _

/-- The mark is set if the copy ends well, and else stays as it was. Where the copy is is known then. -/
theorem leads_copy (p : Path) {connection destination : String}
    (hc : w.uploader.scpConnection.asText = .ok connection)
    (hd : w.uploader.destination = .ok destination) :
    Leads (copy Shipping.sitePart Shipping.uploaderPart p) w
      ((w.answer (w.uploader.copyCommand p destination)).outcome.map fun well =>
        if well then .text ("scp://" ++ connection ++ destination) else .null)
      ((w.after (w.uploader.copyCommand p destination)).marked
        ((w.answer (w.uploader.copyCommand p destination)).endedWell || w.uploader.uploaded)) := by
  obtain ⟨line, hline⟩ := commandLine_copyCommand (u := w.uploader) p destination
  have hrun := leads_run hline w
  have hcopy : ∀ {r : Except Stop Value} {v : Shipping}, Leads (do
      if ← run Shipping.sitePart Shipping.uploaderPart (w.uploader.copyCommand p destination) then
        remember Shipping.uploaderPart fun u => { u with uploaded := true }
        return Value.text ("scp://" ++ connection ++ destination)
      else
        Act.log .error ("Failed to copy " ++ p.text ++ " to " ++ connection)
        return .null) w r v → Leads (copy Shipping.sitePart Shipping.uploaderPart p) w r v := by
    intro r v hrest
    refine .bind (.within _ (.getWorld _)) ?_
    show Leads (Act.ofExcept w.uploader.scpConnection.asText >>= fun _ =>
      Act.ofExcept w.uploader.destination >>= _) w r v
    rw [hc, hd]
    exact .bind (.pure _ _) (.bind (.pure _ _) hrest)
  generalize w.answer (w.uploader.copyCommand p destination) = a at *
  cases hwell : a.endedWell with
  | true =>
    rw [a.outcome_eq_ok_true_iff.mpr hwell] at hrun ⊢
    refine hcopy (.bind hrun ?_)
    rw [if_pos rfl]
    exact .bind (.within Shipping.uploaderPart (.change _ _)) (.pure _ _)
  | false =>
    rcases CommandAnswer.outcome_of_not_endedWell hwell with ⟨e, ho⟩ | ho <;> rw [ho] at hrun ⊢
    · exact hcopy (.bind_error hrun _)
    · exact hcopy (.bind hrun (.bind (.log _ _ _) (.pure _ _)))

/-- The copy is made after a command was written for the other host, so its removal can be written. -/
theorem tracks_copy (h : u.Tracks s xs w) {line written : String}
    (hwritten : commandLine (u.overSsh line) = .ok written) {p : Path} (hp : u.package = some p) :
    u.KeepsTrack s (copy Shipping.sitePart Shipping.uploaderPart p) w := by
  cases hplace : (do
      let _ ← w.uploader.scpConnection.asText
      w.uploader.destination) with
  | error f => exact ⟨_, w, xs, leads_copy_unplaced p hplace, h⟩
  | ok destination =>
    obtain ⟨connection, hc, hplaced⟩ := bind_eq_ok_iff.mp hplace
    have hd : u.destination = .ok destination := h.destination.symm.trans hplaced
    have hcopy := leads_copy p hc hplaced
    have hcopies : u.Copies (w.uploader.copyCommand p destination) :=
      ⟨p, destination, hp, hd, h.copyCommand p destination⟩
    have hremoves : ¬ u.Removes (w.uploader.copyCommand p destination) := by
      rw [h.copyCommand]
      exact not_removes_copyCommand p destination
    refine ⟨_, _, _, hcopy, h.exchange _ _ ?_ fun _ => ?_⟩
    · simp only [hcopies, hremoves, Bool.or_eq_true, true_and, false_and, not_false_iff, and_true]
    · obtain ⟨removal, hremoval⟩ := commandLine_overSsh hwritten _
      exact ⟨destination, removal, hd, hremoval⟩

/-- What making the directory comes to is what its command comes to. -/
theorem leads_makeDirectory {quoted line : String} (hq : shellWord w.uploader.directory = .ok quoted)
    (hline : commandLine (w.uploader.directoryCommand quoted) = .ok line) :
    Leads (makeDirectory Shipping.sitePart Shipping.uploaderPart) w
      (w.answer (w.uploader.directoryCommand quoted)).outcome
      (w.after (w.uploader.directoryCommand quoted)) := by
  have hrun := leads_run hline w
  refine .bind (.within _ (.getWorld _)) ?_
  show Leads (Act.ofExcept (shellWord w.uploader.directory) >>= _) w _ _
  rw [hq]
  refine .bind (.pure _ _) ?_
  cases ho : (w.answer (w.uploader.directoryCommand quoted)).outcome with
  | error e =>
    rw [ho] at hrun
    exact .bind_error hrun _
  | ok well =>
    rw [ho] at hrun
    cases well with
    | true => exact .bind hrun (.pure true _)
    | false => exact .bind hrun (.bind (.log _ _ _) (.pure false _))

theorem leads_makeDirectory_unwritten {quoted : String} {f : Failure}
    (hq : shellWord w.uploader.directory = .ok quoted)
    (hline : commandLine (w.uploader.directoryCommand quoted) = .error f) :
    Leads (makeDirectory Shipping.sitePart Shipping.uploaderPart) w (.error (.failure f)) w := by
  refine .bind (.within _ (.getWorld _)) ?_
  show Leads (Act.ofExcept (shellWord w.uploader.directory) >>= _) w _ _
  rw [hq]
  exact .bind (.pure _ _) (.bind_error (leads_run_unwritten hline w) _)

/-- The command that makes the directory is written if it is run. -/
theorem tracks_makeDirectory (h : u.Tracks s xs w) :
    ∃ r v xs', Leads (makeDirectory Shipping.sitePart Shipping.uploaderPart) w r v ∧
      u.Tracks s xs' v ∧
      (r = .ok true → ∃ line written, commandLine (u.overSsh line) = .ok written) := by
  cases hq : shellWord w.uploader.directory with
  | error f =>
    refine ⟨.error (.failure f), w, xs, .bind (.within _ (.getWorld _)) ?_, h, nofun⟩
    show Leads (Act.ofExcept (shellWord w.uploader.directory) >>= _) w _ _
    rw [hq]
    exact .bind_error (.fail f w) _
  | ok quoted =>
    have hsame := h.directoryCommand quoted
    cases hline : commandLine (w.uploader.directoryCommand quoted) with
    | error f => exact ⟨_, w, xs, leads_makeDirectory_unwritten hq hline, h, nofun⟩
    | ok line =>
      have hcopies : ¬ u.Copies (w.uploader.directoryCommand quoted) := by
        rw [hsame]
        exact not_copies_overSsh _
      have hremoves : ¬ u.Removes (w.uploader.directoryCommand quoted) := by
        rw [hsame]
        exact not_removes_directoryCommand quoted
      exact ⟨_, _, _, leads_makeDirectory hq hline, h.other hcopies hremoves,
        fun _ => ⟨_, line, hsame ▸ hline⟩⟩

theorem leads_upload_unknown (hp : w.uploader.package = none) :
    Leads Shipping.sender.uploadPackage w (.error (.failure notInitialized)) w := by
  apply Leads.bind (.within _ (.getWorld _))
  dsimp only [Shipping.uploaderPart]
  rw [hp]
  exact .fail notInitialized w

/-- An upload of a package that is known. -/
theorem leads_upload {p : Path} (hp : w.uploader.package = some p) {r : Except Stop Value}
    {v : Shipping} (h : Leads (do
      if ← Act.within Shipping.sitePart (Site.isFile? p) then
        if ← makeDirectory Shipping.sitePart Shipping.uploaderPart then
          copy Shipping.sitePart Shipping.uploaderPart p
        else return .null
      else
        Act.log .error ("Topology package not found: " ++ p.text)
        return .null) w r v) : Leads Shipping.sender.uploadPackage w r v := by
  apply Leads.bind (.within _ (.getWorld _))
  dsimp only [Shipping.uploaderPart]
  rw [hp]
  exact h

theorem tracks_upload (h : u.Tracks s xs w) :
    u.KeepsTrack s Shipping.sender.uploadPackage w := by
  cases hp : u.package with
  | none => exact ⟨_, w, xs, leads_upload_unknown (h.package.trans hp), h⟩
  | some p =>
    have hpackage : w.uploader.package = some p := h.package.trans hp
    obtain ⟨r, hasked⟩ := Site.exists_leads_isFile? p w.site
    have hfile : Leads (Act.within Shipping.sitePart (Site.isFile? p)) w r w :=
      .within Shipping.sitePart hasked
    obtain ⟨rd, v, xs', hmake, htrack, hwritten⟩ := tracks_makeDirectory h
    rcases r with e | _ | _
    · exact ⟨_, w, xs, leads_upload hpackage (.bind_error hfile _), h⟩
    · exact ⟨_, w, xs, leads_upload hpackage (.bind hfile (.bind (.log _ _ _) (.pure _ _))), h⟩
    · rcases rd with e | _ | _
      · exact ⟨_, v, xs', leads_upload hpackage (.bind hfile (.bind_error hmake _)), htrack⟩
      · exact ⟨_, v, xs', leads_upload hpackage (.bind hfile (.bind hmake (.pure _ _))), htrack⟩
      -- the line for the directory was written, so the one for a removal can be
      · obtain ⟨line, written, hline⟩ := hwritten rfl
        obtain ⟨r, z, xs'', hcopy, hz⟩ := tracks_copy htrack hline hp
        exact ⟨r, z, xs'', leads_upload hpackage (.bind hfile (.bind hmake hcopy)), hz⟩

/-- One call. -/
theorem tracks_call (k : DeliveryCall) {c : Scene Shipping} (h : u.Tracks s xs c.world) :
    ∃ xs, u.Tracks s xs (Act.run k.act c).2.world := by
  obtain ⟨r, v, xs', hcall, htrack⟩ : u.KeepsTrack s k.act c.world := by
    cases k with
    | upload => exact tracks_upload h
    | undo =>
      obtain ⟨r, v, xs', hundo, htrack⟩ := tracks_undo h
      cases r with
      | error e => exact ⟨_, v, xs', .bind_error hundo _, htrack⟩
      | ok x => exact ⟨_, v, xs', .bind hundo (.pure _ v), htrack⟩
  refine ⟨xs', ?_⟩
  rw [hcall.world]
  exact htrack

theorem tracks_callAll (calls : List (FileTree × DeliveryCall)) {c : Scene Shipping}
    (h : u.Tracks s xs c.world) : ∃ xs, u.Tracks s xs (DeliveryCall.callAll calls c).world := by
  induction calls generalizing c xs with
  | nil => exact ⟨xs, h⟩
  | cons k calls ih =>
    obtain ⟨xs', hcall⟩ := tracks_call (c := ⟨_, c.log⟩) k.2 (h.files k.1)
    exact ih hcall

/-! ### The next undo -/

/-- Initialized once, an uploader has no mark. -/
theorem uploaded_of_configure {settings : Settings} {log : List Record} {c : Scene Shipping}
    (h : Act.run (Shipping.sender.configure settings) ⟨⟨s, {}⟩, log⟩ = (.ok (), c)) :
    c.world.Unmarked := by
  have hlearn : ∀ f : ScpUploader → ScpUploader, (∀ u, (f u).uploaded = u.uploaded) →
      Preserves Shipping.Unmarked (remember Shipping.uploaderPart f) :=
    fun _ hf c hc => (hf c.world.uploader).trans hc
  have hpath : ∀ key, Preserves Shipping.Unmarked
      (Act.within Shipping.sitePart (Site.pathSetting settings key)) :=
    fun _ => .apart fun _ _ hw => hw
  have hkeeps : Preserves Shipping.Unmarked (configure Shipping.sitePart Shipping.uploaderPart settings) := by
    unfold configure
    refine Preserves.bind (hlearn _ fun _ => rfl) fun _ => ?_
    -- `rest` comes after the check of the keys, and `last` after the check of the time
    extract_lets last rest
    have hlast : ∀ x, Preserves Shipping.Unmarked (last x) := fun _ =>
      Preserves.bind (hpath _) fun _ => hlearn _ fun _ => rfl
    have hrest : ∀ x, Preserves Shipping.Unmarked (rest x) := by
      intro x
      refine Preserves.bind (.ofExcept _) fun _ => .bind (hlearn _ fun _ => rfl) fun _ => ?_
      refine Preserves.bind (.ofExcept _) fun _ => .bind (hlearn _ fun _ => rfl) fun _ => ?_
      refine Preserves.bind (.ofExcept _) fun _ => .bind (hlearn _ fun _ => rfl) fun _ => ?_
      exact .ite ((Preserves.fail _).bind hlast) (hlast ())
    split
    · exact hrest ()
    · exact (Preserves.fail _).bind hrest
  have hend : Shipping.Unmarked (Act.run (Shipping.sender.configure settings) ⟨⟨s, {}⟩, log⟩).2.world :=
    hkeeps ⟨⟨s, {}⟩, log⟩ rfl
  rw [h] at hend
  exact hend

theorem tracks_start (h : w.Unmarked) : w.uploader.Tracks w.site [] w where
  same := rfl
  exchanged := .none
  uploaded_iff := ⟨fun hmark => absurd (h.symm.trans hmark) Bool.false_ne_true,
    fun hcopied => absurd hcopied not_copiedSince_nil⟩
  removable := fun hmark => absurd (h.symm.trans hmark) Bool.false_ne_true

/-- A command that was run is remembered, so the site is not the same. -/
theorem not_runsRemoval {d : Shipping} {e : Except Stop Unit × Scene Shipping}
    (h : e.2.world = d) : ¬ u.RunsRemoval d e := by
  rintro ⟨destination, a, -, hexchanged, -⟩
  have hcommands := hexchanged.commands
  rw [h] at hcommands
  exact List.cons_ne_nil _ _ (List.append_right_eq_self.mp hcommands.symm)

/-- For every uploader that was initialized once, every row of calls, whatever files there are at each of
them, and every end of each command: the next undo runs one command, which removes the copy, exactly if a
copy ended well and no removal ended well since. It returns and runs nothing in all other cases: if no copy
was tried, but also if the last one ended with another code or took too long. -/
theorem undo_removes_iff {settings : Settings} {log : List Record} {c : Scene Shipping}
    (h : Act.run (Shipping.sender.configure settings) ⟨⟨s, {}⟩, log⟩ = (.ok (), c))
    (calls : List (FileTree × DeliveryCall)) :
    let u := c.world.uploader
    let d := DeliveryCall.callAll calls c
    let e := Act.run Shipping.sender.undo d
    ∃ xs, c.world.site.Exchanged xs d.world.site ∧
      (u.RunsRemoval d.world e ↔ u.CopiedSince CommandAnswer.endedWell xs) ∧
      (¬ u.CopiedSince CommandAnswer.endedWell xs → e.1 = .ok () ∧ e.2.world = d.world) ∧
      (¬ u.CopiedSince (fun _ => true) xs → e.1 = .ok () ∧ e.2.world = d.world) := by
  intro u d e
  obtain ⟨xs, htrack⟩ := tracks_callAll calls (tracks_start (uploaded_of_configure h))
  have hidle : ¬ u.CopiedSince CommandAnswer.endedWell xs → e.1 = .ok () ∧ e.2.world = d.world := by
    intro hcopied
    have hmark : d.world.Unmarked := by
      rwa [← htrack.uploaded_iff, Bool.not_eq_true] at hcopied
    have hundo := leads_undo_idle hmark
    exact ⟨hundo.result d.log, hundo.world d.log⟩
  refine ⟨xs, htrack.exchanged, ⟨fun hruns => ?_, fun hcopied => ?_⟩, hidle, fun hnone => ?_⟩
  · exact Classical.byContradiction fun hcopied => not_runsRemoval (hidle hcopied).2 hruns
  · have hmark := htrack.uploaded_iff.mpr hcopied
    obtain ⟨destination, line, hd, hline⟩ := htrack.removable hmark
    have hsame : d.world.uploader.removalCommand destination = u.removalCommand destination :=
      htrack.overSsh _
    rw [← hsame] at hline
    obtain ⟨r, hr, hundo⟩ := leads_undo hmark (htrack.destination.trans hd) hline
    have htimeout : d.world.uploader.timeout = u.timeout := by rw [htrack.same]
    refine ⟨destination, d.world.answer (u.removalCommand destination), hd, ?_, ?_⟩
    · rw [hundo.world d.log, hsame]
      have hran := Site.Exchanged.none.ran (s := d.world.site)
        (d.world.commandRun (u.removalCommand destination))
      rw [← htimeout]
      exact hran
    · rw [hundo.result d.log, hr, hsame]
  · exact hidle fun hcopied => hnone (hcopied.mono fun _ _ => rfl)

/-- Settings of an uploader to a host. -/
def hostSettings : Settings :=
  ⟨[(.text Key.scpConnection, .text "me@storage"), (.text Key.sshConnection, .text "me@storage"),
    (.text Key.scpDirectory, .text "/data"), (.text Key.packageFile, .text "/p.tar")]⟩

/-- A site with a package, and with the ends of the commands to come. -/
def siteWithPackage (answers : List CommandAnswer) : Site :=
  { tree := ⟨[(["p.tar"], .file ⟨#[1]⟩)]⟩, answers := answers }

/-- The uploader with those settings. -/
def hostUploader : ScpUploader where
  scpConnection := .text "me@storage"
  sshConnection := .text "me@storage"
  directory := .text "/data"
  timeout := .float (.finite false 5277655813324800 (-44))
  package := some ⟨"/", ["p.tar"]⟩

theorem configure_host (answers : List CommandAnswer) :
    Act.run (Shipping.sender.configure hostSettings) ⟨⟨siteWithPackage answers, {}⟩, []⟩ =
      (.ok (), ⟨⟨siteWithPackage answers, hostUploader⟩, []⟩) := rfl

/-- A copy that ended well is removed. -/
theorem undo_removes_iff_copied :
    ∃ c, Act.run (Shipping.sender.configure hostSettings) ⟨⟨siteWithPackage [], {}⟩, []⟩ = (.ok (), c) ∧
      let d := DeliveryCall.callAll [((siteWithPackage []).tree, .upload)] c
      c.world.uploader.RunsRemoval d.world (Act.run Shipping.sender.undo d) := by
  refine ⟨_, configure_host [], ?_⟩
  obtain ⟨xs, -, hiff, hidle, -⟩ :=
    undo_removes_iff (configure_host []) [((siteWithPackage []).tree, .upload)]
  refine hiff.mpr (Classical.byContradiction fun hcopied => ?_)
  have hworld := congrArg (fun w : Shipping => w.site.commands.length) (hidle hcopied).2
  exact absurd hworld (by decide +kernel)

theorem callAll_upload (tree : FileTree) (c : Scene Shipping) :
    DeliveryCall.callAll [(tree, .upload)] c = (Act.run Shipping.sender.uploadPackage
      ⟨{ c.world with site := { c.world.site with tree := tree } }, c.log⟩).2 := rfl

/-- A copy that ended with an error was begun, and it is not removed. -/
theorem undo_leaves_begun_copy :
    ∃ c xs, Act.run (Shipping.sender.configure hostSettings)
        ⟨⟨siteWithPackage [.ended 0 "", .ended 1 "No space left on device"], {}⟩, []⟩ = (.ok (), c) ∧
      let d := DeliveryCall.callAll [((siteWithPackage []).tree, .upload)] c
      c.world.site.Exchanged xs d.world.site ∧
        c.world.uploader.CopiedSince CommandAnswer.wasBegun xs ∧
        Act.run Shipping.sender.undo d = (.ok (), d) ∧
        ¬ c.world.uploader.RunsRemoval d.world (Act.run Shipping.sender.undo d) := by
  let directory : Exchange := ⟨⟨hostUploader.directoryCommand "/data", hostUploader.timeout⟩, .ended 0 ""⟩
  let copied : Exchange := ⟨⟨hostUploader.copyCommand ⟨"/", ["p.tar"]⟩ "/data/p.tar",
    hostUploader.timeout⟩, .ended 1 "No space left on device"⟩
  let c : Scene Shipping :=
    ⟨⟨siteWithPackage [.ended 0 "", .ended 1 "No space left on device"], hostUploader⟩, []⟩
  let w : Shipping := { c.world with site := { c.world.site with tree := (siteWithPackage []).tree } }
  have hfile : Leads (Act.within Shipping.sitePart (Site.isFile? ⟨"/", ["p.tar"]⟩)) w (.ok true) w :=
    fun log => ⟨log, rfl⟩
  have hmade : Leads (makeDirectory Shipping.sitePart Shipping.uploaderPart) w (.ok true)
      (w.after directory.run.words) := leads_makeDirectory rfl rfl
  have hupload := leads_upload rfl (.bind hfile (.bind hmade (leads_copy _ rfl rfl)))
  have hworld := hupload.world []
  have hcalled : DeliveryCall.callAll [((siteWithPackage []).tree, .upload)] c =
      (Act.run Shipping.sender.uploadPackage ⟨w, []⟩).2 := callAll_upload _ _
  rw [← hcalled] at hworld
  have hundo : Act.run Shipping.sender.undo (DeliveryCall.callAll [((siteWithPackage []).tree, .upload)] c) =
      (.ok (), DeliveryCall.callAll [((siteWithPackage []).tree, .upload)] c) := by
    refine run_undo_idle ?_
    rw [hworld]
    rfl
  refine ⟨c, [directory, copied], configure_host _, ?_, ?_, hundo, not_runsRemoval ?_⟩
  · rw [hworld]
    exact ((Site.Exchanged.none.files (siteWithPackage []).tree).ran directory.run).ran copied.run
  · exact ⟨[directory], copied, [], rfl, ⟨_, _, rfl, rfl, rfl⟩, rfl,
      fun z hz => absurd hz List.not_mem_nil⟩
  · rw [hundo]

end ScpUploader

end TopologySubmission
