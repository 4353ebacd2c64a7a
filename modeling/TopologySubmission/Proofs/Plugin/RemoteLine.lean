import TopologySubmission.Proofs.Plugin.Delivery

/-!
# Lines for a shell of another host

The uploader makes the directory and removes the copy by lines that a shell of the other host reads. What a
call runs is said by two relations: the commands of an upload with what it returns, and the commands of an
undo. Whatever the texts are, each line is read as three words, and the place that an undo removes is the
one that a copy was made to:

    the commands of an upload and its result          (leads_uploads)
    the commands of an undo                           (leads_retracts)
    every line is read as it was meant                (lines_split)
-/

namespace TopologySubmission

open Act (Leads)

/-! ## Algorithm -/

namespace ScpUploader

/-- The command hands a line to a shell of the other host, which reads these words. -/
def Orders (u : ScpUploader) (x : Exchange) (words : List String) : Prop :=
  ∃ line, x.run.words = u.overSsh line ∧ Text.splitWords line = .ok words

/-- The command copies to a place: its last word is the connection, a colon and the place. -/
def CopiesTo (u : ScpUploader) (x : Exchange) (place : String) : Prop :=
  ∃ front, x.run.words =
    .text "scp" :: front ++ [.text (u.scpConnection.plain ++ ":" ++ place)]

/-- The act stopped or found nothing. -/
def Fruitless (r : Except Stop Value) : Prop := ∀ v, r = .ok v → v = .null

/-- The commands of an upload into a directory, to a place, and what it comes to. -/
inductive Uploads (u : ScpUploader) (directory place : String) :
    List Exchange → Except Stop Value → Prop
  | idle {r} (hr : Fruitless r) : Uploads u directory place [] r
  | refused {x r} (hx : u.Orders x ["mkdir", "-p", directory]) (hfailed : x.answer.endedWell = false)
      (hr : Fruitless r) : Uploads u directory place [x] r
  | unnamed {x r} (hx : u.Orders x ["mkdir", "-p", directory]) (hwell : x.answer.endedWell = true)
      (hlong : u.scpConnection.isWritable = false) (hr : Fruitless r) : Uploads u directory place [x] r
  | lost {x y r} (hx : u.Orders x ["mkdir", "-p", directory]) (hwell : x.answer.endedWell = true)
      (hy : u.CopiesTo y place) (hfailed : y.answer.endedWell = false) (hr : Fruitless r) :
      Uploads u directory place [x, y] r
  | copied {x y} (hx : u.Orders x ["mkdir", "-p", directory]) (hwell : x.answer.endedWell = true)
      (hy : u.CopiesTo y place) (hcopied : y.answer.endedWell = true) :
      Uploads u directory place [x, y] (.ok (.text ("scp://" ++ u.scpConnection.plain ++ place)))

/-- The commands of an undo after some exchanges. -/
inductive Retracts (u : ScpUploader) (xs : List Exchange) : List Exchange → Prop
  | idle (h : ¬ u.CopiedSince CommandAnswer.endedWell xs) : Retracts u xs []
  | removes {x y place} (hy : y ∈ xs) (hcopied : y.answer.endedWell = true) (hto : u.CopiesTo y place)
      (hx : u.Orders x ["rm", "-f", place]) : Retracts u xs [x]

end ScpUploader

/-! ## Lemmas -/

theorem CommandAnswer.endedWell_of_outcome {a : CommandAnswer} (h : a.outcome ≠ .ok true) :
    a.endedWell = false :=
  Bool.eq_false_iff.mpr fun hwell => h (a.outcome_eq_ok_true_iff.mpr hwell)

/-- One row of exchanges after another. -/
theorem Site.Exchanged.append {s t t' : Site} {xs ys : List Exchange} (h : s.Exchanged xs t)
    (h' : t.Exchanged ys t') : s.Exchanged (xs ++ ys) t' := by
  induction h' with
  | none =>
    rw [List.append_nil]
    exact h
  | files tree _ ih => exact ih.files tree
  | ran r _ ih =>
    rw [← List.append_assoc]
    exact ih.ran r

namespace ScpUploader

variable {u : ScpUploader} {xs : List Exchange} {s : Site} {w : Shipping} {directory place : String}
  {p : Path}

/-- Two bare words and a text make a line of three words. -/
theorem splitWords_directory (directory : String) :
    Text.splitWords ("mkdir -p " ++ Text.quoteWord directory) = .ok ["mkdir", "-p", directory] := by
  rw [← Text.splitWords_joinWords]
  rfl

theorem splitWords_removal (place : String) :
    Text.splitWords ("rm -f " ++ Text.quoteWord place) = .ok ["rm", "-f", place] := by
  rw [← Text.splitWords_joinWords]
  rfl

theorem destination_of_text (hd : u.directory = .text directory) (hp : u.package = some p) :
    u.destination = .ok (Site.dropSlashes directory ++ "/" ++ p.name) := by
  unfold destination
  rw [hd, hp]

theorem Tracks.shellWord_directory (h : u.Tracks s xs w) (hd : u.directory = .text directory) :
    shellWord w.uploader.directory = .ok (Text.quoteWord directory) := by
  rw [h.same]
  show shellWord u.directory = _
  rw [hd, shellWord_text]

/-- The copy goes to the place that is its destination. -/
theorem Copies.copiesTo {x : Exchange} (h : u.Copies x.run.words) (hd : u.destination = .ok place) :
    u.CopiesTo x place := by
  obtain ⟨p, destination, -, hd', hwords⟩ := h
  obtain rfl : destination = place := Except.ok.inj (hd'.symm.trans hd)
  refine ⟨u.scpOptions.map Value.text ++ [.text p.text], hwords.trans ?_⟩
  unfold copyCommand
  rw [List.cons_append, List.cons_append, List.append_assoc]
  rfl

theorem fruitless_of_not_endedWell {a : CommandAnswer} (h : a.endedWell = false)
    (place : String) : Fruitless (a.outcome.map fun well => if well then .text place else .null) := by
  intro v hv
  rcases CommandAnswer.outcome_of_not_endedWell h with ⟨e, ho⟩ | ho <;> rw [ho] at hv
  · cases hv
  · exact (Except.ok.inj hv).symm

/-! ### An upload -/

/-- An upload begins with the line for the directory. -/
theorem Uploads.begins {ys : List Exchange} {r : Except Stop Value}
    (h : u.Uploads directory place ys r) (hne : ys ≠ []) :
    ∃ x rest, ys = x :: rest ∧ u.Orders x ["mkdir", "-p", directory] := by
  cases h with
  | idle _ => exact absurd rfl hne
  | refused hx _ _ => exact ⟨_, _, rfl, hx⟩
  | unnamed hx _ _ _ => exact ⟨_, _, rfl, hx⟩
  | lost hx _ _ _ _ => exact ⟨_, _, rfl, hx⟩
  | copied hx _ _ _ => exact ⟨_, _, rfl, hx⟩

/-- An upload that gives a locator ends with a copy, whose place is in the locator. -/
theorem Uploads.ends {ys : List Exchange} {locator : String}
    (h : u.Uploads directory place ys (.ok (.text locator))) :
    ∃ x y, ys = [x, y] ∧ u.CopiesTo y place ∧
      locator = "scp://" ++ u.scpConnection.plain ++ place := by
  generalize hr : (Except.ok (.text locator) : Except Stop Value) = r at h
  cases h with
  | idle hnone => cases hnone _ hr.symm
  | refused _ _ hnone => cases hnone _ hr.symm
  | unnamed _ _ _ hnone => cases hnone _ hr.symm
  | lost _ _ _ _ hnone => cases hnone _ hr.symm
  | copied _ _ hy _ => exact ⟨_, _, rfl, hy, Value.text.inj (Except.ok.inj hr)⟩

/-- Where the directory is there, the copy is tried if the connection has a text, and its place is known if
it ended well. -/
theorem leads_uploads_copy (h : u.Tracks s xs w) (hp : u.package = some p)
    (hd : u.destination = .ok place) {x : Exchange} (hx : u.Orders x ["mkdir", "-p", directory])
    (hwell : x.answer.endedWell = true) :
    ∃ r v ys, Leads (copy Shipping.sitePart Shipping.uploaderPart p) w r v ∧
      w.site.Exchanged ys v.site ∧ u.Uploads directory place (x :: ys) r := by
  have hconnection : w.uploader.scpConnection = u.scpConnection := by rw [h.same]
  cases hwritten : u.scpConnection.isWritable with
  | false =>
    have hnone : w.uploader.scpConnection.asText = .error (.badValue .tooLongForText) := by
      rw [hconnection]
      exact Value.asText_of_not_writable hwritten
    exact ⟨_, w, [], leads_copy_unplaced p (by rw [hnone]; rfl), .none,
      .unnamed hx hwell hwritten nofun⟩
  | true =>
    have hc : w.uploader.scpConnection.asText = .ok u.scpConnection.plain := by
      rw [hconnection]
      exact Value.asText_of_writable hwritten
    have hcopy := leads_copy p hc (h.destination.trans hd)
    rw [h.copyCommand] at hcopy
    have hto : u.CopiesTo ⟨w.commandRun (u.copyCommand p place), w.answer (u.copyCommand p place)⟩ place :=
      Copies.copiesTo ⟨p, place, hp, hd, rfl⟩ hd
    refine ⟨_, _, [⟨w.commandRun (u.copyCommand p place), w.answer (u.copyCommand p place)⟩], hcopy,
      Site.Exchanged.none.ran _, ?_⟩
    cases hcopied : (w.answer (u.copyCommand p place)).endedWell with
    | false => exact .lost hx hwell hto hcopied (fruitless_of_not_endedWell hcopied _)
    | true =>
      rw [(w.answer (u.copyCommand p place)).outcome_eq_ok_true_iff.mpr hcopied]
      exact .copied hx hwell hto hcopied

/-- With a text for the connection, every line can be handed over. -/
theorem commandLine_of_text {t : String} (ht : u.sshConnection = .text t) (line : String) :
    ∃ written, commandLine (u.overSsh line) = .ok written := by
  refine (commandLine_ok_iff _).mpr fun v hv => ?_
  simp only [overSsh, ht, List.cons_append, List.mem_cons, List.mem_append, List.mem_map] at hv
  rcases hv with rfl | ⟨t, -, rfl⟩ | rfl | rfl | hv
  · exact ⟨_, shellWord_text _⟩
  · exact ⟨_, shellWord_text _⟩
  · exact ⟨_, shellWord_text _⟩
  · exact ⟨_, shellWord_text _⟩
  · cases hv

/-- Where the line for the directory can be handed over, it is, and a copy is tried if that ends well. -/
theorem leads_uploads_directory (h : u.Tracks s xs w) (hd : u.directory = .text directory)
    (hp : u.package = some p) {written : String}
    (hline : commandLine (u.directoryCommand (Text.quoteWord directory)) = .ok written) :
    ∃ r v ys, Leads (do
        if ← makeDirectory Shipping.sitePart Shipping.uploaderPart then
          copy Shipping.sitePart Shipping.uploaderPart p
        else return .null) w r v ∧
      w.site.Exchanged ys v.site ∧
      u.Uploads directory (Site.dropSlashes directory ++ "/" ++ p.name) ys r ∧ ys ≠ [] := by
  have hsame := h.directoryCommand (Text.quoteWord directory)
  have hmake := leads_makeDirectory (h.shellWord_directory hd) (hsame ▸ hline)
  rw [hsame] at hmake
  have htrack := h.other (not_copies_overSsh _) (not_removes_directoryCommand (Text.quoteWord directory))
  have hran : w.site.Exchanged [_] (w.after (u.directoryCommand (Text.quoteWord directory))).site :=
    Site.Exchanged.none.ran (w.commandRun (u.directoryCommand (Text.quoteWord directory)))
  have hx : u.Orders ⟨w.commandRun (u.directoryCommand (Text.quoteWord directory)),
      w.answer (u.directoryCommand (Text.quoteWord directory))⟩ ["mkdir", "-p", directory] :=
    ⟨_, rfl, splitWords_directory directory⟩
  cases hwell : (w.answer (u.directoryCommand (Text.quoteWord directory))).endedWell with
  | false =>
    rcases CommandAnswer.outcome_of_not_endedWell hwell with ⟨e, ho⟩ | ho <;> rw [ho] at hmake
    · exact ⟨_, _, _, .bind_error hmake _, hran, .refused hx hwell nofun, List.cons_ne_nil _ _⟩
    · exact ⟨_, _, _, .bind hmake (.pure _ _), hran,
        .refused hx hwell fun v hv => (Except.ok.inj hv).symm, List.cons_ne_nil _ _⟩
  | true =>
    rw [CommandAnswer.outcome_eq_ok_true_iff _ |>.mpr hwell] at hmake
    obtain ⟨r, v, ys, hcopy, hexchanged, huploads⟩ :=
      leads_uploads_copy htrack hp (destination_of_text hd hp) hx hwell
    exact ⟨r, v, _, .bind hmake hcopy, hran.append hexchanged, huploads, List.cons_ne_nil _ _⟩

/-- The commands of an upload, and what it comes to. A package that is there is uploaded, if the connection
is a text. -/
theorem leads_uploads (h : u.Tracks s xs w) (hd : u.directory = .text directory)
    (hp : u.package = some p) :
    ∃ r v ys, Leads Shipping.sender.uploadPackage w r v ∧ w.site.Exchanged ys v.site ∧
      u.Uploads directory (Site.dropSlashes directory ++ "/" ++ p.name) ys r ∧
      (Leads (Site.isFile? p) w.site (.ok true) w.site → (∃ t, u.sshConnection = .text t) →
        ys ≠ []) := by
  have hpackage : w.uploader.package = some p := h.package.trans hp
  obtain ⟨r, hasked⟩ := Site.exists_leads_isFile? p w.site
  have hfile : Leads (Act.within Shipping.sitePart (Site.isFile? p)) w r w :=
    .within Shipping.sitePart hasked
  rcases r with e | _ | _
  · refine ⟨_, w, [], leads_upload hpackage (.bind_error hfile _), .none, .idle nofun,
      fun hthere => ?_⟩
    cases (hasked.result []).symm.trans (hthere.result [])
  · refine ⟨_, w, [], leads_upload hpackage (.bind hfile (.bind (.log _ _ _) (.pure _ _))), .none,
      .idle fun v hv => (Except.ok.inj hv).symm, fun hthere => ?_⟩
    cases (hasked.result []).symm.trans (hthere.result [])
  · cases hline : commandLine (u.directoryCommand (Text.quoteWord directory)) with
    | error f =>
      have hsame := h.directoryCommand (Text.quoteWord directory)
      have hmake := leads_makeDirectory_unwritten (h.shellWord_directory hd) (hsame ▸ hline)
      refine ⟨_, w, [], leads_upload hpackage (.bind hfile (.bind_error hmake _)), .none, .idle nofun,
        fun _ ⟨t, ht⟩ => ?_⟩
      obtain ⟨written, hwritten⟩ := commandLine_of_text ht ("mkdir -p " ++ Text.quoteWord directory)
      cases hline.symm.trans hwritten
    | ok written =>
      obtain ⟨r, v, ys, hrest, hexchanged, huploads, hne⟩ := leads_uploads_directory h hd hp hline
      exact ⟨r, v, ys, leads_upload hpackage (.bind hfile hrest), hexchanged, huploads,
        fun _ _ => hne⟩

/-! ### An undo -/

/-- The commands of an undo. It removes what a copy that ended well was made to. -/
theorem leads_retracts (h : u.Tracks s xs w) :
    ∃ r v zs, Leads Shipping.sender.undo w r v ∧ w.site.Exchanged zs v.site ∧ u.Retracts xs zs := by
  cases hmark : w.uploader.uploaded with
  | false =>
    refine ⟨_, w, [], leads_undo_idle hmark, .none, .idle fun hcopied => ?_⟩
    rw [h.uploaded_iff.mpr hcopied] at hmark
    cases hmark
  | true =>
    obtain ⟨destination, line, hd, hline⟩ := h.removable hmark
    have hsame := h.removalCommand destination
    obtain ⟨r, -, hundo⟩ := leads_undo hmark (h.destination.trans hd) (hsame ▸ hline)
    rw [hsame] at hundo
    obtain ⟨front, y, back, rfl, hcopies, hcopied, -⟩ := h.uploaded_iff.mp hmark
    have hmem : y ∈ front ++ y :: back := List.mem_append_right _ List.mem_cons_self
    exact ⟨r, _, _, hundo, Site.Exchanged.none.ran _,
      .removes hmem hcopied (hcopies.copiesTo hd) ⟨_, rfl, splitWords_removal destination⟩⟩

/-! ### After any calls -/

/-- For every uploader that was initialized with a text for the directory, whatever the texts of the
directory and of the package are, and after every row of calls: the line of an upload is read by the shell
of the other host as `mkdir`, `-p` and the directory, and that of an undo as `rm`, `-f` and the place that
the last word of a copy that ended well named after the connection. A call hands over no other line, and an
upload hands over its line if the package is there. -/
theorem lines_split {settings : Settings} {log : List Record} {c : Scene Shipping}
    (h : Act.run (Shipping.sender.configure settings) ⟨⟨s, {}⟩, log⟩ = (.ok (), c))
    (hd : c.world.uploader.directory = .text directory) (hp : c.world.uploader.package = some p)
    (calls : List (FileTree × DeliveryCall)) :
    let u := c.world.uploader
    let d := DeliveryCall.callAll calls c
    let upload := Act.run Shipping.sender.uploadPackage d
    let undo := Act.run Shipping.sender.undo d
    ∃ xs, c.world.site.Exchanged xs d.world.site ∧
      (∃ ys, d.world.site.Exchanged ys upload.2.world.site ∧
        u.Uploads directory (Site.dropSlashes directory ++ "/" ++ p.name) ys upload.1 ∧
        (Leads (Site.isFile? p) d.world.site (.ok true) d.world.site →
          (∃ t, u.sshConnection = .text t) → ys ≠ [])) ∧
      ∃ zs, d.world.site.Exchanged zs undo.2.world.site ∧ u.Retracts xs zs := by
  intro u d upload undo
  obtain ⟨xs, htrack⟩ := tracks_callAll calls (tracks_start (uploaded_of_configure h))
  refine ⟨xs, htrack.exchanged, ?_, ?_⟩
  · obtain ⟨r, v, ys, hupload, hexchanged, huploads, hne⟩ := leads_uploads htrack hd hp
    refine ⟨ys, ?_, ?_, hne⟩
    · rwa [← hupload.world d.log] at hexchanged
    · rwa [← hupload.result d.log] at huploads
  · obtain ⟨r, v, zs, hundo, hexchanged, hretracts⟩ := leads_retracts htrack
    refine ⟨zs, ?_, hretracts⟩
    rwa [← hundo.world d.log] at hexchanged

/-- Settings of an uploader to a host, with quotes, blanks and a line feed in the texts. -/
def oddSettings : Settings :=
  ⟨[(.text Key.scpConnection, .text "me@storage"), (.text Key.sshConnection, .text "me@storage"),
    (.text Key.scpDirectory, .text "it's; $HOME\n/"), (.text Key.packageFile, .text "/p q.tar")]⟩

/-- A site with a package whose name has a blank. -/
def siteWithOddPackage : Site := { tree := ⟨[(["p q.tar"], .file ⟨#[1]⟩)]⟩ }

/-- A directory with quotes, blanks and a line feed is made by a line of three words. -/
theorem lines_split_odd :
    ∃ c x ys, Act.run (Shipping.sender.configure oddSettings) ⟨⟨siteWithOddPackage, {}⟩, []⟩ = (.ok (), c) ∧
      c.world.site.Exchanged (x :: ys) (Act.run Shipping.sender.uploadPackage c).2.world.site ∧
      c.world.uploader.Orders x ["mkdir", "-p", "it's; $HOME\n/"] := by
  obtain ⟨c, hconf⟩ : ∃ c, Act.run (Shipping.sender.configure oddSettings)
      ⟨⟨siteWithOddPackage, {}⟩, []⟩ = (.ok (), c) := ⟨_, rfl⟩
  have hd : c.world.uploader.directory = .text "it's; $HOME\n/" := by cases hconf; rfl
  have hp : c.world.uploader.package = some ⟨"/", ["p q.tar"]⟩ := by cases hconf; rfl
  have hthere : Leads (Site.isFile? ⟨"/", ["p q.tar"]⟩) c.world.site (.ok true) c.world.site := by
    cases hconf
    exact fun log => ⟨log, rfl⟩
  have hssh : ∃ t, c.world.uploader.sshConnection = .text t := by cases hconf; exact ⟨_, rfl⟩
  obtain ⟨xs, -, ⟨ys, hexchanged, huploads, hne⟩, -⟩ := lines_split hconf hd hp []
  obtain ⟨x, rest, rfl, hx⟩ := huploads.begins (hne hthere hssh)
  exact ⟨c, x, rest, hconf, hexchanged, hx⟩

end ScpUploader

end TopologySubmission
