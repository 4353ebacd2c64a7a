import Mathlib.Data.List.DropRight
import TopologySubmission.Proofs.Plugin.RemoteLine

/-!
# Locators of copies

A locator is the word `scp://`, the connection and the place of the copy, one after the other. It is read
back at the first slash after the word. For a directory that begins with a slash this gives the connection
and the place again. For any other directory nothing parts the connection and the place, so what is read
back is a longer connection and the rest of the place:

    what is read back, for every place                          (parts?_locator)
    the connection and the place are read back exactly if the directory begins with a slash
                                                                (locator_identifies_iff)
    two copies at two places with one locator                   (locator_shared)
-/

namespace TopologySubmission

open Act (Leads)

/-! ## Algorithm -/

namespace ScpUploader

/-- What a locator is read as: the text up to the next slash, and the rest. -/
def parts? (locator : String) : Option (String × String) :=
  match locator.toList with
  | 's' :: 'c' :: 'p' :: ':' :: '/' :: '/' :: rest =>
    some (.ofList (rest.takeWhile (· != '/')), .ofList (rest.dropWhile (· != '/')))
  | _ => none

/-- The text begins with a slash. -/
def IsRooted (s : String) : Prop := s.toList.head? = some '/'

/-- The last word of the last command of a site. -/
def lastWord? (s : Site) : Option Value := s.commands.getLast?.bind (·.words.getLast?)

/-- An uploader that was initialized with a connection and a directory, and then called in any way, copies
to a place and returns a locator. The place is what the last command names after the connection. -/
def Delivers (connection directory place locator : String) : Prop :=
  ∃ (settings : Settings) (s : Site) (log : List Record) (c : Scene Shipping)
    (calls : List (FileTree × DeliveryCall)),
    Act.run (Shipping.sender.configure settings) ⟨⟨s, {}⟩, log⟩ = (.ok (), c) ∧
    c.world.uploader.scpConnection.plain = connection ∧
    c.world.uploader.directory = .text directory ∧
    let upload := Act.run Shipping.sender.uploadPackage (DeliveryCall.callAll calls c)
    upload.1 = .ok (.text locator) ∧
      lastWord? upload.2.world.site = some (.text (connection ++ ":" ++ place))

end ScpUploader

/-! ## Lemmas -/

namespace ScpUploader

variable {connection directory place locator : String}

/-! ### Reading a locator -/

/-- Whatever the place is, the connection is read up to the first slash of the place. -/
theorem parts?_locator (h : '/' ∉ connection.toList) (place : String) :
    parts? ("scp://" ++ connection ++ place) =
      some (connection ++ .ofList (place.toList.takeWhile (· != '/')),
        .ofList (place.toList.dropWhile (· != '/'))) := by
  have hplain : ∀ c ∈ connection.toList, (c != '/') = true := fun c hc =>
    bne_iff_ne.mpr fun he => h (he ▸ hc)
  have hlist : ("scp://" ++ connection ++ place).toList =
      's' :: 'c' :: 'p' :: ':' :: '/' :: '/' :: (connection.toList ++ place.toList) := by
    simp
  unfold parts?
  rw [hlist]
  show some (String.ofList ((connection.toList ++ place.toList).takeWhile (· != '/')),
    String.ofList ((connection.toList ++ place.toList).dropWhile (· != '/'))) = _
  rw [List.takeWhile_append_of_pos hplain, List.dropWhile_append_of_pos hplain, String.ofList_append,
    String.ofList_toList]

theorem IsRooted.ne_empty {s : String} (h : IsRooted s) : s ≠ "" := by
  rintro rfl
  cases h

/-- A directory and the place in it begin alike. -/
theorem isRooted_place (h : directory ≠ "") (name : String) :
    IsRooted (Site.dropSlashes directory ++ "/" ++ name) ↔ IsRooted directory := by
  have hdropped : (Site.dropSlashes directory).toList = directory.toList.rdropWhile (· == '/') :=
    String.toList_ofList
  have hlist : (Site.dropSlashes directory ++ "/" ++ name).toList =
      directory.toList.rdropWhile (· == '/') ++ '/' :: name.toList := by
    simp [← hdropped]
  obtain ⟨c, rest, hc⟩ := List.exists_cons_of_ne_nil (mt String.toList_eq_nil_iff.mp h)
  unfold IsRooted
  rw [hlist, hc]
  cases hkept : (c :: rest).rdropWhile (· == '/') with
  | nil =>
    -- a directory of slashes alone
    have hslash : c = '/' := by
      simpa using List.rdropWhile_eq_nil_iff.mp hkept c List.mem_cons_self
    simp [hslash]
  | cons first kept =>
    obtain ⟨dropped, hsplit⟩ := List.rdropWhile_prefix (· == '/') (l := c :: rest)
    rw [hkept, List.cons_append, List.cons.injEq] at hsplit
    simp [hsplit.1]

/-- The connection and the place are read back exactly if the place begins with a slash. -/
theorem parts?_eq_iff (h : '/' ∉ connection.toList) (hplace : place ≠ "") :
    parts? ("scp://" ++ connection ++ place) = some (connection, place) ↔ IsRooted place := by
  obtain ⟨c, rest, hc⟩ := List.exists_cons_of_ne_nil (mt String.toList_eq_nil_iff.mp hplace)
  rw [parts?_locator h]
  unfold IsRooted
  by_cases hslash : c = '/'
  · have hplaced : String.ofList ('/' :: rest) = place := by rw [← hslash, ← hc, String.ofList_toList]
    simp [hc, hslash, hplaced]
  · simp [hc, hslash]

/-! ### Locators of copies -/

/-- The locator of a copy is made of the connection and the place, and the place of the directory. -/
theorem Delivers.locator_eq (h : Delivers connection directory place locator) :
    locator = "scp://" ++ connection ++ place ∧
      ∃ name, place = Site.dropSlashes directory ++ "/" ++ name := by
  obtain ⟨settings, s, log, c, calls, hconf, rfl, hd, hlocator, hlast⟩ := h
  obtain ⟨xs, htrack⟩ := tracks_callAll calls (tracks_start (uploaded_of_configure hconf))
  cases hp : c.world.uploader.package with
  | none =>
    have hupload := leads_upload_unknown (htrack.package.trans hp)
    cases (hupload.result _).symm.trans hlocator
  | some p =>
    obtain ⟨r, v, ys, hupload, hexchanged, huploads, -⟩ := leads_uploads htrack hd hp
    obtain rfl : r = .ok (.text locator) := (hupload.result _).symm.trans hlocator
    obtain ⟨x, y, rfl, ⟨front, hwords⟩, hmade⟩ := huploads.ends
    have hcommands := hexchanged.commands
    rw [← hupload.world (DeliveryCall.callAll calls c).log] at hcommands
    unfold lastWord? at hlast
    rw [hcommands, List.map_cons, List.map_cons, List.map_nil, List.append_cons,
      List.getLast?_concat, Option.bind_some, hwords, List.getLast?_concat, Option.some.injEq,
      Value.text.injEq, String.append_right_inj] at hlast
    rw [← hlast]
    exact ⟨hmade, p.name, rfl⟩

/-- The connection and the place are read back exactly if the directory begins with a slash. -/
theorem Delivers.parts?_iff (h : Delivers connection directory place locator)
    (hconnection : '/' ∉ connection.toList) (hdirectory : directory ≠ "") :
    parts? locator = some (connection, place) ↔ IsRooted directory := by
  obtain ⟨rfl, name, rfl⟩ := h.locator_eq
  have hplace : Site.dropSlashes directory ++ "/" ++ name ≠ "" := by
    intro he
    simpa using congrArg String.toList he
  rw [parts?_eq_iff hconnection hplace, isRooted_place hdirectory]

/-- A locator for another directory is read as a longer connection. -/
theorem Delivers.parts?_of_not_rooted (h : Delivers connection directory place locator)
    (hconnection : '/' ∉ connection.toList) (hdirectory : directory ≠ "")
    (hrelative : ¬ IsRooted directory) : ∃ more rest, more ≠ "" ∧ place = more ++ rest ∧
      parts? locator = some (connection ++ more, rest) := by
  have hread := parts?_locator hconnection place
  rw [← h.locator_eq.1] at hread
  refine ⟨_, _, fun hmore => hrelative ?_, ?_, hread⟩
  · rw [hmore, String.append_empty] at hread
    refine (h.parts?_iff hconnection hdirectory).mp (hread.trans ?_)
    have hall := List.takeWhile_append_dropWhile (p := (· != '/')) (l := place.toList)
    rw [String.ofList_eq_empty_iff.mp hmore, List.nil_append] at hall
    rw [hall, String.ofList_toList]
  · rw [← String.ofList_append, List.takeWhile_append_dropWhile, String.ofList_toList]

/-- The connection and the place of a copy are read back from its locator exactly if its directory begins
with a slash; else a longer connection is. Two copies into directories that begin with a slash have one
locator only if they have one connection and one place. -/
theorem locator_identifies_iff (h : Delivers connection directory place locator)
    (hconnection : '/' ∉ connection.toList) (hdirectory : directory ≠ "") :
    locator = "scp://" ++ connection ++ place ∧
      (parts? locator = some (connection, place) ↔ IsRooted directory) ∧
      (¬ IsRooted directory → ∃ more rest, more ≠ "" ∧ place = more ++ rest ∧
        parts? locator = some (connection ++ more, rest)) ∧
      ∀ {connection' directory' place' locator'},
        Delivers connection' directory' place' locator' → '/' ∉ connection'.toList →
        IsRooted directory → IsRooted directory' → locator = locator' →
          connection = connection' ∧ place = place' := by
  have hiff := h.parts?_iff hconnection hdirectory
  refine ⟨h.locator_eq.1, hiff, h.parts?_of_not_rooted hconnection hdirectory,
    fun h' hconnection' hrooted hrooted' hsame => ?_⟩
  have hdirectory' := IsRooted.ne_empty hrooted'
  have hread := (h'.parts?_iff hconnection' hdirectory').mpr hrooted'
  rw [← hsame, hiff.mpr hrooted] at hread
  exact Prod.mk.inj (Option.some.inj hread)

/-- Settings of an uploader to a host, for a connection and a directory. -/
def settingsFor (connection directory : String) : Settings :=
  ⟨[(.text Key.scpConnection, .text connection), (.text Key.sshConnection, .text connection),
    (.text Key.scpDirectory, .text directory), (.text Key.packageFile, .text "/p.tar")]⟩

/-- The uploader with those settings. -/
def uploaderFor (connection directory : String) : ScpUploader :=
  { hostUploader with
    scpConnection := .text connection
    sshConnection := .text connection
    directory := .text directory }

/-- Where all commands end well, a copy is made. -/
theorem delivers_for (hconf : Act.run (Shipping.sender.configure (settingsFor connection directory))
      ⟨⟨siteWithPackage [], {}⟩, []⟩ =
        (.ok (), ⟨⟨siteWithPackage [], uploaderFor connection directory⟩, []⟩))
    (hplace : Site.dropSlashes directory ++ "/" ++ "p.tar" = place)
    (hlocator : "scp://" ++ connection ++ place = locator) :
    Delivers connection directory place locator := by
  let w : Shipping := ⟨siteWithPackage [], uploaderFor connection directory⟩
  obtain ⟨line, hline⟩ :
      ∃ line, commandLine (w.uploader.directoryCommand (Text.quoteWord directory)) = .ok line :=
    commandLine_of_text rfl _
  have hfile : Leads (Act.within Shipping.sitePart (Site.isFile? ⟨"/", ["p.tar"]⟩)) w (.ok true) w :=
    fun log => ⟨log, rfl⟩
  have hmade : Leads (makeDirectory Shipping.sitePart Shipping.uploaderPart) w (.ok true)
      (w.after (w.uploader.directoryCommand (Text.quoteWord directory))) :=
    leads_makeDirectory (shellWord_text directory) hline
  have hupload := leads_upload rfl (.bind hfile (.bind hmade (leads_copy _ rfl rfl)))
  refine ⟨settingsFor connection directory, siteWithPackage [], [], _, [], hconf, rfl, rfl, ?_, ?_⟩
  · rw [← hlocator, ← hplace]
    exact hupload.result []
  · show lastWord? (Act.run Shipping.sender.uploadPackage ⟨w, []⟩).2.world.site = _
    rw [hupload.world [], ← hplace]
    rfl

/-- A copy into a directory that begins with a slash is known by its locator. -/
theorem locator_identifies_iff_rooted :
    Delivers "me@host" "/data/" "/data/p.tar" "scp://me@host/data/p.tar" ∧
      parts? "scp://me@host/data/p.tar" = some ("me@host", "/data/p.tar") := by
  have h : Delivers "me@host" "/data/" "/data/p.tar" "scp://me@host/data/p.tar" :=
    delivers_for rfl (by decide) (by decide)
  exact ⟨h, (locator_identifies_iff h (by decide) (by decide)).2.1.mpr rfl⟩

/-- Two copies at two places have one locator, from which the first one is not read back. -/
theorem locator_shared :
    Delivers "me@host" "data" "data/p.tar" "scp://me@hostdata/p.tar" ∧
      Delivers "me@hostdata" "/" "/p.tar" "scp://me@hostdata/p.tar" ∧
      parts? "scp://me@hostdata/p.tar" ≠ some ("me@host", "data/p.tar") :=
  ⟨delivers_for rfl (by decide) (by decide), delivers_for rfl (by decide) (by decide), by decide⟩

end ScpUploader

end TopologySubmission
