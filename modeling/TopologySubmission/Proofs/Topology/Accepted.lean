import Mathlib.Data.List.TakeWhile
import TopologySubmission.Proofs.Packing.Declared
import TopologySubmission.Proofs.Value.Plain

/-!
# What a definition has to be

A definition is a mapping with an id, a plain name, two lists of components that may be left out, and
settings that may be left out. What that is, is said here apart from the code, as `IsDefinition`; the
names that are allowed are a parameter. The end of a line counts as the end of a name, so a name with a
line feed behind it is let through. An integer with too many digits in a text that is needed ends in a
failure of its own:

    a name is a plain name, or a plain text and a line feed       (isName_iff)
    an entry is completed exactly if it is a component      (completeComponent_judges)
    what is accepted is a definition, else it is refused as one       (ofDefinition_judges)
    a name with a line feed is accepted           (ofDefinition_accepts_lineFeed)
    an id with too many digits fails in its own way       (ofDefinition_longId)
-/

namespace TopologySubmission

variable {α β : Type}

/-! ## Algorithm -/

/-- A result is given exactly if a condition holds. Otherwise a definition is refused, unless a text that
is needed is too long. -/
structure Judges (r : Except Failure α) (accepted long : Prop) : Prop where
  result : (∃ a, r = .ok a) ↔ accepted
  failure : ∀ f, r = .error f →
    f.kind = .submission .topologyDefinition ∨ f = .badValue .tooLongForText ∧ long

namespace Topology

/-- A letter or a digit of ASCII, or one of three signs. -/
def IsPlainChar (c : Char) : Prop :=
  ('a' ≤ c ∧ c ≤ 'z') ∨ ('A' ≤ c ∧ c ≤ 'Z') ∨ ('0' ≤ c ∧ c ≤ '9') ∨ c = '_' ∨ c = '.' ∨ c = '-'

def IsPlain (s : String) : Prop := s ≠ "" ∧ ∀ c ∈ s.toList, IsPlainChar c

/-- A plain text that is not one of the two names that stand for directories. -/
def IsPlainName (s : String) : Prop := IsPlain s ∧ s ≠ "." ∧ s ≠ ".."

/-- A plain text with a line feed behind it. -/
def IsPlainLine (s : String) : Prop := ∃ t, IsPlain t ∧ s = t ++ "\n"

/-- A mapping with a name, whose parallelism is one or more where it is said. -/
def IsComponent (v : Value) : Prop :=
  ∃ es, v.entries? = some es ∧ (∃ name, es.getText? "name" = some name) ∧
    ∀ p, es.getText? "parallelism" = some p → ∃ n : Int, p = .int n ∧ 1 ≤ n

/-- What stands under a kind, where anything does, is a list of components. -/
def ListsComponents (es : Entries) (kind : String) : Prop :=
  ∀ v, es.getText? kind = some v → ∃ xs, v = .list xs ∧ ∀ x ∈ xs, IsComponent x

/-- A value that is true stands under a key, and its text is as demanded. -/
def Heads (es : Entries) (key : String) (demand : String → Prop) : Prop :=
  ∃ v, es.getText? key = some v ∧ v.isTruthy = true ∧ demand v.plain

/-- The entries define a topology, if the names that `named` tells are names. -/
structure IsDefinition (named : String → Prop) (es : Entries) : Prop where
  spouts : ListsComponents es "spouts"
  bolts : ListsComponents es "bolts"
  settings : ∀ v, es.getText? "config" = some v → ∃ fs, v.entries? = some fs
  id : Heads es "id" fun _ => True
  name : Heads es "name" named

/-- What stands under a key can be written, if it has to be. -/
def HeadingFits (es : Entries) (key : String) : Prop :=
  ∀ v, es.getText? key = some v → v.isTruthy = true → v.isWritable = true

/-- The name of a component that stands under a kind cannot be written. -/
def HoldsLongName (es : Entries) (kind : String) : Prop :=
  ∃ xs, es.getText? kind = some (.list xs) ∧ ∃ x ∈ xs, ∃ fs name, x.entries? = some fs ∧
    fs.getText? "name" = some name ∧ name.isWritable = false

/-- Some text of a definition cannot be written. -/
def HoldsLongText (es : Entries) : Prop :=
  HoldsLongName es "spouts" ∨ HoldsLongName es "bolts" ∨ ¬HeadingFits es "id" ∨
    ¬HeadingFits es "name"

/-- A definition whose name ends in a line feed. -/
def namedWithLineFeed : Value := .map [(.text "id", .text "x"), (.text "name", .text "n\n")]

end Topology

/-! ## Lemmas -/

/-! ### Computations that refuse -/

namespace Judges

variable {r : Except Failure α} {A B L M : Prop}

theorem accept (a : α) (h : A) : Judges (.ok a) A L :=
  ⟨iff_of_true ⟨a, rfl⟩ h, fun _ hf => nomatch hf⟩

theorem refuse (message : String) (h : ¬A) :
    Judges (.error (.definition message) : Except Failure α) A L :=
  ⟨iff_of_false (fun ⟨_, hr⟩ => nomatch hr) h, fun _ hf => by cases hf; exact .inl rfl⟩

theorem tooLong (h : ¬A) (hl : L) :
    Judges (.error (.badValue .tooLongForText) : Except Failure α) A L :=
  ⟨iff_of_false (fun ⟨_, hr⟩ => nomatch hr) h, fun _ hf => by cases hf; exact .inr ⟨rfl, hl⟩⟩

theorem congr (h : Judges r A L) (hA : A ↔ B) : Judges r B L := ⟨h.result.trans hA, h.failure⟩

theorem mono (h : Judges r A L) (hL : L → M) : Judges r A M :=
  ⟨h.result, fun f hf => (h.failure f hf).imp_right fun ⟨he, hl⟩ => ⟨he, hL hl⟩⟩

/-- Both computations have their say. The second one may count on what the first one gave. -/
theorem bind {g : α → Except Failure β} (h : Judges r A L)
    (hg : ∀ a, r = .ok a → Judges (g a) B L) : Judges (r >>= g) (A ∧ B) L := by
  cases r with
  | error f =>
    refine ⟨iff_of_false (fun ⟨_, hb⟩ => nomatch hb) fun hab => ?_, fun e he => ?_⟩
    · obtain ⟨a, ha⟩ := h.result.mpr hab.1
      cases ha
    · cases he
      exact h.failure f rfl
  | ok a =>
    have hA : A := h.result.mp ⟨a, rfl⟩
    exact (hg a rfl).congr (and_iff_right hA).symm

theorem mapM {f : α → Except Failure β} {C N : α → Prop} (h : ∀ x, Judges (f x) (C x) (N x))
    (xs : List α) : Judges (xs.mapM f) (∀ x ∈ xs, C x) (∃ x ∈ xs, N x) := by
  induction xs with
  | nil =>
    rw [List.mapM_nil]
    exact accept [] fun x hx => nomatch hx
  | cons x xs ih =>
    rw [List.mapM_cons]
    have hhead := (h x).mono fun hn => (⟨x, List.mem_cons_self, hn⟩ : ∃ y ∈ x :: xs, N y)
    have htail := ih.mono fun ⟨y, hy, hn⟩ =>
      (⟨y, List.mem_cons_of_mem x hy, hn⟩ : ∃ y ∈ x :: xs, N y)
    have hboth := hhead.bind fun y _ => htail.bind fun ys _ => accept (y :: ys) trivial
    exact hboth.congr (by rw [and_true, List.forall_mem_cons])

end Judges

namespace Topology

/-! ### Names -/

theorem isNameChar_iff (c : Char) : isNameChar c = true ↔ IsPlainChar c := by
  -- capitals, small letters and digits by their numbers
  have hclasses : isNameChar c = ((decide (65 ≤ c.val ∧ c.val ≤ 90) ||
      (decide (97 ≤ c.val) && decide (c.val ≤ 122)) || (decide (48 ≤ c.val) && decide (c.val ≤ 57))) ||
      c == '_' || c == '.' || c == '-') := rfl
  simp only [hclasses, IsPlainChar, Bool.or_eq_true, Bool.and_eq_true, decide_eq_true_eq, beq_iff_eq,
    Char.le_def]
  grind

/-- A line is one of name characters, and a line feed may stand behind them. -/
theorem isNameLine_iff (cs : List Char) :
    isNameLine cs = true ↔
      ∃ ds, ds ≠ [] ∧ (∀ c ∈ ds, isNameChar c = true) ∧ (cs = ds ∨ cs = ds ++ ['\n']) := by
  have hsplit := List.takeWhile_append_dropWhile (p := isNameChar) (l := cs)
  unfold isNameLine
  constructor
  · intro h
    refine ⟨cs.takeWhile isNameChar, ?_, fun c hc => List.mem_takeWhile_imp hc, ?_⟩
    · rintro hnil
      rw [hnil] at h
      split at h <;> cases h
    · split at h
      · next hrest => exact .inl (by rw [hrest, List.append_nil] at hsplit; exact hsplit.symm)
      · next hrest => exact .inr (by rw [hrest] at hsplit; exact hsplit.symm)
      · cases h
  · rintro ⟨ds, hne, hall, rfl | rfl⟩
    · rw [List.dropWhile_eq_nil_iff.mpr hall, List.takeWhile_eq_self_iff.mpr hall]
      simpa using hne
    · rw [List.dropWhile_append_of_pos hall, List.takeWhile_append_of_pos hall]
      simpa [show isNameChar '\n' = false by decide] using hne

theorem isPlain_iff (s : String) :
    IsPlain s ↔ s.toList ≠ [] ∧ ∀ c ∈ s.toList, isNameChar c = true := by
  simp only [IsPlain, isNameChar_iff, ne_eq, String.toList_eq_nil_iff]

/-- What the program takes for a name is a plain name, or a plain text and a line feed. -/
theorem isName_iff (s : String) : isName s = true ↔ IsPlainName s ∨ IsPlainLine s := by
  simp only [isName, Bool.and_eq_true, bne_iff_ne, ne_eq, isNameLine_iff]
  constructor
  · rintro ⟨⟨⟨ds, hne, hall, hs | hs⟩, hdot⟩, hup⟩
    · exact .inl ⟨(isPlain_iff s).mpr (hs ▸ ⟨hne, hall⟩), hdot, hup⟩
    · refine .inr ⟨String.ofList ds, (isPlain_iff _).mpr ?_, ?_⟩
      · rw [String.toList_ofList]
        exact ⟨hne, hall⟩
      · rw [← String.toList_inj, hs, String.toList_append, String.toList_ofList]
        rfl
  · rintro (⟨hplain, hdot, hup⟩ | ⟨t, ht, rfl⟩)
    · obtain ⟨hne, hall⟩ := (isPlain_iff s).mp hplain
      exact ⟨⟨⟨s.toList, hne, hall, .inl rfl⟩, hdot⟩, hup⟩
    · obtain ⟨hne, hall⟩ := (isPlain_iff t).mp ht
      -- neither of the two directories has a line feed in its name
      have hfeed : '\n' ∈ (t ++ "\n").toList := by simp
      refine ⟨⟨⟨t.toList, hne, hall, .inr (String.toList_append)⟩, ?_⟩, ?_⟩ <;>
      · intro he
        rw [he] at hfeed
        revert hfeed
        decide

/-! ### Components -/

theorem parallelism?_eq_none {v : Value} (h : parallelism? v = none) (n : Int) (hv : v = .int n) :
    ¬1 ≤ n := by
  subst hv
  unfold parallelism? at h
  dsimp only at h
  split at h
  · cases h
  · assumption

theorem asText_judges (v : Value) {L : Prop} (hL : v.isWritable = false → L) :
    Judges v.asText (v.isWritable = true) L := by
  unfold Value.asText
  split
  · next h => exact .accept _ h
  · next h => exact .tooLong h (hL (Bool.not_eq_true _ ▸ h))

/-- An entry is completed exactly if it is a component. The name of another one goes into a message. -/
theorem completeComponent_judges (kind : String) (v : Value) :
    Judges (completeComponent kind v) (IsComponent v) (∃ fs name, v.entries? = some fs ∧
      fs.getText? "name" = some name ∧ name.isWritable = false) := by
  unfold completeComponent
  split
  · next hnone =>
    refine .refuse _ ?_
    rintro ⟨es, hes, -⟩
    cases hnone.symm.trans hes
  · next es hes =>
    split
    · next hnone =>
      refine .refuse _ ?_
      rintro ⟨es', hes', ⟨name, hname⟩, -⟩
      obtain rfl := Option.some.inj (hes.symm.trans hes')
      cases hnone.symm.trans hname
    · next name hname =>
      split
      · next n hn =>
        refine .accept _ ⟨es, hes, ⟨name, hname⟩, fun p hp => ?_⟩
        rw [hp] at hn
        exact ⟨n, eq_int_of_parallelism? hn⟩
      · next hnone =>
        have hno : ¬IsComponent v := by
          rintro ⟨es', hes', -, hcount⟩
          obtain rfl := Option.some.inj (hes.symm.trans hes')
          cases hp : es.getText? "parallelism" with
          | none =>
            rw [hp] at hnone
            cases hnone
          | some p =>
            obtain ⟨n, rfl, hpos⟩ := hcount p hp
            rw [hp] at hnone
            exact parallelism?_eq_none hnone n rfl hpos
        have hshown := asText_judges name fun hlong => (⟨es, name, hes, hname, hlong⟩ :
          ∃ fs name, v.entries? = some fs ∧ fs.getText? "name" = some name ∧
            name.isWritable = false)
        exact (hshown.bind fun s _ => .refuse _ not_false).congr (iff_of_false And.right hno)

/-- The entries of a kind are completed exactly if they are components. -/
theorem completeKind_judges {es body : Entries} {kind : String}
    (h : body.getText? kind = es.getText? kind) :
    Judges (completeKind body kind) (ListsComponents es kind) (HoldsLongName es kind) := by
  unfold completeKind
  rw [h]
  cases hkind : es.getText? kind with
  | none => exact .accept _ fun v hv => nomatch hkind.symm.trans hv
  | some v =>
    have hlists : ListsComponents es kind ↔ ∃ xs, v = .list xs ∧ ∀ x ∈ xs, IsComponent x :=
      ⟨fun hes => hes v hkind, fun hv w hw => Option.some.inj (hkind.symm.trans hw) ▸ hv⟩
    cases v with
    | list xs =>
      have hentries := (Judges.mapM (completeComponent_judges kind) xs).mono fun hl =>
        (⟨xs, hkind, hl⟩ : HoldsLongName es kind)
      refine Judges.congr (hentries.bind fun ys _ => .accept _ trivial) ?_
      simp [hlists]
    | _ => exact .refuse _ (by simp [hlists])

/-! ### Headings and the whole definition -/

theorem headingText_judges (es : Entries) (key : String) {L : Prop} (hL : ¬HeadingFits es key → L) :
    Judges (headingText es key) (HeadingFits es key) L := by
  unfold headingText
  cases hkey : es.getText? key with
  | none => exact .accept _ fun v hv => nomatch hkey.symm.trans hv
  | some v =>
    dsimp only
    by_cases htrue : v.isTruthy = true
    · rw [if_pos htrue]
      have hfits : HeadingFits es key ↔ v.isWritable = true :=
        ⟨fun hf => hf v hkey htrue, fun hv w hw _ => Option.some.inj (hkey.symm.trans hw) ▸ hv⟩
      refine (asText_judges v fun hlong => hL ?_).congr hfits.symm
      rw [hfits, hlong]
      nofun
    · rw [if_neg htrue]
      refine .accept _ fun w hw hwtrue => ?_
      obtain rfl := Option.some.inj (hkey.symm.trans hw)
      exact absurd hwtrue htrue

/-- What holds of the text of a heading, and not of the empty text, is what the value is demanded. -/
theorem heads_iff {es : Entries} {key s : String} {demand : String → Prop}
    (h : headingText es key = .ok s) (hempty : ¬demand "") : Heads es key demand ↔ demand s := by
  unfold headingText at h
  cases hkey : es.getText? key with
  | none =>
    rw [hkey] at h
    obtain rfl := Except.ok.inj h
    exact iff_of_false (fun ⟨_, hv, _⟩ => nomatch hkey.symm.trans hv) hempty
  | some v =>
    have hheads : Heads es key demand ↔ v.isTruthy = true ∧ demand v.plain :=
      ⟨fun ⟨w, hw, hwd⟩ => Option.some.inj (hkey.symm.trans hw) ▸ hwd, fun hv => ⟨v, hkey, hv⟩⟩
    rw [hkey] at h
    dsimp only at h
    rw [hheads]
    split at h
    · next htrue =>
      unfold Value.asText at h
      split at h
      · obtain rfl := Except.ok.inj h
        exact and_iff_right htrue
      · cases h
    · next htrue =>
      obtain rfl := Except.ok.inj h
      exact iff_of_false (fun hv => htrue hv.1) hempty

theorem make_judges (id name : String) (body : Value) (L : Prop) :
    Judges (make (.text id) (.text name) body) (id ≠ "" ∧ isName name = true) L := by
  by_cases hid : id = ""
  · subst hid
    exact .refuse _ fun h => h.1 rfl
  by_cases hname : name = ""
  · subst hname
    have hmake : make (.text id) (.text "") body =
        .error (.definition "Topology name is required") := by
      simp [make, Value.isTruthy, hid, bind, Except.bind, throw, throwThe, MonadExceptOf.throw]
    rw [hmake]
    exact .refuse _ fun h => nomatch h.2
  have hmake : make (.text id) (.text name) body = (do
      let checked ← checkName (.text name)
      return { id := .text id, name := checked, body := body.freeze }) := by
    simp [make, Value.isTruthy, hid, hname, bind, Except.bind]
  rw [hmake]
  have hcheck : Judges (checkName (.text name)) (isName name = true) L := by
    unfold checkName
    dsimp only
    split
    · next h => exact .accept _ h
    · next h => exact .refuse _ h
  refine (hcheck.bind fun checked _ => .accept _ trivial).congr ?_
  rw [and_true, and_iff_right hid]

theorem completeKinds_judges {es body : Entries}
    (h : ∀ kind ∈ componentKinds, body.getText? kind = es.getText? kind) :
    Judges (componentKinds.foldlM completeKind body)
      (ListsComponents es "spouts" ∧ ListsComponents es "bolts") (HoldsLongText es) := by
  have hspouts := (completeKind_judges (h "spouts" (by decide))).mono fun hl =>
    (.inl hl : HoldsLongText es)
  rw [componentKinds, List.foldlM_cons]
  refine hspouts.bind fun body₁ hbody₁ => ?_
  obtain ⟨xs, ys, -, -, rfl⟩ := completeKind_eq_ok hbody₁
  -- the spouts are completed in their place, so the bolts are still those that were given
  have hsame : (body.insertText "spouts" (.list ys)).getText? "bolts" = es.getText? "bolts" := by
    rw [getText?_insertText, if_neg (by decide), h "bolts" (by decide)]
  have hbolts := (completeKind_judges hsame).mono fun hl => (.inr (.inl hl) : HoldsLongText es)
  rw [List.foldlM_cons]
  exact (hbolts.bind fun body₂ _ => .accept body₂ trivial).congr (iff_of_eq (and_true _))

/-- Completing the components leaves everything else. -/
theorem getText?_of_completeKinds {body body' : Entries} {key : String}
    (h : componentKinds.foldlM completeKind body = .ok body') (hkey : key ∉ componentKinds) :
    body'.getText? key = body.getText? key := by
  obtain ⟨body₁, h₁, h⟩ := bind_eq_ok_iff.mp h
  obtain ⟨body₂, h₂, h⟩ := bind_eq_ok_iff.mp h
  obtain rfl := Except.ok.inj h
  obtain ⟨_, _, -, -, rfl⟩ := completeKind_eq_ok h₁
  obtain ⟨_, _, -, -, rfl⟩ := completeKind_eq_ok h₂
  simp only [componentKinds, List.mem_cons, List.not_mem_nil, or_false, not_or] at hkey
  rw [getText?_insertText, if_neg (Ne.symm hkey.2), getText?_insertText, if_neg (Ne.symm hkey.1)]

theorem settings_iff (o : Option Value) :
    ((o.getD (.map [])).entries?).isNone = false ↔ ∀ v, o = some v → ∃ fs, v.entries? = some fs := by
  cases o with
  | none => exact iff_of_true rfl fun v hv => nomatch hv
  | some v => simp [Option.isSome_iff_exists]

/-- A definition is what the steps of the program ask for, one by one. -/
theorem isDefinition_iff (es : Entries) :
    IsDefinition (fun s => IsPlainName s ∨ IsPlainLine s) es ∧ HeadingFits es "id" ∧
        HeadingFits es "name" ↔
      (ListsComponents es "spouts" ∧ ListsComponents es "bolts") ∧
        (∀ v, es.getText? "config" = some v → ∃ fs, v.entries? = some fs) ∧
        HeadingFits es "id" ∧ HeadingFits es "name" ∧
        Heads es "id" (· ≠ "") ∧ Heads es "name" (isName · = true) := by
  have hid : Heads es "id" (· ≠ "") ↔ Heads es "id" fun _ => True :=
    ⟨fun ⟨v, hv, htrue, _⟩ => ⟨v, hv, htrue, trivial⟩,
      fun ⟨v, hv, htrue, _⟩ => ⟨v, hv, htrue, Value.plain_ne_empty htrue⟩⟩
  simp only [isName_iff, hid]
  constructor
  · rintro ⟨⟨hspouts, hbolts, hsettings, hid, hname⟩, hfits, hnamefits⟩
    exact ⟨⟨hspouts, hbolts⟩, hsettings, hfits, hnamefits, hid, hname⟩
  · rintro ⟨⟨hspouts, hbolts⟩, hsettings, hfits, hnamefits, hid, hname⟩
    exact ⟨⟨hspouts, hbolts, hsettings, hid, hname⟩, hfits, hnamefits⟩

/-- For every value: it is accepted exactly if it is a definition, where a line feed may stand behind
the name and no text that is needed is too long. Otherwise it is refused as a definition, or an integer
in a text that is needed is refused. -/
theorem ofDefinition_judges (v : Value) :
    Judges (ofDefinition v)
      (∃ es, v.entries? = some es ∧ IsDefinition (fun s => IsPlainName s ∨ IsPlainLine s) es ∧
        HeadingFits es "id" ∧ HeadingFits es "name")
      (∃ es, v.entries? = some es ∧ HoldsLongText es) := by
  unfold ofDefinition
  split
  · next hnone => exact .refuse _ fun ⟨es, hes, _⟩ => nomatch hnone.symm.trans hes
  · next es hes =>
    have hentries (P : Entries → Prop) : P es ↔ ∃ es', v.entries? = some es' ∧ P es' :=
      ⟨fun h => ⟨es, hes, h⟩, fun ⟨_, hes', h⟩ => Option.some.inj (hes.symm.trans hes') ▸ h⟩
    have hgiven (key : String) (h : isHeading (.text key) = false) :
        Entries.getText? (es.filter fun e => !isHeading e.1) key = es.getText? key :=
      getText?_body es h
    have hkinds := completeKinds_judges fun kind hkind => hgiven kind (by
      revert kind
      decide)
    have haccepted := hentries fun es =>
      IsDefinition (fun s => IsPlainName s ∨ IsPlainLine s) es ∧ HeadingFits es "id" ∧
        HeadingFits es "name"
    refine Judges.mono (Judges.congr ?_ ((isDefinition_iff es).symm.trans haccepted))
      (hentries HoldsLongText).mp
    refine hkinds.bind fun body hbody => ?_
    have hconfig := (getText?_of_completeKinds hbody (by decide)).trans
      (hgiven "config" (by decide))
    dsimp only
    rw [hconfig]
    split
    · next hnone =>
      refine .refuse _ fun h => ?_
      rw [(settings_iff _).mpr h.1] at hnone
      cases hnone
    · next hsome =>
      have hsettings := (settings_iff _).mp (Bool.not_eq_true _ ▸ hsome)
      refine Judges.congr ?_ (and_iff_right hsettings).symm
      refine (headingText_judges es "id" fun h => .inr (.inr (.inl h))).bind fun id hid => ?_
      refine (headingText_judges es "name" fun h => .inr (.inr (.inr h))).bind fun name hname => ?_
      refine (make_judges id name _ _).congr ?_
      rw [heads_iff hid (fun h => h rfl), heads_iff hname (by decide)]

/-- A name with a line feed is accepted, though it is no plain name. -/
theorem ofDefinition_accepts_lineFeed :
    (∃ t, ofDefinition namedWithLineFeed = .ok t ∧ t.name = "n\n") ∧
      ¬∃ es, namedWithLineFeed.entries? = some es ∧ IsDefinition IsPlainName es := by
  refine ⟨⟨_, rfl, rfl⟩, ?_⟩
  rintro ⟨es, hes, hdefinition⟩
  obtain rfl := Option.some.inj hes
  obtain ⟨v, hv, -, hplain, -⟩ := hdefinition.name
  obtain rfl := Option.some.inj hv
  have hfeed := hplain.2 '\n' (by decide)
  revert hfeed
  rw [← isNameChar_iff]
  decide

/-- An id that is an integer with too many digits ends neither in a topology nor in a definition that is
refused. -/
theorem ofDefinition_longId {n : Nat} (h : 10 ^ maxDecimalDigits ≤ n) :
    ofDefinition (.map [(.text "id", .int n), (.text "name", .text "n")]) =
      .error (.badValue .tooLongForText) := by
  have hlong : (Value.int n).isWritable = false := by
    rw [← Bool.not_eq_true, Value.isWritable_int_iff]
    exact Nat.not_lt.mpr h
  have htrue : (Value.int n).isTruthy = true := by
    have hpos : 0 < n := Nat.lt_of_lt_of_le (Nat.pow_pos (by decide)) h
    simp only [Value.isTruthy, bne_iff_ne, ne_eq]
    omega
  have hid : headingText [(.text "id", .int n), (.text "name", .text "n")] "id" =
      .error (.badValue .tooLongForText) := by
    have hkey : Entries.getText? [(.text "id", .int n), (.text "name", .text "n")] "id" =
        some (.int n) := rfl
    unfold headingText Value.asText
    rw [hkey]
    dsimp only
    rw [htrue, hlong]
    rfl
  unfold ofDefinition
  dsimp only [Value.entries?]
  rw [hid]
  rfl

end Topology

end TopologySubmission
