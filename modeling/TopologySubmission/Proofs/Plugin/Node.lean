import TopologySubmission.Plugin.LocalStore
import TopologySubmission.Proofs.Site.Effect

/-!
# Writing a node

A node is written beside its place and then moved there. So a node that could not be written is what
it was before, and only a file beside it may be left; a node that was written is there as a whole:

    writeNode p v      the node at p has the text of v, or it is unchanged      (ends_writeNode)
    prepareRoot        directories come up, no file changes                     (ends_prepareRoot)
-/

namespace TopologySubmission.LocalStore

open Act (Ends)
open FileTree (ways)

/-! ## Algorithm -/

/-- The path beside a node where it is written first. -/
def beside (p : Path) : Path := p.withName ("." ++ p.name ++ ".tmp")

/-- The locations on the way to the directories of nodes below a root. -/
def nodeWays (cwd : Location) (root : Path) : Set Location :=
  {m | ∃ kind : NodeKind, m ∈ ways cwd (root.child kind.directory)}

/-- The node at a path was written with a value. -/
structure NodeWritten (p : Path) (v : Value) (s s' : Site) : Prop where
  keeps : Site.Keeps {s.place (beside p), s.place p} (ways s.cwd p.parent) s s'
  reaches : s'.Reaches p
  holds : ∃ text, nodeText v = .ok text ∧ s'.Holds p text.toUTF8

/-! ## Lemmas -/

theorem ends_makeTree (root : Path) (kinds : List NodeKind) (s : Site) :
    Ends (makeTree root kinds) s (fun _ v => Site.Keeps ∅ (nodeWays s.cwd root) s v)
      fun v => Site.Keeps ∅ (nodeWays s.cwd root) s v := by
  induction kinds generalizing s with
  | nil => exact .pure (.refl _ _ s)
  | cons kind kinds ih =>
    have hkind : ways s.cwd (root.child kind.directory) ⊆ nodeWays s.cwd root := fun _ hm =>
      ⟨kind, hm⟩
    refine .bind ((Site.ends_makeDirs (root.child kind.directory) s).mono (fun _ v hv => ?_)
      fun v hv => hv.mono subset_rfl hkind)
    have hfirst := hv.mono subset_rfl hkind
    refine (ih v).mono (fun _ u hu => ?_) fun u hu => ?_ <;>
      rw [hfirst.cwd] at hu <;> exact hfirst.trans hu

theorem ends_prepareRoot (settings : Settings) (root : Path) (s : Site) :
    Ends (prepareRoot settings root) s (fun _ v => Site.Keeps ∅ (nodeWays s.cwd root) s v)
      fun v => Site.Keeps ∅ (nodeWays s.cwd root) s v := by
  have hsame : Site.Keeps ∅ (nodeWays s.cwd root) s s := .refl _ _ s
  refine .ite (fun _ => ends_makeTree root NodeKind.all s) fun _ => ?_
  refine .bind ((Site.ends_isDir? root s).mono ?_ fun _ h => h ▸ hsame)
  rintro b _ rfl
  exact .ite (fun _ => .pure hsame) fun _ => .fail hsame

/-- A node is written as a whole or not at all. -/
theorem ends_writeNode (p : Path) (v : Value) (s : Site) :
    Ends (writeNode p v) s (fun _ u => NodeWritten p v s u)
      fun u => Site.Keeps {s.place (beside p)} (ways s.cwd p.parent) s u := by
  refine .bind ((Site.ends_makeDirs p.parent s).mono (fun _ d hd => ?_)
    fun d hd => hd.mono (Set.empty_subset _) subset_rfl)
  have hdirs : Site.Keeps {s.place (beside p)} (ways s.cwd p.parent) s d :=
    hd.mono (Set.empty_subset _) subset_rfl
  refine .ite (fun _ => .fail hdirs) fun _ => .bind (.ofExcept (fun text htext => ?_) hdirs)
  refine .bind ((Site.ends_writeText (beside p) text d).mono ?_ fun _ h => h ▸ hdirs)
  rintro _ e ⟨hwrite, htmp, -⟩
  rw [hd.place] at hwrite
  have hwritten : Site.Keeps {s.place (beside p)} (ways s.cwd p.parent) s e :=
    hdirs.trans (hwrite.mono subset_rfl (Set.empty_subset _))
  refine (Site.ends_move (beside p) p e).mono ?_ fun _ h => h ▸ hwritten
  rintro _ u ⟨hmove, hreach, b, hb, hholds⟩
  rw [hwritten.place, hwritten.place] at hmove
  -- what is moved is what was just written
  obtain rfl : b = text.toUTF8 := by
    have := hb.symm.trans htmp
    cases this
    rfl
  exact ⟨(hwritten.mono (Set.singleton_subset_iff.mpr (.inl rfl)) subset_rfl).trans
    (hmove.mono subset_rfl (Set.empty_subset _)), hreach, text, htext, hholds⟩

/-- A check of a node changes nothing and gives an answer or a failure. -/
theorem ends_checkNode (p : Path) (s : Site) :
    Ends (checkNode p) s
      (fun a v => s = v ∧ ((∃ b, a = .finished (.bool b)) ∨ ∃ f, a = .stopped (.failure f)))
      fun _ => False := by
  refine .bind (.attempt ((Site.ends_exists? p s).mono ?_ ?_))
  · rintro b _ rfl
    exact .pure ⟨rfl, .inl ⟨b, rfl⟩⟩
  · rintro _ rfl f
    exact .pure ⟨rfl, .inr ⟨f, rfl⟩⟩

end TopologySubmission.LocalStore
