import TopologySubmission.Proofs.Plugin.Selection

/-!
# Entry points in a registry

Entry points are registered role by role, in the order in which they are listed. A registry takes a row
of them one by one, and what comes of the whole row is said of its parts: what a row adds is what its
first part adds and then its second part. A registry never looks into an entry point, so nothing of it is
made and the world stays as it is:

    a row in two parts is taken part by part                        (Takes.append)
    what is known stays, the rest goes to the first in the row      (registerEntryPoints_binds)
-/

namespace TopologySubmission

namespace Registry

variable {σ τ α : Type}

/-! ## Algorithm -/

/-- The maker of the first listed entry point for an identifier of a role. -/
def firstListed (eps : List (EntryPoint σ α)) (role : Role) (id : String) : Option (Maker σ α) :=
  (eps.find? fun e => e.group = groupOf role && e.name = id).map (·.maker)

/-- The entry points of some roles in the order in which they are registered. -/
def listedFor (eps : List (EntryPoint σ α)) (roles : List Role) : List (Role × EntryPoint σ α) :=
  roles.flatMap fun role => (eps.filter fun e => e.group = groupOf role).map (role, ·)

/-- What is logged about an entry point whose identifier is known. -/
def ignoring (x : Role × EntryPoint σ α) : Record :=
  ⟨.warning, "Ignoring entry point " ++ x.2.value ++ ": " ++ x.1.word ++ " '" ++ x.2.name ++
    "' is built in"⟩

/-- The entry point is for an identifier of a role. -/
def standsFor (role : Role) (id : String) (x : Role × EntryPoint σ α) : Bool :=
  x.1 = role && x.2.name = id

/-- What a registry becomes with a row of entry points: which identifiers it adds, and which entry points
it leaves aside. -/
structure Takes (r : Registry σ α) (row : List (Role × EntryPoint σ α))
    (added : List (Role × String)) (ignored : List (Role × EntryPoint σ α))
    (r' : Registry σ α) : Prop where
  maker : ∀ role id, r'.maker? role id =
    (r.maker? role id).or ((row.find? (standsFor role id)).map (·.2.maker))
  nodup : added.Nodup
  mem_added : ∀ role id, (role, id) ∈ added ↔ r'.has role id = true ∧ r.has role id = false
  sublist : ignored.Sublist row
  length : added.length + ignored.length = row.length
  same : added = [] → r' = r

/-! ## Lemmas -/

variable {r r' r'' : Registry σ α} {row row' : List (Role × EntryPoint σ α)}
  {added added' : List (Role × String)} {ignored ignored' : List (Role × EntryPoint σ α)}
  {eps : List (EntryPoint σ α)} {role : Role} {id : String}

theorem standsFor_iff {x : Role × EntryPoint σ α} :
    standsFor role id x = true ↔ x.1 = role ∧ x.2.name = id := by
  simp [standsFor]

theorem maker?_of_not_has (h : r.has role id = false) : r.maker? role id = none :=
  Option.isNone_iff_eq_none.mp (Option.isSome_eq_false_iff.mp h)

namespace Takes

theorem nil (r : Registry σ α) : r.Takes [] [] [] r where
  maker role id := (Option.or_none).symm
  nodup := .nil
  mem_added role id := by simp
  sublist := .slnil
  length := rfl
  same _ := rfl

/-- An entry point whose identifier is known. -/
theorem known {x : Role × EntryPoint σ α} (h : r.has x.1 x.2.name = true) : r.Takes [x] [] [x] r where
  maker role id := by
    by_cases hx : standsFor role id x = true
    · obtain ⟨rfl, rfl⟩ := standsFor_iff.mp hx
      obtain ⟨m, hm⟩ := Option.isSome_iff_exists.mp h
      rw [hm, Option.some_or]
    · rw [List.find?_cons_of_neg hx, List.find?_nil, Option.map_none, Option.or_none]
  nodup := .nil
  mem_added role id := by simp
  sublist := .refl _
  length := rfl
  same _ := rfl

/-- An entry point whose identifier is new. -/
theorem fresh {x : Role × EntryPoint σ α} (h : r.has x.1 x.2.name = false) :
    r.Takes [x] [(x.1, x.2.name)] [] (r.register x.1 x.2.name x.2.maker) where
  maker role id := by
    by_cases hx : x.1 = role ∧ x.2.name = id
    · obtain ⟨rfl, rfl⟩ := hx
      rw [maker?_register_self, maker?_of_not_has h,
        List.find?_cons_of_pos (standsFor_iff.mpr ⟨rfl, rfl⟩)]
      rfl
    · rw [maker?_register_ne _ _ _ _ _ _ hx, List.find?_cons_of_neg (mt standsFor_iff.mp hx)]
      exact Option.or_none.symm
  nodup := by simp
  mem_added role id := by
    rw [has_register, List.mem_singleton, Prod.mk.injEq]
    constructor
    · rintro ⟨rfl, rfl⟩
      exact ⟨.inl ⟨rfl, rfl⟩, h⟩
    · rintro ⟨⟨rfl, rfl⟩ | hknown, hnew⟩
      · exact ⟨rfl, rfl⟩
      · rw [hknown] at hnew
        cases hnew
  sublist := List.nil_sublist _
  length := rfl
  same h := absurd h (List.cons_ne_nil _ _)

/-- What is known stays known. -/
theorem mono (h : r.Takes row added ignored r') (hknown : r.has role id = true) :
    r'.has role id = true := by
  obtain ⟨m, hm⟩ := Option.isSome_iff_exists.mp hknown
  unfold has
  rw [h.maker, hm]
  rfl

/-- Everything in the row is known in the end. -/
theorem has_of_mem (h : r.Takes row added ignored r') {x : Role × EntryPoint σ α} (hx : x ∈ row) :
    r'.has x.1 x.2.name = true := by
  have hfound : (row.find? (standsFor x.1 x.2.name)).isSome = true :=
    List.find?_isSome.mpr ⟨x, hx, standsFor_iff.mpr ⟨rfl, rfl⟩⟩
  unfold has
  rw [h.maker, Option.isSome_or, Option.isSome_map, hfound, Bool.or_true]

/-- The second part of a row is taken by what the registry became with the first part. -/
theorem append (h : r.Takes row added ignored r') (h' : r'.Takes row' added' ignored' r'') :
    r.Takes (row ++ row') (added ++ added') (ignored ++ ignored') r'' where
  maker role id := by
    rw [h'.maker, h.maker, List.find?_append, Option.map_or, Option.or_assoc]
  nodup := by
    refine List.nodup_append.mpr ⟨h.nodup, h'.nodup, ?_⟩
    rintro ⟨role, id⟩ hx _ hy rfl
    have hknown := ((h.mem_added role id).mp hx).1
    rw [((h'.mem_added role id).mp hy).2] at hknown
    cases hknown
  mem_added role id := by
    rw [List.mem_append, h.mem_added, h'.mem_added]
    constructor
    · rintro (⟨hknown, hnew⟩ | ⟨hknown, hnew⟩)
      · exact ⟨h'.mono hknown, hnew⟩
      · refine ⟨hknown, Bool.eq_false_iff.mpr fun hold => ?_⟩
        rw [h.mono hold] at hnew
        cases hnew
    · rintro ⟨hknown, hnew⟩
      cases hmiddle : r'.has role id with
      | true => exact .inl ⟨rfl, hnew⟩
      | false => exact .inr ⟨hknown, rfl⟩
  sublist := h.sublist.append h'.sublist
  length := by
    have hfirst := h.length
    have hsecond := h'.length
    simp only [List.length_append]
    omega
  same hnil := by
    obtain ⟨hfirst, hsecond⟩ := List.append_eq_nil_iff.mp hnil
    exact (h'.same hsecond).trans (h.same hfirst)

/-- Where everything in the row is known, all of it is left aside. -/
theorem eq_of_known (h : r.Takes row added ignored r')
    (hknown : ∀ x ∈ row, r.has x.1 x.2.name = true) : added = [] ∧ ignored = row ∧ r' = r := by
  have hadded : added = [] := by
    refine List.eq_nil_iff_forall_not_mem.mpr fun ⟨role, id⟩ hmem => ?_
    obtain ⟨hnow, hnew⟩ := (h.mem_added role id).mp hmem
    unfold has at hnow
    rw [h.maker, maker?_of_not_has hnew, Option.none_or, Option.isSome_map] at hnow
    obtain ⟨x, hx, hstands⟩ := List.find?_isSome.mp hnow
    obtain ⟨rfl, rfl⟩ := standsFor_iff.mp hstands
    rw [hknown x hx] at hnew
    cases hnew
  refine ⟨hadded, h.sublist.eq_of_length ?_, h.same hadded⟩
  have hlength := h.length
  rw [hadded, List.length_nil] at hlength
  omega

end Takes

/-! ### Registering -/

/-- The entry points of one role. -/
theorem run_registerFor (role : Role) (r : Registry σ α) (count : Nat) (es : List (EntryPoint σ α))
    (c : Scene τ) : ∃ r' added ignored, r.Takes (es.map (role, ·)) added ignored r' ∧
      Act.run (registerFor role r count es) c =
        (.ok (r', count + added.length), { c with log := c.log ++ ignored.map ignoring }) := by
  induction es generalizing r count c with
  | nil => exact ⟨r, [], [], .nil r, by simp [registerFor]⟩
  | cons e es ih =>
    cases hknown : r.has role e.name with
    | true =>
      obtain ⟨r', added, ignored, htakes, hrun⟩ :=
        ih r count { c with log := c.log ++ [ignoring (role, e)] }
      refine ⟨r', added, (role, e) :: ignored, (Takes.known hknown).append htakes, ?_⟩
      unfold registerFor
      rw [hknown, if_pos rfl]
      refine (Act.run_bind_ok (Act.run_log _ _ c) _).trans (hrun.trans ?_)
      simp
    | false =>
      obtain ⟨r', added, ignored, htakes, hrun⟩ := ih (r.register role e.name e.maker) (count + 1) c
      refine ⟨r', (role, e.name) :: added, ignored, (Takes.fresh hknown).append htakes, ?_⟩
      unfold registerFor
      rw [hknown, if_neg Bool.false_ne_true, hrun, List.length_cons,
        Nat.add_assoc, Nat.add_comm 1]

/-- The entry points of some roles, role by role. -/
theorem run_registerRoles (eps : List (EntryPoint σ α)) (r : Registry σ α) (count : Nat)
    (roles : List Role) (c : Scene τ) :
    ∃ r' added ignored, r.Takes (listedFor eps roles) added ignored r' ∧
      Act.run (registerRoles eps r count roles) c =
        (.ok (r', count + added.length), { c with log := c.log ++ ignored.map ignoring }) := by
  induction roles generalizing r count c with
  | nil => exact ⟨r, [], [], .nil r, by simp [registerRoles]⟩
  | cons role roles ih =>
    obtain ⟨r₁, added₁, ignored₁, htakes₁, hrun₁⟩ :=
      run_registerFor role r count (eps.filter fun e => e.group = groupOf role) c
    obtain ⟨r₂, added₂, ignored₂, htakes₂, hrun₂⟩ := ih r₁ (count + added₁.length)
      { c with log := c.log ++ ignored₁.map ignoring }
    refine ⟨r₂, added₁ ++ added₂, ignored₁ ++ ignored₂, htakes₁.append htakes₂, ?_⟩
    unfold registerRoles
    refine (Act.run_bind_ok hrun₁ _).trans (hrun₂.trans ?_)
    simp [Nat.add_assoc]

/-- Among the entry points of all roles, those for a role are the ones of its group. -/
theorem find?_listedFor (eps : List (EntryPoint σ α)) (role : Role) (id : String) :
    ((listedFor eps Role.all).find? (standsFor role id)).map (·.2.maker) =
      firstListed eps role id := by
  have hgroup : ∀ role', ((eps.filter fun e => e.group = groupOf role').map (role', ·)).find?
      (standsFor role id) = if role' = role then
        (eps.find? fun e => e.group = groupOf role' && e.name = id).map (role', ·) else none := by
    intro role'
    rw [List.find?_map, List.find?_filter]
    by_cases h : role' = role <;> simp [standsFor, h]
  unfold listedFor firstListed
  rw [Role.all]
  simp only [List.flatMap_cons, List.flatMap_nil, List.append_nil, List.find?_append, hgroup]
  cases role <;> simp [Function.comp_def]

/-- The built-in plugins are known, each by its own maker. -/
theorem maker?_builtInAs (plugin : BuiltIn → α) (b : BuiltIn) :
    (builtInAs plugin : Registry σ α).maker? b.role b.identifier = some (pure (b.made plugin)) := by
  cases b <;> rfl

/-- Registering entry points always ends, leaves the world as it is, whatever the entry points would do
when they are made, and logs only which ones it ignores. Every identifier that was known keeps its maker,
and every other one gets the maker of the first listed entry point of its role's group, if there is one.
What is counted are the identifiers that were not known before. Registering again changes nothing. So the
built-in plugins are still made by their identifiers. -/
theorem registerEntryPoints_binds (r : Registry σ α) (eps : List (EntryPoint σ α))
    (plugin : BuiltIn → α) :
    (∀ c : Scene τ, ∃ (r' : Registry σ α) (added : List (Role × String))
        (ignored : List (Role × EntryPoint σ α)),
      Act.run (r.registerEntryPoints eps) c =
        (.ok (r', added.length), { c with log := c.log ++ ignored.map ignoring }) ∧
      ignored.Sublist (listedFor eps Role.all) ∧
      (∀ role id m, r.maker? role id = some m → r'.maker? role id = some m) ∧
      (∀ role id, r.maker? role id = none → r'.maker? role id = firstListed eps role id) ∧
      added.Nodup ∧
      (∀ role id, (role, id) ∈ added ↔ r'.has role id = true ∧ r.has role id = false) ∧
      ∀ d : Scene τ, Act.run (r'.registerEntryPoints eps) d =
        (.ok (r', 0), { d with log := d.log ++ (listedFor eps Role.all).map ignoring })) ∧
    ∀ (b : BuiltIn) (c : Scene τ), ∃ r' n d,
      Act.run ((builtInAs plugin : Registry σ α).registerEntryPoints eps) c = (.ok (r', n), d) ∧
      ∀ s : Scene σ, ∃ log, Act.run (r'.resolve b.role (.text b.identifier)) s =
        (.ok (b.made plugin), { s with log := log }) := by
  constructor
  · intro c
    obtain ⟨r', added, ignored, htakes, hrun⟩ := run_registerRoles eps r 0 Role.all c
    rw [Nat.zero_add] at hrun
    refine ⟨r', added, ignored, hrun, htakes.sublist, fun role id m hm => ?_, fun role id hm => ?_,
      htakes.nodup, htakes.mem_added, fun d => ?_⟩
    · rw [htakes.maker, hm, Option.some_or]
    · rw [htakes.maker, hm, Option.none_or, find?_listedFor]
    · obtain ⟨r'', again, left, htakes', hrun'⟩ := run_registerRoles eps r' 0 Role.all d
      obtain ⟨rfl, rfl, rfl⟩ := htakes'.eq_of_known fun x hx => htakes.has_of_mem hx
      exact hrun'
  · intro b c
    obtain ⟨r', added, ignored, htakes, hrun⟩ :=
      run_registerRoles eps (builtInAs plugin) 0 Role.all c
    refine ⟨r', _, _, hrun, fun s => ?_⟩
    have hmaker : r'.maker? b.role b.identifier = some (pure (b.made plugin)) := by
      rw [htakes.maker, maker?_builtInAs, Option.some_or]
    have hrole : b.role ∈ (b.made plugin).roles := List.mem_singleton.mpr rfl
    rw [run_resolve_made (makerOf_known hmaker) (Act.run_pure _ s), run_checkRole_fit hrole]
    exact ⟨_, rfl⟩

end Registry

end TopologySubmission
