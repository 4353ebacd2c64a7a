import Mathlib.Data.List.Forall2
import TopologySubmission.Plugin.BuiltIn

/-!
# The selection of plugins

Settings name a plugin for every role, and the roles are resolved one after another. What happens is said
by relations between scenes: a plugin is made in the scene that the ones before it left, and the first
role that is not resolved is the last one that is looked at. The refusal is that of a plugin, unless the
settings name a value that cannot be looked up or cannot be written into the message:

    resolving makes at most one plugin                          (resolution_resolve)
    the plugins made so far are those of the first roles        (Resolves.account)
    a selection resolves the roles in order                     (select_resolves)
-/

namespace TopologySubmission

/-! ## Algorithm -/

/-- The key of the setting that names the plugin of a role. -/
def Role.key : Role → String
  | .stateManager => Key.stateManagerClass
  | .launcher => Key.launcherClass
  | .packing => Key.packingClass
  | .uploader => Key.uploaderClass

namespace Registry

variable {σ α : Type}

/-- The plugin for a role. -/
def Selection.of (sel : Selection α) : Role → Made α
  | .stateManager => sel.stateManager
  | .launcher => sel.launcher
  | .packing => sel.packing
  | .uploader => sel.uploader

/-- Making a plugin may fail, but no interrupt comes out of it. -/
def MakesGently (r : Registry σ α) : Prop :=
  ∀ e ∈ r.rows, ∀ (c : Scene σ) (i : Interrupt), (Act.run e.2.2 c).1 ≠ .error (.interrupt i)

/-- What comes of resolving a value for a role, and the identifiers under which plugins were made. -/
inductive Resolution (r : Registry σ α) (role : Role) (id : Value) (c : Scene σ) :
    Except Failure (Made α) → List String → Scene σ → Prop
  | made {name m made d} (hid : id = .text name) (hm : r.maker? role name = some m)
      (hrun : Act.run m c = (.ok made, d)) (hrole : role ∈ made.roles) :
      Resolution r role id c (.ok made) [name]
        { d with log := d.log ++
          [⟨.debug, "Resolved " ++ pluginWords role id ++ " -> " ++ made.className⟩] }
  | unfit {name m made d} (hid : id = .text name) (hm : r.maker? role name = some m)
      (hrun : Act.run m c = (.ok made, d)) (hrole : role ∉ made.roles) :
      Resolution r role id c (.error (unresolved (pluginWords role id ++ " is a " ++
        made.className ++ ", which does not implement " ++ role.interfaceName))) [name] d
  | failed {name m f d} (hid : id = .text name) (hm : r.maker? role name = some m)
      (hrun : Act.run m c = (.error (.failure f), d)) :
      Resolution r role id c (.error (notMade role id f)) [name] d
  | unknown (hkey : id.isKey = true) (hm : ∀ name, id = .text name → r.maker? role name = none)
      (hwritable : id.isWritable = true) :
      Resolution r role id c (.error (unresolved ("No " ++ role.word ++ " plugin registered as '" ++
        id.plain ++ "'. Registered: " ++ Role.listed (r.identifiers role)))) [] c
  | tooLong (hkey : id.isKey = true) (hm : ∀ name, id = .text name → r.maker? role name = none)
      (hlong : id.isWritable = false) :
      Resolution r role id c (.error (.badValue .tooLongForText)) [] c
  | notAKey (hkey : id.isKey = false) :
      Resolution r role id c (.error (.wrongKind (.notAKey id.kindName))) [] c

/-- Roles are resolved in their order until one is not: the plugins that were made, by role and identifier,
and what comes of it. -/
inductive Resolves (r : Registry σ α) (s : Settings) : List Role → Scene σ →
    List (Role × String) → Except (Role × Failure) (List (Made α)) → Scene σ → Prop
  | done {c} : Resolves r s [] c [] (.ok []) c
  | next {role roles id c made called c₁ calls x d} (hid : s.get? role.key = some id)
      (h : Resolution r role id c (.ok made) called c₁) (rest : Resolves r s roles c₁ calls x d) :
      Resolves r s (role :: roles) c (called.map (role, ·) ++ calls) (x.map (made :: ·)) d
  | refused {role roles id c f called d} (hid : s.get? role.key = some id)
      (h : Resolution r role id c (.error f) called d) :
      Resolves r s (role :: roles) c (called.map (role, ·)) (.error (role, f)) d

/-- The plugins for roles, resolved one after another. -/
def resolveAll (r : Registry σ α) (s : Settings) : List Role → Act σ (List (Made α))
  | [] => return []
  | role :: roles => do
    let made ← r.resolveSetting role role.key s
    let rest ← resolveAll r s roles
    return made :: rest

end Registry

/-! ## Lemmas -/

theorem Role.mem_all (role : Role) : role ∈ Role.all := by
  cases role <;> decide

namespace Registry

variable {σ α : Type} {r : Registry σ α} {s : Settings} {role : Role} {id : Value} {c d : Scene σ}

/-! ### Makers -/

/-- A registered maker stands in a row. -/
theorem run_maker (hr : r.MakesGently) {name : String} {m : Maker σ α}
    (hm : r.maker? role name = some m) (c : Scene σ) :
    (∃ made d, Act.run m c = (.ok made, d)) ∨ ∃ f d, Act.run m c = (.error (.failure f), d) := by
  obtain ⟨e, he, rfl⟩ := Option.map_eq_some_iff.mp hm
  have hgentle := hr e (List.mem_of_find?_eq_some he) c
  rcases hrun : Act.run e.2.2 c with ⟨(f | i) | made, d⟩
  · exact .inr ⟨f, d, rfl⟩
  · rw [hrun] at hgentle
    exact absurd rfl (hgentle i)
  · exact .inl ⟨made, d, rfl⟩

theorem MakesGently.register (hr : r.MakesGently) (role : Role) (name : String) {m : Maker σ α}
    (hm : ∀ (c : Scene σ) (i : Interrupt), (Act.run m c).1 ≠ .error (.interrupt i)) :
    (r.register role name m).MakesGently := by
  intro e he
  rcases List.mem_append.mp he with he | he
  · exact hr e (List.mem_of_mem_filter he)
  · obtain rfl := List.mem_singleton.mp he
    exact hm

theorem makesGently_builtInAs (plugin : BuiltIn → α) :
    (builtInAs plugin : Registry σ α).MakesGently := by
  have hfold : ∀ (bs : List BuiltIn) (r : Registry σ α), r.MakesGently →
      (bs.foldl (fun r b => r.register b.role b.identifier
        (return b.made plugin : Act σ (Made α))) r).MakesGently := by
    intro bs
    induction bs with
    | nil => exact fun r hr => hr
    | cons b bs ih => exact fun r hr => ih _ (hr.register _ _ fun c i => nofun)
  exact hfold BuiltIn.all {} nofun

/-! ### One role -/

theorem makerOf_notAKey (h : id.isKey = false) :
    r.makerOf role id = .error (.wrongKind (.notAKey id.kindName)) := by
  unfold makerOf Value.checkKey
  rw [h]
  rfl

theorem makerOf_unknown (hkey : id.isKey = true)
    (hm : ∀ name, id = .text name → r.maker? role name = none) :
    r.makerOf role id = .error (r.unknown role id) := by
  have hnone : id.text?.bind (r.maker? role) = none := by
    cases id with
    | text name => exact hm name rfl
    | _ => rfl
  unfold makerOf Value.checkKey
  rw [hkey, hnone]
  rfl

theorem makerOf_known {name : String} {m : Maker σ α} (hm : r.maker? role name = some m) :
    r.makerOf role (.text name) = .ok m := by
  have hsome : (Value.text name).text?.bind (r.maker? role) = some m := hm
  unfold makerOf
  rw [hsome]
  rfl

/-- A value that stands for no maker. -/
theorem run_resolve_error {f : Failure} (h : r.makerOf role id = .error f) (c : Scene σ) :
    Act.run (r.resolve role id) c = (.error (.failure f), c) := by
  unfold resolve
  rw [h]
  rfl

theorem run_resolve_made {m : Maker σ α} {made : Made α} (h : r.makerOf role id = .ok m)
    (hrun : Act.run m c = (.ok made, d)) :
    Act.run (r.resolve role id) c = Act.run (checkRole role id made) d := by
  unfold resolve
  rw [h]
  exact Act.run_bind_ok (Act.run_attempt_ok hrun) _

theorem run_resolve_failed {m : Maker σ α} {f : Failure} (h : r.makerOf role id = .ok m)
    (hrun : Act.run m c = (.error (.failure f), d)) :
    Act.run (r.resolve role id) c = (.error (.failure (notMade role id f)), d) := by
  unfold resolve
  rw [h]
  exact Act.run_bind_ok (Act.run_attempt_failure hrun) _

theorem run_checkRole_fit {made : Made α} (h : role ∈ made.roles) (d : Scene σ) :
    Act.run (checkRole role id made) d = (.ok made, { d with log := d.log ++
      [⟨.debug, "Resolved " ++ pluginWords role id ++ " -> " ++ made.className⟩] }) := by
  unfold checkRole
  rw [if_pos (List.contains_iff_mem.mpr h)]
  rfl

theorem run_checkRole_unfit {made : Made α} (h : role ∉ made.roles) (d : Scene σ) :
    Act.run (checkRole role id made) d = (.error (.failure (unresolved (pluginWords role id ++
      " is a " ++ made.className ++ ", which does not implement " ++ role.interfaceName))), d) := by
  unfold checkRole
  rw [if_neg fun hcontains => h (List.contains_iff_mem.mp hcontains)]
  rfl

/-- The maker of a known identifier runs once. -/
theorem resolution_known (hr : r.MakesGently) {name : String} {m : Maker σ α}
    (hm : r.maker? role name = some m) (c : Scene σ) :
    ∃ x d, r.Resolution role (.text name) c x [name] d ∧
      Act.run (r.resolve role (.text name)) c = (x.mapError .failure, d) := by
  rcases run_maker hr hm c with ⟨made, d, hrun⟩ | ⟨f, d, hrun⟩
  · rw [run_resolve_made (makerOf_known hm) hrun]
    by_cases hrole : role ∈ made.roles
    · rw [run_checkRole_fit hrole]
      exact ⟨.ok made, _, .made rfl hm hrun hrole, rfl⟩
    · rw [run_checkRole_unfit hrole]
      exact ⟨.error _, d, .unfit rfl hm hrun hrole, rfl⟩
  · rw [run_resolve_failed (makerOf_known hm) hrun]
    exact ⟨.error _, d, .failed rfl hm hrun, rfl⟩

/-- Resolving a value for a role makes at most one plugin, with the maker of its identifier. -/
theorem resolution_resolve (hr : r.MakesGently) (role : Role) (id : Value) (c : Scene σ) :
    ∃ x called d, r.Resolution role id c x called d ∧
      Act.run (r.resolve role id) c = (x.mapError .failure, d) := by
  by_cases hknown : ∃ name m, id = .text name ∧ r.maker? role name = some m
  · obtain ⟨name, m, rfl, hm⟩ := hknown
    obtain ⟨x, d, hres, hrun⟩ := resolution_known hr hm c
    exact ⟨x, [name], d, hres, hrun⟩
  -- no maker runs, and what is said depends on what the value is
  have hm : ∀ name, id = .text name → r.maker? role name = none := by
    intro name hname
    rw [Option.eq_none_iff_forall_ne_some]
    exact fun m hm => hknown ⟨name, m, hname, hm⟩
  cases hkey : id.isKey with
  | false =>
    rw [run_resolve_error (makerOf_notAKey hkey)]
    exact ⟨.error _, [], c, .notAKey hkey, rfl⟩
  | true =>
    rw [run_resolve_error (makerOf_unknown hkey hm)]
    unfold unknown
    cases hwritable : id.isWritable with
    | true => exact ⟨.error _, [], c, .unknown hkey hm hwritable, rfl⟩
    | false => exact ⟨.error _, [], c, .tooLong hkey hm hwritable, rfl⟩

theorem Resolution.of_ok {made : Made α} {called : List String}
    (h : r.Resolution role id c (.ok made) called d) :
    ∃ name, id = .text name ∧ called = [name] ∧ role ∈ made.roles := by
  cases h with
  | made hid hm hrun hrole => exact ⟨_, hid, rfl, hrole⟩

/-- A refusal is that of a plugin, unless the value cannot be looked up or cannot be written. -/
theorem Resolution.of_error {f : Failure} {called : List String}
    (h : r.Resolution role id c (.error f) called d) :
    (called = [] ∨ ∃ name, id = .text name ∧ called = [name]) ∧
      (f.kind = .submission .pluginResolution ↔ id.isKey = true ∧ id.isWritable = true) := by
  cases h with
  | unfit hid => exact ⟨.inr ⟨_, hid, rfl⟩, hid ▸ iff_of_true rfl ⟨rfl, rfl⟩⟩
  | failed hid => exact ⟨.inr ⟨_, hid, rfl⟩, hid ▸ iff_of_true rfl ⟨rfl, rfl⟩⟩
  | unknown hkey _ hwritable => exact ⟨.inl rfl, iff_of_true rfl ⟨hkey, hwritable⟩⟩
  | tooLong _ _ hlong =>
    exact ⟨.inl rfl, iff_of_false nofun fun h => Bool.false_ne_true (hlong.symm.trans h.2)⟩
  | notAKey hkey =>
    exact ⟨.inl rfl, iff_of_false nofun fun h => Bool.false_ne_true (hkey.symm.trans h.1)⟩

/-! ### All roles -/

/-- What was made, and for which roles: for all of them, or for those before the first one that is refused
and perhaps for that one. -/
theorem Resolves.account {roles : List Role} {calls : List (Role × String)}
    {x : Except (Role × Failure) (List (Made α))} (h : r.Resolves s roles c calls x d) :
    (∀ e ∈ calls, s.get? e.1.key = some (.text e.2)) ∧
      ((∃ ms, x = .ok ms ∧ calls.map Prod.fst = roles ∧
          List.Forall₂ (fun role m => role ∈ m.roles) roles ms) ∨
        ∃ before role after f id, x = .error (role, f) ∧ roles = before ++ role :: after ∧
          (calls.map Prod.fst = before ∨ calls.map Prod.fst = before ++ [role]) ∧
          s.get? role.key = some id ∧
          (f.kind = .submission .pluginResolution ↔ id.isKey = true ∧ id.isWritable = true)) := by
  -- along the roles: one more made, the first one refused, or none left
  induction h with
  | done => exact ⟨nofun, .inl ⟨[], rfl, rfl, .nil⟩⟩
  | @next role roles id c made called c₁ calls x d hid hmade rest ih =>
    obtain ⟨name, rfl, rfl, hrole⟩ := hmade.of_ok
    obtain ⟨hcalls, hend⟩ := ih
    refine ⟨?_, ?_⟩
    · intro e he
      rcases List.mem_cons.mp he with rfl | he
      · exact hid
      · exact hcalls e he
    · rcases hend with ⟨ms, rfl, hroles, hplays⟩ | ⟨before, role', after, f, id, rfl, rfl, hfst, hid', hf⟩
      · exact .inl ⟨made :: ms, rfl, congrArg (role :: ·) hroles, .cons hrole hplays⟩
      · refine .inr ⟨role :: before, role', after, f, id, rfl, rfl, ?_, hid', hf⟩
        exact hfst.imp (congrArg (role :: ·)) (congrArg (role :: ·))
  | @refused role roles id c f called d hid hrefused =>
    obtain ⟨hcalled, hf⟩ := hrefused.of_error
    rcases hcalled with rfl | ⟨name, rfl, rfl⟩
    · exact ⟨nofun, .inr ⟨[], role, roles, f, id, rfl, rfl, .inl rfl, hid, hf⟩⟩
    · refine ⟨?_, .inr ⟨[], role, roles, f, _, rfl, rfl, .inr rfl, hid, hf⟩⟩
      intro e he
      obtain rfl := List.mem_singleton.mp he
      exact hid

/-- A setting that the selection needs. -/
theorem get?_of_validate (hs : s.validate = .ok ()) (role : Role) :
    ∃ id, s.get? role.key = some id := by
  have hrequired : role.key ∈ Key.required := by
    cases role <;> decide
  have hset := (Settings.validate_ok_iff s).mp hs role.key hrequired
  unfold Settings.get at hset
  cases hid : s.get? role.key with
  | none =>
    rw [hid] at hset
    cases hset
  | some id => exact ⟨id, rfl⟩

/-- One role of a selection. -/
theorem run_resolveSetting (hr : r.MakesGently) (hs : s.validate = .ok ()) (role : Role)
    (c : Scene σ) :
    ∃ id x called d, s.get? role.key = some id ∧ r.Resolution role id c x called d ∧
      Act.run (r.resolveSetting role role.key s) c = (x.mapError .failure, d) := by
  obtain ⟨id, hid⟩ := get?_of_validate hs role
  obtain ⟨x, called, d, hres, hrun⟩ := resolution_resolve hr role id c
  refine ⟨id, x, called, d, hid, hres, ?_⟩
  unfold resolveSetting Settings.item
  rw [hid]
  exact hrun

theorem resolves_resolveAll (hr : r.MakesGently) (hs : s.validate = .ok ()) (roles : List Role)
    (c : Scene σ) :
    ∃ calls x d, r.Resolves s roles c calls x d ∧
      Act.run (r.resolveAll s roles) c = (x.mapError fun e => .failure e.2, d) := by
  induction roles generalizing c with
  | nil => exact ⟨[], .ok [], c, .done, rfl⟩
  | cons role roles ih =>
    obtain ⟨id, x, called, c₁, hid, hres, hrun⟩ := run_resolveSetting hr hs role c
    unfold resolveAll
    cases x with
    | error f =>
      exact ⟨_, .error (role, f), c₁, .refused hid hres, Act.run_bind_error hrun _⟩
    | ok made =>
      obtain ⟨calls, y, d, hrest, hall⟩ := ih c₁
      refine ⟨_, _, d, .next hid hres hrest, ?_⟩
      rw [Act.run_bind_ok hrun]
      cases y with
      | error e => exact Act.run_bind_error hall _
      | ok ms => exact Act.run_bind_ok hall _

/-- A selection resolves all roles in their order. -/
theorem map_select (r : Registry σ α) (s : Settings) :
    (fun sel : Selection α => Role.all.map sel.of) <$> r.select s = r.resolveAll s Role.all := by
  simp only [select, resolveAll, Role.all, map_bind, map_pure, bind_assoc, pure_bind, List.map_cons,
    List.map_nil, Selection.of, Role.key]

theorem run_select_of_resolveAll {x : Except (Role × Failure) (List (Made α))}
    (h : Act.run (r.resolveAll s Role.all) c = (x.mapError fun e => .failure e.2, d)) :
    (∃ sel : Selection α, x = .ok (Role.all.map sel.of) ∧ Act.run (r.select s) c = (.ok sel, d)) ∨
      ∃ role f, x = .error (role, f) ∧ Act.run (r.select s) c = (.error (.failure f), d) := by
  rw [← map_select, Act.run_map] at h
  rcases hrun : Act.run (r.select s) c with ⟨e | sel, d'⟩ <;> rw [hrun] at h
  · obtain ⟨hx, rfl⟩ := Prod.mk.inj h
    cases x with
    | ok ms => cases hx
    | error e =>
      cases hx
      exact .inr ⟨e.1, e.2, rfl, rfl⟩
  · obtain ⟨hx, rfl⟩ := Prod.mk.inj h
    cases x with
    | ok ms =>
      cases hx
      exact .inl ⟨sel, rfl, rfl⟩
    | error e => cases hx

/-- For every registry from whose makers no interrupt comes, all settings that are complete and every scene:
the roles are resolved in order, each in the scene that the ones before it left, and no further than to the
first one that is refused. Either each role has a plugin that plays it, made by the maker of the identifier
that the settings name; or the selection fails as that role does, and no maker of a later role ran. This is a
failure of a plugin exactly if the value that the settings name can be looked up and written. -/
theorem select_resolves (hr : r.MakesGently) (hs : s.validate = .ok ()) (c : Scene σ) :
    ∃ calls x d, r.Resolves s Role.all c calls x d ∧
      (∀ e ∈ calls, s.get? e.1.key = some (.text e.2)) ∧
      ((∃ sel : Selection α, Act.run (r.select s) c = (.ok sel, d) ∧ x = .ok (Role.all.map sel.of) ∧
          calls.map Prod.fst = Role.all ∧ ∀ role, role ∈ (sel.of role).roles) ∨
        ∃ before role after f id, Act.run (r.select s) c = (.error (.failure f), d) ∧
          x = .error (role, f) ∧ Role.all = before ++ role :: after ∧
          (calls.map Prod.fst = before ∨ calls.map Prod.fst = before ++ [role]) ∧
          s.get? role.key = some id ∧
          (f.kind = .submission .pluginResolution ↔ id.isKey = true ∧ id.isWritable = true)) := by
  obtain ⟨calls, x, d, hresolves, hall⟩ := resolves_resolveAll hr hs Role.all c
  obtain ⟨hcalls, hend⟩ := hresolves.account
  refine ⟨calls, x, d, hresolves, hcalls, ?_⟩
  rcases run_select_of_resolveAll hall with ⟨sel, rfl, hrun⟩ | ⟨role, f, rfl, hrun⟩
  · refine .inl ⟨sel, hrun, rfl, ?_⟩
    rcases hend with ⟨ms, hms, hroles, hplays⟩ | ⟨before, role, after, f, id, hx, -⟩
    · cases hms
      refine ⟨hroles, fun role => ?_⟩
      rw [List.forall₂_map_right_iff, List.forall₂_same] at hplays
      exact hplays role role.mem_all
    · cases hx
  · rcases hend with ⟨ms, hms, -⟩ | ⟨before, role', after, f', id, hx, hroles, hfst, hid, hf⟩
    · cases hms
    · cases hx
      exact .inr ⟨before, role, after, f, id, hrun, rfl, hroles, hfst, hid, hf⟩

/-- Complete settings, but for the plugins. -/
def settingsWith (launcher uploader : Value) : Settings :=
  ⟨[(.text Key.cluster, .text "local"), (.text Key.role, .text "me"), (.text Key.environ, .text "test"),
    (.text Key.home, .text "/h"), (.text Key.conf, .text "conf"), (.text Key.topologyId, .text "n-1"),
    (.text Key.topologyName, .text "n"), (.text Key.packageFile, .text "/p.tar"),
    (.text Key.stateManagerClass, .text "localfs"), (.text Key.launcherClass, launcher),
    (.text Key.packingClass, .text "round_robin"), (.text Key.uploaderClass, uploader)]⟩

/-- The built-in plugins are made one after another. -/
theorem select_resolves_builtIn :
    ∃ (calls : List (Role × String)) (sel : Selection BuiltIn) (d : Scene Unit),
      Act.run (builtIn.select (settingsWith (.text "local") (.text "scp"))) ⟨(), []⟩ = (.ok sel, d) ∧
      calls.map Prod.fst = Role.all ∧ (.uploader, "scp") ∈ calls ∧
      (∀ role, role ∈ (sel.of role).roles) ∧ sel.uploader.plugin = .scpUploader := by
  have hs : (settingsWith (.text "local") (.text "scp")).validate = .ok () := by
    rw [Settings.validate_ok_iff]
    decide
  obtain ⟨sel, d, hsel, hplugin⟩ : ∃ (sel : Selection BuiltIn) (d : Scene Unit),
      Act.run (builtIn.select (settingsWith (.text "local") (.text "scp"))) ⟨(), []⟩ = (.ok sel, d) ∧
        sel.uploader.plugin = .scpUploader := ⟨_, _, rfl, rfl⟩
  obtain ⟨calls, x, d', -, hcalls, hend⟩ :=
    select_resolves (makesGently_builtInAs id) hs (⟨(), []⟩ : Scene Unit)
  rcases hend with ⟨sel', hrun, -, hroles, hplays⟩ | ⟨before, role, after, f, id, hrun, -⟩
  · obtain ⟨hsel', rfl⟩ := Prod.mk.inj (hsel.symm.trans hrun)
    cases hsel'
    refine ⟨calls, sel, d, hsel, hroles, ?_, hplays, hplugin⟩
    have hmem : Role.uploader ∈ calls.map Prod.fst := hroles ▸ Role.uploader.mem_all
    obtain ⟨⟨_, name⟩, he, rfl⟩ := List.mem_map.mp hmem
    have hname := hcalls _ he
    have hscp : (settingsWith (.text "local") (.text "scp")).get? Role.uploader.key =
        some (.text "scp") := rfl
    rw [hscp] at hname
    cases hname
    exact he
  · cases (Prod.mk.inj (hsel.symm.trans hrun)).1

/-- A launcher that is named by a list is no failure of a plugin, though the settings are complete. -/
theorem select_refuses_list :
    (settingsWith (.list [.text "local"]) (.text "scp")).validate = .ok () ∧
      (builtIn : Registry Unit BuiltIn).MakesGently ∧
      ∃ (f : Failure) (d : Scene Unit),
        Act.run (builtIn.select (settingsWith (.list [.text "local"]) (.text "scp"))) ⟨(), []⟩ =
          (.error (.failure f), d) ∧
        f.kind ≠ .submission .pluginResolution := by
  refine ⟨?_, makesGently_builtInAs id, .wrongKind (.notAKey "list"), _, rfl, nofun⟩
  rw [Settings.validate_ok_iff]
  decide

end Registry

end TopologySubmission
