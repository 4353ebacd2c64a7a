import TopologySubmission.Plugin.Interface
import TopologySubmission.Value.Quoted

/-!
# The registry of plugins

Each plugin has a role. A registry knows, for every role, the identifiers of plugins and how to make
them. A configuration names an identifier for each role, and resolving it makes the plugin, which
must be able to play the role. To make a plugin is an act: it may fail, and it may change the world in
which it is made. Entry points add plugins of other packages, but never in place of one that is known.

    an identifier is known exactly after it was registered for its role      (has_register)
-/

namespace TopologySubmission

/-! ## Algorithm -/

/-- The roles of plugins. -/
inductive Role where
  | stateManager
  | launcher
  | packing
  | uploader
  deriving DecidableEq, Repr, Inhabited

namespace Role

def word : Role → String
  | .stateManager => "statemgr"
  | .launcher => "launcher"
  | .packing => "packing"
  | .uploader => "uploader"

/-- The name of what a plugin of the role can do. -/
def interfaceName : Role → String
  | .stateManager => "StateManager"
  | .launcher => "Launcher"
  | .packing => "Packing"
  | .uploader => "Uploader"

/-- All roles. -/
def all : List Role := [.stateManager, .launcher, .packing, .uploader]

/-- Texts as a message lists them. -/
def listed (texts : List String) : String := (Value.list (texts.map Value.text)).quoted

/-- The role of a word. -/
def ofWord (w : String) : Except Failure Role :=
  match all.find? fun r => r.word = w with
  | some r => .ok r
  | none =>
    .error (.ofClass .pluginResolution
      ("Unknown plugin role: " ++ w ++ ". Known roles: " ++ listed (all.map word)))

end Role

/-- A plugin that was made: the name of its class, the roles that it can play, and itself. -/
structure Made (α : Type) where
  className : String
  roles : List Role
  plugin : α
  deriving Repr

/-- The making of a plugin in a world. -/
abbrev Maker (σ α : Type) := Act σ (Made α)

/-- A plugin of another package. -/
structure EntryPoint (σ α : Type) where
  group : String
  name : String
  value : String
  maker : Maker σ α

/-- The plugins that are known, by role and identifier. -/
structure Registry (σ α : Type) where
  rows : List (Role × String × Maker σ α) := []

namespace Registry

variable {σ τ α : Type}

/-- The row is for an identifier of a role. -/
def isFor (role : Role) (id : String) (e : Role × String × Maker σ α) : Bool :=
  e.1 == role && e.2.1 == id

/-- How to make the plugin with an identifier. -/
def maker? (r : Registry σ α) (role : Role) (id : String) : Option (Maker σ α) :=
  (r.rows.find? (isFor role id)).map (·.2.2)

/-- The identifier is known. -/
def has (r : Registry σ α) (role : Role) (id : String) : Bool := (r.maker? role id).isSome

/-- Makes an identifier known, in place of what it stood for. -/
def register (r : Registry σ α) (role : Role) (id : String) (m : Maker σ α) : Registry σ α :=
  ⟨r.rows.filter (fun e => !isFor role id e) ++ [(role, id, m)]⟩

/-- The identifiers of a role in order. -/
def identifiers (r : Registry σ α) (role : Role) : List String :=
  ((r.rows.filter fun e => e.1 = role).map (·.2.1)).mergeSort fun a b => !decide (b < a)

/-- The failure of resolving an identifier. -/
def unresolved (message : String) : Failure := .ofClass .pluginResolution message

/-- The words for an identifier of a role. -/
def pluginWords (role : Role) (id : Value) : String :=
  role.word ++ " plugin '" ++ id.plain ++ "'"

/-- The failure that names an identifier that is not known. -/
def unknown (r : Registry σ α) (role : Role) (id : Value) : Failure :=
  if id.isWritable then
    unresolved ("No " ++ role.word ++ " plugin registered as '" ++ id.plain ++ "'. Registered: " ++
      Role.listed (r.identifiers role))
  else .badValue .tooLongForText

/-- How to make the plugin that a value names. -/
def makerOf (r : Registry σ α) (role : Role) (id : Value) : Except Failure (Maker σ α) := do
  id.checkKey
  match id.text?.bind (r.maker? role) with
  | some m => .ok m
  | none => .error (r.unknown role id)

/-- The plugin that was made, if it can play the role. -/
def checkRole (role : Role) (id : Value) (m : Made α) : Act σ (Made α) := do
  if m.roles.contains role then
    Act.log .debug ("Resolved " ++ pluginWords role id ++ " -> " ++ m.className)
    return m
  else
    Act.fail (unresolved (pluginWords role id ++ " is a " ++ m.className ++
      ", which does not implement " ++ role.interfaceName))

/-- The failure of making a plugin. -/
def notMade (role : Role) (id : Value) (f : Failure) : Failure :=
  .submission
    { kind := .pluginResolution
      message := "Failed to create " ++ pluginWords role id ++ ": " ++ f.message
      cause := some f.kind }

/-- Makes the plugin that a value names. -/
def resolve (r : Registry σ α) (role : Role) (id : Value) : Act σ (Made α) := do
  let maker ← Act.ofExcept (r.makerOf role id)
  match ← Act.attempt maker with
  | .ok m => checkRole role id m
  | .error f => Act.fail (notMade role id f)

/-! ### Entry points -/

/-- The group of the entry points for a role. -/
def groupOf (role : Role) : String := "heron_submit." ++ role.word

/-- Registers entry points for a role, and how many were new so far. -/
def registerFor (role : Role) (r : Registry σ α) (count : Nat) :
    List (EntryPoint σ α) → Act τ (Registry σ α × Nat)
  | [] => return (r, count)
  | e :: es => do
    if r.has role e.name then
      Act.log .warning
        ("Ignoring entry point " ++ e.value ++ ": " ++ role.word ++ " '" ++ e.name ++
          "' is built in")
      registerFor role r count es
    else registerFor role (r.register role e.name e.maker) (count + 1) es

/-- Registers entry points role by role. -/
def registerRoles (eps : List (EntryPoint σ α)) (r : Registry σ α) (count : Nat) :
    List Role → Act τ (Registry σ α × Nat)
  | [] => return (r, count)
  | role :: roles => do
    let (r, count) ← registerFor role r count (eps.filter fun e => e.group = groupOf role)
    registerRoles eps r count roles

/-- Registers entry points; how many were new. -/
def registerEntryPoints (r : Registry σ α) (eps : List (EntryPoint σ α)) :
    Act τ (Registry σ α × Nat) := registerRoles eps r 0 Role.all

/-! ### The plugins of one attempt -/

/-- A plugin for every role. -/
structure Selection (α : Type) where
  stateManager : Made α
  launcher : Made α
  packing : Made α
  uploader : Made α

/-- Makes the plugin that a setting names. -/
def resolveSetting (r : Registry σ α) (role : Role) (key : String) (s : Settings) :
    Act σ (Made α) := do
  r.resolve role (← Act.ofExcept (s.item key))

/-- Makes the plugins that settings name. -/
def select (r : Registry σ α) (s : Settings) : Act σ (Selection α) := do
  let stateManager ← r.resolveSetting .stateManager Key.stateManagerClass s
  let launcher ← r.resolveSetting .launcher Key.launcherClass s
  let packing ← r.resolveSetting .packing Key.packingClass s
  let uploader ← r.resolveSetting .uploader Key.uploaderClass s
  return { stateManager, launcher, packing, uploader }

/-! ## Lemmas -/

theorem isFor_iff (role : Role) (id : String) (e : Role × String × Maker σ α) :
    isFor role id e = true ↔ e.1 = role ∧ e.2.1 = id := by
  simp [isFor]

theorem maker?_register_self (r : Registry σ α) (role : Role) (id : String) (m : Maker σ α) :
    (r.register role id m).maker? role id = some m := by
  have hnone : (r.rows.filter fun e => !isFor role id e).find? (isFor role id) = none := by
    rw [List.find?_eq_none]
    intro e he
    simpa using (List.mem_filter.1 he).2
  have hlast : isFor role id (role, id, m) = true := by simp [isFor]
  rw [maker?, register, List.find?_append, hnone]
  simp [hlast]

theorem maker?_register_ne (r : Registry σ α) (role role' : Role) (id id' : String) (m : Maker σ α)
    (h : ¬(role = role' ∧ id = id')) :
    (r.register role id m).maker? role' id' = r.maker? role' id' := by
  have hlast : isFor role' id' (role, id, m) = false := by
    rw [Bool.eq_false_iff, ne_eq, isFor_iff]; exact h
  rw [maker?, register, List.find?_append, List.find?_filter]
  simp only [List.find?_cons, hlast, List.find?_nil, Option.or_none, maker?]
  congr 2
  funext e
  cases he : isFor role' id' e with
  | false => simp
  | true =>
    have hne : isFor role id e = false := by
      rw [Bool.eq_false_iff, ne_eq, isFor_iff]
      rw [isFor_iff] at he
      rintro ⟨a, b⟩
      exact h ⟨a.symm.trans he.1, b.symm.trans he.2⟩
    simp [hne]

/-- An identifier is known if it was registered last or was known before. -/
theorem has_register (r : Registry σ α) (role role' : Role) (id id' : String) (m : Maker σ α) :
    (r.register role id m).has role' id' = true ↔
      (role = role' ∧ id = id') ∨ r.has role' id' = true := by
  by_cases h : role = role' ∧ id = id'
  · obtain ⟨rfl, rfl⟩ := h
    simp [has, maker?_register_self]
  · simp [has, maker?_register_ne r role role' id id' m h, h]

end Registry

end TopologySubmission
