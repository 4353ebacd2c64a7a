import TopologySubmission.Plugin.LocalLauncher
import TopologySubmission.Proofs.Site.Effect

/-!
# What a launcher retracts

A launcher stands beside its surroundings: a site, and whatever a state manager and a packing have in
hand. Nothing in the surroundings sees what the launcher remembers. What happens in them is said here
apart from the launcher, as relations between scenes; `Follows` goes through calls with what is left to
retract:

    registering goes on until a step stops        (enrolls_registerAll)
    a launch leaves to retract what it completed       (launches_launch)
    that are its first steps, and all of them if it launched     (Launches.reverse_eq)
    an undo attempts every retraction once, the newest first       (attempts_undo)
    launching and undoing in any order follows what was completed      (follows_callAll)
-/

namespace TopologySubmission

open Act (Ends)

variable {σ τ α β ω : Type}

/-! ## Algorithm -/

/-- The scene with a record added to its log. -/
def Scene.logged (c : Scene σ) (level : Level) (text : String) : Scene σ :=
  { c with log := c.log ++ [⟨level, text⟩] }

/-- A site, and whatever else a state manager and a packing work with. -/
structure Surroundings (ω : Type) where
  site : Site
  rest : ω

def Surroundings.sitePart : Part (Surroundings ω) Site :=
  ⟨Surroundings.site, fun w s => { w with site := s }⟩

/-- A launcher beside its surroundings. -/
structure Bench (ω : Type) where
  around : Surroundings ω
  launcher : LocalLauncher

namespace Bench

def aroundPart : Part (Bench ω) (Surroundings ω) :=
  ⟨Bench.around, fun b w => { b with around := w }⟩

def launcherPart : Part (Bench ω) LocalLauncher :=
  ⟨Bench.launcher, fun b l => { b with launcher := l }⟩

def sitePart : Part (Bench ω) Site := aroundPart.trans Surroundings.sitePart

end Bench

/-- The scene of surroundings, with a launcher beside them. -/
def Scene.beside (c : Scene (Surroundings ω)) (l : LocalLauncher) : Scene (Bench ω) :=
  ⟨⟨c.world, l⟩, c.log⟩

/-- A state manager of a part of a world. -/
def StateAccess.within (p : Part σ τ) (a : StateAccess τ) : StateAccess σ where
  runningState name timeout := Act.within p (a.runningState name timeout)
  setNode kind v name := Act.within p (a.setNode kind v name)
  getNode kind name := Act.within p (a.getNode kind name)
  deleteNode kind name := Act.within p (a.deleteNode kind name)

/-- Deleting a node may fail, but no interrupt comes out of it. -/
def StateAccess.DeletesGently (a : StateAccess σ) : Prop :=
  ∀ kind name w, Ends (a.deleteNode kind name) w (fun _ _ => True) fun _ => True

/-- A packing of a part of a world. -/
def Packing.within (p : Part σ τ) (packing : Packing τ) : Packing σ where
  configure settings := Act.within p (packing.configure settings)
  pack t := Act.within p (packing.pack t)
  close := Act.within p packing.close

/-- A call of a launcher. -/
inductive LaunchCall where
  | launch
  | undo
  deriving DecidableEq, Repr

namespace LaunchCall

/-- What a launcher does at a call. An undo that returns gives nothing. -/
def act (l : Launcher σ) : LaunchCall → Act σ Value
  | .launch => l.launch
  | .undo => do
    l.undo
    return .null

/-- Calls one after another, however each of them ends; their answers. -/
def callAll (l : Launcher σ) : List LaunchCall → Scene σ → List (Except Stop Value) × Scene σ
  | [], c => ([], c)
  | k :: ks, c =>
    let (answer, c₁) := Act.run (k.act l) c
    let (answers, d) := callAll l ks c₁
    (answer :: answers, d)

end LaunchCall

/-- Steps are taken in their order until one stops. What those before it register is listed, the newest
first. -/
inductive Registers : List (Registration × Act σ Unit) → Scene σ → Option Stop →
    List Registration → Scene σ → Prop
  | all {c : Scene σ} : Registers [] c none [] c
  | completed {g : Registration} {a : Act σ Unit} {steps c c₁ o gs d}
      (h : Act.run a c = (.ok (), c₁)) (rest : Registers steps c₁ o gs d) :
      Registers ((g, a) :: steps) c o (gs ++ [g]) d
  | stopped {g : Registration} {a : Act σ Unit} {steps c e d} (h : Act.run a c = (.error e, d)) :
      Registers ((g, a) :: steps) c (some e) [] d

/-- Every registration is retracted once, in the order of the list, whether others fail or not. What
failed is listed in the same order. -/
inductive Attempts (retraction : Registration → Act σ Unit) (name : String) :
    List Registration → Scene σ → List (Registration × Failure) → Scene σ → Prop
  | none {c : Scene σ} : Attempts retraction name [] c [] c
  | retracted {g gs c c₁ fs d}
      (h : Act.run (retraction g) (c.logged .info ("Retracting " ++ g.words ++ " of " ++ name)) =
        (.ok (), c₁))
      (rest : Attempts retraction name gs c₁ fs d) : Attempts retraction name (g :: gs) c fs d
  | failed {g gs c f c₁ fs d}
      (h : Act.run (retraction g) (c.logged .info ("Retracting " ++ g.words ++ " of " ++ name)) =
        (.error (.failure f), c₁))
      (rest : Attempts retraction name gs (c₁.logged .error
        ("Failed to retract " ++ g.words ++ " of " ++ name ++ ": " ++ f.message)) fs d) :
      Attempts retraction name (g :: gs) c ((g, f) :: fs) d

/-- How an undo ends that left some registrations standing. -/
def undoAnswer (name : String) : List (Registration × Failure) → Except Stop Value
  | [] => .ok .null
  | fs => .error (.failure (.ofClass .undoFailed ("Could not retract launch of " ++ name ++ ": " ++
      "; ".intercalate (fs.map fun e => e.1.words ++ ": " ++ e.2.message))))

/-- What a launcher works with and what it is to launch. -/
structure Undertaking (ω : Type) where
  access : StateAccess (Surroundings ω)
  packing : Packing (Surroundings ω)
  settings : Settings
  runtime : Runtime

namespace Undertaking

open Surroundings (sitePart)

variable (u : Undertaking ω) (dir : Path)

/-- The launcher beside the surroundings. -/
def launcher : Launcher (Bench ω) :=
  LocalLauncher.launcher Bench.sitePart Bench.launcherPart (u.access.within Bench.aroundPart)
    (u.packing.within Bench.aroundPart)

/-- What the launcher remembers once it is initialized. -/
def memory (pending : List Registration) : LocalLauncher where
  settings := u.settings
  runtime := some u.runtime
  workingDir := some dir
  registrations := pending

/-- The name of the topology. -/
def name : String := u.runtime.topology.name

/-- Getting the plan. -/
def packed : Act (Surroundings ω) PackingPlan := do
  u.packing.configure u.settings
  u.packing.pack u.runtime.topology

/-- The manifest in the working directory. -/
def manifest : Path := dir.child LaunchManifest.fileName

/-- The execution state that a launch registers, if it can be had. -/
def state (c : Scene (Surroundings ω)) : Except Failure Entries :=
  LocalLauncher.executionState c.world.site u.settings u.runtime

/-- What is registered for a plan, in this order, each with the act that does it. -/
def steps (state : Entries) (plan : PackingPlan) :
    List (Registration × Act (Surroundings ω) Unit) :=
  [(.node .executionState u.name, u.access.setNode .executionState (.map state) u.name),
    (.node .packingPlan u.name, u.access.setNode .packingPlan (.map plan.toEntries) u.name),
    (.manifest (manifest dir), Act.within sitePart (LocalLauncher.storeManifest dir state plan)),
    (.node .topology u.name, do
      let es ← Act.ofExcept u.runtime.topology.toEntries
      u.access.setNode .topology (.map es) u.name)]

/-- What is logged when everything is registered. -/
def announcement (plan : PackingPlan) : String :=
  "Launched " ++ u.name ++ " with " ++ toString plan.containers.length ++
    " containers, manifest at " ++ (manifest dir).text

/-- The answer of a launch, what it registered, the newest first, and the scene in which it ends. -/
inductive Launches : Scene (Surroundings ω) → Except Stop Value → List Registration →
    Scene (Surroundings ω) → Prop
  | unpacked {c e d} (h : Act.run u.packed c = (.error e, d)) : Launches c (.error e) [] d
  | empty {c plan d} (h : Act.run u.packed c = (.ok plan, d)) (hplan : plan.instanceCount = 0) :
      Launches c (.ok (.bool false)) []
        (d.logged .error ("Packing plan for " ++ u.name ++ " has no instances"))
  | stateless {c plan d f} (h : Act.run u.packed c = (.ok plan, d)) (hplan : plan.instanceCount ≠ 0)
      (hstate : u.state d = .error f) : Launches c (.error (.failure f)) [] d
  | launched {c plan c₁ state gs d} (h : Act.run u.packed c = (.ok plan, c₁))
      (hplan : plan.instanceCount ≠ 0) (hstate : u.state c₁ = .ok state)
      (hsteps : Registers (u.steps dir state plan) c₁ none gs d) :
      Launches c (.ok (.bool true)) gs (d.logged .info (u.announcement dir plan))
  | stopped {c plan c₁ state e gs d} (h : Act.run u.packed c = (.ok plan, c₁))
      (hplan : plan.instanceCount ≠ 0) (hstate : u.state c₁ = .ok state)
      (hsteps : Registers (u.steps dir state plan) c₁ (some e) gs d) :
      Launches c (.error e) gs d

/-- What an undo does for one registration. -/
def retraction : Registration → Act (Surroundings ω) Unit
  | .node kind name => u.access.deleteNode kind name
  | .manifest p => Act.within sitePart (Site.removeIfThere p)

/-- Calls with their answers. A launch adds what it completed to what is to be retracted; an undo
attempts to retract all of that, and nothing is left to be retracted. -/
inductive Follows : List Registration → List LaunchCall → Scene (Surroundings ω) →
    List (Except Stop Value) → List Registration → Scene (Surroundings ω) → Prop
  | done {pending c} : Follows pending [] c [] pending c
  | launch {pending calls c answer gs c₁ answers left d} (h : u.Launches dir c answer gs c₁)
      (rest : Follows (gs ++ pending) calls c₁ answers left d) :
      Follows pending (.launch :: calls) c (answer :: answers) left d
  | undo {pending calls c fs c₁ answers left d} (h : Attempts u.retraction u.name pending c fs c₁)
      (rest : Follows [] calls c₁ answers left d) :
      Follows pending (.undo :: calls) c (undoAnswer u.name fs :: answers) left d

/-- An act beside the surroundings takes steps, and what they register is remembered. It gives a result
if all of them are completed, and then `last` is done. -/
def Enrolls (k : Act (Bench ω) α) (x : α) (steps : List (Registration × Act (Surroundings ω) Unit))
    (last : Scene (Surroundings ω) → Scene (Surroundings ω)) : Prop :=
  ∀ pending c,
    (∃ gs d, Registers steps c none gs d ∧
      Act.run k (c.beside (u.memory dir pending)) =
        (.ok x, (last d).beside (u.memory dir (gs ++ pending)))) ∨
    ∃ e gs d, Registers steps c (some e) gs d ∧
      Act.run k (c.beside (u.memory dir pending)) =
        (.error e, d.beside (u.memory dir (gs ++ pending)))

end Undertaking

/-! ## Lemmas -/

/-! ### Acts beside a launcher -/

theorem run_within_around (a : Act (Surroundings ω) α) (c : Scene (Surroundings ω))
    (l : LocalLauncher) : Act.run (Act.within Bench.aroundPart a) (c.beside l) =
      ((Act.run a c).1, (Act.run a c).2.beside l) := rfl

theorem within_around_bind (a : Act (Surroundings ω) α) (f : α → Act (Surroundings ω) β) :
    Act.within Bench.aroundPart (a >>= f) =
      Act.within Bench.aroundPart a >>= fun x => Act.within Bench.aroundPart (f x) := by
  funext s
  show Act.run (Act.within Bench.aroundPart (a >>= f)) s = Act.run (_ >>= _) s
  rw [Act.run_within, Act.run_bind, Act.run_bind, Act.run_within]
  rcases Act.run a _ with ⟨_ | _, _⟩ <;> rfl

theorem run_inHand_bind (f : LocalLauncher → Act (Bench ω) α) (c : Scene (Surroundings ω))
    (l : LocalLauncher) :
    Act.run (LocalLauncher.inHand Bench.launcherPart >>= f) (c.beside l) =
      Act.run (f l) (c.beside l) := rfl

theorem LaunchCall.callAll_cons {l : Launcher σ} {k : LaunchCall} {ks : List LaunchCall}
    {c c₁ d : Scene σ} {answer : Except Stop Value} {answers : List (Except Stop Value)}
    (h : Act.run (k.act l) c = (answer, c₁)) (hrest : callAll l ks c₁ = (answers, d)) :
    callAll l (k :: ks) c = (answer :: answers, d) := by
  unfold callAll
  rw [h]
  dsimp only
  rw [hrest]

/-! ### Steps -/

namespace Registers

variable {xs ys : List (Registration × Act σ Unit)} {c d d' : Scene σ} {e : Stop} {o : Option Stop}
  {gs hs : List Registration}

/-- Steps that are taken after steps all of which were completed. -/
theorem append (h : Registers xs c none gs d) (h' : Registers ys d o hs d') :
    Registers (xs ++ ys) c o (hs ++ gs) d' := by
  generalize hnone : (none : Option Stop) = o' at h
  induction h with
  | all => rwa [List.append_nil]
  | completed hrun _ ih =>
    rw [← List.append_assoc]
    exact .completed hrun (ih h' hnone)
  | stopped _ => cases hnone

/-- Steps that are not taken any more. -/
theorem append_left (h : Registers xs c (some e) gs d) (ys : List (Registration × Act σ Unit)) :
    Registers (xs ++ ys) c (some e) gs d := by
  generalize hsome : some e = o at h
  induction h with
  | all => cases hsome
  | completed hrun _ ih => exact .completed hrun (ih hsome)
  | stopped hrun => exact .stopped hrun

/-- What is registered are the first steps, and all of them if none stopped. -/
theorem reverse_eq (h : Registers xs c o gs d) :
    gs.reverse <+: xs.map Prod.fst ∧ (o = none → gs.reverse = xs.map Prod.fst) := by
  induction h with
  | all => exact ⟨List.prefix_rfl, fun _ => rfl⟩
  | completed _ _ ih =>
    rw [List.reverse_append, List.reverse_singleton, List.map_cons]
    exact ⟨(List.prefix_cons_inj _).mpr ih.1, fun ho => congrArg _ (ih.2 ho)⟩
  | stopped _ => exact ⟨List.nil_prefix, fun ho => nomatch ho⟩

end Registers

namespace Undertaking

open Surroundings (sitePart)

variable {u : Undertaking ω} {dir : Path} {steps steps' : List (Registration × Act (Surroundings ω) Unit)}
  {last : Scene (Surroundings ω) → Scene (Surroundings ω)}

namespace Enrolls

theorem bind {k : Act (Bench ω) α} {f : α → Act (Bench ω) β} {x : α} {y : β}
    (hk : u.Enrolls dir k x steps id) (hf : u.Enrolls dir (f x) y steps' last) :
    u.Enrolls dir (k >>= f) y (steps ++ steps') last := by
  intro pending c
  rcases hk pending c with ⟨gs, d, hsteps, hrun⟩ | ⟨e, gs, d, hsteps, hrun⟩
  · rcases hf (gs ++ pending) d with ⟨hs, d', hsteps', hrun'⟩ | ⟨e, hs, d', hsteps', hrun'⟩
    · refine .inl ⟨hs ++ gs, d', hsteps.append hsteps', ?_⟩
      rw [Act.run_bind_ok hrun, List.append_assoc]
      exact hrun'
    · refine .inr ⟨e, hs ++ gs, d', hsteps.append hsteps', ?_⟩
      rw [Act.run_bind_ok hrun, List.append_assoc]
      exact hrun'
  · exact .inr ⟨e, gs, d, hsteps.append_left steps', Act.run_bind_error hrun f⟩

theorem cons {k : Act (Bench ω) α} {f : α → Act (Bench ω) β} {x : α} {y : β}
    {s : Registration × Act (Surroundings ω) Unit} (hk : u.Enrolls dir k x [s] id)
    (hf : u.Enrolls dir (f x) y steps last) : u.Enrolls dir (k >>= f) y (s :: steps) last :=
  hk.bind hf

theorem pure (x : α) : u.Enrolls dir (Pure.pure x) x [] id := fun _ c => .inl ⟨[], c, .all, rfl⟩

theorem log (level : Level) (text : String) :
    u.Enrolls dir (Act.log level text) () [] (·.logged level text) :=
  fun _ c => .inl ⟨[], c, .all, rfl⟩

/-- What is done in the surroundings is registered once it is done. -/
theorem step (a : Act (Surroundings ω) Unit) (g : Registration) :
    u.Enrolls dir (do
      Act.within Bench.aroundPart a
      LocalLauncher.registered Bench.launcherPart g) () [(g, a)] id := by
  intro pending c
  have haround := run_within_around a c (u.memory dir pending)
  rcases hrun : Act.run a c with ⟨e | ⟨⟩, d⟩ <;> rw [hrun] at haround
  · exact .inr ⟨e, [], d, .stopped hrun, Act.run_bind_error haround _⟩
  · exact .inl ⟨[g], d, .completed hrun .all, Act.run_bind_ok haround _⟩

end Enrolls

theorem enrolls_register (kind : NodeKind) (es : Entries) (name : String) :
    u.Enrolls dir (LocalLauncher.register Bench.launcherPart (u.access.within Bench.aroundPart) kind
      es name) () [(.node kind name, u.access.setNode kind (.map es) name)] id :=
  .step (u.access.setNode kind (.map es) name) (.node kind name)

theorem enrolls_writeManifest (state : Entries) (plan : PackingPlan) :
    u.Enrolls dir (LocalLauncher.writeManifest Bench.sitePart Bench.launcherPart state plan)
      (manifest dir) [(.manifest (manifest dir),
        Act.within sitePart (LocalLauncher.storeManifest dir state plan))] id := by
  have hstep : u.Enrolls dir _ () _ id :=
    .step (Act.within sitePart (LocalLauncher.storeManifest dir state plan)) (.manifest (manifest dir))
  have hwritten := hstep.bind (f := fun _ => Pure.pure (manifest dir)) (.pure _)
  rw [bind_assoc] at hwritten
  exact hwritten

/-- Where what is to be registered cannot be had, the step stops before anything is done. -/
theorem enrolls_registerTopology (r : Except Failure Entries) (name : String)
    {k : Act (Bench ω) Unit} (hk : u.Enrolls dir k () [] last) :
    u.Enrolls dir (do
      let es ← Act.ofExcept r
      LocalLauncher.register Bench.launcherPart (u.access.within Bench.aroundPart) .topology es name
      k) () [(.node .topology name, do
        let es ← Act.ofExcept r
        u.access.setNode .topology (.map es) name)] last := by
  cases r with
  | ok es =>
    have hok (σ : Type) : (Act.ofExcept (.ok es) : Act σ Entries) = Pure.pure es := rfl
    rw [hok, hok, pure_bind, pure_bind]
    exact (enrolls_register .topology es name).cons hk
  | error f => exact fun pending c => .inr ⟨.failure f, [], c, .stopped rfl, rfl⟩

/-- Without an execution state nothing is registered. -/
theorem run_registerAll_stateless {c : Scene (Surroundings ω)} {f : Failure}
    (hstate : u.state c = .error f) (plan : PackingPlan) (pending : List Registration) :
    Act.run (LocalLauncher.registerAll Bench.sitePart Bench.launcherPart
        (u.access.within Bench.aroundPart) u.settings u.runtime plan)
        (c.beside (u.memory dir pending)) =
      (.error (.failure f), c.beside (u.memory dir pending)) := by
  have hsite : Act.run (Act.within Bench.sitePart Act.world) (c.beside (u.memory dir pending)) =
      (.ok c.world.site, c.beside (u.memory dir pending)) := rfl
  have hfails : LocalLauncher.executionState c.world.site u.settings u.runtime = .error f := hstate
  unfold LocalLauncher.registerAll
  rw [Act.run_bind_ok hsite, hfails]
  rfl

/-- Registering a plan takes its steps, and says so if it took all of them. -/
theorem enrolls_registerAll {c : Scene (Surroundings ω)} {state : Entries}
    (hstate : u.state c = .ok state) (plan : PackingPlan) (pending : List Registration) :
    (∃ gs d, Registers (u.steps dir state plan) c none gs d ∧
      Act.run (LocalLauncher.registerAll Bench.sitePart Bench.launcherPart
          (u.access.within Bench.aroundPart) u.settings u.runtime plan)
          (c.beside (u.memory dir pending)) =
        (.ok (), (d.logged .info (u.announcement dir plan)).beside
          (u.memory dir (gs ++ pending)))) ∨
    ∃ e gs d, Registers (u.steps dir state plan) c (some e) gs d ∧
      Act.run (LocalLauncher.registerAll Bench.sitePart Bench.launcherPart
          (u.access.within Bench.aroundPart) u.settings u.runtime plan)
          (c.beside (u.memory dir pending)) =
        (.error e, d.beside (u.memory dir (gs ++ pending))) := by
  have hall : u.Enrolls dir (do
      let access := u.access.within Bench.aroundPart
      LocalLauncher.register Bench.launcherPart access .executionState state u.name
      LocalLauncher.register Bench.launcherPart access .packingPlan plan.toEntries u.name
      let m ← LocalLauncher.writeManifest Bench.sitePart Bench.launcherPart state plan
      let es ← Act.ofExcept u.runtime.topology.toEntries
      LocalLauncher.register Bench.launcherPart access .topology es u.name
      Act.log .info ("Launched " ++ u.name ++ " with " ++ toString plan.containers.length ++
        " containers, manifest at " ++ m.text)) () (u.steps dir state plan)
      (·.logged .info (u.announcement dir plan)) :=
    (enrolls_register _ _ _).cons ((enrolls_register _ _ _).cons ((enrolls_writeManifest _ _).cons
      (enrolls_registerTopology _ _ (.log _ _))))
  have hsite : Act.run (Act.within Bench.sitePart Act.world) (c.beside (u.memory dir pending)) =
      (.ok c.world.site, c.beside (u.memory dir pending)) := rfl
  have hknown : LocalLauncher.executionState c.world.site u.settings u.runtime = .ok state := hstate
  unfold LocalLauncher.registerAll
  rw [Act.run_bind_ok hsite, hknown]
  exact hall pending c

/-! ### Calls -/

/-- What a launcher does once it has its plan. -/
theorem run_launch_eq (pending : List Registration) (c : Scene (Surroundings ω)) :
    Act.run u.launcher.launch (c.beside (u.memory dir pending)) =
      Act.run (do
        let plan ← Act.within Bench.aroundPart u.packed
        if plan.instanceCount = 0 then
          Act.log .error ("Packing plan for " ++ u.name ++ " has no instances")
          return .bool false
        else
          LocalLauncher.registerAll Bench.sitePart Bench.launcherPart
            (u.access.within Bench.aroundPart) u.settings u.runtime plan
          return .bool true) (c.beside (u.memory dir pending)) := by
  unfold packed
  rw [within_around_bind, bind_assoc]
  rfl

theorem launches_launch (dir : Path) (pending : List Registration) (c : Scene (Surroundings ω)) :
    ∃ answer gs d, u.Launches dir c answer gs d ∧
      Act.run u.launcher.launch (c.beside (u.memory dir pending)) =
        (answer, d.beside (u.memory dir (gs ++ pending))) := by
  have haround := run_within_around u.packed c (u.memory dir pending)
  rw [run_launch_eq]
  rcases hpacked : Act.run u.packed c with ⟨e | plan, c₁⟩ <;> rw [hpacked] at haround
  · exact ⟨.error e, [], c₁, .unpacked hpacked, Act.run_bind_error haround _⟩
  · rw [Act.run_bind_ok haround]
    by_cases hplan : plan.instanceCount = 0
    · rw [if_pos hplan]
      exact ⟨_, [], _, .empty hpacked hplan, rfl⟩
    · rw [if_neg hplan]
      rcases hstate : u.state c₁ with f | state
      · exact ⟨_, [], c₁, .stateless hpacked hplan hstate,
          Act.run_bind_error (run_registerAll_stateless hstate plan pending) _⟩
      · rcases enrolls_registerAll hstate plan pending with
          ⟨gs, d, hsteps, hrun⟩ | ⟨e, gs, d, hsteps, hrun⟩
        · exact ⟨_, gs, _, .launched hpacked hplan hstate hsteps, Act.run_bind_ok hrun _⟩
        · exact ⟨_, gs, d, .stopped hpacked hplan hstate hsteps, Act.run_bind_error hrun _⟩

/-- What a launch leaves to retract are its first steps, and all four of them if it says that it launched
the topology. -/
theorem Launches.reverse_eq {c d : Scene (Surroundings ω)} {answer : Except Stop Value}
    {gs : List Registration} (h : u.Launches dir c answer gs d) :
    let all := [.node .executionState u.name, .node .packingPlan u.name, .manifest (manifest dir),
      .node .topology u.name]
    gs.reverse <+: all ∧ (answer = .ok (.bool true) → gs.reverse = all) := by
  cases h with
  | unpacked _ => exact ⟨List.nil_prefix, nofun⟩
  | empty _ _ => exact ⟨List.nil_prefix, nofun⟩
  | stateless _ _ _ => exact ⟨List.nil_prefix, nofun⟩
  | launched _ _ _ hsteps => exact ⟨hsteps.reverse_eq.1, fun _ => hsteps.reverse_eq.2 rfl⟩
  | stopped _ _ _ hsteps => exact ⟨hsteps.reverse_eq.1, nofun⟩

theorem retract_eq (g : Registration) :
    LocalLauncher.retract Bench.sitePart (u.access.within Bench.aroundPart) g =
      Act.within Bench.aroundPart (u.retraction g) := by
  cases g <;> rfl

/-- No interrupt comes out of a retraction if none comes out of the state manager. -/
theorem ends_retraction (hdelete : u.access.DeletesGently) (g : Registration)
    (w : Surroundings ω) :
    Ends (u.retraction g) w (fun _ _ => True) fun _ => True := by
  cases g with
  | node kind name => exact hdelete kind name w
  | manifest p =>
    have hremove : Ends (Site.removeIfThere p) w.site (fun _ _ => True) fun _ => True :=
      (Site.ends_removeIfThere p w.site).mono (fun _ _ _ => trivial) fun _ _ => trivial
    show Ends (Act.within sitePart (Site.removeIfThere p)) w (fun _ _ => True) fun _ => True
    exact Ends.within hremove

/-- One attempt to retract, beside a launcher. -/
theorem run_attempt_retract (hdelete : u.access.DeletesGently) (g : Registration)
    (c : Scene (Surroundings ω)) (l : LocalLauncher) :
    let a := Act.attempt (LocalLauncher.retract Bench.sitePart (u.access.within Bench.aroundPart) g)
    (∃ d, Act.run (u.retraction g) c = (.ok (), d) ∧
      Act.run a (c.beside l) = (.ok (.ok ()), d.beside l)) ∨
    ∃ f d, Act.run (u.retraction g) c = (.error (.failure f), d) ∧
      Act.run a (c.beside l) = (.ok (.error f), d.beside l) := by
  have haround := run_within_around (u.retraction g) c l
  rw [retract_eq]
  rcases (ends_retraction hdelete g c.world).of_run c.log with
    ⟨⟨⟩, d, hrun, -⟩ | ⟨f, d, hrun, -⟩ <;> rw [hrun] at haround
  · exact .inl ⟨d, hrun, Act.run_attempt_ok haround⟩
  · exact .inr ⟨f, d, hrun, Act.run_attempt_failure haround⟩

/-- Every registration is retracted once, and what failed is reported. -/
theorem attempts_retractAll (hdelete : u.access.DeletesGently) (dir : Path)
    (gs : List Registration) (c : Scene (Surroundings ω)) :
    ∃ fs d, Attempts u.retraction u.name gs c fs d ∧
      Act.run (LocalLauncher.retractAll Bench.sitePart Bench.launcherPart
          (u.access.within Bench.aroundPart) u.name gs) (c.beside (u.memory dir gs)) =
        (.ok (fs.map fun e => e.1.words ++ ": " ++ e.2.message), d.beside (u.memory dir [])) := by
  induction gs generalizing c with
  | nil => exact ⟨[], c, .none, rfl⟩
  | cons g gs ih =>
    -- the registration is forgotten before it is retracted
    have hforget : Act.run (LocalLauncher.remember Bench.launcherPart fun l =>
        { l with registrations := gs }) (c.beside (u.memory dir (g :: gs))) =
        (.ok (), c.beside (u.memory dir gs)) := rfl
    have hlog : Act.run (Act.log .info ("Retracting " ++ g.words ++ " of " ++ u.name))
        (c.beside (u.memory dir gs)) =
        (.ok (), (c.logged .info ("Retracting " ++ g.words ++ " of " ++ u.name)).beside
          (u.memory dir gs)) := rfl
    unfold LocalLauncher.retractAll
    rw [Act.run_bind_ok hforget, Act.run_bind_ok hlog]
    rcases run_attempt_retract hdelete g
        (c.logged .info ("Retracting " ++ g.words ++ " of " ++ u.name)) (u.memory dir gs) with
      ⟨c₁, hrun, hattempt⟩ | ⟨f, c₁, hrun, hattempt⟩
    · obtain ⟨fs, d, hrest, hall⟩ := ih c₁
      refine ⟨fs, d, .retracted hrun hrest, ?_⟩
      rw [Act.run_bind_ok hattempt]
      exact hall
    · obtain ⟨fs, d, hrest, hall⟩ := ih (c₁.logged .error
        ("Failed to retract " ++ g.words ++ " of " ++ u.name ++ ": " ++ f.message))
      refine ⟨(g, f) :: fs, d, .failed hrun hrest, ?_⟩
      rw [Act.run_bind_ok hattempt]
      exact Act.run_bind_ok hall _

theorem attempts_undo (hdelete : u.access.DeletesGently) (dir : Path)
    (pending : List Registration) (c : Scene (Surroundings ω)) :
    ∃ fs d, Attempts u.retraction u.name pending c fs d ∧
      Act.run (LaunchCall.undo.act u.launcher) (c.beside (u.memory dir pending)) =
        (undoAnswer u.name fs, d.beside (u.memory dir [])) := by
  obtain ⟨fs, d, hattempts, hrun⟩ := attempts_retractAll hdelete dir pending c
  refine ⟨fs, d, hattempts, ?_⟩
  have hname : ((u.memory dir pending).runtime.map (·.topology.name)).getD "" = u.name := rfl
  have hpending : (u.memory dir pending).registrations = pending := rfl
  have hact : LaunchCall.undo.act u.launcher = (do
    LocalLauncher.undo Bench.sitePart Bench.launcherPart (u.access.within Bench.aroundPart)
    return Value.null) := rfl
  rw [hact]
  unfold LocalLauncher.undo
  rw [bind_assoc, run_inHand_bind]
  simp only [hname, hpending, bind_assoc]
  rw [Act.run_bind_ok hrun]
  cases fs <;> rfl

/-- Initialized once, a launcher remembers what it is to launch and where, and nothing to retract. -/
theorem memory_of_configure {w : Surroundings ω} {log : List Record} {c : Scene (Bench ω)}
    (h : Act.run (u.launcher.configure u.settings u.runtime) ⟨⟨w, {}⟩, log⟩ = (.ok (), c)) :
    ∃ dir, c.world.launcher = u.memory dir [] := by
  have hlearn : Act.run (LocalLauncher.remember Bench.launcherPart fun l =>
      { l with settings := u.settings, runtime := some u.runtime }) ⟨⟨w, {}⟩, log⟩ =
      (.ok (), ⟨⟨w, { settings := u.settings, runtime := some u.runtime }⟩, log⟩) := rfl
  replace h : Act.run (LocalLauncher.configure Bench.sitePart Bench.launcherPart u.settings
    u.runtime) ⟨⟨w, {}⟩, log⟩ = (.ok (), c) := h
  unfold LocalLauncher.configure at h
  rw [Act.run_bind_ok hlearn, Act.run_bind, Act.run_within] at h
  rcases hdir : Act.run (Site.pathSetting u.settings Key.workingDirectory) _ with ⟨e | dir, d⟩ <;>
    rw [hdir] at h
  · cases h
  · cases h
    exact ⟨dir, rfl⟩

/-- From a scene with something left to retract, calls follow what they complete and retract. -/
theorem follows_callAll_from (hdelete : u.access.DeletesGently) (dir : Path)
    (calls : List LaunchCall) (pending : List Registration) (c : Scene (Surroundings ω)) :
    ∃ answers left d, u.Follows dir pending calls c answers left d ∧
      LaunchCall.callAll u.launcher calls (c.beside (u.memory dir pending)) =
        (answers, d.beside (u.memory dir left)) := by
  induction calls generalizing pending c with
  | nil => exact ⟨[], pending, c, .done, rfl⟩
  | cons k calls ih =>
    cases k with
    | launch =>
      obtain ⟨answer, gs, c₁, hlaunch, hrun⟩ := launches_launch dir pending c
      obtain ⟨answers, left, d, hrest, hall⟩ := ih (gs ++ pending) c₁
      exact ⟨answer :: answers, left, d, .launch hlaunch hrest, LaunchCall.callAll_cons hrun hall⟩
    | undo =>
      obtain ⟨fs, c₁, hundo, hrun⟩ := attempts_undo hdelete dir pending c
      obtain ⟨answers, left, d, hrest, hall⟩ := ih [] c₁
      exact ⟨undoAnswer u.name fs :: answers, left, d, .undo hundo hrest,
        LaunchCall.callAll_cons hrun hall⟩

/-- For every launcher that was initialized once, every file system, every packing and every state
manager whose deleting may fail: in any sequence of calls, an undo attempts to retract exactly what was
completed since the undo before, each once and the newest first, it says what failed, and nothing is left
to retract. -/
theorem follows_callAll (hdelete : u.access.DeletesGently) {w : Surroundings ω} {log : List Record}
    {c : Scene (Bench ω)}
    (h : Act.run (u.launcher.configure u.settings u.runtime) ⟨⟨w, {}⟩, log⟩ = (.ok (), c))
    (calls : List LaunchCall) :
    ∃ dir answers left d, c.world.launcher.workingDir = some dir ∧
      LaunchCall.callAll u.launcher calls c = (answers, d) ∧
      u.Follows dir [] calls ⟨c.world.around, c.log⟩ answers left ⟨d.world.around, d.log⟩ ∧
      d.world.launcher.registrations = left := by
  obtain ⟨dir, hmemory⟩ := memory_of_configure h
  obtain ⟨answers, left, d, hfollows, hall⟩ :=
    follows_callAll_from hdelete dir calls [] ⟨c.world.around, c.log⟩
  have hc : Scene.beside ⟨c.world.around, c.log⟩ (u.memory dir []) = c := by
    rw [← hmemory]
    rfl
  rw [hc] at hall
  refine ⟨dir, answers, left, d.beside (u.memory dir left), ?_, hall, hfollows, rfl⟩
  rw [hmemory]
  rfl

/-- A state manager that refuses a packing plan, and does not delete an execution state. -/
def refusing : Undertaking Unit where
  access := {
    runningState := fun _ _ => Pure.pure .notRunning
    setNode := fun kind _ _ =>
      if kind = .packingPlan then Act.fail (.reported .badValue "full") else Pure.pure ()
    getNode := fun _ _ => Pure.pure .null
    deleteNode := fun kind _ =>
      if kind = .executionState then Act.fail (.reported .badValue "kept") else Pure.pure () }
  packing := {
    configure := fun _ => Pure.pure ()
    pack := fun _ => Pure.pure ⟨"p", [⟨1, [⟨.text "a", 1, 0⟩]⟩]⟩
    close := Pure.pure () }
  settings := { entries := [(.text Key.workingDirectory, .text "/w")] }
  runtime := ⟨.text "x", "n", ⟨.text "x", "n", .readOnlyMap []⟩, .text "u"⟩

theorem refusing_deletesGently : refusing.access.DeletesGently := by
  intro kind name w
  show Ends (if kind = .executionState then Act.fail (.reported .badValue "kept") else Pure.pure ())
    w _ _
  exact .ite (fun _ => .fail trivial) fun _ => .pure trivial

/-- Surroundings in which the name of the user is known. -/
def refusingScene : Scene (Surroundings Unit) := ⟨⟨{ account := some "u" }, ()⟩, []⟩

/-- The plan is refused after the execution state was set, which is not retracted. After that nothing is
left to retract. -/
theorem callAll_refusing :
    ∃ d, LaunchCall.callAll refusing.launcher [.launch, .undo, .undo]
        (refusingScene.beside (refusing.memory ⟨"/", ["w"]⟩ [])) =
      ([.error (.failure (.reported .badValue "full")), .error (.failure (.ofClass .undoFailed
        "Could not retract launch of n: execution state: kept")), .ok .null], d) := by
  have hlaunch : Act.run (LaunchCall.launch.act refusing.launcher)
      (refusingScene.beside (refusing.memory ⟨"/", ["w"]⟩ [])) =
        (.error (.failure (.reported .badValue "full")),
          refusingScene.beside (refusing.memory ⟨"/", ["w"]⟩ [.node .executionState "n"])) := rfl
  have hagain (d : Scene (Surroundings Unit)) : Act.run (LaunchCall.undo.act refusing.launcher)
      (d.beside (refusing.memory ⟨"/", ["w"]⟩ [])) =
        (.ok .null, d.beside (refusing.memory ⟨"/", ["w"]⟩ [])) := rfl
  obtain ⟨fs, d, hattempts, hundo⟩ :=
    attempts_undo refusing_deletesGently ⟨"/", ["w"]⟩ [.node .executionState "n"] refusingScene
  cases hattempts with
  | retracted h _ => cases h
  | failed h rest =>
    cases h
    cases rest
    have hmessage : "Could not retract launch of " ++ "n" ++ ": " ++
        "; ".intercalate ["execution state" ++ ": " ++ "kept"] =
        "Could not retract launch of n: execution state: kept" := by
      decide +kernel
    have hanswer : undoAnswer refusing.name [(.node .executionState "n", .reported .badValue "kept")] =
        .error (.failure (.ofClass .undoFailed _)) := congrArg _ (congrArg _ (congrArg _ hmessage))
    rw [hanswer] at hundo
    exact ⟨_, LaunchCall.callAll_cons hlaunch
      (LaunchCall.callAll_cons hundo (LaunchCall.callAll_cons (hagain _) rfl))⟩

/-- A launch that does not come to the last step, an undo that fails, and another undo. -/
theorem follows_callAll_refusing :
    ∃ c answers left d, Act.run (refusing.launcher.configure refusing.settings refusing.runtime)
        (refusingScene.beside {}) = (.ok (), c) ∧
      LaunchCall.callAll refusing.launcher [.launch, .undo, .undo] c = (answers, d) ∧
      refusing.Follows ⟨"/", ["w"]⟩ [] [.launch, .undo, .undo] ⟨c.world.around, c.log⟩ answers left
        ⟨d.world.around, d.log⟩ ∧
      answers = [.error (.failure (.reported .badValue "full")), .error (.failure (.ofClass .undoFailed
        "Could not retract launch of n: execution state: kept")), .ok .null] := by
  have hconf : Act.run (refusing.launcher.configure refusing.settings refusing.runtime)
      (refusingScene.beside {}) = (.ok (), refusingScene.beside (refusing.memory ⟨"/", ["w"]⟩ [])) := rfl
  obtain ⟨dir, answers, left, d, hdir, hall, hfollows, -⟩ :=
    follows_callAll refusing_deletesGently hconf [.launch, .undo, .undo]
  obtain rfl := Option.some.inj hdir
  obtain ⟨d', hcalls⟩ := callAll_refusing
  rw [hcalls] at hall
  obtain ⟨rfl, rfl⟩ := Prod.mk.inj hall
  exact ⟨_, _, left, _, hconf, hcalls, hfollows, rfl⟩

end Undertaking

end TopologySubmission
