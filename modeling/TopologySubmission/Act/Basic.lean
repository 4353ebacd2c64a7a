import TopologySubmission.Failure.Basic

/-!
# Acts: steps that change a world

An `Act σ α` starts in a world of type `σ`, may change it, may write records to the log, and ends
with a result or stops. What it changed and logged before it stopped stays.

`attempt` turns a failure into a value and lets an interrupt pass; `ensure` runs a second act however
the first one ends; `within` runs an act on a part of a larger world.

    run (attempt a) never ends in a failure       (run_attempt)
-/

namespace TopologySubmission

/-! ## Algorithm -/

/-- How grave a record of the log is. -/
inductive Level where
  | debug
  | info
  | warning
  | error
  deriving DecidableEq, Repr

def Level.name : Level → String
  | .debug => "DEBUG"
  | .info => "INFO"
  | .warning => "WARNING"
  | .error => "ERROR"

/-- One line of the log. -/
structure Record where
  level : Level
  text : String
  deriving DecidableEq, Repr

/-- A world and what was logged in it, the oldest record first. -/
structure Scene (σ : Type) where
  world : σ
  log : List Record := []

/-- A step that changes a world, logs, and ends with a result or stops. -/
abbrev Act (σ α : Type) := ExceptT Stop (StateM (Scene σ)) α

/-- A part of a world: how to see it and how to replace it. -/
structure Part (σ τ : Type) where
  get : σ → τ
  set : σ → τ → σ

/-- The whole world as a part of itself. -/
def Part.whole {σ : Type} : Part σ σ := ⟨id, fun _ s => s⟩

/-- A part of a part. -/
def Part.trans {σ τ υ : Type} (p : Part σ τ) (q : Part τ υ) : Part σ υ :=
  ⟨fun s => q.get (p.get s), fun s u => p.set s (q.set (p.get s) u)⟩

namespace Act

variable {σ τ α : Type}

/-- Runs an act in a scene. -/
def run (a : Act σ α) (s : Scene σ) : Except Stop α × Scene σ := StateT.run (ExceptT.run a) s

/-- Stops with a failure. -/
def fail (f : Failure) : Act σ α := throw (.failure f)

/-- Stops in a given way. -/
def stop (s : Stop) : Act σ α := throw s

/-- The result of a computation that may fail. -/
def ofExcept : Except Failure α → Act σ α
  | .ok a => pure a
  | .error f => fail f

/-- Adds a record to the log. -/
def log (level : Level) (text : String) : Act σ Unit :=
  modify fun s => { s with log := s.log ++ [⟨level, text⟩] }

/-- The world as it is. -/
def world : Act σ σ := do return (← get).world

/-- Replaces the world. -/
def setWorld (w : σ) : Act σ Unit := modify fun s => { s with world := w }

/-- Changes the world. -/
def change (f : σ → σ) : Act σ Unit := modify fun s => { s with world := f s.world }

/-- Runs an act and answers its failure as a value; an interrupt passes. -/
def attempt (a : Act σ α) : Act σ (Except Failure α) := fun s =>
  match a.run s with
  | (.ok x, s') => (.ok (.ok x), s')
  | (.error (.failure f), s') => (.ok (.error f), s')
  | (.error (.interrupt i), s') => (.error (.interrupt i), s')

/-- Runs an act and then another one, however the first one ends. -/
def ensure (a : Act σ α) (after : Act σ Unit) : Act σ α := fun s =>
  match a.run s with
  | (r, t) =>
    match after.run t with
    | (.ok _, u) => (r, u)
    | (.error e, u) => (.error e, u)

/-- Runs an act on a part of the world. -/
def within (p : Part σ τ) (a : Act τ α) : Act σ α := fun s =>
  match a.run ⟨p.get s.world, s.log⟩ with
  | (r, t) => (r, ⟨p.set s.world t.world, t.log⟩)

/-! ## Lemmas -/

@[simp] theorem run_pure (a : α) (s : Scene σ) : run (pure a : Act σ α) s = (.ok a, s) := rfl

@[simp] theorem run_fail (f : Failure) (s : Scene σ) :
    run (fail f : Act σ α) s = (.error (.failure f), s) := rfl

@[simp] theorem run_stop (e : Stop) (s : Scene σ) :
    run (stop e : Act σ α) s = (.error e, s) := rfl

@[simp] theorem run_log (l : Level) (t : String) (s : Scene σ) :
    run (log l t) s = (.ok (), { s with log := s.log ++ [⟨l, t⟩] }) := rfl

@[simp] theorem run_change (f : σ → σ) (s : Scene σ) :
    run (change f) s = (.ok (), { s with world := f s.world }) := rfl

@[simp] theorem run_setWorld (w : σ) (s : Scene σ) :
    run (setWorld w) s = (.ok (), { s with world := w }) := rfl

@[simp] theorem run_world (s : Scene σ) : run (world : Act σ σ) s = (.ok s.world, s) := rfl

/-- Two acts in a row: the second runs where the first ended, unless the first stopped. -/
theorem run_bind {β : Type} (a : Act σ α) (f : α → Act σ β) (s : Scene σ) :
    run (a >>= f) s = match run a s with
      | (.ok x, t) => run (f x) t
      | (.error e, t) => (.error e, t) := by
  simp only [run, ExceptT.run_bind, StateT.run_bind]
  rcases StateT.run (ExceptT.run a) s with ⟨_ | _, t⟩ <;> rfl

theorem run_bind_ok {β : Type} {a : Act σ α} {x : α} {s t : Scene σ} (h : run a s = (.ok x, t))
    (f : α → Act σ β) : run (a >>= f) s = run (f x) t := by
  rw [run_bind, h]

theorem run_bind_error {β : Type} {a : Act σ α} {e : Stop} {s t : Scene σ}
    (h : run a s = (.error e, t)) (f : α → Act σ β) : run (a >>= f) s = (.error e, t) := by
  rw [run_bind, h]

/-- Where two acts in a row give a result, both of them do. -/
theorem exists_of_run_bind {β : Type} {a : Act σ α} {f : α → Act σ β} {y : β} {s u : Scene σ}
    (h : run (a >>= f) s = (.ok y, u)) : ∃ x t, run a s = (.ok x, t) ∧ run (f x) t = (.ok y, u) := by
  rw [run_bind] at h
  rcases hr : run a s with ⟨e | x, t⟩ <;> rw [hr] at h
  · cases h
  · exact ⟨x, t, rfl, h⟩

/-- An act whose result is changed. -/
theorem run_map {β : Type} (f : α → β) (a : Act σ α) (s : Scene σ) :
    run (f <$> a) s = match run a s with
      | (.ok x, t) => (.ok (f x), t)
      | (.error e, t) => (.error e, t) := by
  rw [map_eq_pure_bind, run_bind]
  rcases run a s with ⟨_ | _, t⟩ <;> rfl

/-- An attempt never ends in a failure. -/
theorem run_attempt (a : Act σ α) (s : Scene σ) :
    run (attempt a) s = match run a s with
      | (.ok x, t) => (.ok (.ok x), t)
      | (.error (.failure f), t) => (.ok (.error f), t)
      | (.error (.interrupt i), t) => (.error (.interrupt i), t) := rfl

theorem run_attempt_ok {a : Act σ α} {x : α} {s t : Scene σ} (h : run a s = (.ok x, t)) :
    run (attempt a) s = (.ok (.ok x), t) := by
  rw [run_attempt, h]

theorem run_attempt_failure {a : Act σ α} {f : Failure} {s t : Scene σ}
    (h : run a s = (.error (.failure f), t)) : run (attempt a) s = (.ok (.error f), t) := by
  rw [run_attempt, h]

theorem run_attempt_interrupt {a : Act σ α} {i : Interrupt} {s t : Scene σ}
    (h : run a s = (.error (.interrupt i), t)) :
    run (attempt a) s = (.error (.interrupt i), t) := by
  rw [run_attempt, h]

theorem run_ensure (a : Act σ α) (after : Act σ Unit) (s : Scene σ) :
    run (ensure a after) s = match run after (run a s).2 with
      | (.ok _, u) => ((run a s).1, u)
      | (.error e, u) => (.error e, u) := rfl

theorem run_within (p : Part σ τ) (a : Act τ α) (s : Scene σ) :
    run (within p a) s =
      ((run a ⟨p.get s.world, s.log⟩).1,
        ⟨p.set s.world (run a ⟨p.get s.world, s.log⟩).2.world,
          (run a ⟨p.get s.world, s.log⟩).2.log⟩) := rfl

end Act

end TopologySubmission
