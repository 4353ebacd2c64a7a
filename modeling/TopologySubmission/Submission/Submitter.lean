import TopologySubmission.Submission.Outcome

/-!
# The submitter

A submitter performs one attempt to submit a topology:

    init → validating → uploading → launching → committed → closed

The state manager is configured first; the attempt goes on only if it then confirms that the topology
does not run. The package is uploaded, and the launcher is given its place and launches once. When
the upload or the launch fails, or is broken off, the attempt is rolled back: the uploader and the
launcher undo what they did, each whatever happens to the other. On every path the plugins that are
in use are closed at the end. An error of undoing or closing is recorded and changes nothing else.
-/

namespace TopologySubmission

/-! ## Algorithm -/

/-- What an attempt needs. -/
structure Submitter (σ : Type) where
  settings : Settings
  topology : Topology
  plugins : Plugins σ
  /-- The seconds to wait for a running check. -/
  timeout : Value

/-- A call of a plugin and the scene of the plugins in which it was made. -/
structure Visit (σ : Type) where
  call : Call
  scene : Scene σ

/-- How far an attempt is, in a world of its plugins. -/
structure Progress (σ : Type) where
  world : σ
  stage : Stage := .init
  launcherReady : Bool := false
  started : Bool := false
  calls : List Call := []
  /-- The calls, each with the scene in which it was made. -/
  visits : List (Visit σ) := []
  outcome : Outcome

/-- Remembers a call. -/
def Progress.note {σ : Type} (p : Progress σ) (v : Visit σ) : Progress σ :=
  { p with calls := p.calls ++ [v.call], visits := p.visits ++ [v] }

namespace Submitter

variable {σ : Type} (s : Submitter σ)

/-- The seconds to wait for a running check unless others are given: five. -/
def defaultTimeout : Value := .float (.rounded false 5 1)

/-- The world of the plugins as a part of an attempt. -/
def worldPart : Part (Progress σ) σ := ⟨Progress.world, fun p w => { p with world := w }⟩

/-- The name of the topology. -/
def name : String := s.topology.name

/-- An attempt that has not begun. -/
def begin (w : σ) : Progress σ := { world := w, outcome := { topologyName := s.name } }

/-- Calls a plugin. -/
def call {α : Type} (c : Call) (a : Act σ α) : Act (Progress σ) α := do
  modify fun t => { t with world := t.world.note ⟨c, ⟨t.world.world, t.log⟩⟩ }
  Act.within worldPart a

/-- Changes the outcome. -/
def record (f : Outcome → Outcome) : Act (Progress σ) Unit :=
  Act.change fun p => { p with outcome := f p.outcome }

/-- Goes to another stage. -/
def enter (next : Stage) : Act (Progress σ) Unit := do
  let p ← Act.world
  Act.log .debug (s.name ++ ": " ++ p.stage.text ++ " -> " ++ next.text)
  Act.setWorld { p with stage := next, outcome := p.outcome.enter next }

/-- Records the error that ended the attempt, with the stage and the topology it is about. -/
def recordFailure (e : SubmissionError) : Act (Progress σ) Unit := do
  let p ← Act.world
  let e := { e with
    stage := e.stage <|> some p.stage.text, topology := e.topology <|> some s.name }
  record (·.failWith p.stage e)
  Act.log .error e.message

/-! ### Stages -/

/-- An error of a class, caused by a failure. -/
def causedBy (kind : ErrorClass) (what : String) (f : Failure) : SubmissionError :=
  { kind, message := what ++ f.message, cause := some f.kind }

/-- Configures the state manager. -/
def configureState : Act (Progress σ) Unit := do
  match ← Act.attempt (call .configureState (s.plugins.stateManager.configure s.settings)) with
  | .ok () => pure ()
  | .error f =>
    Act.fail (.submission
      { causedBy .validationRejected "Failed to initialize state manager: " f with
        stage := some Stage.init.text, topology := some s.name })

/-- The failure of a topology that may not be submitted. -/
def rejected (message : String) : Failure := .ofClass .validationRejected message

/-- Refuses the topology unless it is known not to run. -/
def validate : Act (Progress σ) Unit := do
  let state ← call (.runningCheck s.name)
    (s.plugins.stateManager.runningState s.name s.timeout)
  match state with
  | .notRunning => pure ()
  | .running => Act.fail (rejected ("Topology " ++ s.name ++ " already exists"))
  | .timedOut =>
    Act.fail (rejected ("Could not confirm within " ++ s.timeout.plain ++ "s that topology " ++
      s.name ++ " is not running"))

/-- Configures the uploader and moves the package, without a look at the answer. -/
def tryUpload : Act (Progress σ) Value := do
  call .configureUploader (s.plugins.uploader.configure s.settings)
  call .uploadPackage s.plugins.uploader.uploadPackage

/-- Demands an answer that counts as true: a failure or any other answer is an error of a class. -/
def demand (kind : ErrorClass) (failed : String) (a : Act (Progress σ) Value) :
    Act (Progress σ) Value := do
  match ← Act.attempt a with
  | .error f => Act.fail (.submission (causedBy kind (failed ++ ": ") f))
  | .ok v =>
    if v.isTruthy then return v
    else Act.fail (.ofClass kind (failed ++ "."))

/-- Moves the package; the place where it is. -/
def upload : Act (Progress σ) Value :=
  demand .uploadFailed "Failed to upload package" s.tryUpload

/-- What the launcher is given for a package at a place. -/
def runtime (uri : Value) : Runtime :=
  { topologyId := s.topology.id, topologyName := s.name, topology := s.topology
    packageUri := uri }

/-- The keys of what the launcher is given. -/
def runtimeKeys : List String :=
  [Key.topologyId, Key.topologyName, Key.runtimeTopology, Key.runtimeAdaptor, Key.runtimePackage,
    Key.runtimeLauncher, Key.runtimePacking]

/-- Configures the launcher and launches, without a look at the answer. -/
def tryLaunch (uri : Value) : Act (Progress σ) Value := do
  call (.configureLauncher (s.runtime uri))
    (s.plugins.launcher.configure s.settings (s.runtime uri))
  Act.change fun p => { p with launcherReady := true }
  call .launch s.plugins.launcher.launch

/-- Launches the topology. -/
def launch (uri : Value) : Act (Progress σ) Unit := do
  let _ ← demand .launchFailed "Failed to launch topology" (s.tryLaunch uri)
  pure ()

/-- The error that is recorded for a failure to undo: the plugin's own if it reports one. -/
def undoError (who : String) (f : Failure) : SubmissionError :=
  let e : SubmissionError := match f.submissionError? with
    | some e => if e.kind = .undoFailed then e else
        { kind := .undoFailed, message := who ++ " undo failed: " ++ f.message }
    | none => { kind := .undoFailed, message := who ++ " undo failed: " ++ f.message }
  { e with stage := some Stage.rollingBack.text, topology := some s.name }

/-- Calls a plugin for something that may fail: a failure is recorded in the outcome and logged. -/
def tolerate (c : Call) (a : Act σ Unit) (note : Failure → Outcome → Outcome)
    (line : Failure → String) : Act (Progress σ) Unit := do
  match ← Act.attempt (call c a) with
  | .ok () => pure ()
  | .error f =>
    record (note f)
    Act.log .error (line f)

/-- What is logged of a failure to undo. -/
def undoLine (who : String) (f : Failure) : String :=
  "Undo of " ++ who ++ " failed for topology " ++ s.name ++ ": " ++ f.message

/-- Lets one plugin undo what it did. -/
def undo (who : String) (c : Call) (a : Act σ Unit) : Act (Progress σ) Unit :=
  tolerate c a (fun f o => { o with undoErrors := o.undoErrors ++ [s.undoError who f] })
    (s.undoLine who)

/-- Lets the uploader and the launcher undo what they did. -/
def rollback : Act (Progress σ) Unit := do
  Act.log .warning ("Rolling back submission of topology " ++ s.name)
  s.undo "uploader" .undoUploader s.plugins.uploader.undo
  s.undo "launcher" .undoLauncher s.plugins.launcher.undo

/-- The error that is recorded for a failure to close. -/
def closeError (who : String) (f : Failure) : String := who ++ ": " ++ f.message

/-- What is logged of a failure to close. -/
def closeLine (who : String) (f : Failure) : String :=
  "Failed to close " ++ who ++ ": " ++ f.message

/-- Closes one plugin. -/
def close (who : String) (c : Call) (a : Act σ Unit) : Act (Progress σ) Unit :=
  tolerate c a (fun f o => { o with cleanupErrors := o.cleanupErrors ++ [closeError who f] })
    (closeLine who)

/-- Closes the launcher and its packing, if the launcher was configured. -/
def closeLauncher : Act (Progress σ) Unit := do
  if (← Act.world).launcherReady then
    close "launcher" .closeLauncher s.plugins.launcher.close
    close "packing" .closePacking s.plugins.packing.close
  else pure ()

/-- Closes the plugins that are in use. -/
def cleanup : Act (Progress σ) Unit := do
  close "uploader" .closeUploader s.plugins.uploader.close
  s.closeLauncher
  close "state manager" .closeState s.plugins.stateManager.close

/-! ### The attempt -/

/-- Uploads the package and launches the topology. -/
def uploadAndLaunch : Act (Progress σ) Unit := do
  let uri ← s.upload
  record fun o => { o with packageUri := uri }
  s.enter .launching
  s.launch uri

/-- Uploads and launches; an error that leaves something to roll back is recorded. -/
def commit : Act (Progress σ) Unit := do
  match ← Act.attempt s.uploadAndLaunch with
  | .ok () =>
    record fun o => { o with success := true }
    s.enter .committed
  | .error f =>
    match f.submissionError? with
    | some e => if e.kind.isA .compensable then s.recordFailure e else Act.fail f
    | none => Act.fail f

/-- Rolls an attempt back that was not committed. -/
def rollbackUnlessCommitted : Act (Progress σ) Unit := do
  let p ← Act.world
  if p.outcome.success then pure ()
  else
    record fun o => { o with failedStage := o.failedStage <|> some p.stage }
    s.enter .rollingBack
    s.rollback

/-- The stages up to the commitment. -/
def stages : Act (Progress σ) Unit := do
  s.configureState
  s.enter .validating
  s.validate
  Act.log .info ("Topology " ++ s.name ++ " to be submitted")
  s.enter .uploading
  Act.ensure s.commit s.rollbackUnlessCommitted

/-- The stages; an error that leaves nothing to roll back is recorded. -/
def guardedStages : Act (Progress σ) Unit := do
  match ← Act.attempt s.stages with
  | .ok () => pure ()
  | .error f =>
    match f.submissionError? with
    | some e => if e.kind.isA .fatal then s.recordFailure e else Act.fail f
    | none => Act.fail f

/-- Closes the plugins and the attempt. -/
def finish : Act (Progress σ) Unit := do
  s.cleanup
  s.enter .closed

/-- Reports the outcome in the log. -/
def report (o : Outcome) : Act (Progress σ) Unit :=
  if o.success then
    Act.log .info ("Topology " ++ s.name ++ " submitted successfully")
  else
    Act.log .error ("Failed to submit topology " ++ s.name ++ " at stage " ++
      o.failedStageText ++ ". Exiting")

/-- Begins the attempt. There is one only. -/
def start : Act (Progress σ) Unit := do
  let p ← Act.world
  if p.started then Act.fail (.misuse .secondAttempt)
  else
    Act.setWorld
      { p with started := true, outcome := { topologyName := s.name, history := [p.stage] } }

/-- Performs the attempt. -/
def submit : Act (Progress σ) Outcome := do
  s.start
  Act.ensure s.guardedStages s.finish
  let o := (← Act.world).outcome
  s.report o
  return o

end Submitter

/-! ## Lemmas -/

namespace Submitter

variable {σ : Type}

/-- A second attempt is refused and changes nothing. -/
theorem run_submit_again (s : Submitter σ) (c : Scene (Progress σ)) (h : c.world.started = true) :
    Act.run s.submit c = (.error (.failure (.misuse .secondAttempt)), c) := by
  simp [submit, start, Act.run_bind, h]

/-- A call is remembered before the plugin acts. -/
theorem run_call {α : Type} (k : Call) (a : Act σ α) (c : Scene (Progress σ)) :
    Act.run (call k a) c =
      ((Act.run a ⟨c.world.world, c.log⟩).1,
        ⟨{ c.world.note ⟨k, ⟨c.world.world, c.log⟩⟩ with
            world := (Act.run a ⟨c.world.world, c.log⟩).2.world },
          (Act.run a ⟨c.world.world, c.log⟩).2.log⟩) := rfl

end Submitter

end TopologySubmission
