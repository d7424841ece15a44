import Yui.JobSupervisor

/-!
# The passes of the durable job supervisor

`reconcile` goes over the active runs of the store: a queued run is adopted, marked unknown,
cancelled or started, a running one is harvested, proved dead or watched. `confirmResult` only
collects the result of one run.
-/

variable [JobHost]

inductive JobCommand where
  | listActive
  | transition (key : JobKey) (transition : JobTransition) (now : JsDate)
  | authorizeStart (job : JobRun)
  | artifactDir (key : JobKey)
  | readStartMarker (key : JobKey)
  | readReadyFile (key : JobKey)
  | readExitJson (key : JobKey)
  | readCheckpoint (key : JobKey)
  | readBusinessResult (key : JobKey)
  | heartbeatMtime (key : JobKey)
  | writeCancelFence (key : JobKey)
  | writeSpec (key : JobKey) (spec : DurableJobSpec)
  | writeStartMarker (key : JobKey) (marker : DurableJobStartMarker)
  | spawnJobRunner (key : JobKey)
  | signalIfOwned (process : DurableJobProcess) (signal : Signal)
  | processStartIdentity (pid : ℚ)
  | isProcessAlive (pid : ℚ)
  | reconcileDelegation (job : JobRun) (now : JsDate)
  | deliverTerminalEvent (key : JobKey) (status : DurableJobStatus)
  | wake (name : String)
  | report (key : JobKey) (failure : Failure)
  | sigkillDeadline (key : JobKey)
  | setSigkill (key : JobKey) (deadline : ℤ)
  | clearSigkill (key : JobKey)

@[reducible] def JobCommand.Answer : JobCommand → Type
  | .listActive => List JobRun
  | .transition _ _ _ => Option JobRun
  | .artifactDir _ => String
  | .readStartMarker _ => Option DurableJobStartMarker
  | .readReadyFile _ => Option DurableJobReadyMarker
  | .readExitJson _ => Option DurableJobExit
  | .readCheckpoint _ => Option DurableJobCheckpoint
  | .readBusinessResult _ => Option BusinessReceipt
  | .heartbeatMtime _ => Option JsDate
  | .spawnJobRunner _ => ℚ × Option String
  | .processStartIdentity _ => Option String
  | .isProcessAlive _ => Bool
  | .sigkillDeadline _ => Option ℤ
  | _ => Unit

def World.perform (w : World) : (c : JobCommand) → Except Failure c.Answer × World
  | .listActive => (.ok w.listActiveDurableJobs, w)
  | .transition key transition now => transitionDurableJob w key transition now
  | .authorizeStart job => (w.authorization job, w)
  | .artifactDir key => (.ok (w.home ++ "/artifacts/jobs/" ++ key.1 ++ "/" ++ key.2), w)
  | .readStartMarker key => (.ok (w.startMarkers key), w)
  | .readReadyFile key => (.ok (w.readyFiles key), w)
  | .readExitJson key => (.ok (w.exits key), w)
  | .readCheckpoint key => (.ok (w.checkpoints key), w)
  | .readBusinessResult key => (.ok (w.receipts key), w)
  | .heartbeatMtime key => (.ok (w.heartbeats key), w)
  | .writeCancelFence key => (.ok (), { w with fences := Function.update w.fences key true })
  | .writeSpec key spec => (.ok (), { w with specs := Function.update w.specs key (some spec) })
  | .writeStartMarker key marker =>
    (.ok (), { w with startMarkers := Function.update w.startMarkers key (some marker) })
  | .spawnJobRunner key => (.ok w.nextProcess, w.record [.spawned key])
  | .signalIfOwned _ _ => (.ok (), w)
  | .processStartIdentity pid => (.ok (w.identities pid), w)
  | .isProcessAlive pid => (.ok (w.alive pid), w)
  | .reconcileDelegation _ _ => (.ok (), w)
  | .deliverTerminalEvent key status => (.ok (), w.record [.noticed key status])
  | .wake _ => (.ok (), w)
  | .report _ _ => (.ok (), w)
  | .sigkillDeadline key => (.ok (w.sigkillAt key), w)
  | .setSigkill key deadline =>
    (.ok (), { w with sigkillAt := Function.update w.sigkillAt key (some deadline) })
  | .clearSigkill key => (.ok (), { w with sigkillAt := Function.update w.sigkillAt key none })

abbrev Pass (α : Type) := Program JobCommand JobCommand.Answer Failure α

def ask (command : JobCommand) : Pass command.Answer := Program.issue command

def pendingIdentity : String := "pending"

def heartbeatStaleMs : ℤ := 120000

def sigkillGraceMs : ℤ := 30000

def defaultStepTimeoutMs : ℚ := 1800000

/-- The notice of a terminal Task run; a global run has none. -/
def deliverTerminalEvent (job : Option JobRun) : Pass Unit :=
  match job with
  | none => .done ()
  | some job =>
    if isDurableJobTerminal job.status ∧ World.isTaskRun job then
      ask (.deliverTerminalEvent job.key job.status)
    else .done ()

variable (job : JobRun)

def readReceipt (result : DurableJobResult) : Pass (Option BusinessReceipt) :=
  match job.scope with
  | .task _ _ => .done none
  | .global action _ _ =>
    if result.outcome = .cancelled ∧ result.steps = [] then .done none
    else if action = some "system.noop" ∨ action = some "shell.exec" then .done none
    else ask (.readBusinessResult job.key)

def exitResult (exit : DurableJobExit) : DurableJobResult where
  outcome := exit.outcome
  exitCode := exit.exitCode
  signal := exit.signal
  failedStep := exit.failedStep
  unknownReason := none
  evidenceSource := some .exitArtifact
  steps := exit.steps

def harvestExit (job : JobRun) (exit : DurableJobExit) (now : JsDate) : Pass Unit := do
  let _ ← ask (.transition job.key (.receipt exit) now)
  let receipt ← readReceipt job (exitResult exit)
  let terminal ← ask (.transition job.key
    (.harvest (exitResult exit) (businessResult receipt job (exitResult exit))) now)
  deliverTerminalEvent terminal
  ask (.clearSigkill job.key)

/-- `proveOutcomeFromCheckpoint`, with the evidence source that its caller adds. -/
def proveOutcomeFromCheckpoint (checkpoint : DurableJobCheckpoint) : Option DurableJobResult :=
  let planned := job.steps.getD []
  if job.delegation ≠ none then none
  else if ¬ (checkpoint.completedSteps.map DurableJobStepResult.name).Nodup then none
  else if checkpoint.completedSteps.length ≠ planned.length then none
  else
    match planned.mapM fun step =>
        checkpoint.completedSteps.find? fun done => done.name == step.name with
    | none => none
    | some ordered =>
      match ordered.find? fun step =>
          step.timedOut || step.exitCode != some 0 || step.signal.isSome with
      | none => some ⟨.succeeded, some 0, none, none, none, some .checkpoint, ordered⟩
      | some failing =>
        some ⟨if failing.timedOut then .timedOut else .failed, failing.exitCode,
          failing.signal, some failing.name, none, some .checkpoint, ordered⟩

/-- What a dead runner leaves behind proves an outcome, or the run is lost. -/
def deadTransition (checkpoint : Option DurableJobCheckpoint) : JobTransition :=
  match checkpoint.bind (proveOutcomeFromCheckpoint job) with
  | some proven => .prove proven
  | none => .lose ((checkpoint.map DurableJobCheckpoint.completedSteps).getD [])

def handleDeadProcess (job : JobRun) (now : JsDate) : Pass Unit := do
  let checkpoint ← ask (.readCheckpoint job.key)
  let terminal ← ask (.transition job.key (deadTransition job checkpoint) now)
  deliverTerminalEvent terminal
  ask (.clearSigkill job.key)

/-- The ready file of the runner outranks the marker of the Controller. -/
def spawnedProcess (ready : Option DurableJobReadyMarker) (marker : Option DurableJobStartMarker) :
    Option DurableJobProcess :=
  match ready, marker with
  | some ready, _ => some ⟨ready.pid, ready.startIdentity⟩
  | none, some marker =>
    if marker.startIdentity ≠ pendingIdentity then some ⟨marker.pid, marker.startIdentity⟩
    else none
  | none, none => none

def spawnedProcessFromEvidence (marker : Option DurableJobStartMarker) :
    Pass (Option DurableJobProcess) := do
  let ready ← ask (.readReadyFile job.key)
  pure (spawnedProcess ready marker)

def isLive (process : DurableJobProcess) : Pass Bool := do
  let identity ← ask (.processStartIdentity process.pid)
  if identity = some process.startIdentity then ask (.isProcessAlive process.pid)
  else pure false

def adoptAndContinue (process : DurableJobProcess) (now : JsDate) : Pass Unit := do
  let _ ← ask (.transition job.key (.adopt process) now)
  let exit ← ask (.readExitJson job.key)
  match exit with
  | some exit => harvestExit job exit now
  | none =>
    let live ← isLive process
    if live then pure () else handleDeadProcess job now

def rejectStart (failure : Failure) (now : JsDate) : Pass Unit :=
  if failure.name ≠ "CoreJobError" then .raise failure
  else do
    let terminal ← ask (.transition job.key (.reject failure.message) now)
    deliverTerminalEvent terminal

def JobRun.scriptFiles : Option Json :=
  match job.scope with
  | .global (some "shell.exec") (some input) _ => input.member? "files"
  | _ => none

def JobRun.spec (job : JobRun) (artifactDir : String) : DurableJobSpec where
  files := job.scriptFiles
  jobId := job.id
  taskId := match job.scope with
    | .task taskId _ => some taskId
    | .global _ _ _ => none
  workspace := job.workspace.getD ""
  env := job.env.getD []
  steps := job.steps.getD []
  defaultStepTimeoutMs := defaultStepTimeoutMs
  artifactDir := artifactDir
  head := job.head.getD ""

def attemptOf {α : Type} (program : Pass α) : Pass (Except Failure α) :=
  (program.bind fun value => .done (.ok value)).handle fun failure => .done (.error failure)

def startJob (now : JsDate) : Pass Unit :=
  if job.delegation ≠ none then .raise (.error "Task delegation cannot start a process.")
  else do
    match ← attemptOf (ask (.authorizeStart job)) with
    | .error failure => rejectStart job failure now
    | .ok _ =>
      let artifactDir ← ask (.artifactDir job.key)
      ask (.writeSpec job.key (job.spec artifactDir))
      match ← attemptOf (ask (.transition job.key .attempt now)) with
      | .error failure => rejectStart job failure now
      | .ok none => pure ()
      | .ok (some _) =>
        ask (.writeStartMarker job.key ⟨0, pendingIdentity, now.iso⟩)
        let spawned ← ask (.spawnJobRunner job.key)
        ask (.writeStartMarker job.key
          ⟨spawned.1, spawned.2.getD (JobHost.numberText spawned.1), now.iso⟩)
        ask (.wake job.key.1)

/-- A requested cancellation fences the artifacts and terminates the runner, if there is one. -/
def fenceCancelled (process : Option DurableJobProcess) : Pass Unit :=
  if job.cancelRequestedAt ≠ none then do
    ask (.writeCancelFence job.key)
    match process with
    | some process => ask (.signalIfOwned process .term)
    | none => pure ()
  else pure ()

def reconcileQueued (now : JsDate) : Pass Unit := do
  let marker ← ask (.readStartMarker job.key)
  let spawned ← spawnedProcessFromEvidence job marker
  fenceCancelled job spawned
  match spawned with
  | some process => adoptAndContinue job process now
  | none =>
    if job.operation.effect ≠ .none then
      let terminal ← ask (.transition job.key .acceptanceUnknown now)
      deliverTerminalEvent terminal
    else if job.cancelRequestedAt ≠ none then
      let terminal ← ask (.transition job.key .cancel now)
      deliverTerminalEvent terminal
    else if marker ≠ none then
      .raise (.error "Job start marker contradicts its unattempted operation.")
    else startJob job now

def signalStale (mtime now : JsDate) : Pass Unit :=
  match job.process with
  | none => pure ()
  | some process =>
    if heartbeatStaleMs < now.time - mtime.time then do
      ask (.signalIfOwned process .term)
      match ← ask (.sigkillDeadline job.key) with
      | none => ask (.setSigkill job.key (now.time + sigkillGraceMs))
      | some _ => pure ()
    else pure ()

def recordHeartbeat (mtime now : JsDate) : Pass Unit :=
  if ((job.heartbeatAt.bind JsHost.dateParse).getD 0) < mtime.time then do
    let _ ← ask (.transition job.key (.heartbeat mtime) now)
    pure ()
  else pure ()

/-- The heartbeat part of `#superviseRunning`. -/
def watchHeartbeat (now : JsDate) : Pass Unit := do
  match ← ask (.heartbeatMtime job.key) with
  | none => pure ()
  | some mtime => do
    signalStale job mtime now
    recordHeartbeat job mtime now

def escalate (now : JsDate) : Pass Unit := do
  match ← ask (.sigkillDeadline job.key), job.process with
  | some deadline, some process =>
    if deadline ≤ now.time then
      ask (.signalIfOwned process .kill)
      ask (.clearSigkill job.key)
  | _, _ => pure ()

def superviseRunning (now : JsDate) : Pass Unit := do
  match ← ask (.readExitJson job.key) with
  | some exit => harvestExit job exit now
  | none =>
    match job.process with
    | none => do
      watchHeartbeat job now
      escalate job now
    | some process => do
      fenceCancelled job (some process)
      let live ← isLive process
      if live then do
        watchHeartbeat job now
        escalate job now
      else handleDeadProcess job now

def reconcileJob (now : JsDate) : Pass Unit :=
  if job.delegation ≠ none then ask (.reconcileDelegation job now)
  else match job.status with
    | .queued => reconcileQueued job now
    | .running => superviseRunning job now
    | _ => .done ()

def isRefresh : Bool :=
  match job.scope with
  | .global (some action) _ _ => action == "project.refresh"
  | _ => false

def isWaiting : Bool :=
  isRefresh job && job.status == .queued && job.operation.effect == .none &&
    job.cancelRequestedAt.isNone

def isOccupied : Bool :=
  isRefresh job && (job.status == .running || job.operation.effect != .none)

def refreshLimit : ℕ := 4

/-- Whether a waiting refresh may start: at most four are outstanding. -/
def hasRoom : Pass Bool :=
  if isWaiting job then do
    let active ← ask .listActive
    pure (decide ((active.filter isOccupied).length < refreshLimit))
  else pure true

/-- One turn of the loop of `reconcile`; `false` leaves the loop. -/
def reconcileTurn (now : JsDate) : Pass Bool := do
  let room ← hasRoom job
  if room then do
    reconcileJob job now
    pure true
  else pure false

def reconcileAll (now : JsDate) : List JobRun → Pass Unit
  | [] => .done ()
  | job :: jobs => do
    let go ← (reconcileTurn job now).handle fun failure => do
      ask (.report job.key failure)
      pure true
    if go then reconcileAll now jobs else pure ()

def reconcile (now : JsDate) : Pass Unit := do
  let jobs ← ask .listActive
  reconcileAll now (jobs.filter (fun job => !isWaiting job) ++ jobs.filter isWaiting)

def confirmResult (key : JobKey) (now : JsDate) : Pass Unit := do
  let jobs ← ask .listActive
  match jobs.find? fun job => job.key == key with
  | none => pure ()
  | some job =>
    if job.delegation ≠ none then ask (.reconcileDelegation job now)
    else if job.status = .queued then
      let marker ← ask (.readStartMarker key)
      match ← spawnedProcessFromEvidence job marker with
      | some process => adoptAndContinue job process now
      | none => pure ()
    else
      match ← ask (.readExitJson key) with
      | some exit => harvestExit job exit now
      | none =>
        match job.process with
        | none => pure ()
        | some process =>
          let live ← isLive process
          if live then pure () else handleDeadProcess job now
