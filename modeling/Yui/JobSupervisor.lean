import Yui.CommandProgram
import Yui.DurableJobTransition

/-!
# The durable job supervisor

The passes of `controller/jobSupervisor.ts` as programs of commands: the transactions of the store,
the reads and writes of the artifact files, the spawn and the signals. A command is what a
Controller crash cannot split. `World` is what outlives the Controller, together with the SIGKILL
deadlines it remembers.
-/

open Checked

structure Failure where
  name : String
  message : String

def Failure.error (message : String) : Failure := ⟨"Error", message⟩

/-- An operation of the job run throws a plain error. -/
def orThrow {α : Type} (result : Except String α) : Except Failure α :=
  match result with
  | .ok value => .ok value
  | .error message => .error (.error message)

/-- `executionNamespace(job)` and `job.id`. -/
abbrev JobKey := String × String

def JobRun.key (job : JobRun) : JobKey := (executionNamespace job.toJobFacts, job.id)

structure DurableJobStartMarker where
  pid : ℚ
  startIdentity : String
  spawnedAt : String

structure DurableJobReadyMarker where
  pid : ℚ
  startIdentity : String
  startedAt : String

/-- The terminal exit artifact the runner writes. -/
structure DurableJobExit where
  outcome : DurableJobStatus
  exitCode : Option ℚ
  signal : Option String
  failedStep : Option String
  steps : List DurableJobStepResult
  finishedAt : String

/-- The spec the Controller writes for the runner to consume. -/
structure DurableJobSpec where
  files : Option Json
  jobId : String
  taskId : Option String
  workspace : String
  env : EnvMap
  steps : List DurableJobStep
  defaultStepTimeoutMs : ℚ
  artifactDir : String
  head : String

/-- The bytes of `business-result.json` and the result they parse to. -/
structure BusinessReceipt where
  text : String
  parsed : Option JobBusinessResult

inductive Signal where
  | term | kill

inductive JobEvent where
  | attempted (key : JobKey)
  | spawned (key : JobKey)
  | woken (key : JobKey)
  | noticed (key : JobKey) (status : DurableJobStatus)
  deriving DecidableEq

section

variable [JobHost]

def JsDate.time (date : JsDate) : ℤ := (JsHost.dateParse date.iso).getD 0

structure World where
  home : String
  jobs : List JobRun
  startMarkers : JobKey → Option DurableJobStartMarker
  readyFiles : JobKey → Option DurableJobReadyMarker
  exits : JobKey → Option DurableJobExit
  checkpoints : JobKey → Option DurableJobCheckpoint
  receipts : JobKey → Option BusinessReceipt
  heartbeats : JobKey → Option JsDate
  fences : JobKey → Bool
  specs : JobKey → Option DurableJobSpec
  identities : ℚ → Option String
  alive : ℚ → Bool
  authorization : JobRun → Except Failure Unit
  nextProcess : ℚ × Option String
  sigkillAt : JobKey → Option ℤ
  log : List JobEvent

namespace World

def lookup (w : World) (key : JobKey) : Option JobRun := w.jobs.find? fun job => job.key == key

/-- The stored record of the same key replaced. -/
def put (w : World) (next : JobRun) : World :=
  { w with jobs := w.jobs.map fun job => if job.key = next.key then next else job }

def record (w : World) (events : List JobEvent) : World := { w with log := w.log ++ events }

def isActive (job : JobRun) : Bool := job.status == .queued || job.status == .running

def isTaskRun (job : JobRun) : Bool :=
  match job.scope with
  | .task _ _ => true
  | .global _ _ _ => false

def listActiveDurableJobs (w : World) : List JobRun :=
  (w.jobs.filter fun job => isActive job && isTaskRun job) ++
    w.jobs.filter fun job => isActive job && !isTaskRun job

end World

/-- `Date.parse(later) < Date.parse(earlier)`. -/
def movesBack (earlier later : String) : Bool :=
  match JsHost.dateParse earlier, JsHost.dateParse later with
  | some before, some after => decide (after < before)
  | _, _ => false

/-- `saveDurableJob` and `saveGlobalJobRun` for a run that is stored already. -/
def saveJobRun (current next : JobRun) : Except Failure Unit := orThrow do
  refuse (World.isTaskRun next ≠ World.isTaskRun current)
    (if World.isTaskRun current then "A Task JobRun cannot change scope."
    else "A global JobRun cannot change scope.")
  let _ ← validateDurableJob next
  refuse (movesBack current.updatedAt next.updatedAt = true)
    (if World.isTaskRun current then "DurableJob updatedAt cannot move backwards: " ++ next.id
    else "Invalid global JobRun transition.")
  let valid ← validDurableJobTransition current next
  refuse (valid = false)
    (if World.isTaskRun current then "DurableJob transition is invalid: " ++ next.id
    else "Invalid global JobRun transition.")

def withoutEvidence (fallback : JobBusinessResult) (summary : String) : JobBusinessResult :=
  { fallback with outcome := .unknownNeedsAttention, summary := summary }

/-- `#businessResult`, with the receipt that it reads for builtin actions of a global run. -/
def businessResult (receipt : Option BusinessReceipt) (job : JobRun) (result : DurableJobResult) :
    JobBusinessResult :=
  let fallback := processBusinessResult job.toJobFacts result
  match job.scope with
  | .task _ _ => fallback
  | .global action _ _ =>
    if result.outcome = .cancelled ∧ result.steps = [] then fallback
    else if action = some "system.noop" then
      { fallback with data := some (.obj [("action", .str "system.noop")]) }
    else if action = some "shell.exec" then fallback
    else
      match receipt with
      | some ⟨text, parsed⟩ =>
        match parsed with
        | some business =>
          if (validateBusinessResult business (runReference job.toJobFacts)).isOk then
            { business with
              evidence := business.evidence ++
                [⟨.executionEvidence, .run (runReference job.toJobFacts),
                  runReference job.toJobFacts, resultDigest text,
                  job.artifactsLocator ++ "/business-result.json"⟩] ++ fallback.evidence }
          else withoutEvidence fallback
            "Invalid business result receipt; inspect retained execution evidence. Do not replay the action."
        | none => withoutEvidence fallback
            "Invalid business result receipt; inspect retained execution evidence. Do not replay the action."
      | none => withoutEvidence fallback
          "Business result receipt is missing; process completion does not prove the business outcome. Do not replay the action."

/-- The transitions that the supervisor hands to `transitionDurableJob`. -/
inductive JobTransition where
  | adopt (process : DurableJobProcess)
  | attempt
  | reject (message : String)
  | cancel
  | acceptanceUnknown
  | heartbeat (date : JsDate)
  | receipt (exit : DurableJobExit)
  | harvest (result : DurableJobResult) (business : JobBusinessResult)
  | prove (result : DurableJobResult)
  | lose (completedSteps : List DurableJobStepResult)

def notified (job : Except String JobRun) (now : JsDate) : Except String JobRun := do
  let job ← job
  markDurableJobWakeupNotified job now

def invalidOutput : DurableJobResult :=
  ⟨.unknownNeedsAttention, none, none, none,
    some "runner output is invalid; original receipt is retained", none, []⟩

def exitEvidence (job : JobRun) (exit : DurableJobExit) : Evidence :=
  ⟨some .confirmed, [job.artifactsLocator ++ "/exit.json"],
    (exit.steps.map DurableJobStepResult.logPath).filter fun path => !isBlank path⟩

def JobTransition.apply (w : World) (now : JsDate) (current : JobRun) :
    JobTransition → Except Failure JobRun
  | .adopt process => orThrow (startDurableJob current process now)
  | .attempt =>
    if current.status ≠ .queued ∨ current.operation.effect ≠ .none then
      .error (.error "Job already attempted; inspect the original request.")
    else do
      w.authorization current
      let operation ← orThrow (recordOperationEvidence current.operation ⟨some .possible, [], []⟩)
      .ok { current with operation := operation, updatedAt := now.iso }
  | .reject message => orThrow (notified (rejectQueuedDurableJob current message now) now)
  | .cancel => orThrow (notified (cancelQueuedDurableJob current now) now)
  | .acceptanceUnknown => orThrow (notified (markDurableJobUnknown current
      "runner acceptance is unknown; inspect the original request"
      ((current.checkpoint.map DurableJobCheckpoint.completedSteps).getD []) now) now)
  | .heartbeat date => orThrow (touchDurableJobHeartbeat current date)
  | .receipt exit => do
    let operation ← orThrow
      (recordOperationEvidence current.operation (exitEvidence current exit))
    .ok { current with operation := operation, updatedAt := now.iso }
  | .harvest result business =>
    match completeDurableJob current result now (some business) with
    | .ok completed => orThrow (markDurableJobWakeupNotified completed now)
    | .error _ => orThrow (notified (completeDurableJob current invalidOutput now none) now)
  | .prove result => orThrow (notified (completeDurableJob current result now
      (some (businessResult (w.receipts current.key) current result))) now)
  | .lose completedSteps => orThrow (notified (markDurableJobUnknown current
      "runner process exited without writing exit.json" completedSteps now) now)

/-- The transitions that end a run enqueue the wakeup of its owner. -/
def JobTransition.wakes : JobTransition → Bool
  | .reject _ | .cancel | .acceptanceUnknown | .harvest _ _ | .prove _ | .lose _ => true
  | _ => false

/-- A committed record is logged as an attempt when it raises the effect from none to possible. -/
def transitionEvents (transition : JobTransition) (current next : JobRun) : List JobEvent :=
  (if current.operation.effect = .none ∧ next.operation.effect = .possible then
    [JobEvent.attempted next.key] else []) ++
  (if transition.wakes ∧ (World.isTaskRun current ∨
      current.operation.actorId ∉ ["user", "service:schedule"]) then [JobEvent.woken next.key] else [])

/-- `transitionDurableJob`: read, change and save in one transaction. -/
def transitionDurableJob (w : World) (key : JobKey) (transition : JobTransition) (now : JsDate) :
    Except Failure (Option JobRun) × World :=
  match w.lookup key with
  | none => (.ok none, w)
  | some current =>
    match transition.apply w now current with
    | .error failure => (.error failure, w)
    | .ok next =>
      match saveJobRun current next with
      | .error failure => (.error failure, w)
      | .ok () => (.ok (some next), (w.put next).record (transitionEvents transition current next))

end
