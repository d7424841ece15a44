import Yui.JobValidation

/-!
# Durable jobs

The operations of `job/durableJob.ts`. Every operation validates the job it gets, checks that the
job may take it, builds the next record and validates that too.
-/

open JsText Checked Validation

/-- A valid `Date`, by its `toISOString()`. -/
structure JsDate [JsHost] where
  iso : String
  parses : (JsHost.dateParse iso).isSome = true

def deliversTask (delegation : TaskDelegation) (ref : JobResultReference) : Bool :=
  (ref.kind == .taskResult || ref.kind == .workItemResult) && ref.owner == .task delegation.taskId

def JobRunScope.isProcessScope : JobRunScope → Bool
  | .task _ _ => false
  | .global action actionInput serviceAuthorization =>
    action.isSome || actionInput.isSome || serviceAuthorization.isSome

variable (job : JobRun)

/-- What a Task delegation must not carry. -/
def validateDelegatedRun : Except String Unit :=
  whenPresent job.delegation fun delegation => do
    validateTaskDelegation delegation
    refuse (job.process ≠ none ∨ job.result ≠ none ∨ job.status = .queued)
      "Task delegation cannot carry process execution/result evidence."
    refuse (job.steps ≠ none ∨ job.env ≠ none ∨ job.workspace ≠ none ∨ job.head ≠ none ∨
        job.projectId ≠ none ∨ job.checkpoint ≠ none ∨ job.scope.isProcessScope = true)
      "Task delegation cannot contain a process specification."
    refuse (∃ result ∈ job.businessResult, result.outcome = .succeeded ∧
        result.evidence.any (deliversTask delegation) = false)
      "Successful delegation requires exact target delivery evidence."

def validateRunScope : Except String Unit :=
  match job.scope with
  | .task taskId owner => do
    checkRecordReference taskId job.id .durableJob
    validateDurableJobOwner owner taskId
    if job.delegation = none then do
      let projectId ← requirePresent job.projectId "DurableJob project id"
      checkIdentity projectId "DurableJob project id"
    else .ok ()
  | .global action _ serviceAuthorization => do
    checkIdentity job.id "JobRun id"
    if job.delegation = none then do
      let action ← requirePresent action "JobRun builtin action"
      checkText action "JobRun builtin action"
    else .ok ()
    whenPresent serviceAuthorization fun service => do
      checkText service.scheduleId "Schedule id"
      checkText service.grantId "Schedule grant id"
    whenPresent job.projectId fun projectId => checkIdentity projectId "JobRun Project id"

def validateRetryOf : Except String Unit :=
  whenPresent job.retryOf fun retryOf =>
    match job.scope with
    | .task taskId _ => checkRecordReference taskId retryOf .durableJob
    | .global _ _ _ => checkIdentity retryOf "JobRun retryOf"

section

variable [JsHost]

def validateRunTimes : Except String Unit := do
  requireTimestamp job.createdAt "DurableJob createdAt"
  requireTimestamp job.updatedAt "DurableJob updatedAt"
  whenPresent job.startedAt fun at' => requireTimestamp at' "DurableJob startedAt"
  whenPresent job.heartbeatAt fun at' => requireTimestamp at' "DurableJob heartbeatAt"
  whenPresent job.terminalAt fun at' => requireTimestamp at' "DurableJob terminalAt"

def validateRunProgress : Except String Unit := do
  whenPresent job.process fun process => do
    requirePositiveInteger process.pid "DurableJob process pid"
    checkText process.startIdentity "DurableJob process startIdentity"
  whenPresent job.checkpoint fun checkpoint => do
    requireTimestamp checkpoint.updatedAt "DurableJob checkpoint updatedAt"
    checkAll checkpoint.completedSteps validateStepResult
  whenPresent job.result normalizeDurableJobResult
  whenPresent job.businessResult fun result => do
    validateBusinessResult result (runReference job.toJobFacts)
    refuse (job.status ≠ result.outcome) "Job status must match its business outcome."

def validateRunFlags : Except String Unit := do
  whenPresent job.cancelRequestedAt fun at' => requireTimestamp at' "DurableJob cancelRequestedAt"
  whenPresent job.acknowledgedAt fun at' => requireTimestamp at' "DurableJob acknowledgedAt"
  if isDurableJobTerminal job.status then
    requireTimestamp (job.terminalAt.getD "") "DurableJob terminalAt"
  else .ok ()
  refuse (job.status = .queued ∧ job.startedAt ≠ none)
    "A queued DurableJob must not have startedAt."
  refuse (job.status = .running ∧ job.startedAt = none) "A running DurableJob must have startedAt."

def checkDurableJob : Except String Unit := do
  validateDelegatedRun job
  validateRunArtifacts job
  refuse (job.schemaVersion ≠ 1) "DurableJob must use schemaVersion 1."
  validateOperationFacts job.operation
  checkIdentity job.definitionId "Job definition id"
  requirePositiveInteger job.definitionRevision "Job definition revision"
  checkText job.trigger.key "Job trigger key"
  validateRunScope job
  if job.delegation = none then validateJobExecutionConfiguration job.toJobFacts else .ok ()
  checkText job.idempotencyKey "DurableJob idempotency key"
  refuse (isHexDigest job.idempotencyKey = false) "DurableJob idempotency key is invalid."
  checkText job.artifactsLocator "DurableJob artifacts locator"
  refuse (startsWithSlash job.artifactsLocator = true ∨
      includesDots job.artifactsLocator.toList = true)
    "DurableJob artifacts locator must be a home-relative path."
  validateRunTimes job
  validateRunProgress job
  validateRetryOf job
  validateRunFlags job

def validateDurableJob (job : JobRun) : Except String JobRun := do
  checkDurableJob job
  .ok job

end

section BusinessResults

/-- `value.slice(0, count)` in UTF-16 code units; a character that does not fit is left out. -/
def utf16Take : ℕ → List Char → List Char
  | _, [] => []
  | count, c :: cs =>
    let units := if c.toNat < 0x10000 then 1 else 2
    if units ≤ count then c :: utf16Take (count - units) cs else []

def maxSummary : ℕ := 4096

def boundedSummary (summary : String) : String :=
  if utf16Length summary ≤ maxSummary then summary
  else String.ofList (utf16Take maxSummary summary.toList) ++
    "… (see original execution evidence)"

def executionSummary (result : DurableJobResult) : String :=
  match result.unknownReason with
  | some reason => reason
  | none =>
    "Execution " ++ result.outcome.text ++
      (if result.failedStep.getD "" = "" then "" else " at " ++ result.failedStep.getD "") ++ "."

variable [JobHost]

def resultDigest (text : String) : String := JobHost.sha256 text

def runRecordReference (run : JobFacts) (result : DurableJobResult) : JobResultReference where
  kind := .runRecord
  owner := .run (runReference run)
  sourceRun := runReference run
  version := resultDigest result.json.stringify
  locator := "job-runs/" ++ executionNamespace run ++ "/" ++ run.id ++ "/result"

def processBusinessResult (run : JobFacts) (result : DurableJobResult) : JobBusinessResult where
  schemaVersion := 1
  sourceRun := runReference run
  outcome := result.outcome
  summary := boundedSummary (executionSummary result)
  data := none
  evidence := [runRecordReference run result]

end BusinessResults

section Operations

variable [JobHost]

def startDurableJob (process : DurableJobProcess) (now : JsDate) :
    Except String JobRun := do
  let _ ← validateDurableJob job
  refuse (job.status ≠ .queued)
    ("DurableJob can only start from queued: " ++ job.status.text ++ ".")
  let operation ← recordOperationEvidence job.operation
    ⟨some .confirmed, [job.artifactsLocator ++ "/start.json"], []⟩
  validateDurableJob { job with
    status := .running
    operation := operation
    process := some process
    startedAt := some now.iso
    heartbeatAt := some now.iso
    updatedAt := now.iso }

def touchDurableJobHeartbeat (now : JsDate) : Except String JobRun := do
  let _ ← validateDurableJob job
  refuse (job.status ≠ .running)
    ("DurableJob heartbeat only applies to running jobs: " ++ job.status.text ++ ".")
  validateDurableJob { job with heartbeatAt := some now.iso, updatedAt := now.iso }

def evidenceReceipts (result : DurableJobResult) : List String :=
  match result.evidenceSource with
  | none => []
  | some .checkpoint => [job.artifactsLocator ++ "/checkpoint.json"]
  | some .exitArtifact => [job.artifactsLocator ++ "/exit.json"]

/-- Without a business result of its own a job completes with the one of its process. -/
def completeDurableJob (job : JobRun) (result : DurableJobResult) (now : JsDate)
    (businessResult : Option JobBusinessResult) : Except String JobRun := do
  let business := businessResult.getD (processBusinessResult job.toJobFacts result)
  let _ ← validateDurableJob job
  refuse (job.status ≠ .running)
    ("DurableJob can only complete from running: " ++ job.status.text ++ ".")
  refuse (isDurableJobTerminal result.outcome = false)
    ("DurableJob result outcome must be terminal: " ++ result.outcome.text ++ ".")
  let operation ← recordOperationEvidence job.operation
    ⟨none, evidenceReceipts job result, result.steps.map DurableJobStepResult.logPath⟩
  normalizeDurableJobResult result
  validateBusinessResult business (runReference job.toJobFacts)
  validateDurableJob { job with
    status := business.outcome
    operation := operation
    result := some result
    businessResult := some business
    terminalAt := some now.iso
    updatedAt := now.iso }

/-- A queued job that never started ends with a result of its own. -/
def endQueued (result : DurableJobResult) (now : JsDate) : Except String JobRun :=
  validateDurableJob { job with
    status := result.outcome
    result := some result
    businessResult := some (processBusinessResult job.toJobFacts result)
    terminalAt := some now.iso
    updatedAt := now.iso }

def rejectQueuedDurableJob (reason : String) (now : JsDate) :
    Except String JobRun := do
  let _ ← validateDurableJob job
  refuse (job.status ≠ .queued ∨ job.operation.effect ≠ .none)
    "Only an unattempted queued Job can be rejected."
  let reason ← requireText reason "DurableJob rejection reason"
  endQueued job ⟨.failed, none, none, none, some reason, none, []⟩ now

def markDurableJobUnknown (job : JobRun) (unknownReason : String)
    (completedSteps : List DurableJobStepResult) (now : JsDate) : Except String JobRun := do
  let _ ← validateDurableJob job
  refuse (job.status ≠ .running ∧ ¬ (job.status = .queued ∧ job.operation.effect ≠ .none))
    ("DurableJob can only be marked unknown after an attempted effect: " ++ job.status.text ++ ".")
  let reason ← requireText unknownReason "DurableJob unknown reason"
  let result : DurableJobResult := ⟨.unknownNeedsAttention, none, none, none, some reason, none, completedSteps⟩
  let operation ← recordOperationEvidence job.operation
    ⟨none, [], completedSteps.map DurableJobStepResult.logPath⟩
  validateDurableJob { job with
    status := .unknownNeedsAttention
    operation := operation
    result := some result
    businessResult := some (processBusinessResult job.toJobFacts result)
    terminalAt := some now.iso
    updatedAt := now.iso }

def requestDurableJobCancel (now : JsDate) : Except String JobRun := do
  let _ ← validateDurableJob job
  if isDurableJobTerminal job.status then .ok job
  else if job.cancelRequestedAt ≠ none then .ok job
  else validateDurableJob { job with cancelRequestedAt := some now.iso, updatedAt := now.iso }

def cancelQueuedDurableJob (now : JsDate) : Except String JobRun := do
  let _ ← validateDurableJob job
  refuse (job.status ≠ .queued)
    ("DurableJob can only cancel-queued from queued: " ++ job.status.text ++ ".")
  endQueued job ⟨.cancelled, none, none, none, none, none, []⟩ now

def markDurableJobWakeupNotified (job : JobRun) (now : JsDate) : Except String JobRun := do
  let _ ← validateDurableJob job
  refuse (isDurableJobTerminal job.status = false)
    "DurableJob wakeup notification requires a terminal job."
  if job.wakeupNotified = some true then .ok job
  else validateDurableJob { job with wakeupNotified := some true, updatedAt := now.iso }

def acknowledgeUnknownDurableJob (now : JsDate) : Except String JobRun := do
  let _ ← validateDurableJob job
  refuse (job.status ≠ .unknownNeedsAttention)
    ("DurableJob can only acknowledge from unknown-needs-attention: " ++ job.status.text ++ ".")
  if job.acknowledgedAt ≠ none then .ok job
  else validateDurableJob { job with acknowledgedAt := some now.iso, updatedAt := now.iso }

end Operations
