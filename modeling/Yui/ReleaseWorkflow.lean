import Yui.DurableJobValid
import Yui.KeyedTable
import Yui.StoredRecords

/-!
# Release workflows

`release/releaseWorkflow.ts` and the checks of `storage/taskStore.ts` on its records. A workflow has a
plan that never changes and one record for each step of it. The domain normalizes the texts that it adds
to a record, the store takes only texts that are normal already. The records are whole here, `StoreGuards`
has the part of them that the transition guard reads.
-/

open JsText Checked Validation

namespace ReleaseSteps

section Records

inductive ReleaseStepKind where
  | prCreateOrReuse | ciConfirm | merge | versionTag | npmPublish | freshInstallSmoke | cliUpdate
  | controllerReplace | projectMigrate | postVerify
  deriving DecidableEq

inductive ReleaseStepStatus where
  | pending | running | succeeded | failed | unknown | skipped
  deriving DecidableEq

inductive Irreversibility where
  | none | reversible | irreversible
  deriving DecidableEq

structure ExternalIdentity where
  kind : String
  value : String
  deriving DecidableEq

structure ReleaseArtifact where
  name : String
  integrity : String
  deriving DecidableEq

structure ReleaseWorkflowSource where
  owner : String
  name : String
  commit : String
  artifact : Option ReleaseArtifact
  deriving DecidableEq

structure ReleaseStepPlan where
  id : String
  kind : ReleaseStepKind
  idempotencyKey : String
  params : Option (List (String × String))
  irreversibility : Option Irreversibility
  deriving DecidableEq

structure ReleaseStepRecord where
  planId : String
  status : ReleaseStepStatus
  attempts : ℕ
  externalId : Option String
  externalIdentity : Option ExternalIdentity
  logs : List String
  lastAttemptAt : Option String
  terminalAt : Option String
  deriving DecidableEq

structure ReleaseWorkflow where
  schemaVersion : ℕ
  id : String
  taskId : String
  grantId : String
  source : ReleaseWorkflowSource
  plan : List ReleaseStepPlan
  /-- The records with their keys. -/
  steps : List (String × ReleaseStepRecord)
  createdAt : String
  updatedAt : String
  deriving DecidableEq

def ReleaseStepStatus.text : ReleaseStepStatus → String
  | .pending => "pending"
  | .running => "running"
  | .succeeded => "succeeded"
  | .failed => "failed"
  | .unknown => "unknown"
  | .skipped => "skipped"

def ReleaseWorkflow.step (workflow : ReleaseWorkflow) (stepId : String) : Option ReleaseStepRecord :=
  (KeyedTable.get Prod.fst workflow.steps stepId).map Prod.snd

end Records

section Domain

variable [JsHost]

def checkSource (source : ReleaseWorkflowSource) : Except String Unit := do
  checkText source.owner "Release workflow source repository owner"
  checkText source.name "Release workflow source repository name"
  let commit ← requireText source.commit "Release workflow source commit"
  refuse ((commit.toList.length == 40 && commit.toList.all fun c => isHexChar c.toLower) = false)
    ("Release workflow source commit must be a full 40-hex commit sha: " ++ commit)
  whenPresent source.artifact fun artifact => do
    checkText artifact.name "Release workflow source artifact name"
    checkText artifact.integrity "Release workflow source artifact integrity"

def normalizeParams (params : List (String × String)) : Except String (List (String × String)) := do
  let normalized ← params.mapM fun (name, value) => do
    let key ← requireIdentity name "Release step param"
    let text ← requireText value ("Release step param " ++ name)
    .ok (key, text)
  .ok (normalized.foldl (KeyedTable.save Prod.fst) [])

def normalizePlan (plan : List ReleaseStepPlan) (taskId workflowId : String) :
    Except String (List ReleaseStepPlan) := do
  refuse (plan = []) "Release workflow plan must be a non-empty array."
  let normalized ← plan.mapM fun entry => do
    let id ← requireIdentity entry.id "Release step id"
    let params ← onSome normalizeParams entry.params
    .ok { entry with id, params, idempotencyKey := s!"{taskId}/{workflowId}/{id}" }
  refuse (¬ (normalized.map ReleaseStepPlan.id).Nodup) "Release workflow plan ids must be unique."
  .ok normalized

def checkExternalIdentity (identity : ExternalIdentity) : Except String Unit := do
  checkText identity.kind "Release step externalIdentity kind"
  checkText identity.value "Release step externalIdentity value"

def validateStepRecord (step : ReleaseStepRecord) (planId : String) : Except String Unit := do
  refuse (step.planId ≠ planId) s!"Release step record planId {step.planId} does not match its key: {planId}."
  refuse (maxSafeInteger < step.attempts) s!"Release step attempts must be a non-negative integer: {planId}."
  whenPresent step.externalId (checkText · s!"Release step externalId {planId}")
  whenPresent step.externalIdentity checkExternalIdentity
  checkAll step.logs (checkText · s!"Release step log {planId}")
  whenPresent step.lastAttemptAt (requireTimestamp · s!"Release step lastAttemptAt {planId}")
  refuse (step.status = .running ∧ step.lastAttemptAt = none)
    s!"Release step running status requires lastAttemptAt: {planId}."
  whenPresent step.terminalAt (requireTimestamp · s!"Release step terminalAt {planId}")
  refuse ((step.status = .succeeded ∨ step.status = .skipped) ∧ step.terminalAt = none)
    s!"Release step {step.status.text} status requires terminalAt: {planId}."

/-- Every entry of the plan has one record, every record has an entry, and the records pass the check. -/
def checkSteps (planIds : List String) (steps : List (String × ReleaseStepRecord))
    (check : ReleaseStepRecord → String → Except String Unit) : Except String Unit := do
  checkAll planIds fun planId =>
    refuse (planId ∉ steps.map Prod.fst) s!"Release workflow step record is missing: {planId}."
  checkAll (steps.map Prod.fst) fun key =>
    refuse (key ∉ planIds) s!"Release workflow step record has no plan entry: {key}."
  checkAll planIds fun planId =>
    whenPresent (KeyedTable.get Prod.fst steps planId) fun step => check step.2 planId

variable (workflow : ReleaseWorkflow)

def validateReleaseWorkflow : Except String Unit := do
  refuse (workflow.schemaVersion ≠ 1) "Release workflow must use schemaVersion 1."
  checkRecordReference workflow.taskId workflow.id .releaseWorkflow
  checkIdentity workflow.taskId "Task id"
  checkText workflow.grantId "Release workflow grantId"
  checkSource workflow.source
  let plan ← normalizePlan workflow.plan workflow.taskId workflow.id
  refuse ((plan.any fun entry => entry.kind = .npmPublish) = true ∧ workflow.source.artifact = none)
    "Release workflow npm-publish step requires a source artifact."
  checkAll plan fun entry =>
    refuse ((workflow.plan.find? (·.id = entry.id)).map ReleaseStepPlan.idempotencyKey ≠
        some entry.idempotencyKey)
      s!"Release step idempotencyKey is invalid: {entry.id}."
  checkSteps (plan.map ReleaseStepPlan.id) workflow.steps validateStepRecord
  requireTimestamp workflow.createdAt "Release workflow createdAt"
  requireTimestamp workflow.updatedAt "Release workflow updatedAt"

def requireStep (stepId : String) : Except String ReleaseStepRecord :=
  match workflow.step stepId with
  | none => .error s!"Release step is not part of the workflow plan: {stepId}."
  | some step => .ok step

def ReleaseWorkflow.withStep (stepId : String) (next : ReleaseStepRecord)
    (now : JsDate) : ReleaseWorkflow :=
  { workflow with steps := KeyedTable.save Prod.fst workflow.steps (stepId, next), updatedAt := now.iso }

def replaceStep (stepId : String) (next : ReleaseStepRecord) (now : JsDate) :
    Except String ReleaseWorkflow := do
  validateReleaseWorkflow (workflow.withStep stepId next now)
  .ok (workflow.withStep stepId next now)

def appendLogs (logs : List String) (extra : Option (List String)) : Except String (List String) :=
  match extra with
  | none => .ok logs
  | some extra => do
    let lines ← extra.mapM fun line => requireText line "Release step log line"
    .ok (logs ++ lines)

def normalizeExternalIdentity (identity : ExternalIdentity) : Except String ExternalIdentity := do
  let kind ← requireText identity.kind "Release step externalIdentity kind"
  let value ← requireText identity.value "Release step externalIdentity value"
  .ok ⟨kind, value⟩

/-- An attempt does not inherit the evidence of the one before it. -/
def startStep (stepId : String) (now : JsDate) : Except String ReleaseWorkflow := do
  validateReleaseWorkflow workflow
  let step ← requireStep workflow stepId
  refuse (step.status ∉ [ReleaseStepStatus.pending, .failed, .unknown])
    s!"Release step cannot start from status {step.status.text}: {stepId}."
  replaceStep workflow stepId
    { step with
      externalId := none
      externalIdentity := none
      terminalAt := none
      status := .running
      attempts := step.attempts + 1
      lastAttemptAt := some now.iso } now

def completeStep (workflow : ReleaseWorkflow) (stepId : String) (externalId : Option String)
    (logs : Option (List String)) (now : JsDate) : Except String ReleaseWorkflow := do
  validateReleaseWorkflow workflow
  let step ← requireStep workflow stepId
  refuse (step.status ≠ .running) s!"Release step cannot complete from status {step.status.text}: {stepId}."
  let externalId ← onSome (requireText · "Release step externalId") externalId
  let logs ← appendLogs step.logs logs
  replaceStep workflow stepId
    { step with
      status := .succeeded
      externalId := externalId.orElse fun _ => step.externalId
      logs
      terminalAt := some now.iso } now

def failStep (stepId : String) (externalIdentity : Option ExternalIdentity)
    (logs : Option (List String)) (now : JsDate) : Except String ReleaseWorkflow := do
  validateReleaseWorkflow workflow
  let step ← requireStep workflow stepId
  refuse (step.status ≠ .running) s!"Release step cannot fail from status {step.status.text}: {stepId}."
  let externalIdentity ← onSome normalizeExternalIdentity externalIdentity
  let logs ← appendLogs step.logs logs
  replaceStep workflow stepId
    { step with
      status := .failed
      externalIdentity := externalIdentity.orElse fun _ => step.externalIdentity
      logs
      terminalAt := some now.iso } now

def markStepUnknown (stepId : String) (externalIdentity : Option ExternalIdentity)
    (logs : Option (List String)) (now : JsDate) : Except String ReleaseWorkflow := do
  validateReleaseWorkflow workflow
  let step ← requireStep workflow stepId
  refuse (step.status ≠ .running) s!"Release step cannot be unknown from status {step.status.text}: {stepId}."
  let externalIdentity ← onSome normalizeExternalIdentity externalIdentity
  let logs ← appendLogs step.logs logs
  replaceStep workflow stepId
    { step with
      status := .unknown
      externalIdentity := externalIdentity.orElse fun _ => step.externalIdentity
      logs } now

end Domain

section Store

variable [JsHost]

def storedReleaseWorkflowSource (source : ReleaseWorkflowSource) : Except String Unit := do
  StoredRecord.requireNormalizedText source.owner "Release workflow source repository owner"
  StoredRecord.requireNormalizedText source.name "Release workflow source repository name"
  StoredRecord.requireNormalizedText source.commit "Release workflow source commit"
  whenPresent source.artifact fun artifact => do
    StoredRecord.requireNormalizedText artifact.name "Release workflow source artifact name"
    StoredRecord.requireNormalizedText artifact.integrity "Release workflow source artifact integrity"

def storedPlan (planIds : List String) : List ReleaseStepPlan → Except String Unit
  | [] => .ok ()
  | entry :: entries => do
    StoredRecord.requireRecordIdentity entry.id "Release step id"
    refuse (entry.id ∈ planIds) s!"Release workflow plan ids must be unique: {entry.id}."
    StoredRecord.requireNormalizedText entry.idempotencyKey "Release step idempotencyKey"
    whenPresent entry.params fun params => checkAll params fun (name, value) => do
      StoredRecord.requireRecordIdentity name "Release step param"
      StoredRecord.requireNormalizedText value s!"Release step param {name}"
    storedPlan (planIds ++ [entry.id]) entries

def storedReleaseStep (step : ReleaseStepRecord) (planId : String) : Except String Unit := do
  StoredRecord.requireNormalizedText step.planId s!"Release step planId {planId}"
  refuse (step.planId ≠ planId) s!"Release step record planId {step.planId} does not match its key: {planId}."
  refuse (maxSafeInteger < step.attempts) s!"Release step attempts must be a non-negative integer: {planId}."
  whenPresent step.externalId (StoredRecord.requireNormalizedText · s!"Release step externalId {planId}")
  whenPresent step.externalIdentity fun identity => do
    StoredRecord.requireNormalizedText identity.kind s!"Release step externalIdentity kind {planId}"
    StoredRecord.requireNormalizedText identity.value s!"Release step externalIdentity value {planId}"
  checkAll step.logs (StoredRecord.requireNormalizedText · s!"Release step log {planId}")
  whenPresent step.lastAttemptAt (StoredRecord.requireTimestamp · s!"Release step lastAttemptAt {planId}")
  refuse (step.status = .running ∧ step.lastAttemptAt = none)
    s!"Release step running status requires lastAttemptAt: {planId}."
  whenPresent step.terminalAt (StoredRecord.requireTimestamp · s!"Release step terminalAt {planId}")
  refuse ((step.status = .succeeded ∨ step.status = .skipped) ∧ step.terminalAt = none)
    s!"Release step {step.status.text} status requires terminalAt: {planId}."

def storedReleaseWorkflow (workflow : ReleaseWorkflow) : Except String Unit := do
  refuse (workflow.schemaVersion ≠ 1) "Release workflow must use schemaVersion 1."
  StoredRecord.requireRecordIdentity workflow.id "Release workflow id"
  StoredRecord.requireRecordIdentity workflow.taskId "Release workflow Task id"
  checkRecordReference workflow.taskId workflow.id .releaseWorkflow
  StoredRecord.requireNormalizedText workflow.grantId "Release workflow grantId"
  storedReleaseWorkflowSource workflow.source
  refuse (workflow.plan = []) "Release workflow plan must be a non-empty array."
  storedPlan [] workflow.plan
  checkSteps (workflow.plan.map ReleaseStepPlan.id) workflow.steps storedReleaseStep
  StoredRecord.requireTimestamp workflow.createdAt "Release workflow createdAt"
  StoredRecord.requireTimestamp workflow.updatedAt "Release workflow updatedAt"
  validateReleaseWorkflow workflow

def legalStepTransitions : ReleaseStepStatus → List ReleaseStepStatus
  | .pending => [.running, .skipped, .failed]
  | .running => [.running, .succeeded, .failed, .unknown]
  | .failed => [.running, .succeeded]
  | .unknown => [.running, .succeeded]
  | .succeeded => []
  | .skipped => []

def isLegalStepTransition (before after : ReleaseStepStatus) : Bool :=
  before = after || (legalStepTransitions before).contains after

/-- `Date.parse(left) < Date.parse(right)` -/
def isBefore (left right : String) : Bool :=
  match JsHost.dateParse left, JsHost.dateParse right with
  | some left, some right => decide (left < right)
  | _, _ => false

def isValidReleaseWorkflowTransition (existing candidate : ReleaseWorkflow) : Bool :=
  !isBefore candidate.updatedAt existing.updatedAt && candidate.source == existing.source &&
    candidate.plan == existing.plan && existing.steps.length == candidate.steps.length &&
    (existing.steps.map Prod.fst).all fun key =>
      match existing.step key, candidate.step key with
      | some before, some after =>
        isLegalStepTransition before.status after.status && before.attempts ≤ after.attempts
      | _, _ => false

/-- `saveReleaseWorkflow` over the record that the store holds. -/
def saveReleaseWorkflow (existing candidate : ReleaseWorkflow) : Except String ReleaseWorkflow := do
  storedReleaseWorkflow candidate
  refuse (candidate.taskId ≠ existing.taskId)
    s!"Release workflow belongs to another Task: {candidate.taskId}"
  refuse (isValidReleaseWorkflowTransition existing candidate = false)
    s!"Release workflow cannot be overwritten: {existing.taskId}/{candidate.id}"
  .ok candidate

end Store

end ReleaseSteps
