import Yui.GuardedSave
import Yui.JobDefinition
import Yui.JobSupervisor
import Yui.ReleaseWorkflow

/-!
# The transition guards of the store

The rows that `saveJobDefinition`, `saveGlobalJobRun`, `saveDurableJob`, `saveAgentJobRun`,
`saveCapabilityGrant` and `saveReleaseWorkflow` replace, and what each of them checks against the row
before. Of a record only the fields that its guard compares are kept.
-/

open Checked
open ReleaseSteps (ReleaseArtifact ReleaseStepStatus isLegalStepTransition)

inductive JobAgentTarget where
  | operator
  | task (taskId roleName : String) (ownerRunId : Option String)
  | job (agentId : String)
  deriving DecidableEq

structure AgentJobConfiguration where
  target : JobAgentTarget
  input : String
  concurrency : Option String
  deriving DecidableEq

inductive JobAgentRecipient where
  | global (roleName : String)
  | task (taskId roleName : String) (ownerRunId : Option String)
  deriving DecidableEq

structure JobAgentExecution where
  nativeSessionId : String
  attemptId : String
  nativeTurnId : String
  deriving DecidableEq

structure JobAgentTerminal where
  status : String
  observedAt : String
  deriving DecidableEq

structure JobAgentAttempt where
  messageId : String
  recipient : JobAgentRecipient
  createdAt : String
  execution : Option JobAgentExecution
  terminal : Option JobAgentTerminal
  deriving DecidableEq

/-- The fields of an agent run that never change. -/
structure AgentJobSnapshot where
  schemaVersion : ℕ
  id : String
  scope : JobScope
  definitionId : String
  definitionRevision : ℚ
  configuration : AgentJobConfiguration
  trigger : JobTrigger
  retryOf : Option String
  createdAt : String
  deriving DecidableEq

structure AgentJobRun extends AgentJobSnapshot where
  status : DurableJobStatus
  attempts : List JobAgentAttempt
  businessResult : Option JobBusinessResult
  artifacts : Option (List JobArtifactReference)
  cancelRequestedAt : Option String
  updatedAt : String
  terminalAt : Option String
  deriving DecidableEq

/-- An attempt without its evidence. -/
def JobAgentAttempt.sent (attempt : JobAgentAttempt) : JobAgentAttempt :=
  { attempt with execution := none, terminal := none }

/-- Evidence that is recorded stays. -/
def keeps {α : Type} [DecidableEq α] (before after : Option α) : Bool :=
  match before with
  | none => true
  | some value => decide (after = some value)

def JobAgentAttempt.continues (attempt updated : JobAgentAttempt) : Bool :=
  decide (attempt.sent = updated.sent) && keeps attempt.execution updated.execution &&
    keeps attempt.terminal updated.terminal

section Guards

variable [JobHost]

def assertAgentJobRunTransition (previous next : AgentJobRun) : Except String Unit := do
  refuse (previous.toAgentJobSnapshot ≠ next.toAgentJobSnapshot) "Agent Job snapshot is immutable."
  refuse (previous.businessResult.isSome = true ∧
      (previous.businessResult.map JobBusinessResult.canonical ≠
          next.businessResult.map JobBusinessResult.canonical ∨
        previous.status ≠ next.status ∨ previous.terminalAt ≠ next.terminalAt ∨ previous.attempts.length ≠ next.attempts.length))
    "Agent Job result is immutable."
  refuse ((previous.artifacts.getD []).isPrefixOf (next.artifacts.getD []) = false)
    "Agent Job artifacts are append-only."
  refuse (keeps previous.cancelRequestedAt next.cancelRequestedAt = false) "Cancellation is immutable."
  refuse (movesBack previous.updatedAt next.updatedAt = true ∨
      next.attempts.length < previous.attempts.length) "Agent Job history cannot move backwards."
  refuse ((previous.attempts.zip next.attempts).all (fun pair => pair.1.continues pair.2) = false)
    "Agent attempt evidence is immutable."

structure CapabilityGrantRepository where
  owner : String
  name : String
  deriving DecidableEq

structure CapabilityGrantScope where
  taskId : Option String
  projectIds : Option (List String)
  repositories : Option (List CapabilityGrantRepository)
  packages : Option (List String)
  homePath : Option String
  deriving DecidableEq

/-- The members of an object, in any order. -/
def sameMembers {α : Type} [DecidableEq α] (before after : List (String × α)) : Bool :=
  decide (before.Perm after)

structure CapabilityGrant where
  id : String
  taskId : String
  granter : String
  authorizationSource : Option Json
  scope : CapabilityGrantScope
  actions : List String
  parameterBounds : List (String × List String)
  expiresAt : Option String
  maxUses : Option ℚ
  usesUsed : ℚ
  useReservations : List String
  irreversibilityCeiling : String
  revokedAt : Option String
  revokedBy : Option String
  createdAt : String
  updatedAt : String
  deriving DecidableEq

def sameSource (before after : Option Json) : Bool :=
  decide (before.map canonicalJson = after.map canonicalJson)

/-- `isDeepStrictEqual` of two grants. -/
def CapabilityGrant.same (existing candidate : CapabilityGrant) : Bool :=
  sameSource existing.authorizationSource candidate.authorizationSource &&
    sameMembers existing.parameterBounds candidate.parameterBounds &&
    decide ({ existing with authorizationSource := none, parameterBounds := [] } =
      { candidate with authorizationSource := none, parameterBounds := [] })

def CapabilityGrant.immutable (existing candidate : CapabilityGrant) : Bool :=
  decide (candidate.id = existing.id) && decide (candidate.taskId = existing.taskId) &&
    decide (candidate.granter = existing.granter) &&
    sameSource candidate.authorizationSource existing.authorizationSource &&
    decide (candidate.scope = existing.scope) && decide (candidate.actions = existing.actions) &&
    sameMembers candidate.parameterBounds existing.parameterBounds &&
    decide (candidate.expiresAt = existing.expiresAt) &&
    decide (candidate.maxUses = existing.maxUses) &&
    decide (candidate.irreversibilityCeiling = existing.irreversibilityCeiling) &&
    decide (candidate.createdAt = existing.createdAt)

def reservationsAppendOnly (existing candidate : List String) : Bool := existing.isPrefixOf candidate

/-- `Date.parse(later) >= Date.parse(earlier)`. -/
def notBefore (earlier later : String) : Bool :=
  match JsHost.dateParse earlier, JsHost.dateParse later with
  | some before, some after => decide (before ≤ after)
  | _, _ => false

def isValidCapabilityGrantTransition (existing candidate : CapabilityGrant) : Bool :=
  if existing.revokedAt.isSome = true then candidate.same existing
  else if existing.immutable candidate = false then false
  else if candidate.revokedAt.isSome = true then
    decide (candidate.usesUsed = existing.usesUsed) &&
      decide (candidate.useReservations = existing.useReservations) &&
      notBefore existing.updatedAt candidate.updatedAt
  else
    -- A stale equal increment of a concurrent reader does not spend the use again.
    decide (existing.usesUsed < candidate.usesUsed) &&
      reservationsAppendOnly existing.useReservations candidate.useReservations &&
      notBefore existing.updatedAt candidate.updatedAt

structure ReleaseWorkflowSource where
  repository : CapabilityGrantRepository
  commit : String
  artifact : Option ReleaseArtifact
  deriving DecidableEq

structure ReleaseStepPlan where
  id : String
  kind : String
  idempotencyKey : String
  params : Option (List (String × String))
  irreversibility : Option String
  deriving DecidableEq

structure ReleaseStepRecord where
  planId : String
  status : ReleaseStepStatus
  attempts : ℚ
  deriving DecidableEq

structure ReleaseWorkflow where
  id : String
  taskId : String
  source : ReleaseWorkflowSource
  plan : List ReleaseStepPlan
  steps : List (String × ReleaseStepRecord)
  updatedAt : String
  deriving DecidableEq

def ReleaseStepPlan.same (existing candidate : ReleaseStepPlan) : Bool :=
  (match existing.params, candidate.params with
    | none, none => true
    | some before, some after => sameMembers before after
    | _, _ => false) &&
    decide ({ existing with params := none } = { candidate with params := none })

def isValidReleaseWorkflowTransition (existing candidate : ReleaseWorkflow) : Bool :=
  !movesBack existing.updatedAt candidate.updatedAt && decide (candidate.source = existing.source) &&
    decide (existing.plan.length = candidate.plan.length) &&
    (existing.plan.zip candidate.plan).all (fun pair => pair.1.same pair.2) &&
    decide (existing.steps.length = candidate.steps.length) &&
    existing.steps.all fun entry =>
      match candidate.steps.lookup entry.1 with
      | none => false
      | some step =>
        isLegalStepTransition entry.2.status step.status && decide (entry.2.attempts ≤ step.attempts)

/-- The check of `saveJobDefinition`. -/
def followsDefinition (previous job : JobDefinition) : Bool :=
  decide (job.revision = previous.revision + 1) && decide (job.createdAt = previous.createdAt) &&
    !movesBack previous.updatedAt job.updatedAt

/-- A row that one of the operations writes. -/
inductive StoreRecord where
  | jobDefinition (job : JobDefinition)
  | globalJobRun (run : JobRun)
  | durableJob (taskId : String) (job : JobRun)
  | agentJobRun (run : AgentJobRun)
  | capabilityGrant (grant : CapabilityGrant)
  | releaseWorkflow (workflow : ReleaseWorkflow)
  deriving DecidableEq

inductive StoreKey where
  | jobDefinition (scope : JobScope) (id : String)
  | globalJobRun (id : String)
  | durableJob (taskId id : String)
  | agentJobRun (id : String)
  | capabilityGrant (taskId id : String)
  | releaseWorkflow (taskId id : String)
  deriving DecidableEq

namespace StoreRecord

def key : StoreRecord → StoreKey
  | .jobDefinition job => .jobDefinition job.scope job.id
  | .globalJobRun run => .globalJobRun run.id
  | .durableJob taskId job => .durableJob taskId job.id
  | .agentJobRun run => .agentJobRun run.id
  | .capabilityGrant grant => .capabilityGrant grant.taskId grant.id
  | .releaseWorkflow workflow => .releaseWorkflow workflow.taskId workflow.id

/-- A grant starts unrevoked and unused. -/
def create : StoreRecord → Bool
  | .capabilityGrant grant => decide (grant.revokedAt = none) && decide (grant.usesUsed = 0)
  | _ => true

def followsRun (previous run : JobRun) : Bool :=
  !movesBack previous.updatedAt run.updatedAt &&
    decide (validDurableJobTransition previous run = .ok true)

def guard : StoreRecord → StoreRecord → Bool
  | .jobDefinition previous, .jobDefinition job => followsDefinition previous job
  | .globalJobRun previous, .globalJobRun run => followsRun previous run
  | .durableJob _ previous, .durableJob _ job => followsRun previous job
  | .agentJobRun previous, .agentJobRun run => decide (assertAgentJobRunTransition previous run = .ok ())
  | .capabilityGrant existing, .capabilityGrant stored => isValidCapabilityGrantTransition existing stored
  | .releaseWorkflow existing, .releaseWorkflow stored => isValidReleaseWorkflowTransition existing stored
  | _, _ => false

/-- `saveJobDefinition` and `saveGlobalJobRun` read the previous row before `#mutate`. -/
def early : StoreRecord → Bool
  | .jobDefinition _ | .globalJobRun _ => true
  | _ => false

end StoreRecord

/-- The saves of the store. -/
def savePolicy : GuardedSave.Policy StoreKey StoreRecord :=
  ⟨StoreRecord.key, StoreRecord.create, StoreRecord.guard, StoreRecord.early⟩

end Guards
