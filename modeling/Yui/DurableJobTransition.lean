import Mathlib.Logic.Relation
import Yui.DurableJob

/-!
# The transition guard of durable jobs

`validDurableJobTransition` decides which record may replace a stored one. It compares the fields
that identify a run, lets evidence only accumulate, freezes a terminal run but for its two one-way
flags and its artifacts, and lists the statuses a run may move to.
-/

open Checked

def DurableJobOwner.json : DurableJobOwner → Json
  | .integrationAttempt id =>
    .obj [("kind", .str "integration-attempt"), ("integrationAttemptId", .str id)]
  | .workItem id => .obj [("kind", .str "work-item"), ("workItemId", .str id)]
  | .task => .obj [("kind", .str "task")]

def ScheduleServiceRef.json (ref : ScheduleServiceRef) : Json :=
  .obj [("scheduleId", .str ref.scheduleId), ("grantId", .str ref.grantId)]

/-- What the guard compares as the owner; an array prints `undefined` as `null`. -/
def JobRunScope.ownerJson : JobRunScope → Json
  | .task _ owner => owner.json
  | .global action actionInput serviceAuthorization =>
    .arr [(action.map Json.str).getD .null, actionInput.getD .null,
      (serviceAuthorization.map ScheduleServiceRef.json).getD .null]

/-- The fields that identify a run, in the form in which the guard compares them. -/
structure RunIdentity where
  delegation : Option TaskDelegation
  id : String
  definitionId : String
  definitionRevision : ℚ
  trigger : JobTrigger
  retryOf : Option String
  executionNamespace : String
  projectId : Option String
  head : Option String
  workspace : Option String
  idempotencyKey : String
  artifactsLocator : String
  createdAt : String
  owner : Json
  env : Option EnvMap
  steps : Option (List DurableJobStep)
  requestId : String
  inputDigest : String
  actorId : String
  authorityRef : String
  targetId : String
  capability : String
  implementation : ImplementationRef
  deriving DecidableEq

variable [JobHost]

def JobFacts.identity (job : JobFacts) : RunIdentity where
  delegation := job.delegation
  id := job.id
  definitionId := job.definitionId
  definitionRevision := job.definitionRevision
  trigger := job.trigger
  retryOf := job.retryOf
  executionNamespace := executionNamespace job
  projectId := job.projectId
  head := job.head
  workspace := job.workspace
  idempotencyKey := job.idempotencyKey
  artifactsLocator := job.artifactsLocator
  createdAt := job.createdAt
  owner := canonicalJson job.scope.ownerJson
  env := job.env.map canonicalEnv
  steps := job.steps.map fun steps => steps.map DurableJobStep.canonical
  requestId := job.operation.requestId
  inputDigest := job.operation.inputDigest
  actorId := job.operation.actorId
  authorityRef := job.operation.authorityRef
  targetId := job.operation.targetId
  capability := job.operation.capability
  implementation := job.operation.implementation

/-- A terminal run keeps its facts and turns its two flags only one way. -/
structure SameTerminal (before after : JobRun) : Prop where
  facts : before.toJobFacts.canonical = after.toJobFacts.canonical
  status : before.status = after.status
  result : before.result = after.result
  operation : before.operation = after.operation
  terminalAt : before.terminalAt = after.terminalAt
  wakeup : before.wakeupNotified = after.wakeupNotified ∨
    (before.wakeupNotified ≠ some true ∧ after.wakeupNotified = some true)
  acknowledged : before.acknowledgedAt = after.acknowledgedAt ∨
    (before.acknowledgedAt = none ∧ after.acknowledgedAt ≠ none)

instance (before after : JobRun) : Decidable (SameTerminal before after) :=
  decidable_of_iff
    (before.toJobFacts.canonical = after.toJobFacts.canonical ∧ before.status = after.status ∧
      before.result = after.result ∧ before.operation = after.operation ∧
      before.terminalAt = after.terminalAt ∧
      (before.wakeupNotified = after.wakeupNotified ∨
        (before.wakeupNotified ≠ some true ∧ after.wakeupNotified = some true)) ∧
      (before.acknowledgedAt = after.acknowledgedAt ∨
        (before.acknowledgedAt = none ∧ after.acknowledgedAt ≠ none)))
    ⟨fun ⟨h1, h2, h3, h4, h5, h6, h7⟩ => ⟨h1, h2, h3, h4, h5, h6, h7⟩,
      fun h => ⟨h.1, h.2, h.3, h.4, h.5, h.6, h.7⟩⟩

/-- The statuses that may follow an active one. -/
def allowedStatuses (before after : JobRun) : List DurableJobStatus :=
  match before.status with
  | .queued =>
    [.queued, .running, .cancelled, .unknownNeedsAttention] ++
      if before.operation.effect = .none ∧ after.operation.effect = .none then [.failed] else []
  | .running => [.running, .succeeded, .failed, .timedOut, .cancelled, .unknownNeedsAttention]
  | _ => []

def validDurableJobTransition (before after : JobRun) : Except String Bool :=
  if before.toJobFacts.identity ≠ after.toJobFacts.identity ∨
      artifactsAppendOnly before after = false then .ok false
  else do
    let recorded ← recordOperationEvidence before.operation after.operation.asEvidence
    if recorded ≠ after.operation then .ok false
    else if isDurableJobTerminal before.status then .ok (decide (SameTerminal before after))
    else .ok (decide (after.status ∈ allowedStatuses before after))

/-- The guard lets the second record replace the first. -/
def Accepted (before after : JobRun) : Prop := validDurableJobTransition before after = .ok true

theorem accepted_iff (before after : JobRun) : Accepted before after ↔
    before.toJobFacts.identity = after.toJobFacts.identity ∧ artifactsAppendOnly before after = true ∧
      mergeEvidence before.operation after.operation.asEvidence = after.operation ∧ ValidOperation after.operation ∧
      if isDurableJobTerminal before.status then SameTerminal before after
      else after.status ∈ allowedStatuses before after := by
  unfold Accepted validDurableJobTransition
  constructor
  · intro h
    by_cases hrun : before.toJobFacts.identity ≠ after.toJobFacts.identity ∨
        artifactsAppendOnly before after = false
    · simp [hrun] at h
    · rw [if_neg hrun] at h
      rw [not_or, not_not, Bool.not_eq_false] at hrun
      obtain ⟨recorded, hrecorded, h⟩ := bind_ok h
      obtain ⟨hmerge, hvalid⟩ := recordOperationEvidence_ok hrecorded
      by_cases hne : recorded ≠ after.operation
      · simp [hne] at h
      · rw [if_neg hne] at h
        rw [not_not] at hne
        rw [hne] at hmerge hvalid
        refine ⟨hrun.1, hrun.2, hmerge.symm, hvalid, ?_⟩
        split_ifs at h ⊢ with hterminal
        · simpa using h
        · simpa using h
  · rintro ⟨hrun, hartifacts, hmerge, hvalid, h⟩
    rw [if_neg (by simp [hrun, hartifacts]), recordOperationEvidence_of_valid (hmerge.symm ▸ hvalid),
      ok_bind, if_neg (by rw [hmerge, not_not])]
    split_ifs at h ⊢ with hterminal
    · simpa using h
    · simpa using h
