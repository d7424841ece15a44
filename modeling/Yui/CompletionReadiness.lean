import Mathlib.Data.List.Sort
import Yui.NextAction

/-!
# Whether a Task can be completed

`projectCompletionReadiness` lists everything that stands in the way of `task complete`. When the next action is to
complete the Task, the records that both projections read must not refuse it.
-/

open GitIntegration

namespace TaskProtocol

inductive CompletionBlockerCode where
  | pendingUserInput | activeTaskReview | openInputRequest | incompleteWorkItem | activeDurableJob
  | integrationEvidenceMissing | unresolvedIntegration | workItemWorkspaceUndisposed | reviewWorkspaceUndisposed
  | integrationWorkspaceUndisposed | executionLaneWorkspaceUndisposed

def CompletionBlockerCode.text : CompletionBlockerCode → String
  | .pendingUserInput => "pending-user-input"
  | .activeTaskReview => "active-task-review"
  | .openInputRequest => "open-input-request"
  | .incompleteWorkItem => "incomplete-work-item"
  | .activeDurableJob => "active-durable-job"
  | .integrationEvidenceMissing => "integration-evidence-missing"
  | .unresolvedIntegration => "unresolved-integration"
  | .workItemWorkspaceUndisposed => "work-item-workspace-undisposed"
  | .reviewWorkspaceUndisposed => "review-workspace-undisposed"
  | .integrationWorkspaceUndisposed => "integration-workspace-undisposed"
  | .executionLaneWorkspaceUndisposed => "execution-lane-workspace-undisposed"

/-- A blocker, or an advisory when its workspace only remains to be cleaned. -/
structure CompletionBlocker where
  code : CompletionBlockerCode
  ref : NextActionRef
  reason : String
  fix : String

structure CompletionReadiness where
  ready : Bool
  blockers : List CompletionBlocker
  advisories : List CompletionBlocker

structure DurableJob where
  id : String
  status : JobStatus
  acknowledgedAt : Option String

structure AgentJobRun where
  id : String
  definitionId : String
  /-- The explicit business result is recorded. -/
  businessResult : Bool

inductive WorkspaceOwner where
  | task
  | workItem (workItemId : String)
  | reviewRound (reviewRoundId : String)
  | integrationAttempt (integrationAttemptId : String)
  | executionLane (executionGroupId executionLaneId : String)

structure CompletionReadinessFacts extends NextActionFacts where
  pendingUserMessages : List String
  /-- The owners of the managed workspaces. -/
  managedWorkspaces : List WorkspaceOwner
  durableJobs : List DurableJob
  agentJobs : List AgentJobRun

/-- `localeCompare`, also with the numeric option. -/
class Collator where
  compare : String → String → Ordering
  compareNumeric : String → String → Ordering

def CompletionBlocker.compare [Collator] (left right : CompletionBlocker) : Ordering :=
  (Collator.compare left.code.text right.code.text).then <|
    (Collator.compare left.ref.kind right.ref.kind).then (Collator.compareNumeric left.ref.id right.ref.id)

def sortBlockers [Collator] (blockers : List CompletionBlocker) : List CompletionBlocker :=
  blockers.mergeSort fun left right => left.compare right ≠ .gt

section Blockers

variable (facts : CompletionReadinessFacts)

def messageBlockers : List CompletionBlocker :=
  facts.pendingUserMessages.map fun message =>
    { code := .pendingUserInput
      ref := ⟨"message", message⟩
      reason := s!"User message {message} is still awaiting Leader delivery or explicit handling."
      fix := s!"read message {message} and its inbox window; claim and acknowledge after handling, or finish this turn if delivery is still pending" }

def reviewBlockers : List CompletionBlocker :=
  (facts.reviewRounds.filter unfinishedTaskRound).map fun round =>
    { code := .activeTaskReview
      ref := ⟨"review-round", round.id⟩
      reason := s!"Task-final ReviewRound {round.id} is {round.status.text}."
      fix := if round.status = .pending then s!"yui task review retry {facts.task.id}/{round.id}"
        else s!"wait for Reviewer AgentRun on {round.id} to finish" }

def inputBlockers : List CompletionBlocker :=
  facts.openInputRequests.map fun request =>
    { code := .openInputRequest
      ref := ⟨"input-request", request⟩
      reason := s!"Input request {request} is open."
      fix := s!"yui task input answer {facts.task.id}/{request}" }

def workItemBlockers : List CompletionBlocker :=
  (facts.workItems.filter fun item => item.status ≠ .accepted ∧ item.status ≠ .retired).map fun item =>
    { code := .incompleteWorkItem
      ref := ⟨"work-item", item.id⟩
      reason := s!"Work Item {item.id} is {item.status.text}."
      fix := s!"accept or retire Work Item {item.id}" }

def DurableJob.active (job : DurableJob) : Bool :=
  match job.status with
  | .queued | .running => true
  | .unknownNeedsAttention => job.acknowledgedAt.isNone
  | _ => false

def jobBlockers : List CompletionBlocker :=
  (facts.agentJobs.filter fun job => !job.businessResult).map (fun job =>
    { code := .activeDurableJob
      ref := ⟨"durable-job", job.id⟩
      reason := s!"Agent JobRun {job.id} has no explicit business result."
      fix := s!"inspect yui job run-context --task {facts.task.id} --job {job.definitionId} --run {job.id}; settle its original input without replay" }) ++
  (facts.durableJobs.filter DurableJob.active).map fun job =>
    { code := .activeDurableJob
      ref := ⟨"durable-job", job.id⟩
      reason := s!"DurableJob {job.id} is {job.status.text}."
      fix := s!"wait for DurableJob {job.id} to finish, or cancel it" }

def deliveryBlockers (deliveries : List WorkItemProjectDelivery) : List CompletionBlocker :=
  (deliveries.filter fun delivery => !workItemDeliverySettled delivery facts.integrations).map fun delivery =>
    { code := .integrationEvidenceMissing
      ref := ⟨"work-item", delivery.workItemId⟩
      reason := s!"WorkItem {delivery.workItemId} result for Project {delivery.projectId} is not part of a committed Integration."
      fix := s!"yui task integration start {facts.task.id} --work-item {delivery.workItemId} --project {delivery.projectId} --strategy <ff|cherry-pick|merge|manual>" }

def AttemptStatus.text : AttemptStatus → String
  | .running => "running"
  | .conflicted => "conflicted"
  | .blocked => "blocked"
  | .validating => "validating"
  | .committed => "committed"
  | .superseded => "superseded"
  | .failed => "failed"

def integrationBlockers : List CompletionBlocker :=
  (facts.integrations.filter integrationAttemptRequiresSettlement).map fun attempt =>
    { code := .unresolvedIntegration
      ref := ⟨"integration-attempt", attempt.id⟩
      reason := s!"Integration Attempt {attempt.id} is {AttemptStatus.text attempt.status}."
      fix := s!"yui task integration continue {facts.task.id}/{attempt.id}" }

end Blockers

section Workspaces

variable (facts : CompletionReadinessFacts)

def findExecutionLane (groupId laneId : String) : Option ExecutionLane :=
  (facts.workItems.findSome? fun item => (item.executionGroups.find? fun group => group.id = groupId).bind
    fun group => group.lanes.find? fun lane => lane.id = laneId).or <|
  facts.reviewRounds.findSome? fun round => (round.executionGroup.filter fun group => group.id = groupId).bind
    fun group => group.lanes.find? fun lane => lane.id = laneId

/-- A blocker on the left, an advisory on the right, or nothing. -/
abbrev Disposition := Option (CompletionBlocker ⊕ CompletionBlocker)

/-- Without its owner a workspace blocks; with a terminal one it is only to be cleaned. -/
def dispose (found terminal : Bool) (value : CompletionBlocker) : Disposition :=
  if found = false then some (.inl value) else if terminal = true then some (.inr value) else none

def workspaceCompletionDisposition : WorkspaceOwner → Disposition
  | .task => none
  | .workItem workItemId =>
    let value : CompletionBlocker := {
      code := .workItemWorkspaceUndisposed
      ref := ⟨"work-item", workItemId⟩
      reason := s!"Work Item {workItemId} has an isolated workspace that is not disposed."
      fix := s!"yui task work cleanup {facts.task.id}/{workItemId} --integrated|--abandon" }
    -- An item that is not terminal blocks too.
    if (facts.workItems.find? fun item => item.id = workItemId).any fun item =>
      decide (item.status = .accepted ∨ item.status = .retired) then some (.inr value) else some (.inl value)
  | .reviewRound reviewRoundId =>
    let round := facts.reviewRounds.find? fun round => round.id = reviewRoundId
    dispose round.isSome (round.any fun round => !round.status.unfinished) {
      code := .reviewWorkspaceUndisposed
      ref := ⟨"review-round", reviewRoundId⟩
      reason := s!"ReviewRound {reviewRoundId} is terminal but its workspace is not cleaned up."
      fix := s!"yui task work review cleanup {facts.task.id}/{reviewRoundId}" }
  | .integrationAttempt attemptId =>
    let attempt := facts.integrations.find? fun attempt => attempt.id = attemptId
    dispose attempt.isSome (attempt.any fun attempt => !integrationAttemptRequiresSettlement attempt) {
      code := .integrationWorkspaceUndisposed
      ref := ⟨"integration-attempt", attemptId⟩
      reason := s!"Integration Attempt {attemptId} is terminal but its workspace is not cleaned up."
      fix := s!"retry or continue Integration {attemptId} so its workspace is reclaimed" }
  | .executionLane groupId laneId =>
    let lane := findExecutionLane facts groupId laneId
    dispose lane.isSome (lane.any fun lane => decide (lane.disposition ≠ .open)) {
      code := .executionLaneWorkspaceUndisposed
      ref := ⟨"execution-lane", s!"{groupId}/{laneId}"⟩
      reason := s!"Execution Lane {groupId}/{laneId} is terminal but its workspace is not cleaned up."
      fix := s!"clean up Execution Lane {groupId}/{laneId}" }

def workspaceBlockers : List CompletionBlocker :=
  facts.managedWorkspaces.filterMap fun owner => (workspaceCompletionDisposition facts owner).bind Sum.getLeft?

def workspaceAdvisories : List CompletionBlocker :=
  facts.managedWorkspaces.filterMap fun owner => (workspaceCompletionDisposition facts owner).bind Sum.getRight?

end Workspaces

def projectCompletionReadiness [Collator] (facts : CompletionReadinessFacts) : Except String CompletionReadiness := do
  let deliveries ← governingWorkItemDeliveries facts.workItems
  let blockers := sortBlockers (messageBlockers facts ++ reviewBlockers facts ++ inputBlockers facts ++
    workItemBlockers facts ++ jobBlockers facts ++ deliveryBlockers facts deliveries ++ integrationBlockers facts ++
    workspaceBlockers facts)
  return ⟨decide (blockers = []), blockers, sortBlockers (workspaceAdvisories facts)⟩

end TaskProtocol
