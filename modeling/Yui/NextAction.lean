import Yui.TaskRecords

/-!
# The next action of a Task

`projectNextAction` folds the records of a Task into one recommended action. Its branches are asked one after the
other, and the first that has something to say decides.
-/

open GitIntegration

namespace TaskProtocol

inductive NextActionKind where
  | resolveIntegrationConflicts | advanceTask | implementCurrentWorkItem | acceptOrRejectCandidate
  | integrateWorkItem | requestFinalReview | resolveExecutionStage | resumeReview | retryExecutionLane
  | waitForOwnedExecution | resolveInput | startTaskExecution | completeTask | repairProtocolInconsistency

structure NextActionRef where
  kind : String
  id : String

structure NextActionPrecondition where
  fact : String
  satisfied : Bool
  ref : Option NextActionRef := none

structure NextActionAlternative where
  kind : String
  reason : String
  recommendedCommand : Option String := none
  refs : List NextActionRef := []

/-- An action without the Task id and the fingerprint, which is the digest of the kind and the refs. -/
structure NextAction where
  kind : NextActionKind
  reason : String
  refs : List NextActionRef
  preconditions : List NextActionPrecondition
  recommendedCommand : Option String := none
  alternatives : List NextActionAlternative := []
  judgmentRequired : Option String := none
  conflicts : List NextActionRef := []

structure TaskHead where
  id : String
  status : TaskStatus
  /-- The execution gate is `stopped`, not `enabled`. -/
  stopped : Bool
  projectBindings : List String

inductive JobStatus where
  | queued | running | succeeded | failed | timedOut | cancelled | unknownNeedsAttention
  deriving DecidableEq

def JobStatus.text : JobStatus → String
  | .queued => "queued"
  | .running => "running"
  | .succeeded => "succeeded"
  | .failed => "failed"
  | .timedOut => "timed-out"
  | .cancelled => "cancelled"
  | .unknownNeedsAttention => "unknown-needs-attention"

structure IntegrationJob where
  id : String
  status : JobStatus

inductive LaneRecovery where
  | none | inspect | retryNewTurn | reuseResult
  deriving DecidableEq

structure LaneSummary where
  laneId : String
  runId : Option String
  recovery : LaneRecovery

structure ExecutionGroupHealthSummary where
  groupId : String
  laneSummaries : List LaneSummary

structure NextActionFacts where
  task : TaskHead
  workItems : List WorkItem
  integrations : List IntegrationAttempt
  integrationJobs : List IntegrationJob
  reviewRounds : List ReviewRound
  reviewConfig : Option ReviewConfig
  /-- The ids of the open Input requests. -/
  openInputRequests : List String
  activeRuns : List AgentRun
  reviewOutcomeRuns : List AgentRun
  executionGroups : List ExecutionGroupHealthSummary

/-- A branch says nothing, recommends an action, or throws. -/
abbrev Branch := Except String (Option NextAction)

def firstAction : List Branch → Except String NextAction → Except String NextAction
  | [], last => last
  | branch :: later, last =>
    match branch with
    | .error failure => .error failure
    | .ok (some action) => .ok action
    | .ok none => firstAction later last

variable (facts : NextActionFacts)

section Stopped

def closedAction : NextAction where
  kind := .completeTask
  reason := s!"Task {facts.task.id} is {facts.task.status.text}; no further protocol action is available."
  refs := [⟨"task", facts.task.id⟩]
  preconditions := [⟨s!"Task status is {facts.task.status.text}", true, some ⟨"task", facts.task.id⟩⟩]

def stoppedBranch : Branch :=
  if facts.task.status = .active ∧ facts.task.stopped = true then .ok <| some
    { kind := .startTaskExecution
      reason := s!"Task {facts.task.id} execution is stopped; durable progress is preserved."
      refs := [⟨"task", facts.task.id⟩]
      preconditions := [⟨"Task execution is stopped", true, some ⟨"task", facts.task.id⟩⟩]
      recommendedCommand := s!"yui task execution start {facts.task.id}" }
  else .ok none

def inputBranch : Branch :=
  .ok <| facts.openInputRequests.head?.map fun request =>
    { kind := .resolveInput
      reason := s!"Input {request} is open and blocks protocol convergence."
      refs := [⟨"input-request", request⟩]
      preconditions := [⟨"Input request is open", true, some ⟨"input-request", request⟩⟩]
      recommendedCommand := s!"yui task input answer {facts.task.id}/{request}" }

end Stopped

section Inconsistency

structure Inconsistency where
  reason : String
  conflicts : List NextActionRef

def runningRoundConflict (round : ReviewRound) (activeRuns : List AgentRun) : Option Inconsistency :=
  if round.reviewerRunId.isNone && round.executionGroup.isNone then
    some ⟨s!"ReviewRound {round.id} is running but has no execution unit.", [⟨"review-round", round.id⟩]⟩
  else if activeReviewRoundRun round activeRuns = none then
    round.reviewerRunId.map fun runId =>
      ⟨s!"ReviewRound {round.id} references Reviewer AgentRun {runId}, but that AgentRun is not active.",
        [⟨"review-round", round.id⟩, ⟨"run", runId⟩]⟩
  else none

def pendingRoundConflict (round : ReviewRound) : Option Inconsistency :=
  (round.reviewerRunId.or ((round.executionGroup.elim [] ExecutionGroup.lanes).findSome?
    ExecutionLane.currentRunId)).map fun runId =>
      ⟨s!"Pending ReviewRound {round.id} already references Reviewer AgentRun {runId}.",
        [⟨"review-round", round.id⟩, ⟨"run", runId⟩]⟩

def reviewRoundConflict (activeRuns : List AgentRun) (round : ReviewRound) : Option Inconsistency :=
  match round.status with
  | .running => runningRoundConflict round activeRuns
  | .pending => pendingRoundConflict round
  | _ => none

def committedConflict (workItems : List WorkItem) (attempt : IntegrationAttempt) : Option Inconsistency :=
  match attempt.source with
  | .workItem workItemId _ _ _ =>
    if attempt.status = .committed ∧ byId workItems workItemId = none then
      some ⟨s!"Committed Integration {attempt.id} references missing WorkItem {workItemId}.",
        [⟨"integration-attempt", attempt.id⟩, ⟨"work-item", workItemId⟩]⟩
    else none
  | .upstream .. => none

def retiredReviewConflict (workItems : List WorkItem) (round : ReviewRound) : Option Inconsistency :=
  if round.status.unfinished = true then
    (round.workItemId.bind (byId workItems)).bind fun item =>
      if item.status = .retired then
        some ⟨s!"Review {round.id} is still {round.status.text} but its Work Item {item.id} is retired.",
          [⟨"review-round", round.id⟩, ⟨"work-item", item.id⟩]⟩
      else none
  else none

def contractConflict (failure : String) : Inconsistency where
  reason := s!"Task-final Review contract is inconsistent: {failure}"
  conflicts :=
    (facts.workItems.filterMap fun item => (governingWorkItemCandidate item).bind fun candidate =>
      candidate.taskFinalReviewContract.map fun _ =>
        (⟨"candidate", s!"{item.id}/{candidate.id}"⟩ : NextActionRef)) ++
    (facts.reviewRounds.filter fun round =>
      decide (round.scope = .task) && round.taskFinalReviewContract.isSome).map fun round =>
        ⟨"review-round", round.id⟩

def taskFinalReviewContract : Except String (Option TaskFinalReviewContract) :=
  resolveRecordedTaskFinalReviewContract facts.task.id facts.workItems facts.reviewRounds

def detectProtocolInconsistency : Option Inconsistency :=
  match taskFinalReviewContract facts with
  | .error failure => some (contractConflict facts failure)
  | .ok _ =>
    (facts.reviewRounds.findSome? (reviewRoundConflict facts.activeRuns)).or <|
      (facts.integrations.findSome? (committedConflict facts.workItems)).or <|
        facts.reviewRounds.findSome? (retiredReviewConflict facts.workItems)

def inconsistencyBranch : Branch :=
  .ok <| (detectProtocolInconsistency facts).map fun inconsistency =>
    { kind := .repairProtocolInconsistency
      reason := inconsistency.reason
      refs := inconsistency.conflicts
      conflicts := inconsistency.conflicts
      preconditions := inconsistency.conflicts.map fun entry =>
        ⟨s!"Conflicting record {entry.kind} {entry.id}", false, some entry⟩ }

end Inconsistency

section Running

structure LaneRetry where
  groupId : String
  laneId : String
  runId : String

/-- `actionableExecutionLaneRecoveries`, of the lanes with an exact Run. -/
def laneRetries (groups : List ExecutionGroupHealthSummary) : List LaneRetry :=
  groups.flatMap fun group => group.laneSummaries.filterMap fun lane =>
    if lane.recovery = .retryNewTurn then lane.runId.map fun runId => ⟨group.groupId, lane.laneId, runId⟩
    else none

def laneRecoveryBranch : Branch :=
  .ok <| (laneRetries facts.executionGroups).head?.map fun lane =>
    { kind := .retryExecutionLane
      reason := s!"Execution Lane {lane.laneId} is durably failed; retry only exact AgentRun {lane.runId} and retain sibling results."
      refs := [⟨"execution-group", lane.groupId⟩, ⟨"execution-lane", lane.laneId⟩, ⟨"run", lane.runId⟩]
      preconditions := [⟨"Execution Lane is failed and unresolved", true, some ⟨"execution-lane", lane.laneId⟩⟩,
        ⟨"Exact failed AgentRun is retained", true, some ⟨"run", lane.runId⟩⟩]
      recommendedCommand := s!"yui task run retry {facts.task.id}/{lane.runId}" }

def leaderBranch : Branch :=
  .ok <| (facts.activeRuns.find? fun run => run.roleName = "leader").map fun run =>
    { kind := .waitForOwnedExecution
      reason := s!"Leader AgentRun {run.id} is active; the protocol position is being executed."
      refs := [⟨"run", run.id⟩]
      preconditions := [⟨"Leader AgentRun is active", true, some ⟨"run", run.id⟩⟩] }

def dependencyAlternatives : List NextActionAlternative :=
  [ { kind := "inspect-dependencies"
      reason := "Read the related requirements and dependency records before choosing a repair."
      recommendedCommand := s!"yui task work list {facts.task.id}" },
    { kind := "revise-dependencies"
      reason := "If the intended dependency graph is wrong, edit the affected WorkItem with --after for the complete intended set, preserving unrelated valid dependencies." },
    { kind := "retire-obsolete-work"
      reason := "Only if the requirement is no longer needed, deliberately retire it and reconcile its dependents." } ]

/-- A repair of the dependency of one item on another, with what `dependencyJudgment` adds. -/
def dependencyRepair (reason fact itemId dependencyId : String) : NextAction where
  kind := .repairProtocolInconsistency
  reason := reason
  refs := [⟨"work-item", itemId⟩, ⟨"work-item", dependencyId⟩]
  conflicts := [⟨"work-item", itemId⟩, ⟨"work-item", dependencyId⟩]
  preconditions := [⟨fact, false, some ⟨"work-item", dependencyId⟩⟩]
  recommendedCommand := s!"yui task work show {facts.task.id}/{itemId}"
  alternatives := dependencyAlternatives facts
  judgmentRequired := "The records identify a blocked dependency, not which business requirement or edge is wrong. Determine the intended graph from Task requirements; do not infer permission to delete dependencies."

def draftAction : NextAction :=
  match draftWorkItemDependencyIssue facts.workItems with
  | some issue => dependencyRepair facts
      (match issue.kind with
        | .cycle => s!"Draft Work Item dependency cycle includes {issue.workItemId}/{issue.dependencyId}. Edit the Draft before activation."
        | .missingOrRetired => s!"Draft Work Item {issue.workItemId} depends on {issue.dependencyId}, which is missing or retired. Edit the Draft before activation.")
      s!"Draft dependency {issue.dependencyId} is valid" issue.workItemId issue.dependencyId
  | none =>
    { kind := .implementCurrentWorkItem
      reason := s!"Task {facts.task.id} is still a Draft; activate it before dispatching, integrating, reviewing, or completing work."
      refs := [⟨"task", facts.task.id⟩]
      preconditions := [⟨"Task is active", false, some ⟨"task", facts.task.id⟩⟩]
      recommendedCommand := s!"yui task activate {facts.task.id}" }

def draftBranch : Branch := if facts.task.status = .draft then .ok (some (draftAction facts)) else .ok none

end Running

section Integrations

def continueIntegration (attempt : IntegrationAttempt) : String :=
  s!"yui task integration continue {facts.task.id}/{attempt.id}"

def conflictedBranch : Branch :=
  .ok <| (facts.integrations.find? fun attempt => attempt.status = .conflicted).map fun attempt =>
    { kind := .resolveIntegrationConflicts
      reason := s!"Integration {attempt.id} has Git conflicts; the Leader resolves its workspace and continues without prior resolve or user approval."
      refs := [⟨"integration", attempt.id⟩]
      preconditions := [⟨"Git conflict resolution belongs to the Leader", true, none⟩]
      recommendedCommand := continueIntegration facts attempt }

def checkingAction (attempt : IntegrationAttempt) (jobId : String) : NextAction :=
  let job := facts.integrationJobs.find? fun job => job.id = jobId
  let refs : List NextActionRef := [⟨"integration", attempt.id⟩, ⟨"job", jobId⟩]
  let awaits (status : String) : NextAction :=
    { kind := .integrateWorkItem
      reason := s!"Integration {attempt.id} awaits check-result consumption ({status}); its exact Job must be consumed to finalize the attempt."
      refs := refs
      preconditions := [⟨"The Integration retains its exact check Job", true, refs.head?⟩]
      recommendedCommand := continueIntegration facts attempt }
  match job with
  | none => awaits "read current Job"
  | some job =>
    if job.status = .queued ∨ job.status = .running then
      { kind := .waitForOwnedExecution
        reason := s!"Integration {attempt.id} check Job {job.id} is {job.status.text}."
        refs := refs
        preconditions := [⟨"Check Job is still executing", true, refs.getLast?⟩]
        alternatives := [
          { kind := "continue-integration"
            reason := "When the check Job settles, continue this exact Integration to consume its result."
            recommendedCommand := continueIntegration facts attempt }] }
    else awaits job.status.text

def checkingBranch : Branch :=
  .ok <| facts.integrations.findSome? fun attempt =>
    if attempt.status = .running then attempt.jobId.map (checkingAction facts attempt) else none

def unfinishedBranch : Branch :=
  .ok <| (facts.integrations.find? fun attempt => attempt.status = .running ∨ attempt.status = .validating).map
    fun attempt =>
      { kind := .integrateWorkItem
        reason := s!"Integration {attempt.id} is unfinished. " ++
          attempt.summary.getD "Continue from its persisted source and check evidence."
        refs := [⟨"integration", attempt.id⟩]
        preconditions := [⟨"Inspect exact Integration evidence before any retry", true, none⟩]
        recommendedCommand := continueIntegration facts attempt
        alternatives := [
          { kind := "inspect-integration"
            reason := "If completion cannot be proved, preserve evidence and choose formal abort and an authorized alternative."
            recommendedCommand := s!"yui task integration show {facts.task.id}/{attempt.id}" }] }

end Integrations

section Reviews

inductive SynthesisSubject where
  | work | review

def synthesisSelectionAction (subject : SynthesisSubject) (id : String) : NextAction where
  kind := .resolveExecutionStage
  reason := match subject with
    | .work => s!"Replicated work {id} needs Leader judgment over original results and synthesis."
    | .review => s!"Replicated review {id} needs Leader judgment over original results and synthesis."
  refs := match subject with
    | .work => [⟨"work-item", id⟩]
    | .review => [⟨"review-round", id⟩]
  preconditions := []
  recommendedCommand := match subject with
    | .work => s!"yui task work show {facts.task.id}/{id}"
    | .review => s!"yui task review synthesize {facts.task.id}/{id} --source-run <task>/<run>"
  judgmentRequired := "Inspect original results and any existing main AgentRun. Retry a failed main AgentRun or explicitly select synthesis sources; Core does not enforce a success count or voting rule."

/-- How the actions for a Round of a Candidate and for a Task-final one differ. -/
structure RoundTexts where
  title : String
  dispatchCommand : String
  neverLaunched : String
  waiting : AgentRun → NextAction

def roundRepair (reason fact : String) (refs : List NextActionRef) : NextAction where
  kind := .repairProtocolInconsistency
  reason := reason
  refs := refs
  conflicts := refs
  preconditions := [⟨fact, false, refs.getLast?⟩]

def idleRoundAction (texts : RoundTexts) (round : ReviewRound) : NextAction :=
  if round.executionGroup.isSome && round.reviewerRunId.isNone &&
      !reviewGroupNeedsDispatch round facts.activeRuns then
    synthesisSelectionAction facts .review round.id
  else if reviewGroupNeedsDispatch round facts.activeRuns = true then
    { kind := .resumeReview
      reason := s!"{texts.title} {round.id} has Review Producer Lanes ready for dispatch or retry."
      refs := [⟨"review-round", round.id⟩]
      preconditions := [⟨"A Review Producer Lane is open", true, some ⟨"review-round", round.id⟩⟩]
      recommendedCommand := texts.dispatchCommand }
  else
    roundRepair s!"{texts.title} {round.id} has no active Producer or main Reviewer AgentRun."
      "Review execution is active or ready to dispatch"
      [⟨"review-round", round.id⟩, round.reviewerRunId.elim ⟨"review-round", round.id⟩ (⟨"run", ·⟩)]

def runningRoundAction (texts : RoundTexts) (round : ReviewRound) : NextAction :=
  if round.reviewerRunId.isNone && round.executionGroup.isNone then
    roundRepair s!"{texts.title} {round.id} is running but has no Reviewer AgentRun."
      s!"Running {texts.title} has an exact Reviewer AgentRun" [⟨"review-round", round.id⟩]
  else
    match activeReviewRoundRun round facts.activeRuns with
    | none => idleRoundAction facts texts round
    | some run => texts.waiting run

def pendingRoundAction (texts : RoundTexts) (round : ReviewRound) : NextAction :=
  match round.reviewerRunId with
  | some runId =>
    roundRepair s!"Pending {texts.title} {round.id} already references Reviewer AgentRun {runId}."
      s!"Pending {texts.title} has no Reviewer AgentRun" [⟨"review-round", round.id⟩, ⟨"run", runId⟩]
  | none =>
    { kind := .resumeReview
      reason := texts.neverLaunched
      refs := [⟨"review-round", round.id⟩]
      preconditions := [⟨s!"{texts.title} is pending", true, some ⟨"review-round", round.id⟩⟩,
        ⟨"Reviewer AgentRun exists", false, none⟩]
      recommendedCommand := texts.dispatchCommand }

def activeRoundAction (texts : RoundTexts) (round : ReviewRound) : NextAction :=
  if round.status = .running then runningRoundAction facts texts round else pendingRoundAction texts round

def candidateRoundTexts (item : WorkItem) (candidate : Option WorkItemCandidate) (round : ReviewRound) :
    RoundTexts where
  title := "ReviewRound"
  dispatchCommand := s!"yui task work review {facts.task.id}/{item.id}" ++ reviewLaneRoleOptions round
  neverLaunched := s!"ReviewRound {round.id} is pending and never launched; resume it before accepting or rejecting the Candidate."
  waiting run :=
    { kind := .waitForOwnedExecution
      reason := s!"Reviewer AgentRun {run.id} is evaluating Candidate {item.id}/" ++
        candidate.elim "unknown" WorkItemCandidate.id ++ "."
      refs := [⟨"review-round", round.id⟩, ⟨"run", run.id⟩]
      preconditions := [⟨"ReviewRound is running", true, some ⟨"review-round", round.id⟩⟩,
        ⟨"Reviewer AgentRun is active", true, some ⟨"run", run.id⟩⟩] }

def finalRoundTexts (round : ReviewRound) : RoundTexts where
  title := "Task-final ReviewRound"
  dispatchCommand := s!"yui task review request {facts.task.id} --role {round.reviewerRoleName}" ++
    reviewLaneRoleOptions round
  neverLaunched := s!"Task-final ReviewRound {round.id} is pending and never launched; retry it under the same semantic Round."
  waiting run :=
    { kind := .waitForOwnedExecution
      reason := s!"Reviewer AgentRun {run.id} is executing frozen Task-final Review {round.id}; this Review does not globally pause Leader decisions on newer facts."
      refs := [⟨"review-round", round.id⟩, ⟨"run", run.id⟩]
      preconditions := [⟨"Task-final ReviewRound is running", true, some ⟨"review-round", round.id⟩⟩,
        ⟨"Reviewer AgentRun is active", true, some ⟨"run", run.id⟩⟩]
      alternatives := [
        { kind := "continue-leader-work"
          reason := "Process new user input or advance a later candidate while preserving this frozen Review."
          refs := [⟨"review-round", round.id⟩] },
        { kind := "request-another-reviewer"
          reason := "Use another available Reviewer slot when an independent view adds value."
          recommendedCommand := s!"yui task review request {facts.task.id} --role <other-reviewer-role>"
          refs := [⟨"review-round", round.id⟩] }]
      judgmentRequired := "Leader decides whether the current facts justify waiting, continuing development, direct review, or another Reviewer." }

end Reviews

section Candidates

def integrateAction (reason workItemId projectId : String) : NextAction where
  kind := .integrateWorkItem
  reason := reason
  refs := [⟨"work-item", workItemId⟩]
  preconditions := [⟨"Committed Integration records the exact WorkItem result", false, some ⟨"work-item", workItemId⟩⟩]
  recommendedCommand := s!"yui task integration start {facts.task.id} --work-item {workItemId} --project {projectId} --strategy cherry-pick"
  judgmentRequired := "Leader must choose fast-forward, cherry-pick, merge, manual application, or an explicit no-op result."

/-- The first delivery that no committed Integration records. -/
def firstUnintegrated (deliveries : List WorkItemProjectDelivery) : Option WorkItemProjectDelivery :=
  deliveries.find? fun delivery => !workItemDeliverySettled delivery facts.integrations

def dispositionAction (item : WorkItem) (candidate : Option WorkItemCandidate) : NextAction :=
  let itemRef : NextActionRef := ⟨"work-item", item.id⟩
  let candidateRef (candidate : WorkItemCandidate) : NextActionRef := ⟨"candidate", s!"{item.id}/{candidate.id}"⟩
  let refs := itemRef :: (candidate.map candidateRef).toList
  { kind := .acceptOrRejectCandidate
    reason := s!"Work Item {item.id} has a Candidate awaiting Leader disposition."
    refs := refs
    preconditions := [⟨"Work Item is awaiting acceptance", true, some itemRef⟩,
      ⟨"Candidate record exists", candidate.isSome, candidate.map candidateRef⟩]
    recommendedCommand := s!"yui task work accept {facts.task.id}/{item.id} --summary \"<decision>\""
    alternatives :=
      { kind := "reject-candidate"
        reason := "Reject when the Candidate does not satisfy the Task objective or acceptance criteria."
        recommendedCommand := s!"yui task work reject {facts.task.id}/{item.id} --summary \"<reason>\""
        refs := refs } ::
      if (candidate.bind WorkItemCandidate.reviewPolicy).any (fun policy => decide (policy.trigger ≠ .final)) = true
      then [
        { kind := "re-review-candidate"
          reason := "Request another WorkItem Review when the Leader needs independent evidence before disposition."
          recommendedCommand := s!"yui task work review {facts.task.id}/{item.id}"
          refs := refs }]
      else []
    judgmentRequired := s!"Leader must judge Candidate {item.id}/" ++ candidate.elim "unknown" WorkItemCandidate.id ++
      " against the Task objective, acceptance criteria, and delivery risk." }

def candidateAction (item : WorkItem) : Except String NextAction := do
  let candidate := currentWorkItemCandidate item
  match latestActiveWorkItemReview facts.reviewRounds item candidate with
  | some round => return activeRoundAction facts (candidateRoundTexts facts item candidate round) round
  | none =>
    let deliveries ← governingWorkItemDeliveries [item]
    match firstUnintegrated facts deliveries with
    | some delivery => return (integrateAction facts
        s!"Work Item {item.id} result for Project {delivery.projectId} has not passed a Leader-owned Integration."
        item.id delivery.projectId)
    | none => return dispositionAction facts item candidate

def candidateBranch : Branch :=
  match facts.workItems.find? fun item => decide (item.status = .open) && item.currentCandidateId.isSome with
  | none => .ok none
  | some item => (candidateAction facts item).map some

def delegatedRuns : List AgentRun :=
  facts.activeRuns.filter fun run => decide (run.purpose = .execution) && decide (run.roleName ≠ "leader")

def delegatedBranch : Branch :=
  if delegatedRuns facts = [] then .ok none
  else .ok <| some
    { kind := .waitForOwnedExecution
      reason := s!"{(delegatedRuns facts).length} delegated execution AgentRun(s) are active; wait for their completion."
      refs := (delegatedRuns facts).map fun run => ⟨"run", run.id⟩
      preconditions := (delegatedRuns facts).map fun run =>
        ⟨s!"Execution AgentRun {run.id} is active", true, some ⟨"run", run.id⟩⟩ }

def blockedAction (itemId blockedBy : String) : NextAction :=
  match draftWorkItemDependencyIssue facts.workItems with
  | none => dependencyRepair facts s!"Work Item {itemId} depends on {blockedBy}, which is not completed."
      s!"Dependency {blockedBy} is valid and completed" itemId blockedBy
  | some issue => dependencyRepair facts
      (match issue.kind with
        | .cycle => s!"Work Item dependency cycle includes {issue.workItemId}/{issue.dependencyId}."
        | .missingOrRetired =>
          s!"Work Item {issue.workItemId} depends on {issue.dependencyId}, which is missing or retired.")
      s!"Dependency {issue.dependencyId} is valid and completed" issue.workItemId issue.dependencyId

def implementAction (item : WorkItem) : NextAction :=
  let refs : List NextActionRef := [⟨"work-item", item.id⟩]
  { kind := .implementCurrentWorkItem
    reason := match item.assignee with
      | none => s!"Work Item {item.id} has no managed assignee; the Leader can execute it directly."
      | some assignee => s!"Work Item {item.id} is assigned to {assignee}; dispatch or continue that assignment."
    refs := refs
    preconditions := [⟨s!"Work Item is {item.status.text}", true, refs.head?⟩]
    recommendedCommand := match item.assignee with
      | none => s!"yui task work update {facts.task.id}/{item.id} running"
      | some _ => s!"yui task work dispatch {facts.task.id}/{item.id}"
    alternatives := match item.assignee with
      | some _ => []
      | none =>
        (if item.writeProjectIds = [] then [] else [
          { kind := "isolate-work-item"
            reason := "Prepare and inspect the WorkItem-owned code workspace before direct implementation."
            recommendedCommand := s!"yui task work isolate {facts.task.id}/{item.id}"
            refs := refs }]) ++ [
          { kind := "native-subagent"
            reason := "Use a bounded native child only when authorized and useful within the Leader's current scope."
            refs := refs }]
    judgmentRequired := match item.assignee with
      | none => "Honor explicit execution preferences. For code, use the WorkItem-owned workspace and integrate its Candidate before acceptance; no self-dispatch is needed."
      | some _ => "Preserve the current managed Assignment and original results; do not switch ownership merely to follow a different default." }

def readyAction (item : WorkItem) : NextAction :=
  match currentWorkItemExecutionGroup item with
  | none => implementAction facts item
  | some group =>
    if item.status = .open ∧ (facts.activeRuns.any fun run => run.sourceExecutionGroupId = some group.id) = false
    then synthesisSelectionAction facts .work item.id
    else implementAction facts item

def openWorkBranch : Branch :=
  match selectOpenWorkItem facts.workItems with
  | .none => .ok none
  | .blocked itemId blockedBy => .ok (some (blockedAction facts itemId blockedBy))
  | .ready item => .ok (some (readyAction facts item))

end Candidates

section Final

def deliveryWorkItems : List WorkItem := facts.workItems.filter fun item => item.status ≠ .retired

def unfinishedTaskRound (round : ReviewRound) : Bool := decide (round.scope = .task) && round.status.unfinished

def advanceAction : NextAction where
  kind := .advanceTask
  reason := s!"Task {facts.task.id} has no recorded WorkItems. This does not determine its required topology or prove completion; advance the user's persisted requirements and Brief."
  refs := [⟨"task", facts.task.id⟩]
  preconditions := [⟨"Task is active", facts.task.status = .active, some ⟨"task", facts.task.id⟩⟩,
    ⟨"Task main is clean, committed, and verified", false, none⟩]
  recommendedCommand := s!"yui task context {facts.task.id} --json"
  alternatives :=
    (facts.reviewConfig.map fun config =>
      ({ kind := "request-final-review"
         reason := "Request one independent Review of the frozen Task result when risk warrants it."
         recommendedCommand := s!"yui task review request {facts.task.id} --role {config.roleName}"
         refs := [⟨"task", facts.task.id⟩] } : NextActionAlternative)).toList ++ [
      { kind := "complete-task"
        reason := "Complete only after every requested outcome, delegation and Review requirement is satisfied and verified; record counts and a clean commit alone do not prove that."
        recommendedCommand := s!"yui task complete {facts.task.id} --summary-file -" }]
  judgmentRequired := "Honor explicit user/Project requirements first. Otherwise choose direct work or independently owned WorkItems and proportionate Review. This projection does not authorize weakening the Task Contract."

def advanceBranch : Branch :=
  if deliveryWorkItems facts = [] then do
    let contract ← taskFinalReviewContract facts
    if contract = none ∧ facts.reviewRounds.any unfinishedTaskRound = false then return some (advanceAction facts)
    else return none
  else .ok none

def unintegratedBranch : Branch := do
  let deliveries ← governingWorkItemDeliveries facts.workItems
  return (firstUnintegrated facts deliveries).map fun delivery => integrateAction facts
    s!"Work Item {delivery.workItemId} result for Project {delivery.projectId} has no committed Integration."
    delivery.workItemId delivery.projectId

def failedFinalAction (round : ReviewRound) : NextAction :=
  let reviewerRun := round.reviewerRunId.bind fun runId => facts.reviewOutcomeRuns.find? fun run => run.id = runId
  let failedRun := reviewerRun.filter fun run => decide (run.status = .failed)
  { kind := .resumeReview
    reason := s!"Task-final Review {round.id} failed during execution: " ++
      round.failure.getD "unknown Core failure" ++ "."
    refs := ⟨"review-round", round.id⟩ :: (failedRun.map fun run => (⟨"run", run.id⟩ : NextActionRef)).toList
    preconditions := [⟨"Task-final Review has one exact completed Reviewer AgentRun", false,
      some ⟨"review-round", round.id⟩⟩]
    recommendedCommand :=
      if round.reviewerRunId = none then some s!"yui task review retry {facts.task.id}/{round.id}"
      else failedRun.map fun run => s!"yui task run retry {facts.task.id}/{run.id}" }

/-- The Task-final Round that decides, and whether a contract demands one. -/
def finalReview : Except String (Option TaskFinalReviewContract × Option ReviewRound) := do
  let contract ← taskFinalReviewContract facts
  return (contract, latestTaskFinalReview facts.reviewRounds contract)

def failedFinalBranch : Branch := do
  let (contract, final) ← finalReview facts
  match final with
  | none => return none
  | some round =>
    if contract.isSome && decide (round.status = .failed) then return some (failedFinalAction facts round)
    else return none

def unprovenFinalBranch : Branch := do
  let (contract, final) ← finalReview facts
  match final with
  | none => return none
  | some round =>
    if contract.isSome && decide (round.status = .completed) &&
        !isCompletedTaskReviewEvidenceFromRuns round facts.reviewOutcomeRuns then
      return some (roundRepair
        s!"Task-final Review {round.id} is completed without one exact completed main Reviewer AgentRun."
        "ReviewRound and exact main Reviewer AgentRun agree" [⟨"review-round", round.id⟩])
    else return none

def activeFinalBranch : Branch := do
  let (_, final) ← finalReview facts
  match final with
  | none => return none
  | some round =>
    if round.status.unfinished = true then return some (activeRoundAction facts (finalRoundTexts facts round) round)
    else return none

def hasValidFinalReview (final : Option ReviewRound) : Bool :=
  final.any fun round =>
    isCompletedTaskReviewEvidenceFromRuns round facts.reviewOutcomeRuns && round.taskCandidate.isSome

def taskFinalReviewRole (contract : Option TaskFinalReviewContract) : Option String :=
  (contract.map TaskFinalReviewContract.reviewerRoleName).or <|
    ((latestTaskFinalReview facts.reviewRounds none).map ReviewRound.reviewerRoleName).or <|
      (facts.reviewConfig.filter fun config => decide (config.trigger = .final)).map ReviewConfig.roleName

def requestFinalAction (contract : Option TaskFinalReviewContract) : NextAction :=
  if deliveryWorkItems facts = [] then
    { kind := .requestFinalReview
      reason := "This Task already owns a final-Review obligation; completion must prepare or resume a Review of its frozen Task head."
      refs := [⟨"task", facts.task.id⟩]
      preconditions := [⟨"Valid established Task-final Review at the direct head", false, none⟩]
      recommendedCommand := s!"yui task complete {facts.task.id} --summary-file -" }
  else
    { kind := .requestFinalReview
      reason := "All WorkItems are integrated but no valid Task-final Review attests the frozen Task result."
      refs := [⟨"task", facts.task.id⟩]
      preconditions := [⟨"All Work Items are terminal", true, none⟩,
        ⟨"Every governing WorkItem result is integrated", true, none⟩,
        ⟨"Valid Task-final Review at the integrated head", false, none⟩]
      recommendedCommand := s!"yui task review request {facts.task.id} --role " ++
        (taskFinalReviewRole facts contract).getD "<reviewer-role>" }

def requestFinalBranch : Branch := do
  let (contract, final) ← finalReview facts
  if facts.task.projectBindings ≠ [] ∧ contract.isSome = true ∧ hasValidFinalReview facts final = false then
    return some (requestFinalAction facts contract)
  else return none

def completeAction (contract : Option TaskFinalReviewContract) (final : Option ReviewRound) : NextAction :=
  let optional := contract.isNone && !hasValidFinalReview facts final
  let optionalReviewer := (facts.reviewConfig.map ReviewConfig.roleName).or (final.map ReviewRound.reviewerRoleName)
  { kind := .completeTask
    reason := if deliveryWorkItems facts = [] then
        "The Leader-owned Task result and its established obligations are ready; complete it without creating successor work."
      else "Every independent delivery unit is integrated; complete the Task instead of creating successor work."
    refs := [⟨"task", facts.task.id⟩]
    preconditions := ⟨"All Work Items are terminal", true, none⟩ ::
      if facts.task.projectBindings = [] then []
      else if deliveryWorkItems facts = [] then [⟨"Task main is clean, committed, and verified", false, none⟩]
      else ⟨"Every governing WorkItem result is integrated", true, none⟩ ::
        if contract.isSome = true then
          [⟨"Valid Task-final Review at the integrated head", hasValidFinalReview facts final, none⟩]
        else []
    alternatives := if optional = true then
        (optionalReviewer.map fun reviewer =>
          ({ kind := "request-final-review"
             reason := "Request an independent Task-final Review when the Leader wants extra assurance before completion."
             recommendedCommand := s!"yui task review request {facts.task.id} --role {reviewer}"
             refs := [⟨"task", facts.task.id⟩] } : NextActionAlternative)).toList
      else []
    judgmentRequired := if optional = true then
        some "Leader must decide whether the frozen Task result is safe to complete or needs one optional Task-final Review."
      else none
    recommendedCommand := s!"yui task complete {facts.task.id} --summary-file -" }

def completion : Except String NextAction := do
  let (contract, final) ← finalReview facts
  return completeAction facts contract final

end Final

def branches : List Branch :=
  [stoppedBranch facts, inputBranch facts, inconsistencyBranch facts, laneRecoveryBranch facts, leaderBranch facts,
    draftBranch facts, conflictedBranch facts, checkingBranch facts, unfinishedBranch facts, candidateBranch facts,
    delegatedBranch facts, openWorkBranch facts, advanceBranch facts, unintegratedBranch facts,
    failedFinalBranch facts, unprovenFinalBranch facts, activeFinalBranch facts, requestFinalBranch facts]

def projectNextAction : Except String NextAction :=
  if facts.task.status ≠ .active ∧ facts.task.status ≠ .draft then .ok (closedAction facts)
  else firstAction (branches facts) (completion facts)

end TaskProtocol
