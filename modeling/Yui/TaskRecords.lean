import Mathlib.Data.List.Basic
import Mathlib.Logic.Basic
import Yui.IntegrationAttempt
import Yui.RecordReference

/-!
# The records that a Task is judged by

WorkItems with their Candidates, ReviewRounds, AgentRuns and Integration attempts, and what is derived from them:
the Candidate that governs a WorkItem, the Git result that it owes, the contract of the Task-final Review, and the
order in which open WorkItems can be done.
-/

open GitIntegration Validation

namespace TaskProtocol

inductive TaskStatus where
  | draft | active | completed | cancelled | archived
  deriving DecidableEq

def TaskStatus.text : TaskStatus → String
  | .draft => "draft"
  | .active => "active"
  | .completed => "completed"
  | .cancelled => "cancelled"
  | .archived => "archived"

inductive ReviewTrigger where
  | always | leader | final
  deriving DecidableEq

structure ReviewConfig where
  roleName : String
  trigger : ReviewTrigger
  deriving DecidableEq

structure TaskFinalReviewContract where
  taskId : String
  reviewerRoleName : String
  deriving DecidableEq

inductive LaneDisposition where
  | open | succeeded | failed
  deriving DecidableEq

structure ExecutionLane where
  id : String
  roleName : String
  currentRunId : Option String
  disposition : LaneDisposition
  deriving DecidableEq

structure ExecutionGroup where
  id : String
  lanes : List ExecutionLane
  deriving DecidableEq

structure WorkspaceProjectEntry where
  projectId : String
  /-- The access is `write`, not `read`. -/
  write : Bool
  baseCommit : String
  deriving DecidableEq

structure SnapshotProject where
  projectId : String
  commit : String
  deriving DecidableEq

structure WorkItemCandidate where
  id : String
  reviewPolicy : Option ReviewConfig
  taskFinalReviewContract : Option TaskFinalReviewContract
  /-- The entries of its workspace. -/
  workspace : Option (List WorkspaceProjectEntry)
  gitSnapshot : Option (List SnapshotProject)
  deriving DecidableEq

inductive WorkItemStatus where
  | open | accepted | retired
  deriving DecidableEq

def WorkItemStatus.text : WorkItemStatus → String
  | .open => "open"
  | .accepted => "accepted"
  | .retired => "retired"

structure WorkItem where
  id : String
  dependsOn : List String
  writeProjectIds : List String
  executionGroups : List ExecutionGroup
  currentExecutionGroupId : Option String
  assignee : Option String
  status : WorkItemStatus
  candidates : List WorkItemCandidate
  acceptedCandidateId : Option String
  currentCandidateId : Option String
  deriving DecidableEq

inductive RunPurpose where
  | execution | review | planning
  deriving DecidableEq

inductive RunStatus where
  | active | completed | failed
  deriving DecidableEq

structure AgentRun where
  id : String
  taskId : String
  roleName : String
  purpose : RunPurpose
  status : RunStatus
  /-- The result is recorded. -/
  result : Bool
  reviewRoundId : Option String
  executionGroupId : Option String
  sourceExecutionGroupId : Option String
  /-- Of the effective launch. -/
  reviewBaseCommit : Option String

inductive ReviewScope where
  | workItem | task
  deriving DecidableEq

inductive ReviewRoundStatus where
  | pending | running | completed | failed
  deriving DecidableEq

def ReviewRoundStatus.text : ReviewRoundStatus → String
  | .pending => "pending"
  | .running => "running"
  | .completed => "completed"
  | .failed => "failed"

/-- Pending or running. -/
def ReviewRoundStatus.unfinished : ReviewRoundStatus → Bool
  | .pending | .running => true
  | _ => false

structure ReviewRound where
  id : String
  taskId : String
  workItemId : Option String
  candidateId : Option String
  reviewerRoleName : String
  reviewerRunId : Option String
  reviewBaseCommit : String
  scope : ReviewScope
  /-- The Projects of the frozen Task. -/
  taskCandidate : Option (List SnapshotProject)
  taskFinalReviewContract : Option TaskFinalReviewContract
  executionGroup : Option ExecutionGroup
  status : ReviewRoundStatus
  failure : Option String

section WorkItems

/-- The last record of an id is the one that a Map keeps. -/
def byId (workItems : List WorkItem) (id : String) : Option WorkItem :=
  workItems.reverse.find? fun item => item.id = id

theorem byId_mem {workItems : List WorkItem} {id : String} {item : WorkItem} (h : byId workItems id = some item) :
    item ∈ workItems ∧ item.id = id := by
  refine ⟨List.mem_reverse.1 (List.mem_of_find?_eq_some h), ?_⟩
  simpa using List.find?_some h

def currentWorkItemCandidate (item : WorkItem) : Option WorkItemCandidate :=
  if item.status = .open then item.candidates.find? fun candidate => some candidate.id = item.currentCandidateId
  else none

def governingWorkItemCandidate (item : WorkItem) : Option WorkItemCandidate :=
  if item.status = .accepted ∧ item.acceptedCandidateId.isSome = true then
    item.candidates.find? fun candidate => some candidate.id = item.acceptedCandidateId
  else currentWorkItemCandidate item

def currentWorkItemExecutionGroup (item : WorkItem) : Option ExecutionGroup :=
  item.currentExecutionGroupId.bind fun groupId => item.executionGroups.find? fun group => group.id = groupId

structure WorkItemProjectDelivery where
  workItemId : String
  projectId : String
  startCommit : String
  resultCommit : String

def projectDelivery (item : WorkItem) (snapshot : List SnapshotProject) (entry : WorkspaceProjectEntry) :
    Except String WorkItemProjectDelivery :=
  match snapshot.reverse.find? fun project => project.projectId = entry.projectId with
  | none => .error s!"WorkItem Candidate result is missing Project {item.id}/{entry.projectId}."
  | some project => .ok ⟨item.id, entry.projectId, entry.baseCommit, project.commit⟩

def workItemDeliveries (item : WorkItem) : Except String (List WorkItemProjectDelivery) :=
  match governingWorkItemCandidate item with
  | none => .ok []
  | some candidate =>
    match candidate.workspace, candidate.gitSnapshot with
    | some entries, some snapshot => (entries.filter (·.write)).mapM (projectDelivery item snapshot)
    | _, _ => .ok []

def governingWorkItemDeliveries (workItems : List WorkItem) : Except String (List WorkItemProjectDelivery) := do
  let deliveries ← workItems.mapM workItemDeliveries
  return deliveries.flatten

def delivers (delivery : WorkItemProjectDelivery) (attempt : IntegrationAttempt) : Bool :=
  decide (attempt.status = .committed) && decide (attempt.projectId = delivery.projectId) &&
    match attempt.source with
    | .workItem workItemId startCommit resultCommit _ =>
      decide (workItemId = delivery.workItemId ∧ startCommit = delivery.startCommit ∧
        resultCommit = delivery.resultCommit)
    | .upstream .. => false

def workItemDeliverySettled (delivery : WorkItemProjectDelivery) (integrations : List IntegrationAttempt) : Bool :=
  integrations.any (delivers delivery)

def integrationAttemptRequiresSettlement (attempt : IntegrationAttempt) : Bool :=
  match attempt.status with
  | .running | .validating | .blocked | .conflicted => true
  | _ => false

end WorkItems

section Dependencies

inductive DependencyIssueKind where
  | missingOrRetired | cycle

structure DependencyIssue where
  kind : DependencyIssueKind
  workItemId : String
  dependencyId : String

theorem countP_path_lt {items : List WorkItem} {item : WorkItem} {path : List String} (hmem : item ∈ items)
    (hnew : item.id ∉ path) :
    items.countP (fun other => other.id ∉ item.id :: path) < items.countP (fun other => other.id ∉ path) := by
  rw [List.countP_eq_length_filter, List.countP_eq_length_filter]
  have hsub : (items.filter fun other => other.id ∉ item.id :: path) =
      (items.filter fun other => other.id ∉ path).filter fun other => other.id ≠ item.id := by
    rw [List.filter_filter]
    refine List.filter_congr fun other _ => ?_
    simp [not_or]
  rw [hsub]
  exact List.length_filter_lt_length_iff_exists.2 ⟨item, by simpa using ⟨hmem, hnew⟩, by simp⟩

/-- The walk of `visit` over the dependencies of one item. The ids on the path to it are being visited. -/
def visitDependencies (items : List WorkItem) (owner : String) (path visited : List String) :
    List String → Except DependencyIssue (List String)
  | [] => .ok visited
  | dependencyId :: later =>
    if _hpath : dependencyId ∈ path then .error ⟨.cycle, owner, dependencyId⟩
    else if dependencyId ∈ visited then visitDependencies items owner path visited later
    else
      match _hfound : byId items dependencyId with
      | none => visitDependencies items owner path visited later
      | some dependency =>
        match visitDependencies items dependencyId (dependencyId :: path) visited dependency.dependsOn with
        | .error issue => .error issue
        | .ok visited => visitDependencies items owner path (dependencyId :: visited) later
  termination_by dependencies => (items.countP (fun other => other.id ∉ path), dependencies.length)
  decreasing_by
    · exact Prod.Lex.right _ (Nat.lt_succ_self _)
    · exact Prod.Lex.right _ (Nat.lt_succ_self _)
    · obtain ⟨hmem, hid⟩ := byId_mem _hfound
      subst hid
      exact Prod.Lex.left _ _ (countP_path_lt hmem _hpath)
    · exact Prod.Lex.right _ (Nat.lt_succ_self _)

def visitItems (items : List WorkItem) (visited : List String) : List WorkItem → Option DependencyIssue
  | [] => none
  | item :: later =>
    if item.id ∈ visited then visitItems items visited later
    else
      match visitDependencies items item.id [item.id] visited item.dependsOn with
      | .error issue => some issue
      | .ok visited => visitItems items (item.id :: visited) later

def missingDependency (items : List WorkItem) (item : WorkItem) : Option DependencyIssue :=
  (item.dependsOn.find? fun id => (byId items id).isNone).map fun id => ⟨.missingOrRetired, item.id, id⟩

def draftWorkItemDependencyIssue (workItems : List WorkItem) : Option DependencyIssue :=
  let current := workItems.filter fun item => item.status ≠ .retired
  (current.findSome? (missingDependency current)).or (visitItems current [] current)

inductive OpenWorkItemSelection where
  | ready (item : WorkItem)
  | blocked (itemId blockedBy : String)
  | none
  deriving DecidableEq

def accepted (workItems : List WorkItem) (id : String) : Bool :=
  (byId workItems id).any fun item => item.status = .accepted

/-- From an open item along the dependencies that are not accepted, until one is not open or comes again. -/
def followBlocked (workItems : List WorkItem) (visited : List String) (current : WorkItem)
    (_hmem : current ∈ workItems) : OpenWorkItemSelection :=
  if _hvisited : current.id ∈ visited then .blocked current.id current.id
  else
    match current.dependsOn.find? fun id => !accepted workItems id with
    | .none => .ready current
    | some blockedBy =>
      match hfound : byId workItems blockedBy with
      | .none => .blocked current.id blockedBy
      | some dependency =>
        if dependency.status = .open then
          followBlocked workItems (current.id :: visited) dependency (byId_mem hfound).1
        else .blocked current.id blockedBy
  termination_by workItems.countP fun other => other.id ∉ visited
  decreasing_by exact countP_path_lt _hmem _hvisited

def selectOpenWorkItem (workItems : List WorkItem) : OpenWorkItemSelection :=
  match hopen : workItems.filter fun item => item.status = .open with
  | [] => .none
  | first :: others =>
    match (first :: others).find? fun item => item.dependsOn.all (accepted workItems) with
    | some item => .ready item
    | .none => followBlocked workItems [] first
        (List.mem_of_mem_filter (hopen ▸ List.mem_cons_self))

end Dependencies

section Reviews

def createTaskFinalReviewContract (contract : TaskFinalReviewContract) : Except String TaskFinalReviewContract := do
  let taskId ← requireIdentity contract.taskId "Task final-review contract Task id"
  let reviewerRoleName ← requireIdentity contract.reviewerRoleName "Task final-review contract Reviewer Role"
  return ⟨taskId, reviewerRoleName⟩

def validateTaskFinalReviewContract (contract : TaskFinalReviewContract) :
    Except String TaskFinalReviewContract := do
  let _ ← createTaskFinalReviewContract contract
  return contract

/-- Both are checked: a resolution has read the contracts of all Task-final Rounds before they are compared. -/
def sameTaskFinalReviewContract (left right : Option TaskFinalReviewContract) : Bool := decide (left = right)

structure ContractObservation where
  contract : TaskFinalReviewContract
  source : String

def contractObservations (workItems : List WorkItem) (reviewRounds : List ReviewRound) : List ContractObservation :=
  workItems.flatMap (fun item => item.candidates.filterMap fun candidate =>
    candidate.taskFinalReviewContract.map fun contract => ⟨contract, s!"Candidate {item.id}/{candidate.id}"⟩) ++
  reviewRounds.filterMap fun round =>
    if round.scope = .task then
      round.taskFinalReviewContract.map fun contract => ⟨contract, s!"ReviewRound {round.id}"⟩
    else none

def checkObservation (taskId : String) (observation : ContractObservation) : Except String Unit := do
  let contract ← validateTaskFinalReviewContract observation.contract
  if contract.taskId ≠ taskId then
    .error s!"{observation.source} carries a final-review contract for another Task."

def checkAgreement (effective : TaskFinalReviewContract) (taskId : String) (observation : ContractObservation) :
    Except String Unit := do
  checkObservation taskId observation
  if sameTaskFinalReviewContract (some observation.contract) (some effective) = false then
    .error s!"{observation.source} conflicts with the Task final-review contract."

def resolveRecordedTaskFinalReviewContract (taskId : String) (workItems : List WorkItem)
    (reviewRounds : List ReviewRound) : Except String (Option TaskFinalReviewContract) := do
  let normalizedTaskId ← requireIdentity taskId "Task final-review contract Task id"
  match contractObservations workItems reviewRounds with
  | [] => return none
  | first :: later =>
    checkObservation normalizedTaskId first
    later.forM (checkAgreement first.contract normalizedTaskId)
    return some first.contract

def isCompletedReviewExecutionFromRuns (round : ReviewRound) (runs : List AgentRun) : Bool :=
  decide (round.status = .completed) && round.reviewerRunId.isSome &&
    (runs.find? fun run => some run.id = round.reviewerRunId).any fun run =>
      decide (run.status = .completed) && run.result && decide (run.purpose = .review) &&
      decide (run.taskId = round.taskId) && decide (run.reviewRoundId = some round.id) &&
      decide (run.roleName = round.reviewerRoleName) && decide (run.executionGroupId = none) &&
      decide (run.reviewBaseCommit = some round.reviewBaseCommit)

def isCompletedTaskReviewEvidenceFromRuns (round : ReviewRound) (runs : List AgentRun) : Bool :=
  decide (round.scope = .task) && round.taskCandidate.any (fun projects => decide (projects ≠ [])) &&
    isCompletedReviewExecutionFromRuns round runs

/-- The last Task-final Round, of the contract if there is one. -/
def latestTaskFinalReview (rounds : List ReviewRound) (contract : Option TaskFinalReviewContract) :
    Option ReviewRound :=
  rounds.reverse.find? fun round => decide (round.scope = .task) &&
    (contract.isNone || sameTaskFinalReviewContract round.taskFinalReviewContract contract)

def activeLaneRun (activeRuns : List AgentRun) (lane : ExecutionLane) : Option AgentRun :=
  if lane.disposition = .open then
    lane.currentRunId.bind fun runId =>
      activeRuns.find? fun run => decide (run.id = runId) && decide (run.roleName = lane.roleName)
  else none

def activeReviewRoundRun (round : ReviewRound) (activeRuns : List AgentRun) : Option AgentRun :=
  (round.reviewerRunId.bind fun runId =>
      activeRuns.find? fun run => decide (run.id = runId) && decide (run.roleName = round.reviewerRoleName)).or
    ((round.executionGroup.elim [] ExecutionGroup.lanes).findSome? (activeLaneRun activeRuns))

def reviewGroupNeedsDispatch (round : ReviewRound) (runs : List AgentRun) : Bool :=
  (round.executionGroup.elim [] ExecutionGroup.lanes).any fun lane =>
    decide (lane.disposition = .open) &&
      (lane.currentRunId.isNone ||
        (runs.find? fun run => some run.id = lane.currentRunId).any fun run => decide (run.status = .failed))

def reviewLaneRoleOptions (round : ReviewRound) : String :=
  String.join ((round.executionGroup.elim [] ExecutionGroup.lanes).map fun lane => s!" --lane-role {lane.roleName}")

def latestActiveWorkItemReview (rounds : List ReviewRound) (item : WorkItem)
    (candidate : Option WorkItemCandidate) : Option ReviewRound :=
  candidate.bind fun candidate => rounds.reverse.find? fun round =>
    decide (round.workItemId = some item.id) && decide (round.candidateId = some candidate.id) &&
      round.status.unfinished

end Reviews

end TaskProtocol
