import Yui.Checked

/-!
# Integration attempts

The durable record of an Integration and the functions that derive its next version. Identities, texts
and times are checked where a record is read; here stand the checks that relate the status of an attempt
to its other fields.
-/

open Checked

namespace GitIntegration

inductive AttemptStatus where
  | running | conflicted | blocked | validating | committed | superseded | failed
  deriving DecidableEq

def AttemptStatus.terminal : AttemptStatus → Bool
  | .committed | .superseded | .failed => true
  | _ => false

inductive CheckOutcome where
  | passed | failed | skipped
  deriving DecidableEq

structure CheckResult where
  name : String
  outcome : CheckOutcome
  details : Option String
  deriving DecidableEq

structure ConflictReport where
  affectedPaths : List String
  summary : String
  deriving DecidableEq

inductive ResolutionAction where
  | manualResolution | reject
  deriving DecidableEq

structure ResolutionDecision where
  action : ResolutionAction
  rationale : String
  decidedBy : String
  deriving DecidableEq

inductive Strategy where
  | ff | cherryPick | merge | manual
  deriving DecidableEq

def Strategy.text : Strategy → String
  | .ff => "ff"
  | .cherryPick => "cherry-pick"
  | .merge => "merge"
  | .manual => "manual"

inductive Source where
  | workItem (workItemId startCommit resultCommit : String) (strategy : Strategy)
  | upstream (branch remoteCommit taskBaseCommit : String)
  deriving DecidableEq

/-- A ref of the repository of a Task. -/
structure Target where
  taskId : String
  ref : String
  deriving DecidableEq

structure CheckStep where
  name : String
  command : String
  argv : Option (List String)
  cwd : Option String
  deriving DecidableEq

/-- What a check Job runs, and for whom, less the environment and time limit of a step. A digest of it stands for it:
equal digests are of equal specifications. -/
structure CheckSpec where
  integrationId : String
  projectId : String
  head : String
  workspace : String
  environment : List (String × String)
  steps : List CheckStep
  deriving DecidableEq

/-- What `integrationSourceDigest` digests. -/
structure SourceIdentity where
  id : String
  projectId : String
  target : Target
  beforeCommit : String
  source : Source
  path : String
  branch : String
  deriving DecidableEq

/-- The cursor of the source application. The active action is stored before Git. -/
structure SourceProgress where
  workspace : String
  branch : String
  sourceDigest : SourceIdentity
  completedSteps : ℕ
  head : String
  activeAction : Option String
  emptyResolution : Bool
  deriving DecidableEq

structure IntegrationAttempt where
  id : String
  taskId : String
  projectId : String
  targetRef : String
  source : Source
  beforeCommit : String
  afterCommit : Option String
  summary : Option String
  checkCommands : List String
  rerunChecks : Bool
  candidateCommit : Option String
  sourceProgress : Option SourceProgress
  checkInputDigest : Option CheckSpec
  gatePlanDigest : Option String
  gateToolchainDigest : Option String
  jobId : Option String
  status : AttemptStatus
  conflict : Option ConflictReport
  resolution : Option ResolutionDecision
  checks : Option (List CheckResult)
  deriving DecidableEq

def IntegrationAttempt.target (attempt : IntegrationAttempt) : Target := ⟨attempt.taskId, attempt.targetRef⟩

/-- `integrationSourceDigest`. -/
def IntegrationAttempt.identity (attempt : IntegrationAttempt) (path branch : String) : SourceIdentity :=
  ⟨attempt.id, attempt.projectId, attempt.target, attempt.beforeCommit, attempt.source, path, branch⟩

def Source.isManual : Source → Bool
  | .workItem _ _ _ .manual => true
  | _ => false

variable (attempt : IntegrationAttempt)

/-- A Task-control decision to resolve the attempt by hand. -/
def IntegrationAttempt.manuallyResolved : Bool :=
  match attempt.resolution with
  | some decision => decide (decision.action = .manualResolution)
  | none => false

def validateIntegrationAttempt : Except String IntegrationAttempt := do
  refuse (∃ progress ∈ attempt.sourceProgress, progress.emptyResolution = true ∧
    progress.activeAction = none) "Integration source progress is invalid."
  refuse (attempt.status = .committed ∧ attempt.afterCommit = none)
    "Committed Integration after commit is invalid."
  refuse (attempt.status = .committed ∧ attempt.summary = none)
    "Committed Integration summary is required."
  refuse (attempt.status = .committed ∧ attempt.candidateCommit ≠ attempt.afterCommit)
    "Committed Integration candidate and afterCommit must match."
  refuse (attempt.status = .committed ∧ attempt.source.isManual = true ∧
    attempt.manuallyResolved = false)
    "Committed manual Integration requires a Task-control resolution decision."
  refuse ((attempt.status = .blocked ∨ attempt.status = .conflicted) ∧ attempt.conflict = none)
    "A paused Integration needs a ConflictReport."
  .ok attempt

/-- `updateIntegrationAttempt`. The patch is what it changes of the record. -/
def updateIntegrationAttempt
    (patch : IntegrationAttempt → IntegrationAttempt) : Except String IntegrationAttempt := do
  let _ ← validateIntegrationAttempt attempt
  validateIntegrationAttempt (patch attempt)

def recordIntegrationCheckJob (jobId : String) :
    Except String IntegrationAttempt := do
  let _ ← validateIntegrationAttempt attempt
  refuse (attempt.status ≠ .running) "Integration check job can only bind a running attempt."
  refuse (attempt.jobId.isSome = true) "Integration check job is already recorded."
  validateIntegrationAttempt { attempt with jobId := some jobId }

def requireResolutionDecision (report : ConflictReport) :
    Except String IntegrationAttempt := do
  let _ ← validateIntegrationAttempt attempt
  refuse (attempt.status ≠ .running ∧ ¬ (attempt.status = .blocked ∧ attempt.manuallyResolved = true))
    "Integration cannot request a decision."
  validateIntegrationAttempt
    { attempt with status := .blocked, conflict := some report, resolution := none }

def recordIntegrationConflict (report : ConflictReport) :
    Except String IntegrationAttempt := do
  refuse (attempt.status ≠ .running ∧ attempt.status ≠ .conflicted)
    "Integration cannot record Git conflicts."
  updateIntegrationAttempt attempt fun attempt =>
    { attempt with status := .conflicted, conflict := some report }

def IntegrationAttempt.unchanged (attempt : IntegrationAttempt) : Bool :=
  decide (attempt.candidateCommit = some attempt.beforeCommit)

def integrationSummary : Except String String :=
  match attempt.source with
  | .upstream _ remoteCommit _ =>
    .ok (if attempt.unchanged = true then
      s!"Upstream {remoteCommit} was already represented; Task head was unchanged."
    else s!"Rebased Task changes onto upstream {remoteCommit}.")
  | .workItem workItemId _ _ .manual =>
    match attempt.resolution with
    | some decision =>
      if decision.action = .manualResolution then
        .ok (if attempt.unchanged = true then
          s!"WorkItem {workItemId} was intentionally not applied; Task head was unchanged. Rationale: {decision.rationale}"
        else s!"Integrated WorkItem {workItemId} with manual resolution. Rationale: {decision.rationale}")
      else .error "Manual Integration has no Task-control resolution decision."
    | none => .error "Manual Integration has no Task-control resolution decision."
  | .workItem workItemId _ _ strategy =>
    .ok (if attempt.unchanged = true then
      s!"WorkItem {workItemId} result was already represented; Task head was unchanged."
    else s!"Integrated WorkItem {workItemId} with {strategy.text}.")

/-- `integration resolve`. -/
def recordResolutionDecision (decision : ResolutionDecision) :
    Except String IntegrationAttempt := do
  let _ ← validateIntegrationAttempt attempt
  refuse (¬ (attempt.status = .blocked ∨ attempt.status = .conflicted) ∨ attempt.conflict = none)
    "Integration has no pending semantic decision."
  validateIntegrationAttempt
    { attempt with
      status := if decision.action = .reject then .failed else attempt.status
      resolution := some decision }

variable {attempt result : IntegrationAttempt}

theorem validate_ok (h : validateIntegrationAttempt attempt = .ok result) : result = attempt := by
  unfold validateIntegrationAttempt at h
  iterate 6 obtain ⟨_, -, h⟩ := bind_ok h
  exact (Except.ok.inj h).symm

theorem update_ok {patch : IntegrationAttempt → IntegrationAttempt}
    (h : updateIntegrationAttempt attempt patch = .ok result) : result = patch attempt := by
  obtain ⟨_, -, h⟩ := bind_ok h
  exact validate_ok h

theorem conflict_ok {report : ConflictReport} (h : recordIntegrationConflict attempt report = .ok result) :
    (attempt.status = .running ∨ attempt.status = .conflicted) ∧
      result = { attempt with status := .conflicted, conflict := some report } := by
  obtain ⟨_, hstatus, h⟩ := bind_ok h
  refine ⟨?_, update_ok h⟩
  have hnot := refuse_ok hstatus
  tauto

theorem decision_ok {report : ConflictReport} (h : requireResolutionDecision attempt report = .ok result) :
    (attempt.status = .running ∨ attempt.status = .blocked) ∧
      result = { attempt with status := .blocked, conflict := some report, resolution := none } := by
  obtain ⟨_, -, _, hstatus, h⟩ := bind_ok₂ h
  refine ⟨?_, validate_ok h⟩
  have hnot := refuse_ok hstatus
  tauto

theorem checkJob_ok {jobId : String} (h : recordIntegrationCheckJob attempt jobId = .ok result) :
    attempt.status = .running ∧ attempt.jobId = none ∧ result = { attempt with jobId := some jobId } := by
  obtain ⟨_, -, _, hstatus, _, hjob, h⟩ := bind_ok₃ h
  have hnone := refuse_ok hjob
  exact ⟨not_not.1 (refuse_ok hstatus), by simpa using hnone, validate_ok h⟩

theorem resolution_ok {decision : ResolutionDecision} (h : recordResolutionDecision attempt decision = .ok result) :
    (attempt.status = .blocked ∨ attempt.status = .conflicted) ∧ result = { attempt with
        status := if decision.action = .reject then .failed else attempt.status
        resolution := some decision } := by
  obtain ⟨_, -, _, hstatus, h⟩ := bind_ok₂ h
  refine ⟨?_, validate_ok h⟩
  have hnot := refuse_ok hstatus
  tauto

end GitIntegration
