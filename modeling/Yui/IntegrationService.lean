import Yui.IntegrationChecks

/-!
# The Integration service

`integrate` and `abort`. Both read the attempt again under the maintenance lock of its Project. The candidate
is stored as validating before the target ref moves, and as committed after it.
-/

open Program (issue)

namespace GitIntegration

inductive IntegrationResult where
  | committed (attempt : IntegrationAttempt)
  | failed (attempt : IntegrationAttempt)
  | conflicted (attempt : IntegrationAttempt)
  | blocked (attempt : IntegrationAttempt)
  | checksRunning (attempt : IntegrationAttempt) (job : CheckJob)

def AttemptStatus.resumable : AttemptStatus → Bool
  | .running | .conflicted | .blocked | .validating => true
  | _ => false

def fail (attempt : IntegrationAttempt) (error checkName : String) : Call IntegrationResult := do
  let failed ← saveUpdate attempt fun attempt =>
    { attempt with
      status := .failed
      checks := some (attempt.checks.getD [] ++ [⟨checkName, .failed, some error⟩]) }
  pure (.failed failed)

variable (attempt : IntegrationAttempt)

/-- `#recordCommitted`. The settlement of an abort compares the record in its transaction. -/
def recordCommitted (compares : Bool) : Call IntegrationAttempt := do
  match attempt.candidateCommit with
  | none => .raise "Committed Integration has no candidate commit."
  | some candidate => do
    let summary ← Program.ofExcept (integrationSummary attempt)
    let committed ← Program.ofExcept (updateIntegrationAttempt attempt fun attempt =>
      { attempt with status := .committed, afterCommit := some candidate, summary := some summary })
    if compares = true then do
      let _ ← issue (.replace attempt committed)
      pure committed
    else do
      let _ ← issue (.save committed)
      pure committed

/-- The failed checks end the attempt. -/
def recordFailed (checks : List CheckResult) : Call IntegrationResult := do
  let failed ← saveUpdate attempt fun attempt => { attempt with status := .failed, checks := some checks }
  pure (.failed failed)

/-- The candidate is stored before the target moves. -/
def deliver (candidate : String) (checks : List CheckResult) :
    Call IntegrationResult := do
  let validating ← saveUpdate attempt fun attempt =>
    { attempt with status := .validating, candidateCommit := some candidate, checks := some checks }
  advanceTargetRef validating.id validating.target candidate validating.beforeCommit
  let committed ← recordCommitted validating false
  pure (.committed committed)

/-- `#finalizeGateSuccess`. -/
def finalizeGateSuccess (worktree : Worktree) (candidate : String)
    (checks : List CheckResult) : Call IntegrationResult := do
  assertIntegrationCandidate (some candidate) (some worktree.branch)
  deliver attempt candidate checks

section Jobs

variable [CheckHost]

def jobChecks (job : CheckJob) (gate : Option Gate) : List CheckResult :=
  if gate.isSome = true then checkResultsFromGateJob job else checkResultsFromJob attempt job

/-- The checks and the evidence of the gate that a terminal Job leaves, or why the import failed. -/
def importGateEvidence (worktree : Worktree) (job : CheckJob) (gate : Option Gate)
    (checks : List CheckResult) : Call (String ⊕ List CheckResult) := do
  if gate.isSome = true ∧ (job.outcome = some .succeeded ∨ job.outcome = some .failed) then
    ((do
      assertIntegrationCandidate (some job.spec.head) (some worktree.branch)
      let artifact := recordGateArtifact job.spec.head ((job.result.map JobResult.steps).getD [])
        (decide (job.outcome = some .succeeded))
      let _ ← issue (.beginGate job.spec.head)
      let _ ← issue (.publishArtifact artifact)
      pure (.inr (if anyFailed checks = false then
        checks ++ checkResultsFromGateArtifact artifact false else checks))) :
      Call (String ⊕ List CheckResult)).handle fun error => pure (.inl error)
  else pure (.inr checks)

/-- `#resumeCheckJob`. -/
def resumeCheckJob (worktree : Worktree) (gate : Option Gate) :
    Call IntegrationResult := do
  match attempt.jobId with
  | none => .raise "Integration has no check Job."
  | some jobId => do
    let job : CheckJob ← issue (Command.portJob jobId)
    require (!job.delegation) "Task delegation is not an Integration check Job."
    assertCheckJobIdentity attempt job worktree.path
    assertIntegrationCandidate (some job.spec.head) (some worktree.branch)
    assertTargetReadyForChecks attempt.target attempt.beforeCommit
    require (decide (gate.map Gate.planDigest = attempt.gatePlanDigest ∧
      gate.map Gate.toolchainDigest = attempt.gateToolchainDigest))
      "Integration verification plan/toolchain changed; the original Job cannot prove the current gate."
    if job.status.active = true then pure (.checksRunning attempt job)
    else do
      let _ ← issue .releaseRuntime
      let imported ← importGateEvidence worktree job gate (jobChecks attempt job gate)
      match imported with
      | .inl error => fail attempt error "gate-artifact"
      | .inr checks =>
        if anyFailed checks = true then recordFailed attempt checks
        else finalizeGateSuccess attempt worktree job.spec.head checks

/-- What an admission stores of the conditions of its checks. -/
def admitted (gate : Option Gate) (inputDigest : CheckSpec) (attempt : IntegrationAttempt) : IntegrationAttempt :=
  match gate with
  | none => { attempt with checkInputDigest := some inputDigest }
  | some gate =>
    { attempt with
      checkInputDigest := some inputDigest
      gatePlanDigest := some gate.planDigest
      gateToolchainDigest := some gate.toolchainDigest }

/-- The Job is started after its admission is stored, and bound to the attempt after that. -/
def bindCheckJob (worktree : Worktree) (gate : Option Gate)
    (spec : CheckSpec) : Call IntegrationResult := do
  let persisted ← saveUpdate attempt (admitted gate spec)
  provided (gate.isSome = true) (issue (Command.beginGate spec.head))
  let _ ← issue .prepareRuntime
  let job : CheckJob ← issue (Command.startCheckJob spec)
  assertCheckJobIdentity persisted job worktree.path
  let bound ← Program.ofExcept (recordIntegrationCheckJob persisted job.id)
  let _ ← issue (.save bound)
  if job.status.active = true then pure (.checksRunning bound job)
  else resumeCheckJob bound worktree gate

/-- `#startCheckJob`. -/
def startCheckJob (worktree : Worktree) (gate : Option Gate) :
    Call IntegrationResult := do
  require (decide (attempt.status = .running) && attempt.candidateCommit.isSome)
    "Integration check admission requires a running, proven candidate."
  assertIntegrationCandidate attempt.candidateCommit (some worktree.branch)
  assertTargetReadyForChecks attempt.target attempt.beforeCommit
  let spec ← checkSpecification attempt gate
  require (decide (attempt.checkInputDigest = none ∨
    attempt.checkInputDigest = some spec))
    "Integration check conditions changed since admission; inspect the original Job, then abort or start a new attempt."
  if attempt.jobId.isSome = true then resumeCheckJob attempt worktree gate
  else bindCheckJob attempt worktree gate spec

end Jobs

section Checks

variable [CheckHost]

/-- The checks of an artifact of the candidate, unless the attempt asks for a fresh run. -/
def reusedChecks (candidate : String) :
    Call (Option (List CheckResult)) := do
  if attempt.rerunChecks = false ∧ attempt.checkCommands = [] then do
    let existing : Option GateArtifact ← issue (Command.findArtifact candidate)
    match existing with
    | none => pure none
    | some artifact =>
      if isReusableGateArtifact artifact = true then do
        let _ ← issue (.touchArtifact artifact)
        pure (some (checkResultsFromGateArtifact artifact true))
      else pure none
  else pure none

def runGateInProcess (worktree : Worktree) (spec : CheckSpec)
    (candidate : String) : Call IntegrationResult := do
  let _ ← issue .prepareRuntime
  let outcomes : List StepResult ← issue (Command.runGateSteps spec.steps)
  let succeeded := decide (outcomes.length = spec.steps.length) && outcomes.all StepResult.passed
  assertIntegrationCandidate (some candidate) (some worktree.branch)
  let artifact := recordGateArtifact candidate outcomes succeeded
  let _ ← issue (.beginGate candidate)
  let _ ← issue (.publishArtifact artifact)
  let checks := checkResultsFromGateArtifact artifact false
  if succeeded = false then recordFailed attempt checks
  else finalizeGateSuccess attempt worktree candidate checks

/-- `#runVerificationGate`. The source does not await `#finalizeGateSuccess` before the cleanup, which touches neither
the attempt nor Git. -/
def runVerificationGate (worktree : Worktree) (gate : Gate) :
    Call IntegrationResult := do
  let spec ← checkSpecification attempt (some gate)
  let _ ← issue (.unsettledElsewhere attempt.id)
  let current ← saveUpdate attempt (admitted (some gate) spec)
  let candidate : String ← issue Command.head
  let reused ← reusedChecks current candidate
  match reused with
  | some checks => finalizeGateSuccess current worktree candidate checks
  | none => do
    let port : Bool ← issue Command.hasJobPort
    if port = true then startCheckJob current worktree (some gate)
    else do
      let _ ← issue (.beginGate candidate)
      let _ ← issue .prepareRuntime
      finallyDo (runGateInProcess current worktree spec candidate) (issue Command.releaseRuntime)

/-- `#runChecks`. -/
def runChecks (attempt : IntegrationAttempt) : Call (List CheckResult) := do
  if attempt.checkCommands = [] then pure []
  else do
    let _ ← issue .prepareRuntime
    finallyDo (do
      let _ ← issue .prepareRuntime
      issue (Command.runChecks attempt.checkCommands)) (issue Command.releaseRuntime)

/-- The explicit checks run in the process. -/
def checkInProcess (worktree : Worktree) : Call IntegrationResult := do
  let spec ← checkSpecification attempt none
  let current ← saveUpdate attempt (admitted none spec)
  let checkedHead : String ← issue Command.head
  let checks ← runChecks current
  assertIntegrationCandidate (some checkedHead) (some worktree.branch)
  if anyFailed checks = true then recordFailed current checks
  else do
    let candidate : String ← issue Command.head
    deliver current candidate checks

/-- `assertRecordedSourceCandidate`. -/
def assertRecordedSourceCandidate (worktree : Worktree) : Call Unit :=
  if attempt.source.isManual = true ∧ attempt.manuallyResolved = true then pure ()
  else
    match attempt.sourceProgress with
    | none => .raise "Integration candidate does not match its recorded source/workspace identity."
    | some progress =>
      require (decide (progress.activeAction = none ∧ some progress.head = attempt.candidateCommit ∧
        progress.workspace = worktree.path ∧ progress.branch = fullBranch worktree.branch ∧
        progress.sourceDigest = attempt.identity worktree.path worktree.branch))
        "Integration candidate does not match its recorded source/workspace identity."

/-- The bound Job, if any, has succeeded. -/
def assertStoredJob (worktree : Worktree) : Call Unit := do
  match attempt.jobId with
  | none => pure ()
  | some jobId => do
    let job : Option CheckJob ← issue (Command.storedJob jobId)
    match job with
    | none => .raise "Validating Integration has no successful bound Job evidence."
    | some job => do
      require (decide (job.status = .succeeded))
        "Validating Integration has no successful bound Job evidence."
      assertCheckJobIdentity attempt job worktree.path

/-- The evidence that an unadvanced validating candidate needs before its target moves. -/
def assertValidatingEvidence (worktree : Worktree) (candidate : String) :
    Call Unit := do
  assertIntegrationCandidate (some candidate) (some worktree.branch)
  assertRecordedSourceCandidate attempt worktree
  let gate : Option Gate ← issue Command.gate
  let spec ← checkSpecification attempt gate
  require (decide (attempt.checkInputDigest = some spec ∧
    gate.map Gate.planDigest = attempt.gatePlanDigest ∧
    gate.map Gate.toolchainDigest = attempt.gateToolchainDigest))
    "Integration check conditions changed after validation; preserve the evidence and abort or use a new attempt."
  assertStoredJob attempt worktree

/-- The second half of a delivery that an earlier call began. -/
def advanceValidating (worktree : Worktree) (candidate target : String) :
    Call Unit := do
  require (decide (target = attempt.beforeCommit))
    "Target moved; Integration CAS outcome needs inspection."
  assertValidatingEvidence attempt worktree candidate
  advanceTargetRef attempt.id attempt.target candidate attempt.beforeCommit

/-- `#recoverValidating`. An effect that has happened is a delivery, whatever the settings are now. -/
def recoverValidating (attempt : IntegrationAttempt) (worktree : Worktree) : Call IntegrationResult := do
  match attempt.candidateCommit, attempt.checks with
  | some candidate, some _ => do
    let target : String ← issue (Command.resolveRef attempt.target)
    provided (target ≠ candidate ∨ target = attempt.beforeCommit)
      (advanceValidating attempt worktree candidate target)
    assertTargetReadyForChecks attempt.target candidate
    let committed ← recordCommitted attempt false
    pure (.committed committed)
  | _, _ =>
    fail attempt "Validating Integration is missing its candidate commit or checks." "integration-recovery"

end Checks

section Integrate

variable [CheckHost]

/-- The body of the `try`: the source, and one of the ways to the checks. -/
def integrateSource (worktree : Worktree) (gate : Option Gate)
    (continuing : Bool) : Call IntegrationResult := do
  let current ← applyIntegrationSource attempt worktree continuing
  if current.status = .conflicted then pure (.conflicted current)
  else if current.status = .blocked then pure (.blocked current)
  else do
    assertIntegrationCandidate current.candidateCommit (some worktree.branch)
    if current.jobId.isSome = true ∨ current.checkInputDigest.isSome = true then do
      let port : Bool ← issue Command.hasJobPort
      require port "Integration requires its Controller Job port to resume."
      startCheckJob current worktree gate
    else do
      assertTargetReadyForChecks current.target current.beforeCommit
      match gate with
      | some gate => runVerificationGate current worktree gate
      | none => do
        let port : Bool ← issue Command.hasJobPort
        if port = true ∧ current.checkCommands ≠ [] then startCheckJob current worktree none
        else checkInProcess current worktree

/-- A delivered candidate is recorded although the call failed. -/
def settleDelivered (current : IntegrationAttempt) (worktree : Worktree) :
    Call (Option IntegrationResult) := do
  match current.status, current.candidateCommit with
  | .validating, some candidate => do
    let target : String ← issue (Command.resolveRef current.target)
    if target = candidate then
      ((do
        assertIntegrationCandidate (some candidate) (some worktree.branch)
        assertTargetReadyForChecks current.target candidate
        let committed ← recordCommitted current false
        pure (some (.committed committed))) : Call (Option IntegrationResult)).handle fun _ => pure none
    else pure none
  | _, _ => pure none

/-- The `catch` of `integrate`. -/
def settleFailure (id : String) (worktree : Worktree) (error : String) : Call IntegrationResult := do
  let current : IntegrationAttempt ← issue (Command.load id)
  let delivered ← settleDelivered current worktree
  match delivered with
  | some result => pure result
  | none => do
    let diagnosed ← saveUpdate current fun attempt => { attempt with summary := some error }
    if diagnosed.status = .conflicted then pure (.conflicted diagnosed) else pure (.blocked diagnosed)

def prepareWorktree (id : String) : Call (String ⊕ Worktree) :=
  ((do
    let worktree : Worktree ← issue (Command.ensureWorktree id)
    let _ ← issue (.registerWorkspace id)
    pure (.inr worktree)) : Call (String ⊕ Worktree)).handle fun error => pure (.inl error)

def integrateFenced (id projectId : String) (continuing : Bool) : Call IntegrationResult := do
  let initial : IntegrationAttempt ← issue (Command.load id)
  require (decide (initial.projectId = projectId) && initial.status.resumable)
    "Integration changed before execution admission; read its current record."
  let _ ← issue (.lookup id)
  let _ ← issue (.targetCheckout initial.target)
  let prepared ← prepareWorktree id
  match prepared with
  | .inl error => fail initial error "integration-preparation"
  | .inr worktree =>
    if initial.status = .validating then recoverValidating initial worktree
    else do
      let gate : Option Gate ← issue Command.gate
      (integrateSource initial worktree gate continuing).handle (settleFailure id worktree)

def integrate (id : String) (continuing : Bool) : Call IntegrationResult := do
  let initial : IntegrationAttempt ← issue (Command.preview id)
  let _ ← issue (.lookup id)
  require initial.status.resumable "Integration cannot continue."
  let _ ← issue (.acquire (some id))
  finallyDo (integrateFenced id initial.projectId continuing) (issue Command.release)

end Integrate

section Abort

variable [CheckHost]

def cancelJobs : List CheckJob → Call Unit
  | [] => pure ()
  | job :: jobs => do
    let port : Bool ← issue Command.hasJobPort
    provided (port = true ∧ job.status.active = true) (issue (Command.cancelJob job.id))
    cancelJobs jobs

def assertBoundJob (bound : Option CheckJob) (worktree : Worktree) :
    Call Unit := do
  match bound with
  | none => pure ()
  | some job => assertCheckJobIdentity attempt job worktree.path

/-- What an abort does with a validating attempt: a delivered candidate is recorded as committed. -/
def settleValidating (jobs : List CheckJob) :
    Call (Option IntegrationAttempt) := do
  match attempt.candidateCommit, attempt.checks with
  | some candidate, some checks => do
    let worktree : Worktree ← issue (Command.settlementWorkspace attempt.id)
    require (jobs.all fun job => !job.status.active && decide (job.status ≠ .unknown))
      "Validating Integration still has an active or unproven Job; settle that exact Job first."
    let bound := jobs.find? fun job => decide (attempt.jobId = some job.id)
    assertBoundJob attempt bound worktree
    let target : String ← issue (Command.resolveRef attempt.target)
    if target = candidate ∧ target ≠ attempt.beforeCommit then do
      require (!anyFailed checks && (bound.all fun job => decide (job.status = .succeeded)))
        "Delivered Integration lacks successful candidate check evidence; inspect before settlement."
      assertIntegrationCandidate (some candidate) (some worktree.branch)
      assertRecordedSourceCandidate attempt worktree
      assertTargetReadyForChecks attempt.target target
      let committed ← recordCommitted attempt true
      pure (some committed)
    else do
      require (decide (target = attempt.beforeCommit))
        "Target moved; cannot prove this Integration is unadvanced. Inspect before settlement."
      pure none
  | _, _ =>
    .raise "Validating Integration has no candidate/check evidence; inspect before settlement."

def abortFenced (id projectId reason : String) : Call IntegrationAttempt := do
  let attempt : IntegrationAttempt ← issue (Command.inspect id)
  let _ ← issue (.lookup id)
  require (decide (attempt.projectId = projectId)) "Integration Task/Project is not available for abort."
  require attempt.status.resumable "Integration cannot be aborted."
  require (decide (reason ≠ "")) "Integration abort reason is required."
  let jobs : List CheckJob ← issue (Command.listJobs id)
  require (jobs.all fun job => decide (job.taskId = attempt.taskId ∧ job.spec.projectId = attempt.projectId))
    "Integration Job Project/workspace identity changed; inspect before abort."
  require (decide (attempt.jobId = none) || jobs.any fun job => decide (attempt.jobId = some job.id))
    "Integration Job binding does not match its owner; inspect before abort."
  let delivered ← (if attempt.status = .validating then settleValidating attempt jobs else pure none :
    Call (Option IntegrationAttempt))
  match delivered with
  | some committed => pure committed
  | none => do
    cancelJobs jobs
    let aborted ← Program.ofExcept (updateIntegrationAttempt attempt fun attempt =>
      { attempt with
        status := .failed
        checks := some (attempt.checks.getD [] ++ [⟨"aborted", .failed, some reason⟩]) })
    let _ ← issue (.replace attempt aborted)
    pure aborted

def abort (id reason : String) : Call IntegrationAttempt := do
  let initial : IntegrationAttempt ← issue (Command.preview id)
  let _ ← issue (.acquire none)
  finallyDo (abortFenced id initial.projectId reason) (issue Command.release)

end Abort

end GitIntegration
