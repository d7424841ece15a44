import Yui.IntegrationSource

/-!
# The evidence of the checks

The specification of the checks of a candidate, and the results that a Job, an artifact or a run in the
process leaves. A Job that did not succeed leaves a failed result, whatever its steps are.
-/

namespace GitIntegration

section Specification

variable [CheckHost]

/-- `toDurableJobStep`. -/
def VerificationStep.jobStep (step : VerificationStep) (name workspace : String) : CheckStep :=
  { name := name
    command := if step.shell = true then " ".intercalate step.argv else CheckHost.shellQuote step.argv
    argv := if step.shell = true then none else some step.argv
    cwd := step.cwd.map (CheckHost.resolve workspace) }

def numbered (name : String) (index : ℕ) : String := name ++ "-" ++ toString (index + 1)

def planBootstrapJobSteps (gate : Gate) (workspace : String) : List CheckStep :=
  gate.bootstrap.mapIdx fun index step => step.jobStep (numbered "bootstrap" index) workspace

def planL2JobSteps (gate : Gate) (workspace : String) : List CheckStep :=
  gate.l2.mapIdx fun index step => step.jobStep (numbered "gate" index) workspace

def explicitChecks (commands : List String) : List CheckStep :=
  commands.mapIdx fun index command => ⟨numbered "check" index, command, none, none⟩

variable (attempt : IntegrationAttempt)

def checkSteps (gate : Option Gate) (workspace : String) : List CheckStep :=
  match gate with
  | none => explicitChecks attempt.checkCommands
  | some gate =>
    planBootstrapJobSteps gate workspace ++ planL2JobSteps gate workspace ++
      explicitChecks attempt.checkCommands

def checkSpec (head : String) (gate : Option Gate) (runtime : Runtime) : CheckSpec :=
  { integrationId := attempt.id
    projectId := attempt.projectId
    head := head
    workspace := runtime.workspace
    environment := runtime.environment
    steps := checkSteps attempt gate runtime.workspace }

/-- `#checkSpecification`. -/
def checkSpecification (gate : Option Gate) : Call CheckSpec := do
  let runtime : Runtime ← Program.issue (Command.runtime attempt.id)
  match attempt.candidateCommit with
  | none => .raise "Integration check specification requires a candidate."
  | some head => pure (checkSpec attempt head gate runtime)

def stepProved (head : String) (step : CheckStep) (result : StepResult) : Bool :=
  decide (result.name = step.name ∧ result.head = head) && result.passed

def jobProved (job : CheckJob) : Bool :=
  match job.result with
  | none => false
  | some result =>
    decide (result.outcome = .succeeded ∧ result.steps.length = job.spec.steps.length) &&
      (job.spec.steps.zip result.steps).all fun pair => stepProved job.spec.head pair.1 pair.2

def jobMatches (job : CheckJob) (path : String) : Bool :=
  decide (job.taskId = attempt.taskId ∧ job.spec.integrationId = attempt.id ∧
    job.spec.projectId = attempt.projectId ∧ job.spec.workspace = path ∧
    attempt.candidateCommit = some job.spec.head ∧
    (attempt.jobId = none ∨ attempt.jobId = some job.id) ∧
    attempt.checkInputDigest = some job.spec)

def assertCheckJobIdentity (job : CheckJob) (path : String) : Call Unit := do
  require (jobMatches attempt job path)
    "Integration Job identity does not match its admitted Task, source candidate, Project, workspace and check specification."
  if job.status = .succeeded then
    require (jobProved job) "Integration Job success lacks exact candidate step evidence."

end Specification

section Results

def anyFailed (checks : List CheckResult) : Bool :=
  checks.any fun check => decide (check.outcome = .failed)

def StepResult.reason (result : StepResult) : String :=
  if result.timedOut = true then "Command timed out after 1800 seconds."
  else
    match result.signal with
    | some signal => s!"Command terminated by {signal}."
    | none =>
      match result.exitCode with
      | some code => s!"Command exited with code {code}."
      | none => "Command exited with code null."

/-- `new Map(steps.map(...))`: of two results with one name the later one counts. -/
def stepNamed (job : CheckJob) (name : String) : Option StepResult :=
  ((job.result.map JobResult.steps).getD []).reverse.find? fun result => decide (result.name = name)

def CheckJob.outcome (job : CheckJob) : Option CheckJobStatus := job.result.map JobResult.outcome

def unprovenDetails (job : CheckJob) : String :=
  "Check job unknown-needs-attention: " ++
    ((job.result.bind JobResult.unknownReason).getD "runner outcome is unproven") ++ "."

/-- Without a failed step and without a success the first result is turned to failed. -/
def failClosed (job : CheckJob) (details : String → String) : List CheckResult → List CheckResult
  | [] => []
  | first :: rest =>
    if anyFailed (first :: rest) = false ∧ job.outcome ≠ some .succeeded then
      ⟨first.name, .failed, some (details first.name)⟩ :: rest
    else first :: rest

def failClosedJobDetails (job : CheckJob) : String :=
  match job.outcome.getD job.status with
  | .cancelled => "Check job was cancelled before it proved the checks."
  | .timedOut => "Check job timed out before it proved the checks."
  | outcome => s!"Check job ended {outcome.text} without proving the checks."

def explicitResult (job : CheckJob) (index : ℕ) (command : String) : CheckResult :=
  match stepNamed job (numbered "check" index) with
  | some step => if step.passed = true then ⟨command, .passed, none⟩ else ⟨command, .failed, some step.reason⟩
  | none =>
    if job.outcome = some .unknown then ⟨command, .failed, some (unprovenDetails job)⟩
    else ⟨command, .skipped, none⟩

def checkResultsFromJob (attempt : IntegrationAttempt) (job : CheckJob) : List CheckResult :=
  failClosed job (fun _ => failClosedJobDetails job) (attempt.checkCommands.mapIdx (explicitResult job))

def isBootstrap (name : String) : Bool := "bootstrap-".toList.isPrefixOf name.toList

def gateResult (job : CheckJob) (step : CheckStep) : CheckResult :=
  match stepNamed job step.name with
  | none => ⟨step.name, .skipped, none⟩
  | some result =>
    if result.passed = true then ⟨step.name, .passed, none⟩
    else ⟨step.name, .failed,
      some (if isBootstrap step.name = true then "[bootstrap] " ++ result.reason else result.reason)⟩

def gateJobDetails (job : CheckJob) (name : String) : String :=
  if job.outcome = some .unknown then "[bootstrap] " ++ unprovenDetails job
  else (if isBootstrap name = true then "[bootstrap] " else "") ++
    s!"Check job ended {(job.outcome.getD job.status).text} without proving the checks."

def checkResultsFromGateJob (job : CheckJob) : List CheckResult :=
  failClosed job (gateJobDetails job) (job.spec.steps.map (gateResult job))

def artifactSteps (results : List StepResult) : List CheckResult :=
  results.map fun result => ⟨result.name, if result.passed = true then .passed else .failed, none⟩

def allPassed (checks : List CheckResult) : Bool :=
  !checks.isEmpty && checks.all fun check => decide (check.outcome = .passed)

/-- `recordGateArtifact`, up to its publication. -/
def recordGateArtifact [CheckHost] (commit : String) (results : List StepResult) (succeeded : Bool) : GateArtifact :=
  { steps := artifactSteps results
    complete := true
    succeeded := succeeded && allPassed (artifactSteps results)
    commit := commit
    reference := CheckHost.artifactReference commit }

def isReusableGateArtifact (artifact : GateArtifact) : Bool :=
  artifact.complete && artifact.succeeded && allPassed artifact.steps

def GateArtifact.text (artifact : GateArtifact) : String :=
  if artifact.complete = false then "incomplete/unknown"
  else if artifact.succeeded = true then "complete/succeeded" else "complete/failed"

def checkResultsFromGateArtifact (artifact : GateArtifact) (reused : Bool) : List CheckResult :=
  let unproven : List CheckResult :=
    if isReusableGateArtifact artifact = false ∧ anyFailed artifact.steps = false then
      [⟨"verification-result", .failed, some s!"Verification is {artifact.text}; successful evidence is not established."⟩]
    else []
  let reuse : List CheckResult :=
    if reused = true then
      [⟨artifact.reference, .passed, some s!"Reused exact-SHA L2 gate artifact (commit {artifact.commit})."⟩]
    else []
  artifact.steps ++ unproven ++ reuse

variable {job : CheckJob} {checks : List CheckResult} {results : List StepResult}

theorem anyFailed_append (first second : List CheckResult) :
    anyFailed (first ++ second) = (anyFailed first || anyFailed second) :=
  List.any_append

theorem failClosed_failed (details : String → String) (hchecks : checks ≠ [])
    (hjob : job.outcome ≠ some .succeeded) : anyFailed (failClosed job details checks) = true := by
  cases checks with
  | nil => exact absurd rfl hchecks
  | cons first rest =>
    simp only [failClosed]
    split_ifs with h
    · simp [anyFailed]
    · by_contra hfailed
      exact h ⟨by simpa using hfailed, hjob⟩

theorem allPassed_failed (h : allPassed checks = true) : anyFailed checks = false := by
  unfold allPassed at h
  simp only [Bool.and_eq_true, List.all_eq_true, decide_eq_true_eq] at h
  unfold anyFailed
  rw [List.any_eq_false]
  intro check hcheck
  have hpassed := h.2 check hcheck
  simp [hpassed]

theorem reusable_failed {artifact : GateArtifact} (h : isReusableGateArtifact artifact = true)
    (reused : Bool) : anyFailed (checkResultsFromGateArtifact artifact reused) = false := by
  have hall : allPassed artifact.steps = true := by
    unfold isReusableGateArtifact at h
    simp only [Bool.and_eq_true] at h
    exact h.2
  have hsteps := allPassed_failed hall
  unfold checkResultsFromGateArtifact
  rw [anyFailed_append, anyFailed_append, hsteps]
  cases reused <;> simp [h, anyFailed]

theorem recordGateArtifact_reusable [CheckHost] (commit : String) (hresults : results ≠ [])
    (hpassed : ∀ result ∈ results, result.passed = true) :
    isReusableGateArtifact (recordGateArtifact commit results true) = true := by
  have hall : allPassed (artifactSteps results) = true := by
    unfold allPassed artifactSteps
    simp only [Bool.and_eq_true, List.all_eq_true]
    refine ⟨by simpa using hresults, ?_⟩
    intro check hcheck
    obtain ⟨result, hresult, rfl⟩ := List.mem_map.1 hcheck
    simp [hpassed result hresult]
  simp [isReusableGateArtifact, recordGateArtifact, hall]

theorem checkSteps_gate [CheckHost] (attempt : IntegrationAttempt) (gate : Gate) (workspace : String) :
    checkSteps attempt (some gate) workspace ≠ [] := by
  have hl2 : planL2JobSteps gate workspace ≠ [] := by
    unfold planL2JobSteps
    simpa using gate.hasStep
  simp [checkSteps, hl2]

end Results

end GitIntegration
