import Yui.JobDefinition
import Yui.JobSupervisor
import Yui.KeyedTable

/-!
# The admission of job runs

`admitJobRun` and `instantiateJobRun` of `controller/jobDefinitionControl.ts` with the three ways in
which they create a run: the process of a Task, the delegation to a Task and the global process. One
call is one transaction of the store. The permissions, the preparation of a process and the creation of
a Task belong to other modules and come with the call as an `AdmissionEnv`.
-/

open Checked Validation

structure JobStore where
  definitions : List JobDefinition
  runs : List JobRun

/-- The Assignment that a Task process works for. -/
structure JobAssignment where
  taskId : String
  owner : DurableJobOwner
  projectId : Option String
  workspace : Option String

structure ProcessSpec where
  workspace : String
  env : EnvMap
  steps : List DurableJobStep
  head : String

structure CreationEvent where
  id : String
  text : String

structure AdmissionEnv where
  checks : ConfigurationChecks
  authorizeDefinition : JobDefinition → DurableJobCaller → Bool → Except String Unit
  authorizeServiceJob : JobDefinition → ScheduleServiceRef → String → Except String Unit
  authorizeRunRead : JobRun → DurableJobCaller → Except String Unit
  requireJobAssignment : JobAssignment → DurableJobCaller → Except String Unit
  authenticate : DurableJobCaller → String → Except String String
  checkStartInput : JobDefinition → String → Except String Unit
  authorizeStart : DurableJobCaller → JobDefinition → Except String Unit
  jobAuthorityBinding : DurableJobCaller → String → Except String String
  serviceRunBinding : JobRun → ScheduleServiceRef → Except String String
  publicJobBinding : JobRun → Except String String
  prepareBuiltinJob : String → Option String → Json → String → Except String ProcessSpec
  createTaskAggregate : TaskJobTarget → JobRunReference → Except String String
  workItemDefinitionDigest : String → String → Except String String
  creationEvent : JobRun → Except String CreationEvent
  requireTask : String → Except String Unit
  newRunId : String

def JobRun.definition (run : JobRun) : JobScope × String :=
  ((runReference run.toJobFacts).scope, run.definitionId)

def JobRun.reference (run : JobRun) : JobRunReference := runReference run.toJobFacts

def listJobRuns (store : JobStore) (job : JobScope × String) : List JobRun :=
  store.runs.filter fun run => run.definition = job

def occupies (run : JobRun) : Bool :=
  run.status = .queued || run.status = .running || run.status = .unknownNeedsAttention

def JobRun.assignment? (run : JobRun) : Option JobAssignment :=
  match run.scope with
  | .task taskId owner =>
    if run.delegation = none then some ⟨taskId, owner, run.projectId, run.workspace⟩ else none
  | .global _ _ _ => none

def isRetryable (run : JobRun) : Bool :=
  run.status = .failed || run.status = .cancelled || run.status = .timedOut

def actorOf (caller : DurableJobCaller) : String :=
  match caller.scope with
  | .user => "user"
  | scope => scope.text ++ ":" ++ caller.role.getD "undefined"

def JobTrigger.json (trigger : JobTrigger) : Json :=
  .obj [("source", .str trigger.source.text), ("key", .str trigger.key)]

def jobRequestId (job : JobDefinition) (trigger : JobTrigger) : String :=
  "job:" ++ job.id ++ ":" ++ trigger.source.text ++ ":" ++ trigger.key

def scopeDirectory : JobScope → String
  | .global => "global"
  | .task taskId => taskId

def jobRunner : ImplementationRef := ⟨"yui:job-runner", "1"⟩

section

variable [JobHost]

def envJson (env : EnvMap) : Json := .obj (env.map fun entry => (entry.1, .str entry.2))

def DurableJobStep.json (step : DurableJobStep) : Json :=
  .present [("name", some (.str step.name)), ("command", some (.str step.command)),
    ("argv", step.argv.map fun argv => .arr (argv.map .str)), ("cwd", step.cwd.map .str),
    ("env", step.env.map envJson), ("timeoutMs", step.timeoutMs.map numberJson)]

def JobConfiguration.json : JobConfiguration → Json
  | .shell owner projectId head workspace env steps =>
    .obj [("kind", .str "shell"), ("owner", owner.json), ("projectId", .str projectId),
      ("head", .str head), ("workspace", .str workspace), ("env", envJson env),
      ("steps", .arr (steps.map DurableJobStep.json))]
  | .globalShell env steps files =>
    .obj [("kind", .str "shell"), ("env", envJson env),
      ("steps", .arr (steps.map DurableJobStep.json)),
      ("files", .arr (files.map fun file =>
        .obj [("path", .str file.path), ("content", .str file.content)]))]
  | .builtin action projectId input =>
    .present [("kind", some (.str "builtin")), ("action", some (.str action)),
      ("projectId", projectId.map .str), ("input", some input)]
  | .agent configuration => configuration
  | .task goal target =>
    .obj [("kind", .str "task"), ("goal", .str (goalText goal)), ("target", targetJson target)]
where
  goalText : TaskDelegationGoal → String
    | .delivery => "delivery"
    | .taskCreated => "task-created"
    | .workItem => "work-item"
  targetJson : TaskJobTarget → Json
    | .new title description type projectBindings =>
      .present [("kind", some (.str "new")), ("title", some (.str title)),
        ("description", some (.str description)), ("type", type.map .str),
        ("projectBindings", some (.arr (projectBindings.map fun binding =>
          .obj [("projectId", .str binding.projectId), ("directory", .str binding.directory),
            ("baseRef", .str binding.baseRef)])))]
    | .workItem taskId workItemId revision =>
      .obj [("kind", .str "work-item"), ("taskId", .str taskId), ("workItemId", .str workItemId),
        ("revision", numberJson revision)]

def JobInstantiation.json (instantiation : JobInstantiation) : Json :=
  .obj [("sourceId", .str instantiation.sourceId),
    ("sourceRevision", numberJson instantiation.sourceRevision), ("key", .str instantiation.key)]

def JobDefinition.json (job : JobDefinition) : Json :=
  .present [("schemaVersion", some (numberJson job.schemaVersion)), ("id", some (.str job.id)),
    ("scope", some job.scope.json), ("title", some (.str job.title)),
    ("configuration", some job.configuration.json), ("revision", some (numberJson job.revision)),
    ("builtin", if job.builtin then some (.str "project-sync") else none),
    ("instantiation", job.instantiation.map JobInstantiation.json),
    ("createdAt", some (.str job.createdAt)), ("updatedAt", some (.str job.updatedAt))]

def digest (value : Json) : String := JobHost.sha256 value.stringify

def requestKey (actorId requestId : String) : String := digest (.arr [.str actorId, .str requestId])

def admissionDigest (job : JobDefinition) (trigger : JobTrigger) (retryOf : Option String) : String :=
  digest (.arr [job.json, trigger.json, (retryOf.map Json.str).getD .null])

def durableJobIdempotencyKey (owner : DurableJobOwner) (projectId head workspace : String)
    (env : EnvMap) (steps : List DurableJobStep) : String :=
  digest (canonicalJson (.obj [("owner", owner.json), ("projectId", .str projectId),
    ("head", .str head), ("steps", .arr (steps.map DurableJobStep.json)),
    ("workspace", .str workspace), ("env", envJson env)]))

def retryDurableJobIdempotencyKey (previousKey previousJobId : String) : String :=
  JobHost.sha256 (previousKey ++ "|retry-of|" ++ previousJobId)

/-- The record that a new run starts with. -/
def freshRun (job : JobDefinition) (trigger : JobTrigger) (id idempotencyKey : String)
    (scope : JobRunScope) (operation : OperationFacts) (status : DurableJobStatus)
    (retryOf : Option String) (now : JsDate) : JobRun where
  schemaVersion := 1
  delegation := none
  id := id
  definitionId := job.id
  definitionRevision := job.revision
  trigger := trigger
  scope := scope
  projectId := none
  head := none
  workspace := none
  env := none
  steps := none
  idempotencyKey := idempotencyKey
  operation := operation
  status := status
  artifactsLocator := "artifacts/jobs/" ++ scopeDirectory job.scope ++ "/" ++ id
  createdAt := now.iso
  startedAt := none
  heartbeatAt := none
  terminalAt := none
  process := none
  checkpoint := none
  result := none
  businessResult := none
  retryOf := retryOf
  cancelRequestedAt := none
  artifacts := none
  wakeupNotified := none
  acknowledgedAt := none
  updatedAt := now.iso

variable (env : AdmissionEnv)

def requireRunTask (run : JobRun) : Except String Unit :=
  match run.scope with
  | .task taskId _ => env.requireTask taskId
  | .global _ _ _ => .ok ()

/-- `saveDurableJob` and `saveGlobalJobRun`. -/
def saveRun (store : JobStore) (run : JobRun) : Except String JobStore := do
  requireRunTask env run
  match KeyedTable.get JobRun.reference store.runs run.reference with
  | none => do
    checkDurableJob run
    .ok { store with runs := store.runs ++ [run] }
  | some current =>
    match saveJobRun current run with
    | .error failure => .error failure.message
    | .ok () => .ok { store with runs := KeyedTable.replace JobRun.reference store.runs run }

def saveJobDefinition (checks : ConfigurationChecks) (store : JobStore) (job : JobDefinition) :
    Except String JobStore := do
  let _ ← validateJobDefinition checks job
  match KeyedTable.get JobDefinition.key store.definitions job.key with
  | none => .ok { store with definitions := store.definitions ++ [job] }
  | some previous => do
    refuse (job.revision ≠ previous.revision + 1 ∨ job.createdAt ≠ previous.createdAt ∨
        movesBack previous.updatedAt job.updatedAt = true)
      "Job definition revision changed; reload before editing."
    .ok { store with
      definitions := KeyedTable.replace JobDefinition.key store.definitions job }

/-- What a call asks for. -/
structure Admission where
  home : String
  caller : DurableJobCaller
  trigger : JobTrigger
  now : JsDate
  retryOf : Option String
  service : Option ScheduleServiceRef

section TaskProcess

def ownedBy (owner : DurableJobOwner) (run : JobRun) : Bool :=
  match owner, run.scope with
  | .integrationAttempt id, .task _ (.integrationAttempt other) => id == other
  | _, _ => false

def taskRuns (store : JobStore) (taskId : String) : List JobRun :=
  store.runs.filter fun run => run.reference.scope = .task taskId

/-- A run that a repeated request names must have been made from the same input. -/
def sameInput (run : JobRun) (inputDigest workspace message : String) : Except String JobRun := do
  refuse (run.operation.inputDigest ≠ inputDigest ∨ run.operation.targetId ≠ workspace)
    (message ++ run.id ++ ".")
  .ok run

/-- The run that the owner or the request of a start has already. -/
def existingRun (store : JobStore) (taskId : String) (owner : DurableJobOwner) (key inputDigest
    workspace : String) : Except String (Option JobRun) :=
  match (taskRuns store taskId).filter (ownedBy owner) with
  | _ :: _ :: _ => .error "IntegrationAttempt has multiple Jobs; inspect its existing records."
  | [original] => do
    let run ← sameInput original inputDigest workspace
      "Integration Job input conflicts with its original request: "
    .ok (some run)
  | [] =>
    match (taskRuns store taskId).find? fun run => run.idempotencyKey = key with
    | none => .ok none
    | some existing => do
      let run ← sameInput existing inputDigest workspace
        "Job request identity conflicts with its original input: "
      .ok (some run)

def checkRetried (store : JobStore) (taskId : String) (caller : DurableJobCaller)
    (retryOf : Option String) : Except String Unit :=
  match retryOf.bind fun id => KeyedTable.get JobRun.reference store.runs ⟨.task taskId, id⟩ with
  | none => .ok ()
  | some previous => do
    refuse (previous.delegation ≠ none)
      "Use Job run retry for a Task delegation, not a process specification."
    whenPresent previous.assignment? fun assignment => env.requireJobAssignment assignment caller

/-- `startJob` for a stored definition. -/
def startDefinedJob (store : JobStore) (job : JobDefinition) (taskId : String)
    (owner : DurableJobOwner) (projectId head workspace : String) (runEnv : EnvMap)
    (steps : List DurableJobStep) (call : Admission) :
    Except String (RunAdmission × JobStore) := do
  let requestId := jobRequestId job call.trigger
  let actorId ← env.authenticate call.caller taskId
  env.requireJobAssignment ⟨taskId, owner, some projectId, some workspace⟩ call.caller
  env.checkStartInput job requestId
  let specification := durableJobIdempotencyKey owner projectId head workspace runEnv steps
  let baseKey := digest (.arr [.str specification, .str job.id, numberJson job.revision,
    call.trigger.json])
  let inputDigest := (call.retryOf.map (retryDurableJobIdempotencyKey baseKey)).getD baseKey
  let existing ← existingRun store taskId owner (requestKey actorId requestId) inputDigest workspace
  match existing with
  | some run => .ok (⟨run, false, false⟩, store)
  | none => do
    env.authorizeStart call.caller job
    checkRetried env store taskId call.caller call.retryOf
    whenPresent ((listJobRuns store job.key).find? occupies) fun active =>
      .error ("Job is already occupied by Run " ++ active.id ++ " (" ++ active.status.text ++
        "); no new Run was admitted.")
    let authorityRef ← env.jobAuthorityBinding call.caller taskId
    let run : JobRun := { freshRun job call.trigger env.newRunId (requestKey actorId requestId)
        (.task taskId owner) ⟨requestId, inputDigest, actorId, authorityRef, workspace, "job.start",
          jobRunner, .none, [], []⟩ .queued call.retryOf call.now with
      projectId := some projectId
      head := some head
      workspace := some workspace
      env := some runEnv
      steps := some steps }
    let store ← saveRun env store run
    .ok (⟨run, true, false⟩, store)

end TaskProcess

section Delegation

def delegationScope : JobScope → JobRunScope
  | .global => .global none none none
  | .task taskId => .task taskId .task

/-- The Task that a delegation targets, made by the admission when it is new. -/
def delegate (goal : TaskDelegationGoal) (target : TaskJobTarget)
    (sourceRun : JobRunReference) : Except String TaskDelegation :=
  match target with
  | .new _ _ _ _ => do
    let taskId ← env.createTaskAggregate target sourceRun
    .ok ⟨taskId, goal, none, none, none⟩
  | .workItem taskId workItemId revision => do
    let definitionDigest ← env.workItemDefinitionDigest taskId workItemId
    .ok ⟨taskId, goal, some workItemId, some revision, some definitionDigest⟩

/-- `reconcileTaskDelegation` right after the admission of a run whose goal is the creation. -/
def settleCreation (store : JobStore) (run : JobRun) (taskId : String)
    (now : JsDate) : Except String (JobRun × JobStore) := do
  let event ← env.creationEvent run
  let result : JobBusinessResult := ⟨1, run.reference, .succeeded,
    "Explicit creation goal met: " ++ taskId ++ "; no delivery completion is claimed.", none,
    [⟨.taskResult, .task taskId, run.reference, JobHost.sha256 event.text, "events/" ++ event.id⟩]⟩
  let next ← validateDurableJob { run with
    status := .succeeded
    businessResult := some result
    wakeupNotified := some true
    terminalAt := some now.iso
    updatedAt := now.iso }
  let store ← saveRun env store next
  .ok (next, store)

def admitTaskJob (store : JobStore) (job : JobDefinition)
    (goal : TaskDelegationGoal) (target : TaskJobTarget) (call : Admission) :
    Except String (RunAdmission × JobStore) := do
  let requestId := jobRequestId job call.trigger
  let delegation ← delegate env goal target ⟨job.scope, env.newRunId⟩
  let inputDigest := admissionDigest job call.trigger call.retryOf
  let actorId := actorOf call.caller
  let run ← validateDurableJob { freshRun job call.trigger env.newRunId (requestKey actorId requestId)
      (delegationScope job.scope) ⟨requestId, inputDigest, actorId, inputDigest, delegation.taskId,
        "job.run", ⟨"yui:task-delegation", "1"⟩, .confirmed, ["tasks/" ++ delegation.taskId], []⟩
      .running call.retryOf call.now with
    delegation := some delegation
    startedAt := some call.now.iso }
  let store ← saveRun env store run
  if goal = .taskCreated then do
    let (run, store) ← settleCreation env store run delegation.taskId call.now
    .ok (⟨run, true, false⟩, store)
  else .ok (⟨run, true, false⟩, store)

end Delegation

section GlobalProcess

/-- What a global configuration executes: its action, the input and Project it names, its process. -/
def prepareGlobal (configuration : JobConfiguration) (home locator : String) :
    Except String (String × Json × Option String × ProcessSpec) :=
  match configuration with
  | .globalShell runEnv steps files => do
    let (workspace, runEnv', steps', head) ← env.checks.prepareGlobalShell runEnv steps files
      (home ++ "/" ++ locator ++ "/workspace")
    .ok ("shell.exec", configuration.json, none, ⟨workspace, runEnv', steps', head⟩)
  | .builtin action projectId input => do
    let spec ← env.prepareBuiltinJob action projectId input (home ++ "/" ++ locator)
    .ok (action, input, projectId, spec)
  | .shell _ _ _ _ _ _ => .error "Global Shell Job has unsupported field: owner."
  | _ => .error "Not a global process Job."

def globalActor (call : Admission) : String :=
  if call.service.isSome then "service:schedule" else
    if call.caller.scope = .user then "user"
    else "global:" ++ call.caller.role.getD "undefined"

def globalAuthority (call : Admission) : Except String String :=
  if call.service.isSome ∨ call.caller.scope = .user then .ok "pending"
  else env.jobAuthorityBinding call.caller ""

/-- The binding that replaces a pending one. -/
def bindRun (call : Admission) (run : JobRun) : Except String JobRun :=
  match call.service with
  | some service => do
    let authorityRef ← env.serviceRunBinding run service
    .ok { run with operation := { run.operation with authorityRef := authorityRef } }
  | none =>
    if call.caller.scope = .user then do
      let authorityRef ← env.publicJobBinding run
      .ok { run with operation := { run.operation with authorityRef := authorityRef } }
    else .ok run

def admitGlobalProcess (store : JobStore) (job : JobDefinition)
    (call : Admission) : Except String (RunAdmission × JobStore) := do
  let requestId := jobRequestId job call.trigger
  let locator := "artifacts/jobs/global/" ++ env.newRunId
  let (action, actionInput, projectId, spec) ← prepareGlobal env job.configuration call.home locator
  let authorityRef ← globalAuthority env call
  let run : JobRun := { freshRun job call.trigger env.newRunId
      (requestKey (globalActor call) requestId)
      (.global (some action) (some actionInput) call.service)
      ⟨requestId, admissionDigest job call.trigger call.retryOf, globalActor call, authorityRef, job.id,
        "job.run", jobRunner, .none, [], []⟩ .queued call.retryOf call.now with
    projectId := projectId
    head := some spec.head
    workspace := some spec.workspace
    env := some spec.env
    steps := some spec.steps }
  let run ← bindRun env call run
  let store ← saveRun env store run
  .ok (⟨run, true, false⟩, store)

end GlobalProcess

def authorizeFound (run : JobRun) (caller : DurableJobCaller) :
    Except String Unit := do
  env.authorizeRunRead run caller
  whenPresent run.assignment? fun assignment => env.requireJobAssignment assignment caller

def createRun (store : JobStore) (job : JobDefinition) (call : Admission) :
    Except String (RunAdmission × JobStore) :=
  match job.configuration, job.scope with
  | .task goal target, _ => do
    refuse (call.service.isSome = true) "Schedule service does not authorize Task delegation."
    admitTaskJob env store job goal target call
  | .shell owner projectId head workspace runEnv steps, .task taskId =>
    startDefinedJob env store job taskId owner projectId head workspace runEnv steps call
  | _, .task _ => .error "Not a Task Job."
  | _, .global => admitGlobalProcess env store job call

def authorizeAdmission (job : JobDefinition) (call : Admission) :
    Except String Unit := do
  env.authorizeDefinition job call.caller false
  whenPresent call.service fun service => env.authorizeServiceJob job service call.trigger.key
  refuse (call.service.isSome = true ∧
      (job.scope ≠ .global ∨ call.trigger.source ≠ .schedule ∨ call.retryOf ≠ none))
    "Invalid Schedule service admission."
  refuse (call.service = none ∧ call.caller.scope = .user ∧ call.trigger.source ≠ .manual ∧
      call.trigger.source ≠ .retry)
    "Public Job admission only authorizes an immediate manual execution or explicit retry."
  refuse (isBlank call.trigger.key = true ∨ call.trigger.source = .migration)
    "Invalid JobRun trigger."

def isAgent : JobConfiguration → Bool
  | .agent _ => true
  | _ => false

/-- The repetition of an admission returns the run it made. -/
def repeatAdmission (store : JobStore) (job : JobDefinition) (same : JobRun)
    (call : Admission) : Except String (RunAdmission × JobStore) := do
  authorizeFound env same call.caller
  refuse (same.definitionRevision ≠ job.revision ∨ same.retryOf ≠ call.retryOf)
    ("JobRun trigger conflicts with its original snapshot: " ++ same.id ++ ".")
  .ok (⟨same, false, false⟩, store)

def newAdmission (store : JobStore) (job : JobDefinition) (call : Admission) :
    Except String (RunAdmission × JobStore) := do
  env.authorizeDefinition job call.caller true
  match (listJobRuns store job.key).find? occupies with
  | some occupied => do
    authorizeFound env occupied call.caller
    .ok (⟨occupied, false, true⟩, store)
  | none => do
    refuse (∃ retryOf ∈ call.retryOf,
        (listJobRuns store job.key).all (fun run => ¬ (run.id = retryOf ∧ isRetryable run)) = true)
      "Retry requires an exact failed/cancelled/timed-out Run of this Job."
    createRun env store job call

def admitJobRun (env : AdmissionEnv) (store : JobStore) (scope : JobScope) (definitionId : String)
    (call : Admission) : Except String (RunAdmission × JobStore) :=
  match KeyedTable.get JobDefinition.key store.definitions (scope, definitionId) with
  | none => .error "Job definition not found."
  | some job => do
    refuse (isAgent job.configuration = true) ("Agent Jobs use their explicit Role message " ++
      "admission; Schedule service does not grant Agent execution.")
    authorizeAdmission env job call
    match (listJobRuns store job.key).find? fun run => run.trigger = call.trigger with
    | some same => repeatAdmission env store job same call
    | none => newAdmission env store job call

def instanceId (source : JobDefinition) (trigger : JobTrigger) : String :=
  "instance-" ++ digest (.arr [source.scope.json, .str source.id, trigger.json])

/-- The definition that `instantiateJobRun` admits, stored at its first use. -/
def instantiate (store : JobStore) (source : JobDefinition) (call : Admission) :
    Except String JobStore :=
  let instantiation : JobInstantiation := ⟨source.id, source.revision, call.trigger.key⟩
  match KeyedTable.get JobDefinition.key store.definitions
    (source.scope, instanceId source call.trigger) with
  | some job => do
    refuse (job.instantiation ≠ some instantiation ∨ job.configuration ≠ source.configuration)
      "Job instance identity conflicts with its original source."
    .ok store
  | none => do
    let job ← createJobDefinition env.checks (instanceId source call.trigger) source.scope
      source.title source.configuration call.now
    saveJobDefinition env.checks store { job with instantiation := some instantiation }

def instantiateJobRun (env : AdmissionEnv) (store : JobStore) (scope : JobScope)
    (definitionId : String) (revision : ℚ) (call : Admission) : Except String (RunAdmission × JobStore) :=
  match KeyedTable.get JobDefinition.key store.definitions (scope, definitionId) with
  | none => .error "Source Job revision changed; explicitly select an available version."
  | some source => do
    refuse (source.revision ≠ revision)
      "Source Job revision changed; explicitly select an available version."
    env.authorizeDefinition source call.caller true
    let store ← instantiate env store source call
    admitJobRun env store source.scope (instanceId source call.trigger)
      { call with retryOf := none }

/-- A stored run is replaced by a record that the transition guard accepts. -/
def transitionRun (store : JobStore) (next : JobRun) : Except String JobStore :=
  match KeyedTable.get JobRun.reference store.runs next.reference with
  | none => .error "JobRun not found."
  | some current => do
    let valid ← validDurableJobTransition current next
    refuse (valid = false) "DurableJob transition is invalid."
    .ok { store with runs := KeyedTable.replace JobRun.reference store.runs next }

inductive JobCall where
  | admitRun (env : AdmissionEnv) (scope : JobScope) (definitionId : String) (call : Admission)
  | instantiate (env : AdmissionEnv) (scope : JobScope) (definitionId : String) (revision : ℚ)
      (call : Admission)
  | transition (next : JobRun)

def JobCall.apply (store : JobStore) : JobCall → Except String JobStore
  | .admitRun env scope definitionId call => do
    let result ← admitJobRun env store scope definitionId call
    .ok result.2
  | .instantiate env scope definitionId revision call => do
    let result ← instantiateJobRun env store scope definitionId revision call
    .ok result.2
  | .transition next => transitionRun store next

end
