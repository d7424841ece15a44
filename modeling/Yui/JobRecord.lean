import Mathlib.Data.Rat.Init
import Yui.JsonValue
import Yui.OperationFacts

/-!
# Job run records

The records of `job/durableJob.ts`, `job/jobBusinessResult.ts`, `job/taskDelegation.ts` and
`artifacts/jobArtifact.ts`. A number is the rational it stands for, an optional field is an
`Option`, and a map of texts keeps its entries in property order. Digests and the order of texts
belong to the host.
-/

/-- What the job code uses of the host besides its clock. -/
class JobHost extends JsHost where
  localeCompare : String → String → ℤ
  sha256 : String → String
  sha256_hex : ∀ text, isHexDigest (sha256 text) = true
  numberText : ℚ → String

inductive DurableJobStatus where
  | queued | running | succeeded | failed | timedOut | cancelled | unknownNeedsAttention
  deriving DecidableEq

def DurableJobStatus.text : DurableJobStatus → String
  | .queued => "queued"
  | .running => "running"
  | .succeeded => "succeeded"
  | .failed => "failed"
  | .timedOut => "timed-out"
  | .cancelled => "cancelled"
  | .unknownNeedsAttention => "unknown-needs-attention"

def isDurableJobTerminal : DurableJobStatus → Bool
  | .queued | .running => false
  | _ => true

abbrev EnvMap := List (String × String)

inductive DurableJobOwner where
  | integrationAttempt (integrationAttemptId : String)
  | workItem (workItemId : String)
  | task
  deriving DecidableEq

structure DurableJobStep where
  name : String
  command : String
  argv : Option (List String)
  cwd : Option String
  env : Option EnvMap
  timeoutMs : Option ℚ
  deriving DecidableEq

structure DurableJobStepResult where
  name : String
  exitCode : Option ℚ
  signal : Option String
  timedOut : Bool
  durationMs : ℚ
  logPath : String
  head : String
  deriving DecidableEq

structure DurableJobCheckpoint where
  completedSteps : List DurableJobStepResult
  updatedAt : String
  deriving DecidableEq

inductive EvidenceSource where
  | exitArtifact | checkpoint
  deriving DecidableEq

structure DurableJobResult where
  outcome : DurableJobStatus
  exitCode : Option ℚ
  signal : Option String
  failedStep : Option String
  unknownReason : Option String
  evidenceSource : Option EvidenceSource
  steps : List DurableJobStepResult
  deriving DecidableEq

structure DurableJobProcess where
  pid : ℚ
  startIdentity : String
  deriving DecidableEq

inductive JobTriggerSource where
  | manual | retry | schedule | integration | migration
  deriving DecidableEq

structure JobTrigger where
  source : JobTriggerSource
  key : String
  deriving DecidableEq

structure ScheduleServiceRef where
  scheduleId : String
  grantId : String
  deriving DecidableEq

inductive TaskDelegationGoal where
  | delivery | taskCreated | workItem
  deriving DecidableEq

structure TaskDelegation where
  taskId : String
  goal : TaskDelegationGoal
  workItemId : Option String
  workItemRevision : Option ℚ
  workItemDefinitionDigest : Option String
  deriving DecidableEq

inductive JobScope where
  | global
  | task (taskId : String)
  deriving DecidableEq

structure JobRunReference where
  scope : JobScope
  runId : String
  deriving DecidableEq

inductive JobResultReferenceKind where
  | runRecord | executionEvidence | taskResult | workItemResult
  deriving DecidableEq

inductive JobResultOwner where
  | run (reference : JobRunReference)
  | task (taskId : String)
  deriving DecidableEq

structure JobResultReference where
  kind : JobResultReferenceKind
  owner : JobResultOwner
  sourceRun : JobRunReference
  version : String
  locator : String
  deriving DecidableEq

structure JobBusinessResult where
  schemaVersion : ℕ
  sourceRun : JobRunReference
  outcome : DurableJobStatus
  summary : String
  data : Option Json
  evidence : List JobResultReference
  deriving DecidableEq

inductive JobArtifactOwner where
  | job (scope : JobScope) (jobId : String)
  | task (taskId : String)
  deriving DecidableEq

structure JobArtifactReference where
  owner : JobArtifactOwner
  sourceRun : JobRunReference
  version : String
  relativePath : String
  digest : String
  deriving DecidableEq

/-- A Task run names its Task and owner, a global run the action it executes. -/
inductive JobRunScope where
  | task (taskId : String) (owner : DurableJobOwner)
  | global (action : Option String) (actionInput : Option Json)
      (serviceAuthorization : Option ScheduleServiceRef)
  deriving DecidableEq

/-- The fields of a run that a terminal run never changes. -/
structure JobFacts where
  schemaVersion : ℕ
  delegation : Option TaskDelegation
  id : String
  definitionId : String
  definitionRevision : ℚ
  trigger : JobTrigger
  scope : JobRunScope
  projectId : Option String
  head : Option String
  workspace : Option String
  env : Option EnvMap
  steps : Option (List DurableJobStep)
  idempotencyKey : String
  operation : OperationFacts
  status : DurableJobStatus
  artifactsLocator : String
  createdAt : String
  startedAt : Option String
  heartbeatAt : Option String
  terminalAt : Option String
  process : Option DurableJobProcess
  checkpoint : Option DurableJobCheckpoint
  result : Option DurableJobResult
  businessResult : Option JobBusinessResult
  retryOf : Option String
  cancelRequestedAt : Option String
  deriving DecidableEq

structure JobRun extends JobFacts where
  artifacts : Option (List JobArtifactReference)
  wakeupNotified : Option Bool
  acknowledgedAt : Option String
  updatedAt : String
  deriving DecidableEq

def executionNamespace (run : JobFacts) : String :=
  match run.scope with
  | .task taskId _ => taskId
  | .global _ _ _ => "global"

def runReference (run : JobFacts) : JobRunReference :=
  match run.scope with
  | .task taskId _ => ⟨.task taskId, run.id⟩
  | .global _ _ _ => ⟨.global, run.id⟩

section JsonForms

def JobScope.json : JobScope → Json
  | .global => .obj [("kind", .str "global")]
  | .task taskId => .obj [("kind", .str "task"), ("taskId", .str taskId)]

def JobRunReference.json (ref : JobRunReference) : Json :=
  .obj [("scope", ref.scope.json), ("runId", .str ref.runId)]

def JobResultReferenceKind.text : JobResultReferenceKind → String
  | .runRecord => "run-record"
  | .executionEvidence => "execution-evidence"
  | .taskResult => "task-result"
  | .workItemResult => "work-item-result"

def JobResultOwner.json : JobResultOwner → Json
  | .run reference => reference.json
  | .task taskId => .obj [("kind", .str "task"), ("taskId", .str taskId)]

def JobResultReference.json (ref : JobResultReference) : Json :=
  .obj [("kind", .str ref.kind.text), ("owner", ref.owner.json), ("sourceRun", ref.sourceRun.json),
    ("version", .str ref.version), ("locator", .str ref.locator)]

def JobBusinessResult.json (result : JobBusinessResult) : Json :=
  .present [("schemaVersion", some (.num (toString result.schemaVersion))),
    ("sourceRun", some result.sourceRun.json), ("outcome", some (.str result.outcome.text)),
    ("summary", some (.str result.summary)), ("data", result.data),
    ("evidence", some (.arr (result.evidence.map JobResultReference.json)))]

def JobArtifactOwner.json : JobArtifactOwner → Json
  | .job scope jobId =>
    .obj [("kind", .str "job"), ("scope", scope.json), ("jobId", .str jobId)]
  | .task taskId => .obj [("kind", .str "task"), ("taskId", .str taskId)]

def JobArtifactReference.json (ref : JobArtifactReference) : Json :=
  .obj [("kind", .str "artifact"), ("owner", ref.owner.json), ("sourceRun", ref.sourceRun.json),
    ("version", .str ref.version), ("relativePath", .str ref.relativePath),
    ("digest", .str ref.digest)]

def EvidenceSource.text : EvidenceSource → String
  | .exitArtifact => "exit-artifact"
  | .checkpoint => "checkpoint"

variable [JobHost]

def numberJson (value : ℚ) : Json := .num (JobHost.numberText value)

def DurableJobStepResult.json (step : DurableJobStepResult) : Json :=
  .obj [("name", .str step.name), ("exitCode", (step.exitCode.map numberJson).getD .null),
    ("signal", (step.signal.map Json.str).getD .null), ("timedOut", .bool step.timedOut),
    ("durationMs", numberJson step.durationMs), ("logPath", .str step.logPath),
    ("head", .str step.head)]

def DurableJobResult.json (result : DurableJobResult) : Json :=
  .present [("outcome", some (.str result.outcome.text)),
    ("exitCode", some ((result.exitCode.map numberJson).getD .null)),
    ("signal", some ((result.signal.map Json.str).getD .null)),
    ("failedStep", result.failedStep.map .str), ("unknownReason", result.unknownReason.map .str),
    ("evidenceSource", result.evidenceSource.map fun source => .str source.text),
    ("steps", some (.arr (result.steps.map DurableJobStepResult.json)))]

end JsonForms

section Canonical

variable [JobHost]

def canonicalEnv (env : EnvMap) : EnvMap := Json.canonicalMembers JobHost.localeCompare env

def canonicalJson (value : Json) : Json := Json.canonicalize JobHost.localeCompare value

def DurableJobStep.canonical (step : DurableJobStep) : DurableJobStep :=
  { step with env := step.env.map canonicalEnv }

def JobBusinessResult.canonical (result : JobBusinessResult) : JobBusinessResult :=
  { result with data := result.data.map canonicalJson }

def JobRunScope.canonical : JobRunScope → JobRunScope
  | .task taskId owner => .task taskId owner
  | .global action actionInput serviceAuthorization =>
    .global action (actionInput.map canonicalJson) serviceAuthorization

/-- Every map of the record with its keys in canonical order. Two records have the same canonical
JSON text exactly when their canonical forms are equal. -/
def JobFacts.canonical (facts : JobFacts) : JobFacts :=
  { facts with
    scope := facts.scope.canonical
    env := facts.env.map canonicalEnv
    steps := facts.steps.map fun steps => steps.map DurableJobStep.canonical
    businessResult := facts.businessResult.map JobBusinessResult.canonical }

end Canonical
