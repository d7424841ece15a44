import Yui.DurableJob

/-!
# Job definitions

The records of `job/jobDefinition.ts` with the callers and triggers that admit runs of them. A
configuration is kept as the admission reads it; the configuration of an agent Job, which no
admission runs, stays the JSON it is.
-/

open JsText Checked Validation

inductive CallerScope where
  | user | global | task
  deriving DecidableEq

def CallerScope.text : CallerScope → String
  | .user => "user"
  | .global => "global"
  | .task => "task"

structure DurableJobCaller where
  scope : CallerScope
  taskId : Option String
  role : Option String
  agentId : Option String
  adapterId : Option String
  nativeSessionId : Option String
  runId : Option String
  deriving DecidableEq

def DurableJobCaller.public : DurableJobCaller := ⟨.user, none, none, none, none, none, none⟩

structure DraftProjectBinding where
  projectId : String
  directory : String
  baseRef : String
  deriving DecidableEq

inductive TaskJobTarget where
  | new (title description : String) (type : Option String)
      (projectBindings : List DraftProjectBinding)
  | workItem (taskId workItemId : String) (revision : ℚ)
  deriving DecidableEq

structure JobScriptFile where
  path : String
  content : String
  deriving DecidableEq

inductive JobConfiguration where
  | shell (owner : DurableJobOwner) (projectId head workspace : String) (env : EnvMap)
      (steps : List DurableJobStep)
  | globalShell (env : EnvMap) (steps : List DurableJobStep) (files : List JobScriptFile)
  | builtin (action : String) (projectId : Option String) (input : Json)
  | agent (configuration : Json)
  | task (goal : TaskDelegationGoal) (target : TaskJobTarget)
  deriving DecidableEq

structure JobInstantiation where
  sourceId : String
  sourceRevision : ℚ
  key : String
  deriving DecidableEq

structure JobDefinition where
  schemaVersion : ℕ
  id : String
  scope : JobScope
  title : String
  revision : ℚ
  configuration : JobConfiguration
  builtin : Bool
  instantiation : Option JobInstantiation
  createdAt : String
  updatedAt : String
  deriving DecidableEq

def JobDefinition.key (job : JobDefinition) : JobScope × String := (job.scope, job.id)

def JobTriggerSource.text : JobTriggerSource → String
  | .manual => "manual"
  | .retry => "retry"
  | .schedule => "schedule"
  | .integration => "integration"
  | .migration => "migration"

structure RunAdmission where
  run : JobRun
  created : Bool
  overlap : Bool

/-- `/^[a-zA-Z0-9][a-zA-Z0-9._-]{0,127}$/u`. -/
def isSafeId (id : String) : Bool :=
  match id.toList with
  | [] => false
  | first :: rest => first.isAlphanum && rest.length ≤ 127 && rest.all isArtifactIdentityChar

def jobScopeKey : JobScope → Except String String
  | .global => .ok "global"
  | .task taskId => do
    checkIdentity taskId "Job Task id"
    refuse (isNumbered "task" taskId = false) "Invalid Job Task id."
    .ok taskId

section

variable [JsHost]

def checkInstantiation (instantiation : JobInstantiation) : Except String Unit := do
  checkIdentity instantiation.sourceId "Job source id"
  requirePositiveInteger instantiation.sourceRevision "Job source revision"
  checkText instantiation.key "Job instantiation key"

/-- The installed maintenance Job of a Project. -/
def IsProjectSync (job : JobDefinition) : Prop :=
  match job.configuration with
  | .builtin action projectId _ => job.scope = .global ∧ action = "project.refresh" ∧
      job.id = "project-sync-" ++ projectId.getD "undefined" ∧ job.instantiation = none
  | _ => False

instance (job : JobDefinition) : Decidable (IsProjectSync job) := by
  unfold IsProjectSync
  cases job.configuration <;> infer_instance

/-- The checks of a configuration that another module makes. -/
structure ConfigurationChecks where
  validateAgentJobConfiguration : Json → Except String Unit
  validateTaskJobConfiguration : TaskDelegationGoal → TaskJobTarget → Except String Unit
  prepareGlobalShell : EnvMap → List DurableJobStep → List JobScriptFile → String →
    Except String (String × EnvMap × List DurableJobStep × String)

def validateConfiguration (checks : ConfigurationChecks) (scope : JobScope) :
    JobConfiguration → Except String Unit
  | .agent configuration => checks.validateAgentJobConfiguration configuration
  | .task goal target => checks.validateTaskJobConfiguration goal target
  | .globalShell env steps files =>
    match scope with
    | .global => do
      let _ ← checks.prepareGlobalShell env steps files "/job-validation"
      .ok ()
    | .task _ => .error "Task Jobs require a managed shell configuration."
  | .builtin action projectId _ =>
    match scope with
    | .global => do
      checkText action "Builtin action"
      whenPresent projectId fun projectId => checkIdentity projectId "Job Project id"
    | .task _ => .error "Task Jobs require a managed shell configuration."
  | .shell owner projectId head workspace env steps =>
    match scope with
    | .global => .error "Global Shell Job has unsupported field: owner."
    | .task taskId => do
      checkIdentity projectId "Job Project id"
      validateDurableJobOwner owner taskId
      requireCommit head "DurableJob head"
      checkText workspace "DurableJob workspace"
      refuse (startsWithSlash workspace = false) "DurableJob workspace must be an absolute path."
      validateEnvMap env
      refuse (steps = []) "DurableJob requires at least one step."
      checkSteps [] steps

def validateJobDefinition (checks : ConfigurationChecks) (job : JobDefinition) :
    Except String JobDefinition := do
  refuse (job.schemaVersion ≠ 1) "Job schemaVersion must be 1."
  checkIdentity job.id "Job id"
  refuse (isSafeId job.id = false) "Invalid Job definition id."
  checkText job.title "Job title"
  requirePositiveInteger job.revision "Job revision"
  requireTimestamp job.createdAt "Job createdAt"
  requireTimestamp job.updatedAt "Job updatedAt"
  whenPresent job.instantiation checkInstantiation
  let _ ← jobScopeKey job.scope
  refuse (job.builtin = true ∧ ¬ IsProjectSync job) "Invalid builtin Project sync definition."
  validateConfiguration checks job.scope job.configuration
  .ok job

def createJobDefinition (checks : ConfigurationChecks) (id : String) (scope : JobScope)
    (title : String) (configuration : JobConfiguration) (now : JsDate) : Except String JobDefinition :=
  validateJobDefinition checks
    ⟨1, id, scope, title, 1, configuration, false, none, now.iso, now.iso⟩

end
