import Yui.Schedule

/-!
# Schedule operations and passes

`controller/scheduleControl.ts` over the table of stored schedules. What the operations ask of the
rest of the Controller (permissions, Job definitions, the state of a Task, the admission of a run) is
a `ScheduleEnv`, given anew with every call. The log keeps, for each pass that dispatched a schedule,
the occurrence it dispatched.
-/

open Checked

/-- The fields of a schedule that a service grant is bound to. -/
structure SchedulePlan where
  id : String
  scope : JobScope
  jobId : String
  target : ScheduleTarget

structure ScheduleEnv where
  authorizeScope : JobScope → DurableJobCaller → Except String Unit
  getJobDefinition : JobScope → String → Option JobDefinition
  authorizeDefinition : JobDefinition → DurableJobCaller → Bool → Except String Unit
  scheduleServiceBinding : SchedulePlan → JobDefinition → String → Except String String
  jobAuthorityBinding : DurableJobCaller → JobScope → Except String String
  randomUUID : String
  requireProjectSyncTarget : JobDefinition → Except String Unit
  isExecutable : String → Bool
  requireScheduleService : ScheduleServiceRef → Except String Unit
  admitJobRun : Schedule → DurableJobCaller → JobTrigger → Option ScheduleServiceRef →
    Except String RunAdmission
  instantiateJobRun : Schedule → ℚ → DurableJobCaller → JobTrigger → Option ScheduleServiceRef →
    Except String RunAdmission
  redactLaunchText : String → String
  announce : Schedule → String → Except String Unit

inductive AuthorizationChoice where
  | session | service
  deriving DecidableEq

def ScheduleAuthorization.choice : ScheduleAuthorization → AuthorizationChoice
  | .session _ _ _ => .session
  | .service _ _ _ _ _ _ => .service

inductive ScheduleOp where
  | create | enable | disable | revoke | update
  deriving DecidableEq

structure ScheduleRequest where
  op : ScheduleOp
  scope : JobScope
  caller : DurableJobCaller
  id : String
  jobId : Option String
  rule : Option ScheduleRule
  expectedRevision : Option ℚ
  target : Option ScheduleTarget
  authorization : Option AuthorizationChoice

structure Occurrence where
  schedule : JobScope × String
  generation : ℚ
  dueAt : String
  rule : ScheduleRule
  overlap : Bool
  nextDue : Option String

structure Planner where
  schedules : List Schedule
  log : List Occurrence

def Schedule.plan (schedule : Schedule) : SchedulePlan :=
  ⟨schedule.id, schedule.scope, schedule.jobId, schedule.target⟩

variable (env : ScheduleEnv)

def authorizeSchedule (scope : JobScope) (jobId : String)
    (caller : DurableJobCaller) (write : Bool) : Except String JobDefinition :=
  match env.getJobDefinition scope jobId with
  | none => .error "Schedule Job definition is missing."
  | some job => do
    env.authorizeDefinition job caller write
    .ok job

section

variable [ScheduleHost]

/-- The instant through which the occurrences of a schedule are processed. -/
def Schedule.through (schedule : Schedule) : ℤ := (schedule.processedThrough.map timeOf).getD 0

def fence (schedule : Schedule) (now : ℤ) : ℤ := max now schedule.through

def saveSchedule (schedules : List Schedule) (schedule : Schedule) :
    Except String (List Schedule) := do
  checkSchedule schedule
  .ok (KeyedTable.save Schedule.key schedules schedule)

def serviceGrant (plan : SchedulePlan) (job : JobDefinition)
    (issuer : ServiceIssuer) (now : ℤ) : Except String ScheduleAuthorization := do
  let grantedAt ← toISOString now
  let binding ← env.scheduleServiceBinding plan job env.randomUUID
  .ok (.service env.randomUUID false binding job.revision issuer grantedAt)

def sessionGrant (plan : SchedulePlan) (job : JobDefinition)
    (caller : DurableJobCaller) : Except String ScheduleAuthorization := do
  refuse (caller.scope = .user)
    "Public Schedule creation/rebinding requires explicit authorization=service."
  let binding ← env.jobAuthorityBinding caller plan.scope
  .ok (.session caller binding job.revision)

/-- A service grant stays as long as its binding does. -/
def keptGrant (plan : SchedulePlan) (job : JobDefinition) (grantId : String)
    (revoked : Bool) (binding : String) (previous : ScheduleAuthorization) :
    Except String ScheduleAuthorization := do
  let current ← env.scheduleServiceBinding plan job grantId
  refuse (revoked = true ∨ binding ≠ current)
    "Changed or revoked service authority requires explicit authorization=service."
  .ok previous

def revisionDiffers (plan : SchedulePlan) (job : JobDefinition) : Bool :=
  match plan.target with
  | .existingJob => false
  | .newJob definitionRevision => definitionRevision != job.revision

def authorization (plan : SchedulePlan) (job : JobDefinition)
    (caller : DurableJobCaller) (now : ℤ) (requested : Option AuthorizationChoice)
    (previous : Option ScheduleAuthorization) : Except String ScheduleAuthorization := do
  refuse (revisionDiffers plan job = true)
    "Source Job revision changed; select its exact available revision."
  match requested, previous with
  | some .service, _ => serviceGrant env plan job (.caller caller) now
  | none, some (.service grantId revoked binding jobRevision grantedBy grantedAt) =>
    keptGrant env plan job grantId revoked binding
      (.service grantId revoked binding jobRevision grantedBy grantedAt)
  | _, _ => sessionGrant env plan job caller

def requireRule (rule : Option ScheduleRule) : Except String ScheduleRule :=
  match rule with
  | none => .error "Unknown Schedule rule."
  | some rule => .ok rule

def requireDue (due : Option String) (message : String) : Except String String :=
  match due with
  | none => .error message
  | some due => .ok due

def newSchedule (request : ScheduleRequest) (job : JobDefinition)
    (jobId : String) (now : ℤ) : Except String Schedule := do
  env.authorizeDefinition job request.caller true
  let rule ← requireRule request.rule
  let due ← nextScheduleDue rule now
  let due ← requireDue due "A new once Schedule must be in the future."
  let target := request.target.getD .existingJob
  validateScheduleTarget target
  let grant ← authorization env ⟨request.id, request.scope, jobId, target⟩ job request.caller now
    request.authorization none
  let created ← toISOString now
  .ok ⟨1, request.id, request.scope, jobId, target, rule, 1, 1, .enabled, some due, none, grant, none,
    none, none, created, created⟩

def differs (previous : Schedule) (request : ScheduleRequest) (jobId : String) : Bool :=
  previous.jobId != jobId || request.rule != some previous.rule ||
    previous.target != request.target.getD .existingJob ||
    request.authorization.any fun choice => previous.authorization.choice != choice

def createSchedule (schedules : List Schedule) (request : ScheduleRequest)
    (now : ℤ) : Except String (List Schedule) := do
  let jobId ← requireDue request.jobId "An explicit safe Schedule/Job id is required."
  scheduleId jobId
  match env.getJobDefinition request.scope jobId with
  | none => .error "Schedule Job definition is missing."
  | some job => do
    refuse (job.builtin = true)
      "Builtin Job has one installed Schedule; manage that Schedule instead."
    match KeyedTable.get Schedule.key schedules (request.scope, request.id) with
    | some previous => do
      let _ ← authorizeSchedule env previous.scope previous.jobId request.caller false
      refuse (differs previous request jobId = true)
        "Schedule id already exists; use update with its revision."
      .ok schedules
    | none => do
      let schedule ← newSchedule env request job jobId now
      saveSchedule schedules schedule

/-- The due instant of an edit: `enable` keeps that of a once rule. -/
def editedDue (request : ScheduleRequest) (previous : Schedule) (rule : ScheduleRule) (after : ℤ) :
    Except String (Option String) :=
  if request.op = .enable ∧ rule.isOnce = true then .ok previous.nextDue
  else nextScheduleDue rule after

def editedRule (request : ScheduleRequest) (previous : Schedule) : Except String ScheduleRule :=
  if request.op = .update then requireRule request.rule else .ok previous.rule

/-- `enable` and `update`. -/
def planSchedule (previous : Schedule) (request : ScheduleRequest) (now : ℤ) :
    Except String Schedule := do
  refuse (request.op = .enable ∧ (previous.state = .completed ∨ previous.state = .retired))
    "Completed/retired Schedule requires an explicit future rule update."
  let isUpdate : Bool := request.op = .update
  let jobId := if isUpdate then request.jobId.getD previous.jobId else previous.jobId
  scheduleId jobId
  let rule ← editedRule request previous
  let target := if isUpdate then request.target.getD previous.target else previous.target
  validateScheduleTarget target
  let job ← authorizeSchedule env previous.scope jobId request.caller true
  refuse (job.builtin = true) "Builtin Job has one installed Schedule."
  let due ← editedDue request previous rule (fence previous now)
  let nextDue ← requireDue due "Rule must have a future occurrence."
  let through ← toISOString (fence previous now)
  let grant ← authorization env ⟨previous.id, previous.scope, jobId, target⟩ job request.caller now
    request.authorization (some previous.authorization)
  .ok { previous with
    jobId := jobId
    target := target
    rule := rule
    nextDue := some nextDue
    state := if request.op = .enable ∨ previous.state = .enabled then .enabled else .disabled
    generation := previous.generation + if isUpdate then 1 else 0
    processedThrough := some through
    authorization := grant
    reason := none }

def isRevocable (previous : Schedule) : Bool := previous.authorization.isService

def editSchedule (previous : Schedule) (request : ScheduleRequest) (now : ℤ) :
    Except String Schedule :=
  match request.op with
  | .disable => .ok { previous with
      state := .disabled
      reason := some "Explicitly disabled; no future admission. Existing Runs are unchanged." }
  | .revoke => do
    refuse (isRevocable previous = false)
      "Only a service grant can be revoked; disable Session plans."
    .ok { previous with
      state := .disabled
      authorization := previous.authorization.revoke
      reason := some ("Service authorization explicitly revoked; future admission and " ++
        "not-yet-started service Runs are denied.") }
  | .enable | .update => planSchedule env previous request now
  | .create => .error "Unknown Schedule operation: create."

def isTooFrequent : ScheduleRule → Bool
  | .once _ => true
  | .interval _ everyMs => decide (everyMs < 60000)
  | .cron _ _ => false

def syncEnabled (op : ScheduleOp) (builtin : BuiltinSchedule) : Bool :=
  match op with
  | .enable => true
  | .disable | .revoke => false
  | _ => builtin.enabled

/-- The authority of an installed schedule, which a disabled one loses. -/
def syncAuthorization (previous next : Schedule) (op : ScheduleOp)
    (enabled : Bool) (now : ℤ) : Except String ScheduleAuthorization :=
  if enabled = false then .ok previous.authorization.revoke
  else
    match env.getJobDefinition .global previous.jobId with
    | none => .error "Builtin definition missing."
    | some job => do
      env.requireProjectSyncTarget job
      match previous.authorization with
      | .service _ revoked _ _ _ _ =>
        if revoked = true ∨ op = .enable then serviceGrant env next.plan job .projectSync now
        else .ok previous.authorization
      | .session _ _ _ => .ok previous.authorization

/-- `updateProjectSync`: the edits of an installed schedule. -/
def updateProjectSync (previous : Schedule) (builtin : BuiltinSchedule)
    (request : ScheduleRequest) (now : ℤ) : Except String Schedule := do
  refuse (previous.authorization.isService = false) "Not a builtin Schedule."
  let rule := request.rule.getD previous.rule
  validateScheduleRule rule
  refuse (isTooFrequent rule = true)
    "Builtin sync requires a recurring rule (interval at least 60000ms, or five-field cron)."
  let enabled := syncEnabled request.op builtin
  let updatedAt ← toISOString now
  let nextDue ← nextScheduleDue rule (fence previous now)
  let through ← toISOString (fence previous now)
  let next : Schedule := { previous with
    builtin := some ⟨builtin.projectId, enabled⟩
    rule := rule
    state := if enabled then .enabled else .disabled
    revision := previous.revision + 1
    generation := previous.generation + if request.op = .update then 1 else 0
    updatedAt := updatedAt
    nextDue := nextDue
    processedThrough := some through
    reason := if enabled then none else some "Project sync disabled by user." }
  let grant ← syncAuthorization env previous next request.op enabled now
  .ok { next with authorization := grant }

def changeSchedule (previous : Schedule) (request : ScheduleRequest) (now : ℤ) :
    Except String Schedule :=
  match previous.builtin with
  | some builtin => do
    refuse (request.jobId ≠ none ∨ request.target ≠ none ∨ request.authorization ≠ none)
      "Builtin Schedule target and service registration cannot be overridden."
    updateProjectSync env previous builtin request now
  | none => do
    let next ← editSchedule env previous request now
    let updatedAt ← toISOString now
    .ok { next with revision := previous.revision + 1, updatedAt := updatedAt }

/-- `createScheduleControl(store)(request, now)`. -/
def scheduleControl (schedules : List Schedule) (request : ScheduleRequest)
    (now : ℤ) : Except String (List Schedule) := do
  env.authorizeScope request.scope request.caller
  scheduleId request.id
  if request.op = .create then createSchedule env schedules request now
  else
    match KeyedTable.get Schedule.key schedules (request.scope, request.id) with
    | none => .error "Schedule not found."
    | some previous => do
      let _ ← authorizeSchedule env previous.scope previous.jobId request.caller false
      refuse (some previous.revision ≠ request.expectedRevision)
        "Schedule revision changed; read it before modifying."
      let next ← changeSchedule env previous request now
      saveSchedule schedules next

/-- The text of a generation, which is a positive integer. -/
def generationText (generation : ℚ) : String := toString generation.num

variable (schedule : Schedule)

def scheduleTrigger (dueAt : String) : JobTrigger :=
  ⟨.schedule, schedule.id ++ ":" ++ generationText schedule.generation ++ ":" ++ dueAt⟩

def passService : Option ScheduleServiceRef :=
  match schedule.authorization with
  | .service grantId _ _ _ _ _ => some ⟨schedule.id, grantId⟩
  | .session _ _ _ => none

def passCaller : DurableJobCaller :=
  match schedule.authorization with
  | .session caller _ _ => caller
  | .service _ _ _ _ _ _ => .public

def checkSession : Except String Unit :=
  match schedule.authorization with
  | .session caller binding _ => do
    let current ← env.jobAuthorityBinding caller schedule.scope
    refuse (current ≠ binding)
      "Schedule authority or Job revision changed; inspect and explicitly enable."
  | .service _ _ _ _ _ _ => .ok ()

def dispatch (env : ScheduleEnv) (schedule : Schedule) (dueAt : String) :
    Except String RunAdmission := do
  whenPresent (passService schedule) env.requireScheduleService
  let job ← authorizeSchedule env schedule.scope schedule.jobId (passCaller schedule) true
  refuse (job.revision ≠ schedule.authorization.jobRevision)
    "Schedule authority or Job revision changed; inspect and explicitly enable."
  checkSession env schedule
  match schedule.target with
  | .existingJob =>
    env.admitJobRun schedule (passCaller schedule) (scheduleTrigger schedule dueAt)
      (passService schedule)
  | .newJob definitionRevision =>
    env.instantiateJobRun schedule definitionRevision (passCaller schedule)
      (scheduleTrigger schedule dueAt) (passService schedule)

/-- The due instant after a dispatch: an overlap of a once rule keeps it. -/
def followingDue (dueAt : String) (overlap : Bool) (after : ℤ) :
    Except String (Option String) :=
  if overlap = true ∧ schedule.rule.isOnce = true then .ok (some dueAt)
  else nextScheduleDue schedule.rule after

def isUnavailable : Bool :=
  match schedule.scope with
  | .global => false
  | .task taskId => !env.isExecutable taskId

def dispatchAttempt (admission : RunAdmission) (time dueAt : String) : ScheduleAttempt :=
  ⟨time, dueAt, if admission.overlap then .overlap else .admitted, some admission.run.id,
    some admission.run.definitionId, some schedule.generation, none⟩

/-- What a dispatch leaves as the schedule. -/
def dispatched (admission : RunAdmission) (dueAt : String) (now : ℤ) :
    Except String Schedule := do
  let nextDue ← followingDue schedule dueAt admission.overlap (fence schedule now)
  let through ← toISOString (fence schedule now)
  let time ← toISOString now
  .ok { schedule with
    nextDue := nextDue
    state := if nextDue = none then .completed else .enabled
    processedThrough := some through
    revision := schedule.revision + 1
    lastAttempt := some (dispatchAttempt schedule admission time dueAt)
    updatedAt := time }

/-- The transaction of one due schedule. -/
def admitDue (planner : Planner) (candidate : Schedule) (now : ℤ) : Except String Planner :=
  match KeyedTable.get Schedule.key planner.schedules candidate.key with
  | none => .ok planner
  | some schedule =>
    match schedule.nextDue with
    | none => .ok planner
    | some dueAt =>
      if schedule.state ≠ .enabled ∨ (∃ time ∈ JsHost.dateParse dueAt, now < time) then .ok planner
      else if isUnavailable env schedule = true then do
        let updatedAt ← toISOString now
        let schedules ← saveSchedule planner.schedules { schedule with
          state := .needsAttention
          revision := schedule.revision + 1
          reason := some "Task execution unavailable; pending intent retained."
          updatedAt := updatedAt }
        .ok { planner with schedules := schedules }
      else do
        let admission ← dispatch env schedule dueAt
        let next ← dispatched schedule admission dueAt now
        let schedules ← saveSchedule planner.schedules next
        .ok ⟨schedules, planner.log ++ [⟨schedule.key, schedule.generation, dueAt, schedule.rule,
          admission.overlap, next.nextDue⟩]⟩

/-- What a failed dispatch leaves: the schedule waits for attention. -/
def blockSchedule (planner : Planner) (candidate : Schedule) (now : ℤ)
    (message : String) : Except String Planner :=
  let reason := env.redactLaunchText message
  match KeyedTable.get Schedule.key planner.schedules candidate.key with
  | none => .ok planner
  | some current =>
    if current.state ≠ .enabled ∨ current.revision ≠ candidate.revision then .ok planner
    else do
      let time ← toISOString now
      let schedules ← saveSchedule planner.schedules { current with
        state := .needsAttention
        reason := some reason
        revision := current.revision + 1
        lastAttempt := some ⟨time, current.nextDue.getD "", .blocked, none, none,
          some current.generation, some reason⟩
        updatedAt := time }
      env.announce current reason
      .ok { planner with schedules := schedules }

/-- The due schedules one after another; a failure to record a failure ends the pass. -/
def reconcileDue (env : ScheduleEnv) (now : ℤ) : Planner → List Schedule → Planner
  | planner, [] => planner
  | planner, candidate :: rest =>
    match admitDue env planner candidate now with
    | .ok next => reconcileDue env now next rest
    | .error message =>
      match blockSchedule env planner candidate now message with
      | .ok next => reconcileDue env now next rest
      | .error _ => planner

def scopeKey : JobScope → String
  | .global => "global"
  | .task taskId => taskId

def dueOrder : List String :=
  [(schedule.lastAttempt.map ScheduleAttempt.time).getD "", schedule.nextDue.getD "",
    scopeKey schedule.scope, schedule.id]

def listDueSchedules (schedules : List Schedule) (now : String) (limit : ℕ) : List Schedule :=
  ((schedules.filter fun schedule => schedule.state = .enabled ∧
      ∃ due ∈ schedule.nextDue, due ≤ now).mergeSort
    fun first second => decide (dueOrder first ≤ dueOrder second)).take limit

def reconcileSchedules (env : ScheduleEnv) (planner : Planner) (now : ℤ) (limit : ℕ) :
    Except String Planner := do
  let time ← toISOString now
  .ok (reconcileDue env now planner (listDueSchedules planner.schedules time limit))

/-- A call of the Controller, with what the rest of the Controller answers to it. -/
inductive ScheduleCall where
  | control (env : ScheduleEnv) (request : ScheduleRequest) (now : ℤ)
  | reconcile (env : ScheduleEnv) (now : ℤ) (limit : ℕ)

def ScheduleCall.apply (planner : Planner) : ScheduleCall → Except String Planner
  | .control env request now => do
    let schedules ← scheduleControl env planner.schedules request now
    .ok { planner with schedules := schedules }
  | .reconcile env now limit => reconcileSchedules env planner now limit

end
