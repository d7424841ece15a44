import Yui.CommandProgram
import Yui.ProviderBinding
import Yui.WorkMailboxQueue

/-!
# Delivery of an active Role run

One pass of the scheduler over an active run. The binding's turn, the last `turn-submit` error of the run
and the retry record decide whether its input is submitted. After the submission the pass records what it
learned, settles the mailbox dispatch or fails the run.
-/

open Program WorkMailbox

namespace RoleRunDelivery

structure ObservedTurn where
  runId : Option String
  attemptId : String
  status : ProviderTurnStatus
  terminalReason : Option String
  deriving DecidableEq

structure BindingRetry where
  status : ProviderRetryStatus
  successorRunId : Option String
  successorReviewRoundId : Option String
  nextEligibleAt : String
  reason : Option String

structure RoleBinding where
  owner : ProviderAuthorityOwner
  run : Option ObservedTurn
  retry : Option BindingRetry

inductive RegistrationDisposition where
  | committed | notCommitted | unknown
  deriving DecidableEq

/-- The payload of a `runtime.agent-error` event. -/
structure AgentErrorRecord where
  runId : String
  roleName : String
  source : AgentErrorSource
  phase : AgentErrorPhase
  message : String
  inputDisposition : AgentErrorInputDisposition
  sessionDisposition : Option AgentErrorSessionDisposition
  registrationDisposition : Option RegistrationDisposition
  errorName : Option String
  causeName : Option String
  hostState : Option String
  attemptId : String
  deriving DecidableEq

inductive TaskEvent where
  | agentError (error : AgentErrorRecord)
  | sessionPrepared (runId nativeSessionId : String)
  | other (type : String)
  deriving DecidableEq

structure ProviderDeliveryFailure where
  /-- `formatProviderDeliveryFailure` of the failure. -/
  formatted : String
  detail : String
  phase : AgentErrorPhase
  inputDisposition : AgentErrorInputDisposition
  sessionDisposition : Option AgentErrorSessionDisposition
  registrationDisposition : Option RegistrationDisposition
  errorName : Option String
  causeName : Option String
  hostState : Option String
  attemptId : Option String

inductive RoleDeliveryStatus where
  | sent | alreadySent | pending | busy | rejected | deliveryUnknown | unavailable
  deriving DecidableEq

def RoleDeliveryStatus.text : RoleDeliveryStatus → String
  | .sent => "sent"
  | .alreadySent => "already-sent"
  | .pending => "pending"
  | .busy => "busy"
  | .rejected => "rejected"
  | .deliveryUnknown => "delivery-unknown"
  | .unavailable => "unavailable"

structure RoleDeliveryReport where
  status : RoleDeliveryStatus
  failure : Option ProviderDeliveryFailure

/-- What the delivery asks of a thrown value. -/
inductive ErrorClass where
  | roleDisabled | lifecycleBusy | launchFailure | error | notAnError
  | launchError (retryable : Bool) (reason : Option String)
  deriving DecidableEq

structure Thrown where
  cls : ErrorClass
  name : String
  message : String
  causeName : Option String

def thrown (message : String) : Thrown := ⟨.error, "Error", message, none⟩

inductive LaunchMode where
  | fresh | resume
  deriving DecidableEq

structure RoleSession (E : Type) where
  agentId : String
  adapterId : String
  nativeSessionId : Option String
  active : Bool
  effective : E

structure EffectiveLaunch (E : Type) where
  agentId : String
  adapterId : String
  snapshot : E

inductive RunPurpose where
  | execution | review | planning
  deriving DecidableEq

structure SchedulerRun (E : Type) where
  id : String
  taskId : String
  roleName : String
  purpose : RunPurpose
  reviewRoundId : Option String
  mode : LaunchMode
  effective : EffectiveLaunch E

structure SchedulerRole where
  name : String
  taskId : String
  enabled : Option Bool

/-- What a pass is called with and finds at its start besides the binding and the events. -/
structure Pass (E : Type) where
  run : SchedulerRun E
  role : SchedulerRole
  taskStatus : String
  hasWorkspace : Bool
  /-- `isTaskOwnedWorkspace` of the Task's workspace. -/
  ownedWorkspace : Bool
  mailbox : Option Mailbox
  existingSession : Option (RoleSession E)
  now : ℤ
  randomUUID : String

structure Facts where
  binding : Option RoleBinding
  events : List TaskEvent

structure LaunchPreflight (E : Type) where
  taskId : Option String
  roleName : String
  runId : Option String
  agentId : String
  adapterId : String
  effective : E
  nativeSessionId : Option String

inductive FailureReason where
  | runtimeFailed | startupFailed

inductive FailureDisposition where
  | failed | stateChanged
  deriving DecidableEq

inductive Command (E : Type) where
  | readFacts (pass : Pass E)
  | readRunContextSnapshot
  | prepareRoleSession (mode : LaunchMode) (nativeSessionId : Option String)
  | startHost
  | saveRoleRunPrepared (session : Option (RoleSession E))
  | waitUntilReady
  | sendOnce (receiptId : String)
  | awaitReport
  | recordAgentError (error : AgentErrorRecord)
  | settleRoleRunDispatch (expected : Option RoleRunDispatchToken)
  | saveRoleRunDeliveryFailure (reason : FailureReason) (summary : String)
  | forgetPrepared

/-- `prepareRoleSession` answers with the preflight of its `beforeHostStart` callback, if it makes the call,
and `startHost` with the Session of the prepared delivery, if it names one. -/
def Command.Answer {E : Type} : Command E → Type
  | .readFacts _ => Facts
  | .prepareRoleSession _ _ => Option (LaunchPreflight E)
  | .startHost => Option (Option (RoleSession E))
  | .waitUntilReady => Option (RoleSession E)
  | .awaitReport => RoleDeliveryReport
  | .settleRoleRunDispatch _ => RoleRunDispatchSettlement
  | .saveRoleRunDeliveryFailure _ _ => FailureDisposition
  | _ => Unit

inductive DeliveryStatus where
  | delivered | alreadyDelivered | skipped | failed

inductive SkipReason where
  | workspaceNotReady | launchFailed | notReady | runtimeUnavailable | writerAttached | deliveryUncertain

structure DeliveryResult where
  taskId : String
  roleName : String
  runId : String
  status : DeliveryStatus
  reason : Option SkipReason
  error : Option String
  terminalized : Bool

abbrev Call (E α : Type) := Program (Command E) Command.Answer Thrown α

def roleDisabledReason (role : SchedulerRole) : String :=
  "Role " ++ role.taskId ++ "/" ++ role.name ++ " is disabled. Use yui task role enable " ++ role.taskId ++
    " " ++ role.name ++ " to allow new execution; existing execution is not stopped."

def SchedulerRole.isEnabled (role : SchedulerRole) : Bool := role.enabled != some false

def isSchedulerPlanningDraft (taskStatus : String) (purpose : RunPurpose) : Bool :=
  decide (purpose = .planning) && decide (taskStatus = "draft")

section Pass

variable {E : Type} (pass : Pass E)

def Pass.isWorkspaceReady : Bool :=
  if isSchedulerPlanningDraft pass.taskStatus pass.run.purpose = true then !pass.hasWorkspace
  else pass.ownedWorkspace

def Pass.identity : RoleRunDispatchIdentity := ⟨pass.run.taskId, pass.role.name, pass.run.id⟩

/-- `formatRunReceiptId`. -/
def SchedulerRun.receiptId (run : SchedulerRun E) : String := "turn:" ++ run.taskId ++ "/" ++ run.id

def Pass.result (status : DeliveryStatus) (reason : Option SkipReason) (error : Option String) : DeliveryResult :=
  ⟨pass.run.taskId, pass.role.name, pass.run.id, status, reason, error, false⟩

def Pass.skip (reason : SkipReason) (error : Option String) : DeliveryResult :=
  pass.result .skipped (some reason) error

/-- The retry names this run, or its review round, as the successor. -/
def BindingRetry.isFor (retry : BindingRetry) (run : SchedulerRun E) : Bool :=
  decide (retry.successorRunId = some run.id) ||
    (retry.successorReviewRoundId.isSome && decide (retry.successorReviewRoundId = run.reviewRoundId))

def retryStatusText : ProviderRetryStatus → String
  | .waiting => "waiting"
  | .inFlight => "in-flight"
  | .recovered => "recovered"
  | .cancelled => "cancelled"
  | .exhausted => "exhausted"
  | .needsAttention => "needs-attention"

def closedStatus : ProviderRetryStatus → Bool
  | .cancelled | .exhausted | .needsAttention => true
  | _ => false

/-- The turn of the binding, when it is a turn of the run. -/
def ownTurn (runId : String) (binding : Option RoleBinding) : Option ObservedTurn :=
  (binding.bind RoleBinding.run).filter fun turn => decide (turn.runId = some runId)

def closedRetry (binding : Option RoleBinding) : Option BindingRetry :=
  (binding.bind RoleBinding.retry).filter fun retry => retry.isFor pass.run && closedStatus retry.status &&
    decide ((binding.bind RoleBinding.run).bind ObservedTurn.runId ≠ some pass.run.id)

/-- The waiting retry of the run is not eligible yet; no comparison with an invalid date holds. -/
def retryWaits [JsHost] (binding : Option RoleBinding) : Bool :=
  (binding.bind RoleBinding.retry).any fun retry => decide (retry.status = .waiting) && retry.isFor pass.run &&
    (JsHost.dateParse retry.nextEligibleAt).any fun eligible => decide (pass.now < eligible)

def writerAttached (binding : Option RoleBinding) : Bool :=
  binding.any fun binding => decide (binding.owner = .human ∨ binding.owner = .unknown)

def inFlightStatus : ProviderTurnStatus → Bool
  | .submitting | .accepted | .deliveryUnknown => true
  | _ => false

/-- The turn in flight is not one of the run. -/
def otherTurnInFlight (runId : String) (binding : Option RoleBinding) : Option ObservedTurn :=
  if ownTurn runId binding = none then
    (binding.bind RoleBinding.run).filter fun turn => inFlightStatus turn.status
  else none

def isSubmitError (runId roleName : String) (error : AgentErrorRecord) : Bool :=
  decide (error.runId = runId) && decide (error.roleName = roleName) && decide (error.phase = .turnSubmit)

def TaskEvent.submitError? (runId roleName : String) : TaskEvent → Option AgentErrorRecord
  | .agentError error => if isSubmitError runId roleName error = true then some error else none
  | _ => none

def lastSubmitError (runId roleName : String) (events : List TaskEvent) : Option AgentErrorRecord :=
  (events.filterMap (TaskEvent.submitError? runId roleName)).getLast?

def AgentErrorRecord.deferredBeforeRegistration (error : AgentErrorRecord) : Bool :=
  decide (error.inputDisposition = .notAccepted) &&
    decide (error.registrationDisposition = some .notCommitted) &&
    decide (error.errorName = some "ProviderTurnBusyError")

/-- The initial receipt, or one of a new transport attempt. -/
def attemptId (turn : Option ObservedTurn) (error : Option AgentErrorRecord) : String :=
  if turn.any (fun turn => decide (turn.status = .deferred)) = true ∨
      error.any AgentErrorRecord.deferredBeforeRegistration = true then
    pass.run.receiptId ++ "/attempt/" ++ pass.randomUUID
  else pass.run.receiptId

def preparedHere (events : List TaskEvent) : Bool :=
  (pass.existingSession.bind RoleSession.nativeSessionId).any fun native =>
    decide (TaskEvent.sessionPrepared pass.run.id native ∈ events)

def launchMode (turn : Option ObservedTurn) (events : List TaskEvent) : LaunchMode :=
  if (turn.any (fun turn => decide (turn.status = .deferred)) = true ∨ preparedHere pass events = true) ∧
      (pass.existingSession.bind RoleSession.nativeSessionId).isSome = true then .resume
  else pass.run.mode

end Pass

/-- How the effective snapshots of two launches compare, or why one is invalid. -/
structure LaunchRules (E : Type) where
  sameEffectiveLaunch : E → E → Except Thrown Bool
  roleSessionMayContinue : E → E → Except Thrown Bool

section Sessions

variable {E : Type} (rules : LaunchRules E) (pass : Pass E)

def Pass.named (message : String) : Thrown :=
  thrown (message ++ ": " ++ pass.role.taskId ++ "/" ++ pass.role.name ++ ".")

def hasText (value : Option String) : Bool := value.any fun value => decide (JsText.trim value ≠ "")

def validateRoleSession (mode : LaunchMode) (session : Option (RoleSession E)) :
    Except Thrown (Option (RoleSession E)) :=
  match mode, session with
  | .fresh, none => .ok none
  | .resume, none => .error (pass.named "Ready Role session has no native session id")
  | mode, some session => do
    if hasText session.nativeSessionId = false then
      .error (pass.named "Ready Role session has no native session id")
    else if session.agentId ≠ pass.run.effective.agentId ∨
        session.adapterId ≠ pass.run.effective.adapterId then
      .error (pass.named "Ready Role session identity changed")
    else
      let compatible ← if mode = .resume then
          rules.roleSessionMayContinue session.effective pass.run.effective.snapshot
        else rules.sameEffectiveLaunch session.effective pass.run.effective.snapshot
      if compatible = false then
        .error (pass.named "Ready Role session effective snapshot changed")
      else if mode = .resume ∧
          session.nativeSessionId ≠ pass.existingSession.bind RoleSession.nativeSessionId then
        .error (pass.named "Role resume changed the fixed native session id")
      else
        .ok (some { session with
          active := true
          effective := match mode, pass.existingSession with
            | .resume, some existing => existing.effective
            | _, _ => session.effective })

def requireResumeSession : Except Thrown (Option String) :=
  match pass.existingSession with
  | none => .error (pass.named "Role resume has no fixed native session")
  | some session => do
    if hasText session.nativeSessionId = false then
      .error (pass.named "Role resume has no fixed native session")
    else
      let compatible ← rules.roleSessionMayContinue session.effective pass.run.effective.snapshot
      if compatible = false then .error (pass.named "Role resume effective snapshot drifted")
      else .ok session.nativeSessionId

/-- The `beforeHostStart` callback. -/
def persistPreStartSession (mode : LaunchMode) (preflight : LaunchPreflight E) : Call E Unit := do
  if preflight.taskId ≠ some pass.run.taskId ∨ preflight.roleName ≠ pass.role.name ∨
      preflight.runId ≠ some pass.run.id then
    .raise (thrown ("Pre-start launch fence changed the active Role AgentRun: " ++ pass.run.taskId ++ "/" ++
      pass.role.name ++ "."))
  else
    let session ← Program.ofExcept (validateRoleSession rules pass mode
      (preflight.nativeSessionId.map fun native =>
        ⟨preflight.agentId, preflight.adapterId, some native, true, preflight.effective⟩))
    issue (Command.saveRoleRunPrepared session)

/-- `prepareRoleSession` up to the start of the Host. -/
def prepareHost (mode : LaunchMode) : Call E Unit := do
  let _ ← issue Command.readRunContextSnapshot
  let nativeSessionId ← Program.ofExcept
    (if mode = .resume then requireResumeSession rules pass else .ok none)
  let preflight : Option (LaunchPreflight E) ←
    issue (Command.prepareRoleSession mode nativeSessionId)
  match preflight with
  | none => pure ()
  | some preflight => persistPreStartSession rules pass mode preflight

/-- Everything before the submission. -/
def prepareDelivery (mode : LaunchMode) : Call E Unit := do
  let _ ← prepareHost rules pass mode
  let prepared : Option (Option (RoleSession E)) ← issue Command.startHost
  let preparedSession ← Program.ofExcept (match prepared with
    | none => .ok pass.existingSession
    | some session => validateRoleSession rules pass mode session)
  let _ ← issue (Command.saveRoleRunPrepared preparedSession)
  let ready : Option (RoleSession E) ← issue Command.waitUntilReady
  let readySession ← Program.ofExcept (validateRoleSession rules pass mode ready)
  issue (Command.saveRoleRunPrepared readySession)

end Sessions

section Outcome

variable {E : Type} (pass : Pass E)

def failRunDelivery (reason : FailureReason) (summary : String) : Call E DeliveryResult := do
  let disposition : FailureDisposition ← issue (Command.saveRoleRunDeliveryFailure reason summary)
  pure { pass.result (if disposition = .failed then .failed else .skipped) (some .launchFailed)
    (some summary) with terminalized := decide (disposition = .failed) }

def failureRecord (receiptId message : String) (phase : AgentErrorPhase)
    (inputDisposition : AgentErrorInputDisposition) (failure : Option ProviderDeliveryFailure) :
    AgentErrorRecord where
  runId := pass.run.id
  roleName := pass.role.name
  source := .host
  phase := phase
  message := message
  inputDisposition := inputDisposition
  sessionDisposition := failure.bind ProviderDeliveryFailure.sessionDisposition
  registrationDisposition := failure.bind ProviderDeliveryFailure.registrationDisposition
  errorName := failure.bind ProviderDeliveryFailure.errorName
  causeName := failure.bind ProviderDeliveryFailure.causeName
  hostState := failure.bind ProviderDeliveryFailure.hostState
  attemptId := receiptId

/-- The record of an exception before or after the submission. -/
def caughtRecord (receiptId : String) (mode : LaunchMode) (submitted : Bool) (error : Thrown) : AgentErrorRecord where
  runId := pass.run.id
  roleName := pass.role.name
  source := match error.cls with
    | .launchError _ _ | .launchFailure => .host
    | _ => .yui
  phase := if submitted = true then .turnSubmit
    else if mode = .fresh then .sessionStart else .sessionRestore
  message := error.message
  inputDisposition := if submitted = true then .unknown else .notAccepted
  sessionDisposition := none
  registrationDisposition := if submitted = true then none else some .notCommitted
  errorName := if error.cls = .notAnError then none else some error.name
  causeName := error.causeName
  hostState := none
  attemptId := receiptId

/-- The Host's own account of the failure, or that it gave none. -/
def failureCause (report : RoleDeliveryReport) : String :=
  match report.failure with
  | none => "The Agent Host did not deliver the managed AgentRun (" ++ report.status.text ++
      ") and reported no cause."
  | some failure => failure.formatted

def recordBusy (receiptId : String) (failure : Option ProviderDeliveryFailure) : Call E Unit :=
  match failure with
  | none => .done ()
  | some failure =>
    if failure.inputDisposition = .notAccepted then
      issue (Command.recordAgentError
        (failureRecord pass receiptId failure.detail .turnSubmit .notAccepted (some failure)))
    else .done ()

/-- What follows the report of `sendOnce`. -/
def conclude (receiptId : String) (token : Option RoleRunDispatchToken) (report : RoleDeliveryReport) :
    Call E DeliveryResult :=
  match report.status with
  | .pending => do
    let _ ← issue Command.forgetPrepared
    pure (pass.skip .notReady none)
  | .busy => do
    let _ ← recordBusy pass receiptId report.failure
    let _ ← issue Command.forgetPrepared
    pure (pass.skip .notReady none)
  | .unavailable => do
    let _ ← issue Command.forgetPrepared
    pure (pass.skip .runtimeUnavailable none)
  | .rejected => do
    let _ ← issue Command.forgetPrepared
    let _ ← issue (Command.recordAgentError (failureRecord pass receiptId (failureCause report)
      ((report.failure.map ProviderDeliveryFailure.phase).getD .turnSubmit)
      ((report.failure.map ProviderDeliveryFailure.inputDisposition).getD .notAccepted) report.failure))
    failRunDelivery pass .runtimeFailed (failureCause report)
  | .deliveryUnknown => do
    let _ ← issue Command.forgetPrepared
    let _ ← issue (Command.recordAgentError (failureRecord pass receiptId (failureCause report)
      ((report.failure.map ProviderDeliveryFailure.phase).getD .turnSubmit)
      ((report.failure.map ProviderDeliveryFailure.inputDisposition).getD .unknown) report.failure))
    pure (pass.skip .deliveryUncertain (some (failureCause report)))
  | .sent | .alreadySent => do
    let _ ← issue Command.forgetPrepared
    let _ ← issue (Command.settleRoleRunDispatch token)
    pure (pass.result (if report.status = .sent then .delivered else .alreadyDelivered) none none)

/-- After the submission the input stays fenced, before it the run fails. -/
def dismiss (submitted : Bool) (error : Thrown) : Call E DeliveryResult := do
  let _ ← issue Command.forgetPrepared
  if submitted = true then pure (pass.skip .deliveryUncertain (some error.message))
  else failRunDelivery pass .startupFailed error.message

/-- The catch block. -/
def caught (receiptId : String) (mode : LaunchMode) (submitted : Bool) (error : Thrown) :
    Call E DeliveryResult := do
  if submitted = false ∧ error.cls = .roleDisabled then
    let _ ← issue Command.forgetPrepared
    pure (pass.skip .notReady (some error.message))
  else
    let _ ← issue (Command.recordAgentError (caughtRecord pass receiptId mode submitted error))
    match error.cls with
    | .lifecycleBusy => pure (pass.skip .runtimeUnavailable (some error.message))
    | .launchError true reason => pure (pass.skip
        (if reason = some "writable-client" then .writerAttached else .runtimeUnavailable)
        (some error.message))
    | _ => dismiss pass submitted error

variable (rules : LaunchRules E)

/-- The submission and what follows it. -/
def submit (receiptId : String) (token : Option RoleRunDispatchToken) : Call E DeliveryResult := do
  let _ ← issue (Command.sendOnce receiptId)
  let report : RoleDeliveryReport ← issue Command.awaitReport
  conclude pass receiptId token report

/-- The try block with its catch block. -/
def attemptDelivery (receiptId : String) (mode : LaunchMode) (token : Option RoleRunDispatchToken) :
    Call E DeliveryResult := do
  let prepared : Option DeliveryResult ←
    ((prepareDelivery rules pass mode).bind fun _ => .done none).handle fun error =>
      (caught pass receiptId mode false error).bind fun result => .done (some result)
  match prepared with
  | some result => pure result
  | none => (submit pass receiptId token).handle (caught pass receiptId mode true)

/-- The decisions that the turn of the run in the binding permits. -/
def deliverTurn (facts : Facts) (token : Option RoleRunDispatchToken) : Call E DeliveryResult :=
  let turn := ownTurn pass.run.id facts.binding
  let lastError := lastSubmitError pass.run.id pass.role.name facts.events
  match turn.map ObservedTurn.status with
  | some .accepted => do
    let _ ← issue (Command.settleRoleRunDispatch token)
    pure (pass.skip .notReady none)
  | some .submitting => pure (pass.skip .notReady none)
  | some .deliveryUnknown => pure (pass.skip .deliveryUncertain (some
      ((turn.bind ObservedTurn.terminalReason).getD "Provider acceptance is unknown; no replay is permitted.")))
  | some .rejected => failRunDelivery pass .runtimeFailed
      ((turn.bind ObservedTurn.terminalReason).getD "Provider rejected the input.")
  | some .deferred => attemptDelivery pass rules (attemptId pass turn lastError)
      (launchMode pass turn facts.events) token
  | none =>
    -- Without a turn only the last error of the run can fence its input.
    if lastError.any (fun error => decide (error.inputDisposition = .unknown)) = true then
      pure (pass.skip .deliveryUncertain (lastError.map AgentErrorRecord.message))
    else attemptDelivery pass rules (attemptId pass turn lastError)
      (launchMode pass turn facts.events) token
  | some status => pure (pass.skip .deliveryUncertain (some
      ((turn.bind ObservedTurn.terminalReason).getD ("Provider Turn ended with status " ++ status.text ++
        " without recording its AgentRun result."))))

def deliverActiveRun [JsHost] : Call E DeliveryResult := do
  if pass.role.isEnabled = false then
    pure (pass.skip .notReady (some (roleDisabledReason pass.role)))
  else if pass.isWorkspaceReady = false then pure (pass.skip .workspaceNotReady none)
  else
    let token := captureRoleRunDispatch pass.mailbox pass.identity
    let facts : Facts ← issue (Command.readFacts pass)
    match closedRetry pass facts.binding with
    | some retry => failRunDelivery pass .runtimeFailed ("Scheduled Provider retry " ++
        retryStatusText retry.status ++ ": " ++ retry.reason.getD "not admitted")
    | none =>
      if retryWaits pass facts.binding = true then pure (pass.skip .notReady none)
      else if writerAttached facts.binding = true then pure (pass.skip .writerAttached none)
      else match otherTurnInFlight pass.run.id facts.binding with
      | some turn => pure (pass.skip
          (if turn.status = .deliveryUnknown then .deliveryUncertain else .notReady) none)
      | none => deliverTurn pass rules facts token

end Outcome

end RoleRunDelivery
