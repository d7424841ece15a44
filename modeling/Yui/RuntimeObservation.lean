import Yui.RuntimeFacts

/-!
# Runtime observations

`createRuntimeObservation` checks an observation against its kind and normalizes every text of its
fence and payload. The enumerations of the source are inductive types here, so that a check for a
supported value is a check that the value is present.
-/

open JsText Checked Runtime

inductive RuntimeObservationKind where
  | hostObserved | sessionStarted | sessionReady | sessionEnded | sessionFailed
  | conversationObserved | goalUpdated | goalCleared | turnAccepted | turnWaiting | turnCompleted
  | turnFailed | turnCancelled | operationStarted | operationCompleted | operationFailed
  | nativeWorkSnapshot | continuationStarted | continuationReported | continuationSettled
  | inputAccepted | inputRejected | inputDeliveryUnknown | activityObserved | observerHealth
  deriving DecidableEq

namespace RuntimeObservationKind

def text : RuntimeObservationKind → String
  | hostObserved => "host.observed"
  | sessionStarted => "session.started"
  | sessionReady => "session.ready"
  | sessionEnded => "session.ended"
  | sessionFailed => "session.failed"
  | conversationObserved => "conversation.observed"
  | goalUpdated => "goal.updated"
  | goalCleared => "goal.cleared"
  | turnAccepted => "turn.accepted"
  | turnWaiting => "turn.waiting"
  | turnCompleted => "turn.completed"
  | turnFailed => "turn.failed"
  | turnCancelled => "turn.cancelled"
  | operationStarted => "operation.started"
  | operationCompleted => "operation.completed"
  | operationFailed => "operation.failed"
  | nativeWorkSnapshot => "native-work.snapshot"
  | continuationStarted => "continuation.started"
  | continuationReported => "continuation.reported"
  | continuationSettled => "continuation.settled"
  | inputAccepted => "input.accepted"
  | inputRejected => "input.rejected"
  | inputDeliveryUnknown => "input.delivery-unknown"
  | activityObserved => "activity.observed"
  | observerHealth => "observer.health"

variable (kind : RuntimeObservationKind)

/-- `kind.startsWith("operation.")`. -/
def isOperation : Bool :=
  kind ∈ [operationStarted, operationCompleted, operationFailed]

/-- `kind.startsWith("continuation.")`, which is also `CONTINUATION_SCOPED`. -/
def isContinuation : Bool :=
  kind ∈ [continuationStarted, continuationReported, continuationSettled]

def isRunScoped : Bool :=
  kind ∈ [turnAccepted, turnWaiting, turnCompleted, turnFailed, turnCancelled, operationStarted,
    operationCompleted, operationFailed, activityObserved, observerHealth]

def isProviderState : Bool :=
  kind ∈ [sessionStarted, sessionReady, sessionEnded, sessionFailed, turnAccepted, turnWaiting,
    turnCompleted, turnFailed, turnCancelled, operationStarted, operationCompleted, operationFailed]

end RuntimeObservationKind

inductive RuntimeObservationAuthority where
  | controller | transport | providerStructured | driverInferred | host | diagnostic
  deriving DecidableEq

structure RuntimeObservationFence where
  taskId : Option String
  roleName : String
  runId : Option String
  agentId : String
  driverId : String
  conversationId : Option String
  continuationId : Option String
  parentContinuationId : Option String
  nativeSessionId : Option String
  nativeTurnId : Option String
  receiptId : Option String
  deriving DecidableEq

inductive RuntimeUsageSemantics where
  | cumulativeSession | requestContext | remainingContext
  deriving DecidableEq

structure RuntimeUsageSnapshot where
  semantics : Option RuntimeUsageSemantics
  inputTokens : Option JsNumeric
  outputTokens : Option JsNumeric
  cachedInputTokens : Option JsNumeric
  reasoningTokens : Option JsNumeric
  deriving DecidableEq

inductive RuntimeCostKind where
  | actual | estimated
  deriving DecidableEq

inductive RuntimeCostSemantics where
  | request | cumulativeSession
  deriving DecidableEq

structure RuntimeCostBasis where
  model : String
  source : String
  version : String
  scope : String
  excluded : List String
  deriving DecidableEq

structure RuntimeCostSnapshot where
  kind : RuntimeCostKind
  semantics : RuntimeCostSemantics
  amount : JsNumeric
  currency : String
  source : String
  basis : Option RuntimeCostBasis
  deriving DecidableEq

structure RuntimeRunFailure where
  error : StandardAgentError
  lastOutput : Option String
  runTerminal : Option Bool
  deriving DecidableEq

/-- The `schemaVersion` and `transport` of an observer source are fixed. -/
structure AgentRuntimeObserverSource where
  sourceId : String
  locator : String
  deriving DecidableEq

inductive AgentRuntimeWaitReason where
  | user | permission | external
  deriving DecidableEq

inductive AgentRuntimeOperation where
  | model | tool | subagent
  deriving DecidableEq

inductive RuntimeActivity where
  | model | tool | subagent | provider | resource
  deriving DecidableEq

inductive RuntimeObserverStatus where
  | healthy | degraded | unavailable
  deriving DecidableEq

inductive ContinuationExecution where
  | active | quiescent | unknown
  deriving DecidableEq

inductive ContinuationOutcome where
  | pending | succeeded | failed | cancelled | unknown
  deriving DecidableEq

inductive ContinuationAttachment where
  | attached | detached
  deriving DecidableEq

inductive ContinuationObservationQuality where
  | exactly | partially | unavailable
  deriving DecidableEq

inductive ConversationRecoverability where
  | unknown | recoverable | unrecoverable
  deriving DecidableEq

inductive ProviderGoalStatus where
  | active | paused | blocked | usageLimited | budgetLimited | complete
  deriving DecidableEq

structure RuntimeObservationPayload where
  alive : Option Bool := none
  reason : Option AgentRuntimeWaitReason := none
  waitId : Option String := none
  operationId : Option String := none
  operation : Option AgentRuntimeOperation := none
  activity : Option RuntimeActivity := none
  activityId : Option String := none
  usage : Option RuntimeUsageSnapshot := none
  cost : Option RuntimeCostSnapshot := none
  observerSource : Option AgentRuntimeObserverSource := none
  sourceId : Option String := none
  observerStatus : Option RuntimeObserverStatus := none
  observerDetail : Option String := none
  failure : Option RuntimeRunFailure := none
  input : Option String := none
  output : Option String := none
  resultTransportDiagnostic : Option String := none
  summary : Option String := none
  execution : Option ContinuationExecution := none
  outcome : Option ContinuationOutcome := none
  attachment : Option ContinuationAttachment := none
  observationQuality : Option ContinuationObservationQuality := none
  mayWriteWorkspace : Option Bool := none
  resultRef : Option String := none
  reportId : Option String := none
  providerDeliveryRef : Option String := none
  snapshotComplete : Option Bool := none
  recoverability : Option ConversationRecoverability := none
  goalStatus : Option ProviderGoalStatus := none
  goalObjective : Option String := none
  goalUpdatedAt : Option String := none
  goalNativeTurnId : Option String := none
  goalTokenBudget : Option JsNumeric := none
  deriving DecidableEq

structure RuntimeObservation where
  schemaVersion : ℕ
  eventId : String
  semanticKey : String
  kind : RuntimeObservationKind
  authority : RuntimeObservationAuthority
  receivedAt : String
  observedAt : Option String
  sequence : Option JsNumeric
  ordinal : Option JsNumeric
  fence : RuntimeObservationFence
  payload : RuntimeObservationPayload
  deriving DecidableEq

namespace Runtime

def isTurnEnd (kind : RuntimeObservationKind) : Bool := kind ∈ [.turnCompleted, .turnFailed, .turnCancelled]

def isRuntimeTokenEvidence (observation : RuntimeObservation) : Bool :=
  observation.kind = .activityObserved &&
    (observation.payload.usage.isSome ||
      (observation.payload.sourceId.isSome && observation.payload.activityId.isNone &&
        (observation.payload.observationQuality = some .partially ||
          observation.payload.observationQuality = some .unavailable)))

def optionalIdentity (value : Option String) (label : String) : Except String (Option String) :=
  onSome (fun value => requireIdentity value label) value

def optionalText (value : Option String) (label : String) : Except String (Option String) :=
  onSome (fun value => requireText value label) value

/-- `requireIdentity` of a field that must be present; the result is not used. -/
def checkIdentityOf (value : Option String) (label : String) : Except String Unit :=
  match value with
  | none => .error (label ++ " is invalid.")
  | some value => do
    let _ ← requireIdentity value label
    .ok ()

def given (p : Prop) [Decidable p] (check : Except String Unit) : Except String Unit :=
  if p then check else .ok ()

def normalizeFence (input : RuntimeObservationFence) : Except String RuntimeObservationFence := do
  let taskId ← optionalIdentity input.taskId "Task id"
  let roleName ← requireIdentity input.roleName "Role name"
  let runId ← optionalIdentity input.runId "AgentRun id"
  let agentId ← requireIdentity input.agentId "Agent id"
  let driverId ← requireDriverId input.driverId
  let nativeSessionId ← optionalIdentity input.nativeSessionId "Native Session id"
  let nativeTurnId ← optionalIdentity input.nativeTurnId "Native Turn id"
  let receiptId ← optionalIdentity input.receiptId "Receipt id"
  let conversationId ← optionalIdentity input.conversationId "Provider Conversation id"
  let continuationId ← optionalIdentity input.continuationId "Provider Continuation id"
  let parentContinuationId ← optionalIdentity input.parentContinuationId
    "Parent Provider Continuation id"
  .ok ⟨taskId, roleName, runId, agentId, driverId, conversationId, continuationId,
    parentContinuationId, nativeSessionId, nativeTurnId, receiptId⟩

/-- The token counters by name, as `Object.entries` lists them. -/
def usageEntries (usage : RuntimeUsageSnapshot) : List (String × JsNumeric) :=
  [("inputTokens", usage.inputTokens), ("outputTokens", usage.outputTokens),
    ("cachedInputTokens", usage.cachedInputTokens),
    ("reasoningTokens", usage.reasoningTokens)].filterMap fun entry =>
      entry.2.map fun value => (entry.1, value)

def validateUsage (usage : RuntimeUsageSnapshot) : Except String Unit := do
  checkAll (usageEntries usage) fun entry =>
    refuse (entry.2.isSafeFrom 0 = false)
      ("Runtime usage " ++ entry.1 ++ " must be a non-negative safe integer.")
  refuse (usage.inputTokens = none ∨ usage.outputTokens = none)
    "Runtime usage requires inputTokens and outputTokens."

def costText (value label : String) (limit : ℕ := 512) : Except String String := do
  let text ← requireText value label
  if limit < length16 text then
    .error (label ++ " exceeds " ++ toString limit ++ " characters.")
  else .ok text

/-- `^[A-Z]{3}$`. -/
def isCurrency (value : String) : Bool := value.toList.length == 3 && value.toList.all Char.isUpper

def isCostAmount : JsNumeric → Bool
  | .finite value => decide (0 ≤ value) && decide (value ≤ maxSafeInteger)
  | _ => false

def normalizeCostBasis (basis : RuntimeCostBasis) : Except String RuntimeCostBasis := do
  let model ← costText basis.model "Cost model"
  let source ← costText basis.source "Price source"
  let version ← costText basis.version "Price version or date"
  let scope ← costText basis.scope "Estimate scope"
  let excluded ← mapIndexed (fun value _ => costText value "Excluded cost" 128) 0 basis.excluded
  .ok ⟨model, source, version, scope, excluded⟩

def normalizeCost (input : RuntimeCostSnapshot) : Except String RuntimeCostSnapshot := do
  refuse (isCostAmount input.amount = false) "Runtime cost amount must be finite and non-negative."
  refuse (isCurrency input.currency = false)
    "Runtime cost currency requires a three-letter currency code."
  refuse (input.kind = .estimated ∧ input.basis = none) "Estimated cost requires a price basis."
  refuse (∃ basis ∈ input.basis, 16 < basis.excluded.length)
    "Runtime cost basis excluded items must be a bounded list."
  let source ← costText input.source "Cost source"
  let basis ← onSome normalizeCostBasis input.basis
  .ok { input with source := source, basis := basis }

def normalizeObserverSource (input : AgentRuntimeObserverSource) :
    Except String AgentRuntimeObserverSource := do
  let sourceId ← requireIdentity input.sourceId "Runtime observer source id"
  let locator ← requireText input.locator "Runtime observer locator"
  .ok ⟨sourceId, locator⟩

def normalizeFailure (input : RuntimeRunFailure) : Except String RuntimeRunFailure := do
  refuse (isStandardAgentError input.error = false) "Runtime failure requires a standard Agent error."
  let lastOutput ← optionalText input.lastOutput "Runtime failure last output"
  .ok { input with lastOutput := lastOutput }

/-- The checks of `normalizePayload` before the first nested record. -/
def checkActivity (kind : RuntimeObservationKind) (input : RuntimeObservationPayload) :
    Except String Unit := do
  refuse (kind = .hostObserved ∧ input.alive = none) "host.observed requires payload.alive."
  refuse (kind = .turnWaiting ∧ input.reason = none) "run.waiting requires a supported reason."
  given (kind = .turnWaiting) (checkIdentityOf input.waitId "Runtime wait id")
  given (kind.isOperation = true) (checkIdentityOf input.operationId "Runtime operation id")
  refuse (kind.isOperation = true ∧ input.operation = none) "Runtime operation kind is invalid."
  refuse (kind = .activityObserved ∧ input.activity = none)
    "activity.observed requires an activity kind."
  given (kind = .activityObserved) (whenPresent input.usage validateUsage)
  given (kind = .observerHealth) (checkIdentityOf input.sourceId "Runtime observer source id")
  refuse (kind = .observerHealth ∧ input.observerStatus = none)
    "observer.health requires a supported status."

def checkGoal [JsHost] (input : RuntimeObservationPayload) : Except String Unit := do
  refuse (input.goalStatus = none) "goal.updated requires a supported status."
  refuse (input.goalObjective = none ∨ input.goalUpdatedAt = none)
    "goal.updated requires objective and updatedAt."
  whenPresent input.goalObjective fun value => do
    let _ ← requireText value "Provider Goal objective"
    .ok ()
  whenPresent input.goalUpdatedAt fun value => do
    let _ ← requireTimestamp value "Provider Goal updatedAt"
    .ok ()
  refuse (input.goalTokenBudget.all (JsNumeric.isSafeFrom 1) = false)
    "Provider Goal token budget is invalid."

def checkContinuation (kind : RuntimeObservationKind) (input : RuntimeObservationPayload) :
    Except String Unit := do
  refuse (input.execution = none) (kind.text ++ " requires continuation execution.")
  refuse (input.outcome = none) (kind.text ++ " requires continuation outcome.")
  refuse (input.attachment = none) (kind.text ++ " requires continuation attachment.")
  refuse (input.observationQuality = none) (kind.text ++ " requires continuation observation quality.")
  refuse (input.mayWriteWorkspace = none) (kind.text ++ " requires mayWriteWorkspace.")
  given (kind = .continuationReported) (checkIdentityOf input.reportId "Provider report id")
  refuse (kind = .continuationSettled ∧ input.observationQuality ≠ some .exactly)
    "continuation.settled requires exact observation quality."

/-- The checks of `normalizePayload` after the cost record. -/
def checkEvidence [JsHost] (kind : RuntimeObservationKind) (input : RuntimeObservationPayload)
    (cost : Option RuntimeCostSnapshot) : Except String Unit := do
  refuse (∃ known ∈ cost, kind ≠ .activityObserved ∨
      known.semantics = .request ∧ input.activityId = none)
    "Cost requires activity.observed and a stable request activityId."
  refuse (kind = .turnFailed ∧ input.failure = none)
    "run.failed requires normalized failure evidence."
  refuse (input.resultTransportDiagnostic ≠ none ∧ kind ≠ .turnCompleted)
    "Only turn.completed may carry a result transport diagnostic."
  refuse (input.output ≠ none ∧ input.resultTransportDiagnostic ≠ none)
    "A runtime observation cannot carry Agent output and a result diagnostic."
  refuse (kind = .conversationObserved ∧ input.recoverability = none)
    "conversation.observed requires recoverability."
  given (kind = .goalUpdated) (checkGoal input)
  refuse (kind = .nativeWorkSnapshot ∧
      (input.snapshotComplete = none ∨ input.observationQuality = none))
    "native-work.snapshot requires completeness and observation quality."
  refuse (kind = .nativeWorkSnapshot ∧ input.snapshotComplete = some true ∧
      input.observationQuality ≠ some .exactly)
    "A complete native-work.snapshot requires exact observation quality."
  given (kind.isContinuation = true) (checkContinuation kind input)

/-- The usage snapshot with its default meaning. -/
def withSemantics (usage : RuntimeUsageSnapshot) : RuntimeUsageSnapshot :=
  { usage with semantics := some (usage.semantics.getD .cumulativeSession) }

def normalizePayload [JsHost] (kind : RuntimeObservationKind) (input : RuntimeObservationPayload) :
    Except String RuntimeObservationPayload := do
  checkActivity kind input
  let observerSource ← onSome normalizeObserverSource input.observerSource
  let cost ← onSome normalizeCost input.cost
  checkEvidence kind input cost
  let failure ← onSome normalizeFailure input.failure
  let waitId ← optionalIdentity input.waitId "Runtime wait id"
  let operationId ← optionalIdentity input.operationId "Runtime operation id"
  let activityId ← optionalIdentity input.activityId "Runtime activity id"
  let sourceId ← optionalIdentity input.sourceId "Runtime observer source id"
  let observerDetail ← optionalText input.observerDetail "Runtime observer detail"
  let visible ← optionalText input.input "Provider-visible input"
  let output ← onSome (fun value => requireResultText value "Runtime AgentRun output") input.output
  let diagnostic ← optionalText input.resultTransportDiagnostic "Runtime AgentRun result diagnostic"
  let summary ← optionalText input.summary "Runtime summary"
  let resultRef ← optionalIdentity input.resultRef "Provider result ref"
  let reportId ← optionalIdentity input.reportId "Provider report id"
  let providerDeliveryRef ← optionalIdentity input.providerDeliveryRef "Provider delivery ref"
  let goalObjective ← optionalText input.goalObjective "Provider Goal objective"
  let goalUpdatedAt ← onSome (fun value => requireTimestamp value "Provider Goal updatedAt")
    input.goalUpdatedAt
  let goalNativeTurnId ← optionalIdentity input.goalNativeTurnId "Provider Goal native Turn id"
  .ok { input with
    waitId := waitId
    operationId := operationId
    activityId := activityId
    usage := input.usage.map withSemantics
    cost := cost
    observerSource := observerSource
    sourceId := sourceId
    observerDetail := observerDetail
    failure := failure
    input := visible
    output := output
    resultTransportDiagnostic := diagnostic
    summary := summary
    resultRef := resultRef
    reportId := reportId
    providerDeliveryRef := providerDeliveryRef
    goalObjective := goalObjective
    goalUpdatedAt := goalUpdatedAt
    goalNativeTurnId := goalNativeTurnId }

/-- The checks of `createRuntimeObservation` before the fence is normalized. -/
def checkAuthority (input : RuntimeObservation) : Except String Unit := do
  refuse (input.schemaVersion ≠ 1) "Runtime observation schemaVersion must be 1."
  refuse (input.kind = .hostObserved ∧ input.authority ≠ .host ∧ input.authority ≠ .controller)
    "host.observed requires host or controller authority."
  refuse (input.kind.isProviderState = true ∧ input.authority ≠ .providerStructured ∧
      input.authority ≠ .controller ∧ ¬ (input.kind = .turnAccepted ∧
        input.authority = .transport ∧ input.fence.receiptId ≠ none))
    (input.kind.text ++ " requires provider-structured or controller authority.")

def checkScope (kind : RuntimeObservationKind) (fence : RuntimeObservationFence) :
    Except String Unit := do
  refuse (kind.isRunScoped = true ∧ fence.nativeSessionId = none)
    (kind.text ++ " requires nativeSessionId.")
  refuse (kind.isRunScoped = true ∧ fence.nativeTurnId = none ∧ fence.receiptId = none)
    (kind.text ++ " requires a native Turn or exact receipt identity.")
  refuse ((kind = .conversationObserved ∨ kind.isContinuation = true ∨ kind = .nativeWorkSnapshot) ∧
      fence.conversationId = none)
    (kind.text ++ " requires conversationId.")
  refuse (kind.isContinuation = true ∧ fence.continuationId = none)
    (kind.text ++ " requires continuationId.")

def createRuntimeObservation [JsHost] (input : RuntimeObservation) :
    Except String RuntimeObservation := do
  checkAuthority input
  let fence ← normalizeFence input.fence
  checkScope input.kind fence
  let payload ← normalizePayload input.kind input.payload
  refuse (input.sequence.all (JsNumeric.isSafeFrom 0) = false)
    "Runtime observation sequence must be a non-negative safe integer."
  refuse (input.ordinal.all (JsNumeric.isSafeFrom 0) = false)
    "Runtime observation ordinal must be a non-negative safe integer."
  let eventId ← requireIdentity input.eventId "Runtime observation event id"
  let semanticKey ← requireIdentity input.semanticKey "Runtime observation semantic key"
  let receivedAt ← requireTimestamp input.receivedAt "Runtime observation receivedAt"
  let observedAt ← onSome (fun value => requireTimestamp value "Runtime observation observedAt")
    input.observedAt
  .ok { input with
    eventId := eventId
    semanticKey := semanticKey
    receivedAt := receivedAt
    observedAt := observedAt
    fence := fence
    payload := payload }

end Runtime
