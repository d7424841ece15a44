import Yui.JsonCodec
import Yui.RuntimeObservation

/-!
# Runtime observations as TaskEvent payloads

`runtimeObservationTaskEventPayload` stores a normalized observation as JSON, and
`runtimeObservationFromTaskEvent` reads it back. A number that is not finite is written as `null`.
-/

open Checked
open JsonCodec (text flag)

namespace Runtime

section Names

def authorityName : RuntimeObservationAuthority → String
  | .controller => "controller"
  | .transport => "transport"
  | .providerStructured => "provider-structured"
  | .driverInferred => "driver-inferred"
  | .host => "host"
  | .diagnostic => "diagnostic"

def authorityCodec : JsonCodec RuntimeObservationAuthority :=
  .names [.controller, .transport, .providerStructured, .driverInferred, .host, .diagnostic] authorityName

def usageSemanticsName : RuntimeUsageSemantics → String
  | .cumulativeSession => "cumulative-session"
  | .requestContext => "request-context"
  | .remainingContext => "remaining-context"

def usageSemanticsCodec : JsonCodec RuntimeUsageSemantics :=
  .names [.cumulativeSession, .requestContext, .remainingContext] usageSemanticsName

def costKindName : RuntimeCostKind → String
  | .actual => "actual"
  | .estimated => "estimated"

def costKindCodec : JsonCodec RuntimeCostKind :=
  .names [.actual, .estimated] costKindName

def costSemanticsName : RuntimeCostSemantics → String
  | .request => "request"
  | .cumulativeSession => "cumulative-session"

def costSemanticsCodec : JsonCodec RuntimeCostSemantics :=
  .names [.request, .cumulativeSession] costSemanticsName

def errorSourceName : AgentErrorSource → String
  | .provider => "provider"
  | .driver => "driver"
  | .host => "host"
  | .yui => "yui"

def errorSourceCodec : JsonCodec AgentErrorSource :=
  .names [.provider, .driver, .host, .yui] errorSourceName

def errorPhaseName : AgentErrorPhase → String
  | .hostStart => "host-start"
  | .sessionStart => "session-start"
  | .sessionRestore => "session-restore"
  | .turnSubmit => "turn-submit"
  | .turnExecute => "turn-execute"
  | .turnReconcile => "turn-reconcile"
  | .hostStop => "host-stop"

def errorPhaseCodec : JsonCodec AgentErrorPhase :=
  .names [.hostStart, .sessionStart, .sessionRestore, .turnSubmit, .turnExecute, .turnReconcile, .hostStop] errorPhaseName

def errorCategoryName : AgentErrorCategory → String
  | .availability => "availability"
  | .rateLimit => "rate-limit"
  | .transport => "transport"
  | .access => "access"
  | .invalidRequest => "invalid-request"
  | .context => "context"
  | .session => "session"
  | .runtime => "runtime"
  | .conflict => "conflict"
  | .cancelled => "cancelled"
  | .unknown => "unknown"

def errorCategoryCodec : JsonCodec AgentErrorCategory :=
  .names [.availability, .rateLimit, .transport, .access, .invalidRequest, .context, .session, .runtime,
      .conflict, .cancelled, .unknown] errorCategoryName

def inputDispositionName : AgentErrorInputDisposition → String
  | .accepted => "accepted"
  | .notAccepted => "not-accepted"
  | .unknown => "unknown"

def inputDispositionCodec : JsonCodec AgentErrorInputDisposition :=
  .names [.accepted, .notAccepted, .unknown] inputDispositionName

def sessionDispositionName : AgentErrorSessionDisposition → String
  | .recoverable => "recoverable"
  | .unrecoverable => "unrecoverable"
  | .unknown => "unknown"

def sessionDispositionCodec : JsonCodec AgentErrorSessionDisposition :=
  .names [.recoverable, .unrecoverable, .unknown] sessionDispositionName

def waitReasonName : AgentRuntimeWaitReason → String
  | .user => "user"
  | .permission => "permission"
  | .external => "external"

def waitReasonCodec : JsonCodec AgentRuntimeWaitReason :=
  .names [.user, .permission, .external] waitReasonName

def operationName : AgentRuntimeOperation → String
  | .model => "model"
  | .tool => "tool"
  | .subagent => "subagent"

def operationCodec : JsonCodec AgentRuntimeOperation :=
  .names [.model, .tool, .subagent] operationName

def activityName : RuntimeActivity → String
  | .model => "model"
  | .tool => "tool"
  | .subagent => "subagent"
  | .provider => "provider"
  | .resource => "resource"

def activityCodec : JsonCodec RuntimeActivity :=
  .names [.model, .tool, .subagent, .provider, .resource] activityName

def observerStatusName : RuntimeObserverStatus → String
  | .healthy => "healthy"
  | .degraded => "degraded"
  | .unavailable => "unavailable"

def observerStatusCodec : JsonCodec RuntimeObserverStatus :=
  .names [.healthy, .degraded, .unavailable] observerStatusName

def executionName : ContinuationExecution → String
  | .active => "active"
  | .quiescent => "quiescent"
  | .unknown => "unknown"

def executionCodec : JsonCodec ContinuationExecution :=
  .names [.active, .quiescent, .unknown] executionName

def outcomeName : ContinuationOutcome → String
  | .pending => "pending"
  | .succeeded => "succeeded"
  | .failed => "failed"
  | .cancelled => "cancelled"
  | .unknown => "unknown"

def outcomeCodec : JsonCodec ContinuationOutcome :=
  .names [.pending, .succeeded, .failed, .cancelled, .unknown] outcomeName

def attachmentName : ContinuationAttachment → String
  | .attached => "attached"
  | .detached => "detached"

def attachmentCodec : JsonCodec ContinuationAttachment :=
  .names [.attached, .detached] attachmentName

def qualityName : ContinuationObservationQuality → String
  | .exactly => "exact"
  | .partially => "partial"
  | .unavailable => "unavailable"

def qualityCodec : JsonCodec ContinuationObservationQuality :=
  .names [.exactly, .partially, .unavailable] qualityName

def recoverabilityName : ConversationRecoverability → String
  | .unknown => "unknown"
  | .recoverable => "recoverable"
  | .unrecoverable => "unrecoverable"

def recoverabilityCodec : JsonCodec ConversationRecoverability :=
  .names [.unknown, .recoverable, .unrecoverable] recoverabilityName

def goalStatusName : ProviderGoalStatus → String
  | .active => "active"
  | .paused => "paused"
  | .blocked => "blocked"
  | .usageLimited => "usage-limited"
  | .budgetLimited => "budget-limited"
  | .complete => "complete"

def goalStatusCodec : JsonCodec ProviderGoalStatus :=
  .names [.active, .paused, .blocked, .usageLimited, .budgetLimited, .complete] goalStatusName

def kinds : List RuntimeObservationKind :=
  [.hostObserved, .sessionStarted, .sessionReady, .sessionEnded, .sessionFailed, .conversationObserved,
    .goalUpdated, .goalCleared, .turnAccepted, .turnWaiting, .turnCompleted, .turnFailed, .turnCancelled,
    .operationStarted, .operationCompleted, .operationFailed, .nativeWorkSnapshot, .continuationStarted,
    .continuationReported, .continuationSettled, .inputAccepted, .inputRejected, .inputDeliveryUnknown,
    .activityObserved, .observerHealth]

def kindCodec : JsonCodec RuntimeObservationKind :=
  .names kinds RuntimeObservationKind.text fun value => by cases value <;> decide +kernel

end Names

/-- What a number is read back as. -/
def jsonNumber : JsNumeric → JsNumeric
  | .finite value => .finite value
  | .nan | .infinite _ | .null => .null

def numberCodec : JsonCodec JsNumeric where
  write value := match value with
    | .finite value => .num value
    | .nan | .infinite _ | .null => .null
  read data := match data with
    | .num value => some (.finite value)
    | .null => some .null
    | _ => none
  copy := jsonNumber
  read_write value := by cases value <;> rfl

def versionCodec : JsonCodec ℕ where
  write value := .num value
  read data := match data with
    | .num value => if value.den = 1 ∧ 0 ≤ value.num then some value.num.toNat else none
    | _ => none
  copy := id
  read_write value := by simp

def fenceMembers (value : RuntimeObservationFence) : List (String × Option JsonData) :=
  [text.put "taskId" value.taskId,
    text.put "roleName" (some value.roleName),
    text.put "runId" value.runId,
    text.put "agentId" (some value.agentId),
    text.put "driverId" (some value.driverId),
    text.put "conversationId" value.conversationId,
    text.put "continuationId" value.continuationId,
    text.put "parentContinuationId" value.parentContinuationId,
    text.put "nativeSessionId" value.nativeSessionId,
    text.put "nativeTurnId" value.nativeTurnId,
    text.put "receiptId" value.receiptId]

def fenceCopy (value : RuntimeObservationFence) : RuntimeObservationFence :=
  value

def readFence (data : JsonData) : Option RuntimeObservationFence := do
  let taskId ← text.optional "taskId" data
  let roleName ← text.required "roleName" data
  let runId ← text.optional "runId" data
  let agentId ← text.required "agentId" data
  let driverId ← text.required "driverId" data
  let conversationId ← text.optional "conversationId" data
  let continuationId ← text.optional "continuationId" data
  let parentContinuationId ← text.optional "parentContinuationId" data
  let nativeSessionId ← text.optional "nativeSessionId" data
  let nativeTurnId ← text.optional "nativeTurnId" data
  let receiptId ← text.optional "receiptId" data
  some ⟨taskId, roleName, runId, agentId, driverId, conversationId, continuationId, parentContinuationId,
    nativeSessionId, nativeTurnId, receiptId⟩

def fenceCodec : JsonCodec RuntimeObservationFence where
  write value := .present (fenceMembers value)
  read := readFence
  copy := fenceCopy
  read_write value := by
    have hkeys : ((fenceMembers value).map Prod.fst).Nodup := of_decide_eq_true rfl
    unfold readFence
    rw [text.optional_same hkeys 0 rfl,
      text.required_same hkeys 1 rfl,
      text.optional_same hkeys 2 rfl,
      text.required_same hkeys 3 rfl,
      text.required_same hkeys 4 rfl,
      text.optional_same hkeys 5 rfl,
      text.optional_same hkeys 6 rfl,
      text.optional_same hkeys 7 rfl,
      text.optional_same hkeys 8 rfl,
      text.optional_same hkeys 9 rfl,
      text.optional_same hkeys 10 rfl]
    rfl

def usageMembers (value : RuntimeUsageSnapshot) : List (String × Option JsonData) :=
  [usageSemanticsCodec.put "semantics" value.semantics,
    numberCodec.put "inputTokens" value.inputTokens,
    numberCodec.put "outputTokens" value.outputTokens,
    numberCodec.put "cachedInputTokens" value.cachedInputTokens,
    numberCodec.put "reasoningTokens" value.reasoningTokens]

def usageCopy (value : RuntimeUsageSnapshot) : RuntimeUsageSnapshot :=
  { value with
    inputTokens := value.inputTokens.map numberCodec.copy
    outputTokens := value.outputTokens.map numberCodec.copy
    cachedInputTokens := value.cachedInputTokens.map numberCodec.copy
    reasoningTokens := value.reasoningTokens.map numberCodec.copy }

def readUsage (data : JsonData) : Option RuntimeUsageSnapshot := do
  let semantics ← usageSemanticsCodec.optional "semantics" data
  let inputTokens ← numberCodec.optional "inputTokens" data
  let outputTokens ← numberCodec.optional "outputTokens" data
  let cachedInputTokens ← numberCodec.optional "cachedInputTokens" data
  let reasoningTokens ← numberCodec.optional "reasoningTokens" data
  some ⟨semantics, inputTokens, outputTokens, cachedInputTokens, reasoningTokens⟩

def usageCodec : JsonCodec RuntimeUsageSnapshot where
  write value := .present (usageMembers value)
  read := readUsage
  copy := usageCopy
  read_write value := by
    have hkeys : ((usageMembers value).map Prod.fst).Nodup := of_decide_eq_true rfl
    unfold readUsage
    rw [usageSemanticsCodec.optional_same hkeys 0 rfl,
      numberCodec.optional_put hkeys 1 rfl,
      numberCodec.optional_put hkeys 2 rfl,
      numberCodec.optional_put hkeys 3 rfl,
      numberCodec.optional_put hkeys 4 rfl]
    rfl

def basisMembers (value : RuntimeCostBasis) : List (String × Option JsonData) :=
  [text.put "model" (some value.model),
    text.put "source" (some value.source),
    text.put "version" (some value.version),
    text.put "scope" (some value.scope),
    text.list.put "excluded" (some value.excluded)]

def basisCopy (value : RuntimeCostBasis) : RuntimeCostBasis :=
  value

def readBasis (data : JsonData) : Option RuntimeCostBasis := do
  let model ← text.required "model" data
  let source ← text.required "source" data
  let version ← text.required "version" data
  let scope ← text.required "scope" data
  let excluded ← text.list.required "excluded" data
  some ⟨model, source, version, scope, excluded⟩

def basisCodec : JsonCodec RuntimeCostBasis where
  write value := .present (basisMembers value)
  read := readBasis
  copy := basisCopy
  read_write value := by
    have hkeys : ((basisMembers value).map Prod.fst).Nodup := of_decide_eq_true rfl
    unfold readBasis
    rw [text.required_same hkeys 0 rfl,
      text.required_same hkeys 1 rfl,
      text.required_same hkeys 2 rfl,
      text.required_same hkeys 3 rfl,
      text.list.required_same hkeys 4 rfl List.map_id]
    rfl

def costMembers (value : RuntimeCostSnapshot) : List (String × Option JsonData) :=
  [costKindCodec.put "kind" (some value.kind),
    costSemanticsCodec.put "semantics" (some value.semantics),
    numberCodec.put "amount" (some value.amount),
    text.put "currency" (some value.currency),
    text.put "source" (some value.source),
    basisCodec.put "basis" value.basis]

def costCopy (value : RuntimeCostSnapshot) : RuntimeCostSnapshot :=
  { value with
    amount := numberCodec.copy value.amount }

def readCost (data : JsonData) : Option RuntimeCostSnapshot := do
  let kind ← costKindCodec.required "kind" data
  let semantics ← costSemanticsCodec.required "semantics" data
  let amount ← numberCodec.required "amount" data
  let currency ← text.required "currency" data
  let source ← text.required "source" data
  let basis ← basisCodec.optional "basis" data
  some ⟨kind, semantics, amount, currency, source, basis⟩

def costCodec : JsonCodec RuntimeCostSnapshot where
  write value := .present (costMembers value)
  read := readCost
  copy := costCopy
  read_write value := by
    have hkeys : ((costMembers value).map Prod.fst).Nodup := of_decide_eq_true rfl
    unfold readCost
    rw [costKindCodec.required_same hkeys 0 rfl,
      costSemanticsCodec.required_same hkeys 1 rfl,
      numberCodec.required_put hkeys 2 rfl,
      text.required_same hkeys 3 rfl,
      text.required_same hkeys 4 rfl,
      basisCodec.optional_same hkeys 5 rfl]
    rfl

def errorMembers (value : StandardAgentError) : List (String × Option JsonData) :=
  [errorSourceCodec.put "source" (some value.source),
    errorPhaseCodec.put "phase" (some value.phase),
    errorCategoryCodec.put "category" (some value.category),
    text.put "code" (some value.code),
    text.put "message" (some value.message),
    text.put "raw" (some value.raw),
    inputDispositionCodec.put "inputDisposition" (some value.inputDisposition),
    sessionDispositionCodec.put "sessionDisposition" (some value.sessionDisposition),
    numberCodec.put "retryAfterMs" value.retryAfterMs,
    flag.put "retryable" value.retryable]

def errorCopy (value : StandardAgentError) : StandardAgentError :=
  { value with
    retryAfterMs := value.retryAfterMs.map numberCodec.copy }

def readError (data : JsonData) : Option StandardAgentError := do
  let source ← errorSourceCodec.required "source" data
  let phase ← errorPhaseCodec.required "phase" data
  let category ← errorCategoryCodec.required "category" data
  let code ← text.required "code" data
  let message ← text.required "message" data
  let raw ← text.required "raw" data
  let inputDisposition ← inputDispositionCodec.required "inputDisposition" data
  let sessionDisposition ← sessionDispositionCodec.required "sessionDisposition" data
  let retryAfterMs ← numberCodec.optional "retryAfterMs" data
  let retryable ← flag.optional "retryable" data
  some ⟨source, phase, category, code, message, raw, inputDisposition, sessionDisposition, retryAfterMs,
    retryable⟩

def errorCodec : JsonCodec StandardAgentError where
  write value := .present (errorMembers value)
  read := readError
  copy := errorCopy
  read_write value := by
    have hkeys : ((errorMembers value).map Prod.fst).Nodup := of_decide_eq_true rfl
    unfold readError
    rw [errorSourceCodec.required_same hkeys 0 rfl,
      errorPhaseCodec.required_same hkeys 1 rfl,
      errorCategoryCodec.required_same hkeys 2 rfl,
      text.required_same hkeys 3 rfl,
      text.required_same hkeys 4 rfl,
      text.required_same hkeys 5 rfl,
      inputDispositionCodec.required_same hkeys 6 rfl,
      sessionDispositionCodec.required_same hkeys 7 rfl,
      numberCodec.optional_put hkeys 8 rfl,
      flag.optional_same hkeys 9 rfl]
    rfl

def failureMembers (value : RuntimeRunFailure) : List (String × Option JsonData) :=
  [errorCodec.put "error" (some value.error),
    text.put "lastOutput" value.lastOutput,
    flag.put "runTerminal" value.runTerminal]

def failureCopy (value : RuntimeRunFailure) : RuntimeRunFailure :=
  { value with
    error := errorCodec.copy value.error }

def readFailure (data : JsonData) : Option RuntimeRunFailure := do
  let error ← errorCodec.required "error" data
  let lastOutput ← text.optional "lastOutput" data
  let runTerminal ← flag.optional "runTerminal" data
  some ⟨error, lastOutput, runTerminal⟩

def failureCodec : JsonCodec RuntimeRunFailure where
  write value := .present (failureMembers value)
  read := readFailure
  copy := failureCopy
  read_write value := by
    have hkeys : ((failureMembers value).map Prod.fst).Nodup := of_decide_eq_true rfl
    unfold readFailure
    rw [errorCodec.required_put hkeys 0 rfl,
      text.optional_same hkeys 1 rfl,
      flag.optional_same hkeys 2 rfl]
    rfl

def observerSourceMembers (value : AgentRuntimeObserverSource) : List (String × Option JsonData) :=
  [text.put "sourceId" (some value.sourceId),
    text.put "locator" (some value.locator), ("schemaVersion", some (.num 1)),
    ("transport", some (.str "append-only-jsonl"))]

def observerSourceCopy (value : AgentRuntimeObserverSource) : AgentRuntimeObserverSource :=
  value

def readObserverSource (data : JsonData) : Option AgentRuntimeObserverSource := do
  let sourceId ← text.required "sourceId" data
  let locator ← text.required "locator" data
  some ⟨sourceId, locator⟩

def observerSourceCodec : JsonCodec AgentRuntimeObserverSource where
  write value := .present (observerSourceMembers value)
  read := readObserverSource
  copy := observerSourceCopy
  read_write value := by
    have hkeys : ((observerSourceMembers value).map Prod.fst).Nodup := of_decide_eq_true rfl
    unfold readObserverSource
    rw [text.required_same hkeys 0 rfl, text.required_same hkeys 1 rfl]
    rfl

def payloadMembers (value : RuntimeObservationPayload) : List (String × Option JsonData) :=
  [flag.put "alive" value.alive,
    waitReasonCodec.put "reason" value.reason,
    text.put "waitId" value.waitId,
    text.put "operationId" value.operationId,
    operationCodec.put "operation" value.operation,
    activityCodec.put "activity" value.activity,
    text.put "activityId" value.activityId,
    usageCodec.put "usage" value.usage,
    costCodec.put "cost" value.cost,
    observerSourceCodec.put "observerSource" value.observerSource,
    text.put "sourceId" value.sourceId,
    observerStatusCodec.put "observerStatus" value.observerStatus,
    text.put "observerDetail" value.observerDetail,
    failureCodec.put "failure" value.failure,
    text.put "input" value.input,
    text.put "output" value.output,
    text.put "resultTransportDiagnostic" value.resultTransportDiagnostic,
    text.put "summary" value.summary,
    executionCodec.put "execution" value.execution,
    outcomeCodec.put "outcome" value.outcome,
    attachmentCodec.put "attachment" value.attachment,
    qualityCodec.put "observationQuality" value.observationQuality,
    flag.put "mayWriteWorkspace" value.mayWriteWorkspace,
    text.put "resultRef" value.resultRef,
    text.put "reportId" value.reportId,
    text.put "providerDeliveryRef" value.providerDeliveryRef,
    flag.put "snapshotComplete" value.snapshotComplete,
    recoverabilityCodec.put "recoverability" value.recoverability,
    goalStatusCodec.put "goalStatus" value.goalStatus,
    text.put "goalObjective" value.goalObjective,
    text.put "goalUpdatedAt" value.goalUpdatedAt,
    text.put "goalNativeTurnId" value.goalNativeTurnId,
    numberCodec.put "goalTokenBudget" value.goalTokenBudget]

theorem payloadMembers_nodup (value : RuntimeObservationPayload) : ((payloadMembers value).map Prod.fst).Nodup := by
  change List.Nodup ["alive", "reason", "waitId", "operationId", "operation", "activity", "activityId", "usage",
    "cost", "observerSource", "sourceId", "observerStatus", "observerDetail", "failure", "input",
    "output", "resultTransportDiagnostic", "summary", "execution", "outcome", "attachment",
    "observationQuality", "mayWriteWorkspace", "resultRef", "reportId", "providerDeliveryRef",
    "snapshotComplete", "recoverability", "goalStatus", "goalObjective", "goalUpdatedAt",
    "goalNativeTurnId", "goalTokenBudget"]
  simp

def payloadCopy (value : RuntimeObservationPayload) : RuntimeObservationPayload :=
  { value with
    usage := value.usage.map usageCodec.copy
    cost := value.cost.map costCodec.copy
    failure := value.failure.map failureCodec.copy
    goalTokenBudget := value.goalTokenBudget.map numberCodec.copy }

def readPayload (data : JsonData) : Option RuntimeObservationPayload := do
  let alive ← flag.optional "alive" data
  let reason ← waitReasonCodec.optional "reason" data
  let waitId ← text.optional "waitId" data
  let operationId ← text.optional "operationId" data
  let operation ← operationCodec.optional "operation" data
  let activity ← activityCodec.optional "activity" data
  let activityId ← text.optional "activityId" data
  let usage ← usageCodec.optional "usage" data
  let cost ← costCodec.optional "cost" data
  let observerSource ← observerSourceCodec.optional "observerSource" data
  let sourceId ← text.optional "sourceId" data
  let observerStatus ← observerStatusCodec.optional "observerStatus" data
  let observerDetail ← text.optional "observerDetail" data
  let failure ← failureCodec.optional "failure" data
  let input ← text.optional "input" data
  let output ← text.optional "output" data
  let resultTransportDiagnostic ← text.optional "resultTransportDiagnostic" data
  let summary ← text.optional "summary" data
  let execution ← executionCodec.optional "execution" data
  let outcome ← outcomeCodec.optional "outcome" data
  let attachment ← attachmentCodec.optional "attachment" data
  let observationQuality ← qualityCodec.optional "observationQuality" data
  let mayWriteWorkspace ← flag.optional "mayWriteWorkspace" data
  let resultRef ← text.optional "resultRef" data
  let reportId ← text.optional "reportId" data
  let providerDeliveryRef ← text.optional "providerDeliveryRef" data
  let snapshotComplete ← flag.optional "snapshotComplete" data
  let recoverability ← recoverabilityCodec.optional "recoverability" data
  let goalStatus ← goalStatusCodec.optional "goalStatus" data
  let goalObjective ← text.optional "goalObjective" data
  let goalUpdatedAt ← text.optional "goalUpdatedAt" data
  let goalNativeTurnId ← text.optional "goalNativeTurnId" data
  let goalTokenBudget ← numberCodec.optional "goalTokenBudget" data
  some ⟨alive, reason, waitId, operationId, operation, activity, activityId, usage, cost, observerSource,
    sourceId, observerStatus, observerDetail, failure, input, output, resultTransportDiagnostic,
    summary, execution, outcome, attachment, observationQuality, mayWriteWorkspace, resultRef,
    reportId, providerDeliveryRef, snapshotComplete, recoverability, goalStatus, goalObjective,
    goalUpdatedAt, goalNativeTurnId, goalTokenBudget⟩

def payloadCodec : JsonCodec RuntimeObservationPayload where
  write value := .present (payloadMembers value)
  read := readPayload
  copy := payloadCopy
  read_write value := by
    have hkeys := payloadMembers_nodup value
    unfold readPayload
    rw [flag.optional_same hkeys 0 rfl,
      waitReasonCodec.optional_same hkeys 1 rfl,
      text.optional_same hkeys 2 rfl,
      text.optional_same hkeys 3 rfl,
      operationCodec.optional_same hkeys 4 rfl,
      activityCodec.optional_same hkeys 5 rfl,
      text.optional_same hkeys 6 rfl,
      usageCodec.optional_put hkeys 7 rfl,
      costCodec.optional_put hkeys 8 rfl,
      observerSourceCodec.optional_same hkeys 9 rfl,
      text.optional_same hkeys 10 rfl,
      observerStatusCodec.optional_same hkeys 11 rfl,
      text.optional_same hkeys 12 rfl,
      failureCodec.optional_put hkeys 13 rfl,
      text.optional_same hkeys 14 rfl,
      text.optional_same hkeys 15 rfl,
      text.optional_same hkeys 16 rfl,
      text.optional_same hkeys 17 rfl,
      executionCodec.optional_same hkeys 18 rfl,
      outcomeCodec.optional_same hkeys 19 rfl,
      attachmentCodec.optional_same hkeys 20 rfl,
      qualityCodec.optional_same hkeys 21 rfl,
      flag.optional_same hkeys 22 rfl,
      text.optional_same hkeys 23 rfl,
      text.optional_same hkeys 24 rfl,
      text.optional_same hkeys 25 rfl,
      flag.optional_same hkeys 26 rfl,
      recoverabilityCodec.optional_same hkeys 27 rfl,
      goalStatusCodec.optional_same hkeys 28 rfl,
      text.optional_same hkeys 29 rfl,
      text.optional_same hkeys 30 rfl,
      text.optional_same hkeys 31 rfl,
      numberCodec.optional_put hkeys 32 rfl]
    rfl

def observationMembers (value : RuntimeObservation) : List (String × Option JsonData) :=
  [versionCodec.put "schemaVersion" (some value.schemaVersion),
    text.put "eventId" (some value.eventId),
    text.put "semanticKey" (some value.semanticKey),
    kindCodec.put "kind" (some value.kind),
    authorityCodec.put "authority" (some value.authority),
    text.put "receivedAt" (some value.receivedAt),
    text.put "observedAt" value.observedAt,
    numberCodec.put "sequence" value.sequence,
    numberCodec.put "ordinal" value.ordinal,
    fenceCodec.put "fence" (some value.fence),
    payloadCodec.put "payload" (some value.payload)]

theorem observationMembers_nodup (value : RuntimeObservation) : ((observationMembers value).map Prod.fst).Nodup := by
  change List.Nodup ["schemaVersion", "eventId", "semanticKey", "kind", "authority", "receivedAt", "observedAt",
    "sequence", "ordinal", "fence", "payload"]
  simp

def observationCopy (value : RuntimeObservation) : RuntimeObservation :=
  { value with
    sequence := value.sequence.map numberCodec.copy
    ordinal := value.ordinal.map numberCodec.copy
    payload := payloadCodec.copy value.payload }

def readObservation (data : JsonData) : Option RuntimeObservation := do
  let schemaVersion ← versionCodec.required "schemaVersion" data
  let eventId ← text.required "eventId" data
  let semanticKey ← text.required "semanticKey" data
  let kind ← kindCodec.required "kind" data
  let authority ← authorityCodec.required "authority" data
  let receivedAt ← text.required "receivedAt" data
  let observedAt ← text.optional "observedAt" data
  let sequence ← numberCodec.optional "sequence" data
  let ordinal ← numberCodec.optional "ordinal" data
  let fence ← fenceCodec.required "fence" data
  let payload ← payloadCodec.required "payload" data
  some ⟨schemaVersion, eventId, semanticKey, kind, authority, receivedAt, observedAt, sequence, ordinal,
    fence, payload⟩

def observationCodec : JsonCodec RuntimeObservation where
  write value := .present (observationMembers value)
  read := readObservation
  copy := observationCopy
  read_write value := by
    have hkeys := observationMembers_nodup value
    unfold readObservation
    rw [versionCodec.required_same hkeys 0 rfl,
      text.required_same hkeys 1 rfl,
      text.required_same hkeys 2 rfl,
      kindCodec.required_same hkeys 3 rfl,
      authorityCodec.required_same hkeys 4 rfl,
      text.required_same hkeys 5 rfl,
      text.optional_same hkeys 6 rfl,
      numberCodec.optional_put hkeys 7 rfl,
      numberCodec.optional_put hkeys 8 rfl,
      fenceCodec.required_same hkeys 9 rfl,
      payloadCodec.required_put hkeys 10 rfl]
    rfl

end Runtime
