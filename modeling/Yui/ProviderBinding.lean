import Yui.FallibleRun
import Yui.RuntimeObservation

/-!
# Provider runtime bindings

The durable record that ties a Role to a Provider: its conversations, the writer authority, the
current turn, the Provider's own goal and the retry chain of a failed input. Epochs are integers
here; another number never equals one and is refused as stale.
-/

open JsText Checked

/-- What the retry code uses of `Date`: `toISOString` prints a time value that `Date.parse` reads
back. -/
class RuntimeHost extends JsHost where
  iso : ℤ → String
  dateParse_iso : ∀ at_ : ℤ, at_.natAbs ≤ 8640000000000000 → dateParse (iso at_) = some at_

inductive ProviderConversationStatus where
  | current | superseded
  deriving DecidableEq

inductive ProviderAuthorityOwner where
  | controller | human | nobody | unknown
  deriving DecidableEq

inductive ProviderTurnStatus where
  | submitting | accepted | completed | failed | cancelled | rejected | deferred | deliveryUnknown
  deriving DecidableEq

def ProviderTurnStatus.text : ProviderTurnStatus → String
  | .submitting => "submitting"
  | .accepted => "accepted"
  | .completed => "completed"
  | .failed => "failed"
  | .cancelled => "cancelled"
  | .rejected => "rejected"
  | .deferred => "deferred"
  | .deliveryUnknown => "delivery-unknown"

structure ProviderGoal where
  status : ProviderGoalStatus
  objective : String
  updatedAt : String
  nativeTurnId : Option String
  tokenBudget : Option JsNumeric

structure ProviderConversation where
  conversationId : String
  epoch : ℤ
  status : ProviderConversationStatus
  recoverability : ConversationRecoverability
  createdAt : String
  supersededAt : Option String

structure ProviderAuthority where
  epoch : ℤ
  owner : ProviderAuthorityOwner
  holderId : Option String
  changedAt : String

inductive ProviderInput where
  | run (taskId runId : String)
  | wake (taskId wakeId : String)
  | message (roleName messageId : String)
  | text (text : String)
  deriving DecidableEq

structure ProviderFailure where
  error : StandardAgentError
  ref : String

structure ProviderTurn where
  runId : Option String
  attemptId : String
  authorityEpoch : ℤ
  status : ProviderTurnStatus
  submittedAt : String
  updatedAt : String
  nativeTurnId : Option String
  terminalReason : Option String
  input : Option ProviderInput
  retrySupported : Option Bool
  failure : Option ProviderFailure

inductive ProviderRetryStatus where
  | waiting | inFlight | recovered | cancelled | exhausted | needsAttention
  deriving DecidableEq

structure ProviderRetry where
  policyVersion : ℕ
  chainId : String
  status : ProviderRetryStatus
  input : ProviderInput
  nativeSessionId : String
  authorityEpoch : ℤ
  attempts : ℤ
  transportSequence : ℕ
  startedAt : String
  intentAt : String
  deadline : String
  nextEligibleAt : String
  updatedAt : String
  failedAttemptId : String
  failureAttemptId : String
  failedNativeTurnId : Option String
  previousRunId : Option String
  currentAttemptId : Option String
  successorRunId : Option String
  successorAutomatic : Option Bool
  failureRef : String
  error : StandardAgentError
  reason : Option String
  deriving DecidableEq

structure ProviderRuntimeBinding where
  schemaVersion : ℕ
  providerNamespace : String
  accountScope : String
  currentConversationEpoch : ℤ
  conversations : List ProviderConversation
  authority : ProviderAuthority
  run : Option ProviderTurn
  goal : Option ProviderGoal
  retry : Option ProviderRetry
  retryHistory : List ProviderRetry
  retryDisabled : Option Bool

namespace Binding

def identity (value label : String) : Except String String :=
  if trim value = "" then .error (label ++ " is invalid.") else .ok (trim value)

def checkText (value label : String) : Except String Unit := do
  let _ ← identity value label
  .ok ()

def timestamp [JsHost] (value label : String) : Except String String := do
  let normalized ← identity value label
  if JsHost.dateParse normalized = none then .error (label ++ " must be a timestamp.")
  else .ok normalized

def checkTimestamp [JsHost] (value label : String) : Except String Unit := do
  let _ ← timestamp value label
  .ok ()

def integer (value least : ℤ) (label : String) : Except String Unit :=
  refuse (¬ (value.natAbs ≤ maxSafeInteger ∧ least ≤ value)) (label ++ " is invalid.")

/-- `Date.parse(left) < Date.parse(right)`; a text that is no date compares false. -/
def movesBefore [JsHost] (left right : String) : Bool :=
  match JsHost.dateParse left, JsHost.dateParse right with
  | some left, some right => decide (left < right)
  | _, _ => false

def inputFields : ProviderInput → List String
  | .run taskId runId => [taskId, runId]
  | .wake taskId wakeId => [taskId, wakeId]
  | .message roleName messageId => [roleName, messageId]
  | .text text => [text]

def validateProviderInput (input : ProviderInput) : Except String Unit :=
  refuse (∃ field ∈ inputFields input, trim field = "") "Invalid owned Provider input."

def retryLimit : ℤ := 5

def retryBudgetMs : ℤ := 600000

/-- `Date.parse(retry.deadline) - Date.parse(retry.startedAt) !== PROVIDER_RETRY_BUDGET_MS`. -/
def windowDiffers [JsHost] (retry : ProviderRetry) : Bool :=
  match JsHost.dateParse retry.deadline, JsHost.dateParse retry.startedAt with
  | some deadline, some startedAt => deadline - startedAt != retryBudgetMs
  | _, _ => true

def retryTexts (retry : ProviderRetry) : List String :=
  [retry.chainId, retry.nativeSessionId, retry.failedAttemptId, retry.failureRef]

def retryTimes (retry : ProviderRetry) : List String :=
  [retry.startedAt, retry.intentAt, retry.deadline, retry.nextEligibleAt, retry.updatedAt]

/-- The source joins these conditions by `||` under one message. -/
def validateProviderRetry [JsHost] (retry : ProviderRetry) : Except String Unit := do
  let message := "Invalid Provider retry record."
  refuse (retry.policyVersion ≠ 1) message
  refuse (retry.attempts < 0 ∨ retryLimit < retry.attempts) message
  refuse (maxSafeInteger < retry.transportSequence ∨
    (retry.transportSequence : ℤ) < retry.attempts) message
  refuse (maxSafeInteger < retry.authorityEpoch.natAbs ∨ retry.authorityEpoch < 1) message
  refuse (∃ text ∈ retryTexts retry, text = "") message
  refuse (∃ time ∈ retryTimes retry, JsHost.dateParse time = none) message
  refuse (windowDiffers retry = true) message
  refuse (retry.status = .inFlight ∧ retry.currentAttemptId.getD "" = "") message
  validateProviderInput retry.input

def checkConversation [JsHost] (currentEpoch : ℤ) (seen : List ProviderConversation)
    (conversation : ProviderConversation) : Except String Unit := do
  checkText conversation.conversationId "Provider Conversation id"
  integer conversation.epoch 1 "Provider Conversation epoch"
  refuse (∃ other ∈ seen, other.conversationId = conversation.conversationId ∨
      other.epoch = conversation.epoch)
    "Provider Runtime Binding contains duplicate Conversation identity."
  checkTimestamp conversation.createdAt "Provider Conversation createdAt"
  match conversation.status with
  | .current => do
    refuse (conversation.epoch ≠ currentEpoch) "Current Provider Conversation epoch is inconsistent."
    refuse (conversation.supersededAt ≠ none) "Current Provider Conversation cannot be superseded."
  | .superseded =>
    match conversation.supersededAt with
    | none => .error "Superseded Provider Conversation requires supersededAt."
    | some supersededAt => checkTimestamp supersededAt "Provider Conversation supersededAt"

def checkConversations [JsHost] (currentEpoch : ℤ) (seen : List ProviderConversation) :
    List ProviderConversation → Except String Unit
  | [] => .ok ()
  | conversation :: rest => do
    checkConversation currentEpoch seen conversation
    checkConversations currentEpoch (seen ++ [conversation]) rest

def currentCount (conversations : List ProviderConversation) : ℕ :=
  conversations.countP fun conversation => conversation.status = .current

def checkAuthority [JsHost] (authority : ProviderAuthority) : Except String Unit := do
  integer authority.epoch 1 "Provider authority epoch"
  checkTimestamp authority.changedAt "Provider authority changedAt"
  match authority.owner with
  | .controller => do
    let holderId ← identity (authority.holderId.getD "") "Provider authority holder id"
    refuse (holderId ≠ "controller") "Controller authority must name the Controller."
  | .human => checkText (authority.holderId.getD "") "Provider authority holder id"
  | .nobody | .unknown =>
    refuse (authority.holderId ≠ none)
      "Unowned or unknown Provider authority cannot name a holder."

def hasAcceptedIdentity : ProviderTurnStatus → Bool
  | .accepted | .completed | .failed | .cancelled => true
  | _ => false

def validateProviderTurn [JsHost] (run : ProviderTurn) (currentAuthorityEpoch : ℤ) :
    Except String Unit := do
  whenPresent run.runId fun runId => checkText runId "AgentRun id"
  checkText run.attemptId "Provider input attempt id"
  integer run.authorityEpoch 1 "Provider Turn authority epoch"
  refuse (currentAuthorityEpoch < run.authorityEpoch)
    "Provider Turn authority epoch is ahead of current authority."
  checkTimestamp run.submittedAt "Provider Turn submittedAt"
  checkTimestamp run.updatedAt "Provider Turn updatedAt"
  refuse (movesBefore run.updatedAt run.submittedAt = true)
    "Provider Turn updatedAt is earlier than submittedAt."
  whenPresent run.nativeTurnId fun nativeTurnId =>
    if hasAcceptedIdentity run.status then checkText nativeTurnId "Provider native Turn id"
    else .error "Unaccepted Provider Turn cannot have a native Turn id."

def validateProviderGoal [JsHost] (goal : ProviderGoal) : Except String ProviderGoal := do
  let objective ← identity goal.objective "Provider Goal objective"
  let updatedAt ← timestamp goal.updatedAt "Provider Goal updatedAt"
  let nativeTurnId ← onSome (fun value => identity value "Provider Goal native Turn id")
    goal.nativeTurnId
  refuse (goal.tokenBudget.all (JsNumeric.isSafeFrom 1) = false)
    "Provider Goal token budget is invalid."
  .ok ⟨goal.status, objective, updatedAt, nativeTurnId, goal.tokenBudget⟩

def checkHistory [JsHost] (retry : ProviderRetry) : Except String Unit := do
  validateProviderRetry retry
  refuse (retry.status = .waiting ∨ retry.status = .inFlight)
    "Provider retry audit cannot schedule work."

def checkRun [JsHost] (value : ProviderRuntimeBinding) : Except String Unit :=
  whenPresent value.run fun run => do
    whenPresent run.input validateProviderInput
    whenPresent run.failure fun failure =>
      refuse (isStandardAgentError failure.error = false ∨ failure.ref = "")
        "Invalid Provider input failure."

def checkBinding [JsHost] (value : ProviderRuntimeBinding) : Except String Unit := do
  refuse (value.schemaVersion ≠ 1) "Provider Runtime Binding schemaVersion must be 1."
  checkText value.providerNamespace "Provider namespace"
  checkText value.accountScope "Provider account scope"
  integer value.currentConversationEpoch 1 "Current Provider Conversation epoch"
  refuse (value.conversations = []) "Provider Runtime Binding requires a Conversation."
  checkConversations value.currentConversationEpoch [] value.conversations
  refuse (currentCount value.conversations ≠ 1)
    "Provider Runtime Binding requires one current Conversation."
  checkAuthority value.authority
  whenPresent value.run fun run => validateProviderTurn run value.authority.epoch
  whenPresent value.goal fun goal => do
    let _ ← validateProviderGoal goal
    .ok ()
  whenPresent value.retry validateProviderRetry
  checkAll value.retryHistory checkHistory
  checkRun value

def validateProviderRuntimeBinding [JsHost] (value : ProviderRuntimeBinding) :
    Except String ProviderRuntimeBinding := do
  checkBinding value
  .ok value

def providerTurnIsActive (run : Option ProviderTurn) : Bool :=
  match run with
  | none => false
  | some run => run.status = .submitting || run.status = .accepted || run.status = .deliveryUnknown

variable (binding : ProviderRuntimeBinding)

/-- The entry that `currentProviderConversation` finds. -/
def currentEntry : Option ProviderConversation :=
  binding.conversations.find? fun entry =>
    entry.epoch = binding.currentConversationEpoch ∧ entry.status = .current

/-- `binding.conversations.find(c => c.epoch === binding.currentConversationEpoch)`. -/
def currentConversation : Option ProviderConversation :=
  binding.conversations.find? fun entry => entry.epoch = binding.currentConversationEpoch

section

variable [RuntimeHost]

/-- `new Date(at).toISOString()` throws outside the range of time values. -/
def iso (time : ℤ) : Except String String :=
  if time.natAbs ≤ 8640000000000000 then .ok (RuntimeHost.iso time) else .error "Invalid time value"

def providerRetryPending : Bool :=
  match binding.retry with
  | none => false
  | some retry => retry.status = .waiting || retry.status = .inFlight

def cancelProviderRetry (binding : ProviderRuntimeBinding) (reason : String) (time : ℤ) :
    Except String ProviderRuntimeBinding :=
  if providerRetryPending binding then do
    let updatedAt ← iso time
    .ok { binding with retry := binding.retry.map fun retry =>
      { retry with status := .cancelled, reason := some reason, updatedAt := updatedAt } }
  else .ok binding

def completeProviderRetry (turn : ProviderTurn) : ProviderRuntimeBinding :=
  { binding with retry := binding.retry.map fun retry =>
      if (retry.status = .inFlight ∨ retry.status = .cancelled ∨ retry.status = .needsAttention) ∧
          retry.currentAttemptId = some turn.attemptId ∧ turn.status = .completed then
        { retry with status := .recovered, updatedAt := turn.updatedAt }
      else retry }

structure CreateInput where
  providerNamespace : String
  accountScope : String
  conversationId : String
  startedAt : String

def createProviderRuntimeBinding (input : CreateInput) : Except String ProviderRuntimeBinding := do
  let startedAt ← timestamp input.startedAt "Provider Conversation startedAt"
  let providerNamespace ← identity input.providerNamespace "Provider namespace"
  let accountScope ← identity input.accountScope "Provider account scope"
  let conversationId ← identity input.conversationId "Provider Conversation id"
  validateProviderRuntimeBinding
    { schemaVersion := 1
      providerNamespace := providerNamespace
      accountScope := accountScope
      currentConversationEpoch := 1
      conversations := [⟨conversationId, 1, .current, .unknown, startedAt, none⟩]
      authority := ⟨1, .controller, some "controller", startedAt⟩
      run := none
      goal := none
      retry := none
      retryHistory := []
      retryDisabled := none }

variable (raw : ProviderRuntimeBinding)

def updateProviderGoal (goal : ProviderGoal) :
    Except String ProviderRuntimeBinding := do
  let binding ← validateProviderRuntimeBinding raw
  let normalized ← validateProviderGoal goal
  validateProviderRuntimeBinding { binding with goal := some normalized }

def clearProviderGoal : Except String ProviderRuntimeBinding := do
  let binding ← validateProviderRuntimeBinding raw
  if binding.goal = none then .ok binding
  else validateProviderRuntimeBinding { binding with goal := none }

structure TransferInput where
  expectedEpoch : ℤ
  expectedOwner : ProviderAuthorityOwner
  owner : ProviderAuthorityOwner
  holderId : Option String
  changedAt : String

def transferHolder (input : TransferInput) : Except String (Option String) :=
  if input.owner = .nobody then do
    refuse (input.holderId ≠ none) "Unowned Provider authority cannot name a holder."
    .ok none
  else do
    let holderId ← identity (input.holderId.getD "") "Provider authority holder id"
    refuse (input.owner = .controller ∧ holderId ≠ "controller")
      "Controller authority must name the Controller."
    .ok (some holderId)

def transferProviderAuthority (input : TransferInput) :
    Except String ProviderRuntimeBinding := do
  let binding ← validateProviderRuntimeBinding raw
  refuse (binding.authority.epoch ≠ input.expectedEpoch ∨ binding.authority.owner ≠ input.expectedOwner)
    "Provider authority fence is stale."
  refuse (providerTurnIsActive binding.run = true)
    "Provider authority cannot transfer while a AgentRun is unsettled."
  let changedAt ← timestamp input.changedAt "Provider authority changedAt"
  refuse (movesBefore changedAt binding.authority.changedAt = true)
    "Provider authority changedAt moved backwards."
  let holderId ← transferHolder input
  validateProviderRuntimeBinding
    { binding with authority := ⟨binding.authority.epoch + 1, input.owner, holderId, changedAt⟩ }

structure BeginInput where
  runId : Option String
  attemptId : String
  authorityEpoch : ℤ
  submittedAt : String
  input : Option ProviderInput
  retrySupported : Option Bool

/-- An explicit input ends the retry chain it is not an attempt of. -/
def releaseRetry (attemptId submittedAt : String) :
    Except String ProviderRuntimeBinding :=
  if binding.retry.bind ProviderRetry.currentAttemptId ≠ some attemptId then
    match JsHost.dateParse submittedAt with
    | none => .error "Invalid time value"
    | some time => cancelProviderRetry binding "superseded-by-explicit-input" time
  else .ok binding

/-- `beginProviderTurn` repeats the submission that is under way. -/
def IsReplay (runId : Option String) (attemptId : String)
    (authorityEpoch : ℤ) : Prop :=
  ∃ run ∈ binding.run, run.runId = runId ∧ run.attemptId = attemptId ∧
    run.authorityEpoch = authorityEpoch ∧ run.status = .submitting

instance (binding : ProviderRuntimeBinding) (runId : Option String) (attemptId : String)
    (authorityEpoch : ℤ) : Decidable (IsReplay binding runId attemptId authorityEpoch) :=
  inferInstanceAs (Decidable (∃ run ∈ binding.run, _))

def submitTurn (binding : ProviderRuntimeBinding) (runId : Option String) (attemptId : String)
    (input : BeginInput) : Except String ProviderRuntimeBinding := do
  refuse (binding.authority.epoch ≠ input.authorityEpoch ∨ binding.authority.owner = .nobody ∨
    binding.authority.owner = .unknown) "Provider Turn authority fence is stale."
  refuse (providerTurnIsActive binding.run = true)
    "Provider Conversation already has an unsettled AgentRun."
  let submittedAt ← timestamp input.submittedAt "Provider Turn submittedAt"
  let binding ← releaseRetry binding attemptId submittedAt
  validateProviderRuntimeBinding { binding with
    run := some ⟨runId, attemptId, input.authorityEpoch, .submitting, submittedAt, submittedAt, none,
      none, input.input, input.retrySupported, none⟩ }

def beginProviderTurn (raw : ProviderRuntimeBinding) (input : BeginInput) :
    Except String ProviderRuntimeBinding := do
  let binding ← validateProviderRuntimeBinding raw
  let attemptId ← identity input.attemptId "Provider input attempt id"
  let runId ← onSome (fun value => identity value "AgentRun id") input.runId
  if IsReplay binding runId attemptId input.authorityEpoch then .ok binding
  else submitTurn binding runId attemptId input

def orderedRunTimestamp (run : ProviderTurn) (value label : String) : Except String String := do
  let normalized ← timestamp value label
  refuse (movesBefore normalized run.updatedAt = true) (label ++ " moved backwards.")
  .ok normalized

def turnOf (attemptId message : String)
    (accepts : ProviderTurnStatus → Bool) : Except String ProviderTurn :=
  match binding.run with
  | none => .error message
  | some run =>
    if run.attemptId = attemptId ∧ accepts run.status = true then .ok run else .error message

def isUnanswered : ProviderTurnStatus → Bool
  | .submitting | .deliveryUnknown => true
  | _ => false

structure AcceptInput where
  attemptId : String
  nativeTurnId : Option String
  acceptedAt : String

def acceptProviderTurn (raw : ProviderRuntimeBinding) (input : AcceptInput) :
    Except String ProviderRuntimeBinding := do
  let binding ← validateProviderRuntimeBinding raw
  let attemptId ← identity input.attemptId "Provider input attempt id"
  let run ← turnOf binding attemptId "Provider Turn does not match an acceptable delivery state."
    isUnanswered
  let acceptedAt ← orderedRunTimestamp run input.acceptedAt "Provider Turn acceptedAt"
  let nativeTurnId ← onSome (fun value => identity value "Provider native Turn id") input.nativeTurnId
  validateProviderRuntimeBinding { binding with
    run := some { run with
      status := .accepted
      nativeTurnId := nativeTurnId.orElse fun _ => run.nativeTurnId
      updatedAt := acceptedAt } }

structure OutcomeInput where
  attemptId : String
  settledAt : String
  reason : String

def markProviderTurnDeliveryUnknown (raw : ProviderRuntimeBinding) (input : OutcomeInput) :
    Except String ProviderRuntimeBinding := do
  let binding ← validateProviderRuntimeBinding raw
  let attemptId ← identity input.attemptId "Provider input attempt id"
  let run ← turnOf binding attemptId "Provider Turn does not match the expected delivery state."
    (· = .submitting)
  let observedAt ← orderedRunTimestamp run input.settledAt "Provider Turn unknownAt"
  let reason ← identity input.reason "Provider Turn unknown reason"
  validateProviderRuntimeBinding { binding with
    run := some { run with
      status := .deliveryUnknown
      terminalReason := some reason
      updatedAt := observedAt } }

def rejectProviderTurn (input : OutcomeInput) :
    Except String ProviderRuntimeBinding := do
  let binding ← validateProviderRuntimeBinding raw
  let attemptId ← identity input.attemptId "Provider input attempt id"
  let run ← turnOf binding attemptId "Provider Turn does not match a rejectable delivery state."
    isUnanswered
  let rejectedAt ← orderedRunTimestamp run input.settledAt "Provider Turn rejectedAt"
  let reason ← identity input.reason "Provider Turn rejection reason"
  validateProviderRuntimeBinding { binding with
    run := some { run with
      status := .rejected
      terminalReason := some reason
      updatedAt := rejectedAt } }

inductive SubmissionStatus where
  | rejected | deferred | deliveryUnknown
  deriving DecidableEq

def SubmissionStatus.turn : SubmissionStatus → ProviderTurnStatus
  | .rejected => .rejected
  | .deferred => .deferred
  | .deliveryUnknown => .deliveryUnknown

def deferTurn (run : ProviderTurn) (input : OutcomeInput) :
    Except String ProviderRuntimeBinding := do
  let reason ← identity input.reason "Provider admission deferral reason"
  let updatedAt ← orderedRunTimestamp run input.settledAt "Provider deferredAt"
  validateProviderRuntimeBinding { binding with
    run := some { run with
      status := .deferred
      terminalReason := some reason
      updatedAt := updatedAt } }

def settleProviderTurnSubmission (raw : ProviderRuntimeBinding) (status : SubmissionStatus)
    (input : OutcomeInput) : Except String ProviderRuntimeBinding := do
  let binding ← validateProviderRuntimeBinding raw
  let attemptId ← identity input.attemptId "Provider input attempt id"
  let run ← turnOf binding attemptId "Provider Turn does not match a resolvable delivery state."
    fun _ => true
  if run.status = status.turn then .ok binding
  else if run.status ≠ .submitting ∧ ¬ (run.status = .deliveryUnknown ∧ status = .rejected) then
    .error "Provider Turn does not match a resolvable delivery state."
  else
    match status with
    | .deferred => deferTurn binding run input
    | .deliveryUnknown => markProviderTurnDeliveryUnknown binding { input with attemptId := attemptId }
    | .rejected => rejectProviderTurn binding { input with attemptId := attemptId }

inductive SettledStatus where
  | completed | failed | cancelled

def SettledStatus.turn : SettledStatus → ProviderTurnStatus
  | .completed => .completed
  | .failed => .failed
  | .cancelled => .cancelled

structure SettleInput where
  nativeTurnId : Option String
  attemptId : Option String
  status : SettledStatus
  settledAt : String
  reason : Option String

/-- The settlement names the turn by its attempt or by its native identity. -/
def namesTurn (run : ProviderTurn) (input : SettleInput) (nativeTurnId : Option String) : Bool :=
  match input.attemptId with
  | none => nativeTurnId.isSome && run.nativeTurnId == nativeTurnId
  | some attemptId => run.attemptId == attemptId

def SettlesTurn (run : ProviderTurn) (input : SettleInput) (nativeTurnId : Option String) : Prop :=
  namesTurn run input nativeTurnId = true ∧
    (run.nativeTurnId = none ∨ nativeTurnId = none ∨ run.nativeTurnId = nativeTurnId) ∧
    run.status = .accepted

instance (run : ProviderTurn) (input : SettleInput) (nativeTurnId : Option String) :
    Decidable (SettlesTurn run input nativeTurnId) :=
  inferInstanceAs (Decidable (_ ∧ (_ ∨ _ ∨ _) ∧ _))

def settleTurn (run : ProviderTurn) (input : SettleInput)
    (nativeTurnId : Option String) : Except String ProviderRuntimeBinding := do
  let settledAt ← orderedRunTimestamp run input.settledAt "Provider Turn settledAt"
  let reason ← onSome (fun value => identity value "Provider Turn terminal reason") input.reason
  let settled : ProviderTurn := { run with
    nativeTurnId := nativeTurnId.orElse fun _ => run.nativeTurnId
    status := input.status.turn
    updatedAt := settledAt
    terminalReason := reason.orElse fun _ => run.terminalReason }
  let binding ← validateProviderRuntimeBinding { binding with run := some settled }
  .ok (completeProviderRetry binding settled)

def settleProviderTurn (raw : ProviderRuntimeBinding) (input : SettleInput) :
    Except String ProviderRuntimeBinding := do
  let binding ← validateProviderRuntimeBinding raw
  let nativeTurnId ← onSome (fun value => identity value "Provider native Turn id") input.nativeTurnId
  match binding.run with
  | none => .error "Provider Turn settlement does not match the current AgentRun."
  | some run =>
    if SettlesTurn run input nativeTurnId then settleTurn binding run input nativeTurnId
    else .error "Provider Turn settlement does not match the current AgentRun."

def cancelQuiescentProviderInput (input : OutcomeInput) :
    Except String ProviderRuntimeBinding := do
  let binding ← validateProviderRuntimeBinding raw
  let run ← turnOf binding input.attemptId "Provider input identity changed during stop." fun _ => true
  if providerTurnIsActive (some run) then do
    let updatedAt ← orderedRunTimestamp run input.settledAt "Provider input cancelledAt"
    validateProviderRuntimeBinding { binding with
      run := some { run with
        status := .cancelled
        updatedAt := updatedAt
        terminalReason := some input.reason } }
  else .ok binding

def updateProviderConversationRecoverability
    (recoverability : ConversationRecoverability) : Except String ProviderRuntimeBinding := do
  let binding ← validateProviderRuntimeBinding raw
  match currentEntry binding with
  | none => .error "Provider Runtime Binding requires one current Conversation."
  | some current => validateProviderRuntimeBinding { binding with
      conversations := binding.conversations.map fun entry =>
        if entry.epoch = current.epoch then { entry with recoverability := recoverability }
        else entry }

def unsettledMessage (run : Option ProviderTurn) : String :=
  match run with
  | none => ""
  | some run => "Provider Conversation replacement cannot discard unsettled input attempt " ++
      run.attemptId ++ " (" ++ run.status.text ++
      "). Resolve its actual outcome before selecting a new Conversation."

/-- The basis of a replacement is always `terminal-session`. -/
def supersedeProviderConversation (conversationId switchedAt : String) :
    Except String ProviderRuntimeBinding := do
  let binding ← validateProviderRuntimeBinding raw
  match currentEntry binding with
  | none => .error "Provider Runtime Binding requires one current Conversation."
  | some current => do
    refuse (providerTurnIsActive binding.run = true)
      (unsettledMessage binding.run)
    let switchedAt ← timestamp switchedAt "Provider Conversation replacement timestamp"
    let conversationId ← identity conversationId "Provider Conversation id"
    validateProviderRuntimeBinding { binding with
      currentConversationEpoch := current.epoch + 1
      conversations := (binding.conversations.map fun entry =>
        if entry.epoch = current.epoch then
          { entry with status := .superseded, supersededAt := some switchedAt }
        else entry) ++
        [⟨conversationId, current.epoch + 1, .current, .unknown, switchedAt, none⟩]
      authority := ⟨binding.authority.epoch + 1, .controller, some "controller", switchedAt⟩
      goal := none }

end

/-- Some instants as `toISOString` prints them. -/
def sampleInstants : List (ℤ × String) :=
  [(1767600000000, sampleInstant), (1767600005000, "2026-01-05T08:00:05.000Z"),
    (1767600010000, "2026-01-05T08:00:10.000Z"), (1767600015000, "2026-01-05T08:00:15.000Z"),
    (1767600020000, "2026-01-05T08:00:20.000Z"), (1767600600000, "2026-01-05T08:10:00.000Z"),
    (1767600605000, "2026-01-05T08:10:05.000Z"), (1767600610000, "2026-01-05T08:10:10.000Z"),
    (1767600615000, "2026-01-05T08:10:15.000Z"), (-8640000000000000, "-271821-04-20T00:00:00.000Z"),
    (367199254742688, "+013606-01-30T08:59:02.688Z")]

/-- A unary name for every other time value. -/
def tally (time : ℤ) : List Char :=
  (if 0 ≤ time then '+' else '-') :: List.replicate time.natAbs '1'

def readTally : List Char → Option ℤ
  | '+' :: marks => some marks.length
  | '-' :: marks => some (-marks.length)
  | _ => none

def sampleParse (text : String) : Option ℤ :=
  match sampleInstants.find? fun entry => entry.2 = text with
  | some entry => some entry.1
  | none => readTally text.toList

def sampleIso (time : ℤ) : String :=
  match sampleInstants.find? fun entry => entry.1 = time with
  | some entry => entry.2
  | none => String.ofList (tally time)

theorem readTally_tally (time : ℤ) : readTally (tally time) = some time := by
  unfold tally
  split_ifs with hsign
  · simp only [readTally, List.length_replicate]
    congr 1
    omega
  · simp only [readTally, List.length_replicate]
    congr 1
    omega

theorem sampleParse_iso (time : ℤ) : sampleParse (sampleIso time) = some time := by
  unfold sampleIso
  split
  · next entry hentry =>
      have hread : ∀ other ∈ sampleInstants, sampleParse other.2 = some other.1 := by decide
      have htime : entry.1 = time := by simpa using List.find?_some hentry
      rw [hread entry (List.mem_of_find?_eq_some hentry), htime]
  · have hzone : ∀ other ∈ sampleInstants, 'Z' ∈ other.2.toList := by decide
    have hnone : sampleInstants.find? (fun entry => entry.2 = String.ofList (tally time)) = none := by
      rw [List.find?_eq_none]
      intro other hother heq
      have htext : other.2 = String.ofList (tally time) := by simpa using heq
      have hmark := hzone other hother
      rw [htext, String.toList_ofList, tally, List.mem_cons, List.mem_replicate] at hmark
      split_ifs at hmark <;> simp at hmark
    unfold sampleParse
    rw [hnone, String.toList_ofList]
    exact readTally_tally time

@[reducible] def sampleRetryHost : RuntimeHost where
  dateParse := sampleParse
  iso := sampleIso
  dateParse_iso time _ := sampleParse_iso time

end Binding
