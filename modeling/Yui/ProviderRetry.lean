import Yui.ProviderBinding

/-!
# The retry chain of a failed Provider input

`runtime/providerRetry.ts`: a failed input opens a chain, the chain schedules further submissions of the
same input within a budget of attempts and of time, and every submission has an attempt id of its own.
Time values are integers of milliseconds, the random fraction is a rational.
-/

open JsText Checked

namespace Binding

inductive RetrySource where
  | knownNonRetryable | knownTransient | unknownFallback
  deriving DecidableEq

structure RetryPolicy where
  source : RetrySource
  limit : ℤ

def isRefusedCategory : AgentErrorCategory → Bool
  | .access | .invalidRequest | .context | .session | .conflict | .cancelled => true
  | _ => false

def providerErrorRetryPolicy (error : StandardAgentError) : RetryPolicy :=
  if error.retryable = some false ∨ error.sessionDisposition = .unrecoverable ∨
      isRefusedCategory error.category = true then ⟨.knownNonRetryable, 0⟩
  else if error.retryable = some true then ⟨.knownTransient, retryLimit⟩
  else ⟨.unknownFallback, 1⟩

variable (binding : ProviderRuntimeBinding)

/-- What the failed turn itself leaves unproven. -/
def turnBlocker (error : StandardAgentError) (turn : ProviderTurn) :
    Option String :=
  if turn.status ≠ .failed ∧ turn.status ≠ .rejected then some "terminal-failure-unconfirmed"
  else if binding.authority.owner ≠ .controller ∨ turn.authorityEpoch ≠ binding.authority.epoch then
    some "authority-changed"
  else
    match currentConversation binding with
    | none => some "session-identity-unavailable"
    | some conversation =>
      if conversation.status ≠ .current then some "session-identity-unavailable"
      else if conversation.recoverability = .unrecoverable then some "session-unrecoverable"
      else if turn.status = .failed ∧
          (turn.nativeTurnId = none ∨ error.inputDisposition ≠ .accepted) then
        some "exact-failed-turn-unavailable"
      else if turn.status = .rejected ∧ error.inputDisposition ≠ .notAccepted then
        some "non-submission-unproven"
      else if error.sessionDisposition ≠ .recoverable ∧
          ¬ (turn.status = .failed ∧ turn.retrySupported = some true) then
        some "session-recovery-unproven"
      else none

def failureBlocker (error : StandardAgentError) : Option String :=
  if binding.retryDisabled = some true then some "retry-disabled"
  else if (providerErrorRetryPolicy error).limit = 0 then some "known-non-retryable"
  else if (∃ turn ∈ binding.run, turn.status = .deliveryUnknown) ∨ error.inputDisposition = .unknown then
    some "input-delivery-unknown"
  else
    match binding.run with
    | none => some "terminal-failure-unconfirmed"
    | some turn => turnBlocker binding error turn

/-- A failure as the transaction that settles the input records it. -/
structure FailureInput where
  error : StandardAgentError
  failureRef : String
  time : ℤ
  random : ℚ
  noProviderWrite : Bool
  standard : isStandardAgentError error = true
  named : failureRef ≠ ""

def sessionOf : String :=
  ((currentConversation binding).map ProviderConversation.conversationId).getD ""

def isStopped (status : ProviderRetryStatus) : Bool :=
  status = .cancelled || status = .exhausted || status = .needsAttention

/-- The chain has this failure already. -/
def AlreadyRecorded (turn : ProviderTurn) : Prop :=
  ∃ previous ∈ binding.retry,
    (previous.currentAttemptId = some turn.attemptId ∧ isStopped previous.status = true) ∨
      (previous.failedAttemptId = turn.attemptId ∧ previous.status ≠ .inFlight)

instance (binding : ProviderRuntimeBinding) (turn : ProviderTurn) :
    Decidable (AlreadyRecorded binding turn) := inferInstanceAs (Decidable (∃ previous ∈ _, _))

/-- The chain whose submission failed. -/
def continuingRetry (turn : ProviderTurn) : Option ProviderRetry :=
  binding.retry.filter fun previous =>
    previous.status = .inFlight ∧ previous.currentAttemptId = some turn.attemptId

/-- An automatic submission that wrote nothing is no attempt. -/
def refund (retry : ProviderRetry) (noProviderWrite : Bool) : ℤ :=
  if noProviderWrite = true ∧ retry.successorAutomatic ≠ some false then 1 else 0

section

variable [RuntimeHost]

/-- `Date.parse` of a time that was printed or validated. -/
def timeValue (value : String) : ℤ := (JsHost.dateParse value).getD 0

def openedRetry (turn : ProviderTurn) (input : FailureInput)
    (owned : ProviderInput) : Except String ProviderRetry := do
  let now ← iso input.time
  let deadline ← iso (input.time + retryBudgetMs)
  .ok { policyVersion := 1
        chainId := turn.attemptId
        status := .waiting
        input := owned
        nativeSessionId := sessionOf binding
        authorityEpoch := binding.authority.epoch
        attempts := 0
        transportSequence := 0
        startedAt := now
        intentAt := turn.submittedAt
        deadline := deadline
        nextEligibleAt := now
        updatedAt := now
        failedAttemptId := turn.attemptId
        failureAttemptId := turn.attemptId
        failedNativeTurnId := turn.nativeTurnId
        previousRunId := turn.runId
        currentAttemptId := none
        successorRunId := none
        successorAutomatic := none
        failureRef := input.failureRef
        error := input.error
        reason := none }

def continuedRetry (turn : ProviderTurn) (input : FailureInput)
    (previous : ProviderRetry) : Except String ProviderRetry := do
  let now ← iso input.time
  .ok { policyVersion := 1
        chainId := previous.chainId
        status := .waiting
        input := previous.input
        nativeSessionId := sessionOf binding
        authorityEpoch := binding.authority.epoch
        attempts := previous.attempts - refund previous input.noProviderWrite
        transportSequence := previous.transportSequence
        startedAt := previous.startedAt
        intentAt := previous.intentAt
        deadline := previous.deadline
        nextEligibleAt := now
        updatedAt := now
        failedAttemptId := turn.attemptId
        failureAttemptId := if turn.nativeTurnId.isSome then turn.attemptId
          else previous.failureAttemptId
        failedNativeTurnId := turn.nativeTurnId.orElse fun _ => previous.failedNativeTurnId
        previousRunId := turn.runId
        currentAttemptId := none
        successorRunId := none
        successorAutomatic := none
        failureRef := input.failureRef
        error := input.error
        reason := none }

/-- Exact numbers stand for the doubles of the source. -/
def backoff (attempts : ℤ) (random : ℚ) : ℤ :=
  ((min 60000 (5000 * 2 ^ attempts.toNat) : ℚ) * (1 / 2 + random / 2)).ceil

/-- The wait that a standard error asks for, an integer. -/
def serverWait (error : StandardAgentError) : Option ℤ :=
  error.retryAfterMs.map fun value =>
    match value with
    | .finite wait => wait.num
    | _ => 0

def retryDelay (error : StandardAgentError) (attempts : ℤ) (random : ℚ) : ℤ :=
  match serverWait error with
  | none => backoff attempts random
  | some wait => max (backoff attempts random) (wait + 1 + (random * 1000).ceil)

def isSpent (current : ProviderRetry) : Bool :=
  decide ((providerErrorRetryPolicy current.error).limit ≤ current.attempts)

/-- The chain waits, unless its Host, its budget or its deadline rules another submission out. -/
def scheduledRetry (turn : ProviderTurn) (current : ProviderRetry) (input : FailureInput) :
    Except String ProviderRetry := do
  refuse (¬ (0 ≤ input.random ∧ input.random ≤ 1)) "Retry RNG must return a unit fraction."
  let eligible := input.time + retryDelay input.error current.attempts input.random
  let exhausted : Bool := isSpent current || decide (timeValue current.deadline ≤ eligible)
  let nextEligibleAt ← iso (if exhausted then min eligible (timeValue current.deadline) else eligible)
  .ok { current with
    nextEligibleAt := nextEligibleAt
    status := if turn.retrySupported ≠ some true then .needsAttention
      else if exhausted then .exhausted else .waiting
    reason := if turn.retrySupported ≠ some true then some "host-safe-retry-unsupported"
      else if exhausted then
        some (if isSpent current then "automatic-attempt-limit" else "retry-after-exceeds-deadline")
      else none }

/-- A failure of the chain's own submission continues the chain, another one opens a chain. -/
def scheduleRetry (turn : ProviderTurn) (input : FailureInput) :
    Except String ProviderRuntimeBinding :=
  match continuingRetry binding turn with
  | some previous => do
    let current ← continuedRetry binding turn input previous
    let retry ← scheduledRetry turn current input
    .ok { binding with retry := some retry }
  | none =>
    match turn.input with
    | none => .ok binding
    | some owned => do
      let current ← openedRetry binding turn input owned
      let retry ← scheduledRetry turn current input
      .ok { binding with
        retry := some retry
        retryHistory := binding.retryHistory ++ binding.retry.toList }

def stoppedRetry (turn : ProviderTurn) (input : FailureInput) (retry : ProviderRetry) : ProviderRetry :=
  { retry with
    error := input.error
    failureRef := input.failureRef
    failedAttemptId := turn.attemptId
    failureAttemptId := turn.attemptId
    failedNativeTurnId := turn.nativeTurnId.orElse fun _ => retry.failedNativeTurnId }

def recordTerminal (turn : ProviderTurn) (input : FailureInput) :
    Except String ProviderRuntimeBinding :=
  if turn.status = .deliveryUnknown ∨ AlreadyRecorded binding turn then .ok binding
  else
    match failureBlocker binding input.error with
    | some blocker =>
      if providerRetryPending binding then do
        let stopped ← cancelProviderRetry binding blocker input.time
        .ok { stopped with retry := stopped.retry.map (stoppedRetry turn input) }
      else .ok binding
    | none => scheduleRetry binding turn input

def isFailedStatus (status : ProviderTurnStatus) : Bool :=
  status = .failed || status = .rejected || status = .deliveryUnknown

def ProviderTurn.withFailure (turn : ProviderTurn) (input : FailureInput) : ProviderTurn :=
  { turn with failure := some ⟨input.error, input.failureRef⟩ }

def recordProviderFailure (binding : ProviderRuntimeBinding) (input : FailureInput) :
    Except String ProviderRuntimeBinding :=
  match binding.run with
  | none => .ok binding
  | some turn =>
    if isFailedStatus turn.status then
      recordTerminal { binding with run := some (ProviderTurn.withFailure turn input) }
        (ProviderTurn.withFailure turn input) input
    else .ok binding

def isAutomatic (retry : ProviderRetry) : Bool := retry.successorAutomatic ≠ some false

/-- A time that is no date never holds a submission back. -/
def OutOfBudget (retry : ProviderRetry) (time : ℤ) : Prop :=
  isAutomatic retry = true ∧ (binding.retryDisabled = some true ∨
    timeValue retry.deadline ≤ time ∨ (providerErrorRetryPolicy retry.error).limit ≤ retry.attempts)

instance (binding : ProviderRuntimeBinding) (retry : ProviderRetry) (time : ℤ) :
    Decidable (OutOfBudget binding retry time) := inferInstanceAs (Decidable (_ ∧ (_ ∨ _ ∨ _)))

def isResubmittable (status : ProviderTurnStatus) : Bool :=
  status = .failed || status = .rejected || status = .deferred

/-- The input, the session and the authority are those that the chain was recorded for. -/
def MatchesChain (retry : ProviderRetry) : Prop :=
  binding.authority.owner = .controller ∧ binding.authority.epoch = retry.authorityEpoch ∧
    (∃ conversation ∈ currentConversation binding,
      conversation.conversationId = retry.nativeSessionId ∧
        conversation.recoverability ≠ .unrecoverable) ∧
    ∃ run ∈ binding.run, run.attemptId = retry.failedAttemptId ∧ isResubmittable run.status = true

instance (binding : ProviderRuntimeBinding) (retry : ProviderRetry) : Decidable (MatchesChain binding retry) :=
  inferInstanceAs (Decidable (_ ∧ _ ∧ (∃ conversation ∈ _, _) ∧ ∃ run ∈ _, _))

def submittedRetry (retry : ProviderRetry) (attemptId updatedAt : String) : ProviderRetry :=
  { retry with
    status := .inFlight
    attempts := retry.attempts + if isAutomatic retry then 1 else 0
    transportSequence := retry.transportSequence + 1
    currentAttemptId := some attemptId
    updatedAt := updatedAt }

def ineligible : String :=
  "Provider retry is not eligible under the current input, Session, authority or budget."

def admitProviderRetry (binding : ProviderRuntimeBinding) (attemptId : String) (time : ℤ) :
    Except String ProviderRuntimeBinding :=
  match binding.retry with
  | none => .error ineligible
  | some retry =>
    if retry.status = .inFlight ∧ retry.currentAttemptId = some attemptId then .ok binding
    else if retry.status ≠ .waiting ∨ time < timeValue retry.nextEligibleAt ∨
        OutOfBudget binding retry time ∨ ¬ MatchesChain binding retry then .error ineligible
    else do
      let updatedAt ← iso time
      .ok { binding with retry := some (submittedRetry retry attemptId updatedAt) }

def deferredRetry (retry : ProviderRetry) (turn : ProviderTurn) (reason : Option String)
    (nextEligibleAt updatedAt : String) : ProviderRetry :=
  { retry with
    attempts := retry.attempts - if isAutomatic retry then 1 else 0
    failedAttemptId := turn.attemptId
    currentAttemptId := none
    successorRunId := if reason = none then retry.successorRunId else none
    previousRunId := if reason = none then retry.previousRunId
      else turn.runId.orElse fun _ => retry.previousRunId
    status := if reason = none then .waiting else .needsAttention
    nextEligibleAt := nextEligibleAt
    updatedAt := updatedAt
    reason := reason.orElse fun _ => retry.reason }

def deferProviderRetry (binding : ProviderRuntimeBinding) (time : ℤ) (reason : Option String) :
    Except String ProviderRuntimeBinding :=
  match binding.retry, binding.run with
  | some retry, some turn =>
    if retry.status = .inFlight ∧ retry.currentAttemptId = some turn.attemptId then do
      let nextEligibleAt ← iso (min (time + 1000) (timeValue retry.deadline))
      let updatedAt ← iso time
      .ok { binding with
        retry := some (deferredRetry retry turn reason nextEligibleAt updatedAt) }
    else .ok binding
  | _, _ => .ok binding

inductive RetryAction where
  | cancel | disable | enable

def controlProviderRetry (binding : ProviderRuntimeBinding) (action : RetryAction) (time : ℤ) :
    Except String ProviderRuntimeBinding :=
  match action with
  | .enable => .ok { binding with retryDisabled := some false }
  | .cancel => cancelProviderRetry binding "user-cancel" time
  | .disable => do
    let stopped ← cancelProviderRetry binding "user-disable" time
    .ok { stopped with retryDisabled := some true }

/-- The chain of the current run, as it was recorded for the run's last turn. -/
def MatchesRun (turn : ProviderTurn) (runId : String)
    (previous : ProviderRetry) : Prop :=
  previous.previousRunId = some runId ∧ previous.status ≠ .recovered ∧
    previous.failedAttemptId = turn.attemptId ∧ previous.authorityEpoch = binding.authority.epoch ∧
    previous.nativeSessionId = sessionOf binding

instance (binding : ProviderRuntimeBinding) (turn : ProviderTurn) (runId : String)
    (previous : ProviderRetry) : Decidable (MatchesRun binding turn runId previous) :=
  inferInstanceAs (Decidable (_ ∧ _ ∧ _ ∧ _ ∧ _))

def ContinuesChain (turn : ProviderTurn) (previous : ProviderRetry) : Prop :=
  previous.status ≠ .recovered ∧ previous.currentAttemptId = some turn.attemptId ∧
    previous.authorityEpoch = binding.authority.epoch ∧ previous.nativeSessionId = sessionOf binding

instance (binding : ProviderRuntimeBinding) (turn : ProviderTurn) (previous : ProviderRetry) :
    Decidable (ContinuesChain binding turn previous) :=
  inferInstanceAs (Decidable (_ ∧ _ ∧ _ ∧ _))

def manualRecord (turn : ProviderTurn) (runId now : String)
    (owned : ProviderInput) (failure : ProviderFailure) (chainId : String) (attempts : ℤ)
    (transportSequence : ℕ) (startedAt deadline : String) : ProviderRetry where
  policyVersion := 1
  chainId := chainId
  status := .waiting
  input := owned
  nativeSessionId := sessionOf binding
  authorityEpoch := binding.authority.epoch
  attempts := attempts
  transportSequence := transportSequence
  startedAt := startedAt
  intentAt := now
  deadline := deadline
  nextEligibleAt := now
  updatedAt := now
  failedAttemptId := turn.attemptId
  failureAttemptId := turn.attemptId
  failedNativeTurnId := turn.nativeTurnId
  previousRunId := some runId
  currentAttemptId := none
  successorRunId := none
  successorAutomatic := some false
  failureRef := failure.ref
  error := failure.error
  reason := none

/-- A manual retry refreshes the proof of its chain or opens a chain without a budget of its own. -/
def manualRetry (turn : ProviderTurn) (runId : String) (time : ℤ)
    (owned : ProviderInput) (failure : ProviderFailure) : Except String ProviderRetry := do
  let now ← iso time
  match binding.retry.filter fun previous => ContinuesChain binding turn previous with
  | some previous => .ok (manualRecord binding turn runId now previous.input failure previous.chainId
      previous.attempts previous.transportSequence previous.startedAt previous.deadline)
  | none => do
    let deadline ← iso (time + retryBudgetMs)
    .ok (manualRecord binding turn runId now owned failure turn.attemptId 0 0 now deadline)

def provenRetry (turn : ProviderTurn) (runId : String) (time : ℤ) :
    Except String (Option ProviderRetry) :=
  match turn.nativeTurnId, turn.input, turn.failure with
  | some _, some owned, some failure =>
    if turn.status ≠ .failed ∨ turn.retrySupported ≠ some true ∨
        failure.error.inputDisposition ≠ .accepted ∨
        failure.error.sessionDisposition = .unrecoverable then .ok none
    else do
      let retry ← manualRetry binding turn runId time owned failure
      .ok (some retry)
  | _, _, _ => .ok none

def IsRetryableRun (turn : ProviderTurn) (runId : String) : Prop :=
  turn.runId = some runId ∧ isResubmittable turn.status = true ∧
    binding.authority.owner = .controller ∧ turn.authorityEpoch = binding.authority.epoch ∧
    (currentConversation binding).isSome = true

instance (binding : ProviderRuntimeBinding) (turn : ProviderTurn) (runId : String) :
    Decidable (IsRetryableRun binding turn runId) := inferInstanceAs (Decidable (_ ∧ _ ∧ _ ∧ _ ∧ _))

def providerRunRetry (runId : String) (time : ℤ) :
    Except String (Option ProviderRetry) :=
  match binding.run with
  | none => .ok none
  | some turn =>
    if IsRetryableRun binding turn runId then
      match binding.retry.filter fun previous => MatchesRun binding turn runId previous with
      | some previous => .ok (some previous)
      | none => provenRetry binding turn runId time
    else .ok none

/-- The chain that a new record replaces goes to the history. -/
def archived (retry : ProviderRetry) : List ProviderRetry :=
  binding.retryHistory ++ (binding.retry.filter fun previous => previous.chainId ≠ retry.chainId).toList

def manualEligibility (error : StandardAgentError) (time : ℤ) : ℤ :=
  max time (match serverWait error, binding.run with
    | some wait, some turn => timeValue turn.updatedAt + wait + 1
    | _, _ => 0)

/-- The binding that a manual `retryRun` stores. -/
def retryRun (binding : ProviderRuntimeBinding) (runId : String) (time : ℤ)
    (successorRunId : Option String) : Except String ProviderRuntimeBinding := do
  let found ← providerRunRetry binding runId time
  match found with
  | none => .ok binding
  | some retry =>
    if retry.status ≠ .recovered ∧ retry.previousRunId = some runId then do
      let intentAt ← iso time
      let nextEligibleAt ← iso (manualEligibility binding retry.error time)
      .ok { binding with
        retryHistory := archived binding retry
        retry := some { retry with
          status := .waiting
          successorAutomatic := some false
          intentAt := intentAt
          nextEligibleAt := nextEligibleAt
          successorRunId := successorRunId.orElse fun _ => retry.successorRunId } }
    else .ok binding

/-- The binding that `retryRun` stores when the scheduler resumes a waiting chain. -/
def resumeRun (chainId runId : String) (time : ℤ)
    (successorRunId : Option String) : Except String ProviderRuntimeBinding :=
  match binding.retry with
  | none => .error "Provider recovery intent is no longer eligible."
  | some retry =>
    if retry.chainId ≠ chainId ∨ retry.status ≠ .waiting ∨ retry.previousRunId ≠ some runId ∨
        time < timeValue retry.nextEligibleAt ∨ timeValue retry.deadline ≤ time then
      .error "Provider recovery intent is no longer eligible."
    else .ok { binding with
      retry := some { retry with
        successorAutomatic := some true
        successorRunId := successorRunId.orElse fun _ => retry.successorRunId } }

def providerRetryAttemptId (retry : ProviderRetry) : String :=
  "provider-retry:" ++ retry.chainId ++ "/" ++ toString (retry.transportSequence + 1)

end

end Binding
