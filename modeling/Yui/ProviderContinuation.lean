import Yui.FallibleRun
import Yui.RuntimeObservation

/-!
# Provider continuations

A continuation is work that a Provider goes on with outside the turn that started it. Its record is
folded from observations: exact quiescence settles it, reports are collected, and evidence that
contradicts a settled record marks an identity conflict.
-/

open JsText Checked

inductive ContinuationDurability where
  | bestEffort | durableResult
  deriving DecidableEq

structure ProviderContinuationIdentity where
  providerNamespace : String
  accountScope : String
  conversationId : String
  continuationId : String

structure ProviderReport where
  reportId : String
  resultRef : Option String
  providerDeliveryRef : Option String
  resultDigest : Option String
  resultSize : Option JsNumeric
  observedAt : String

structure ProviderContinuation where
  schemaVersion : ℕ
  taskId : String
  roleName : String
  runId : String
  identity : ProviderContinuationIdentity
  parentContinuationId : Option String
  execution : ContinuationExecution
  outcome : ContinuationOutcome
  attachment : ContinuationAttachment
  observation : ContinuationObservationQuality
  mayWriteWorkspace : Bool
  durability : ContinuationDurability
  reports : List ProviderReport
  resultRef : Option String
  settledAt : Option String
  lastProviderSequence : Option JsNumeric
  identityConflict : Bool
  createdAt : String
  updatedAt : String

/-- `left < right` between numbers; every comparison with a value that is no number fails. -/
def JsNumeric.lt : JsNumeric → JsNumeric → Bool
  | .finite left, .finite right => decide (left < right)
  | .finite _, .infinite negative => !negative
  | .infinite negative, .finite _ => negative
  | .infinite negative, .infinite other => negative && !other
  | _, _ => false

namespace Continuation

def text (value label : String) : Except String String :=
  requireTextWith (label ++ " is invalid.") (label ++ " is invalid.") value

def timestamp [JsHost] (value label : String) : Except String String := do
  let normalized ← text value label
  if JsHost.dateParse normalized = none then .error (label ++ " must be a timestamp.")
  else .ok normalized

def sequence (value : JsNumeric) : Except String Unit :=
  refuse (value.isSafeFrom 0 = false) "Provider sequence is invalid."

def digest (value : String) : Except String String :=
  if isHexDigest value then .ok value
  else .error "Provider report result digest must be a sha256 hex string."

def reportSize (value : JsNumeric) : Except String JsNumeric :=
  if value.isSafeFrom 0 then .ok value else .error "Provider report result size is invalid."

def validateProviderReport [JsHost] (value : ProviderReport) : Except String ProviderReport := do
  let reportId ← text value.reportId "Provider report id"
  let resultRef ← onSome (fun value => text value "Result ref") value.resultRef
  let providerDeliveryRef ← onSome (fun value => text value "Provider delivery ref")
    value.providerDeliveryRef
  let resultDigest ← onSome digest value.resultDigest
  let resultSize ← onSome reportSize value.resultSize
  let observedAt ← timestamp value.observedAt "Provider report observedAt"
  .ok ⟨reportId, resultRef, providerDeliveryRef, resultDigest, resultSize, observedAt⟩

def validateProviderContinuationIdentity (value : ProviderContinuationIdentity) :
    Except String ProviderContinuationIdentity := do
  let _ ← text value.providerNamespace "Provider namespace"
  let _ ← text value.accountScope "Provider account scope"
  let _ ← text value.conversationId "Provider Conversation id"
  let _ ← text value.continuationId "Provider Continuation id"
  .ok value

def checkReports [JsHost] (value : ProviderContinuation) : Except String Unit := do
  let reports ← mapIndexed (fun report _ => validateProviderReport report) 0 value.reports
  refuse (¬ (reports.map ProviderReport.reportId).Nodup)
    "Provider Continuation reports contain duplicate identity."
  refuse (value.durability = .durableResult ∧ ¬ ∃ entry ∈ reports, entry.resultDigest ≠ none)
    "Durable-result Provider Continuation requires a result digest receipt."
  refuse (value.durability = .bestEffort ∧ ∃ entry ∈ reports, entry.resultDigest ≠ none)
    "Best-effort Provider Continuation must not carry a result digest receipt."

def checkSettled [JsHost] (value : ProviderContinuation) : Except String Unit :=
  match value.settledAt with
  | none => .ok ()
  | some settledAt => do
    let _ ← timestamp settledAt "Provider Continuation settledAt"
    refuse (value.execution ≠ .quiescent ∨ value.observation ≠ .exactly)
      "Settled Provider Continuation requires exact quiescence."

def validateProviderContinuation [JsHost] (value : ProviderContinuation) :
    Except String ProviderContinuation := do
  refuse (value.schemaVersion ≠ 1) "Provider Continuation schemaVersion must be 1."
  let _ ← text value.taskId "Task id"
  let _ ← text value.roleName "Role name"
  let _ ← text value.runId "AgentRun id"
  let _ ← validateProviderContinuationIdentity value.identity
  checkReports value
  let _ ← timestamp value.createdAt "Provider Continuation createdAt"
  let _ ← timestamp value.updatedAt "Provider Continuation updatedAt"
  checkSettled value
  refuse (value.execution = .active ∧ value.outcome ≠ .pending)
    "Active Provider Continuation outcome must remain pending."
  whenPresent value.lastProviderSequence sequence
  .ok value

/-- `providerContinuationKey`: the parts joined by NUL, which no part contains. -/
def providerContinuationKey (identity : ProviderContinuationIdentity) : Except String (List String) := do
  let normalized ← validateProviderContinuationIdentity identity
  .ok [normalized.providerNamespace, normalized.accountScope, normalized.conversationId,
    normalized.continuationId]

structure CreateInput where
  taskId : String
  roleName : String
  runId : String
  identity : ProviderContinuationIdentity
  parentContinuationId : Option String
  attachment : ContinuationAttachment
  observation : ContinuationObservationQuality
  mayWriteWorkspace : Bool
  observedAt : String
  providerSequence : Option JsNumeric

def createProviderContinuation [JsHost] (input : CreateInput) :
    Except String ProviderContinuation := do
  let taskId ← text input.taskId "Task id"
  let roleName ← text input.roleName "Role name"
  let runId ← text input.runId "AgentRun id"
  let identity ← validateProviderContinuationIdentity input.identity
  let parentContinuationId ← onSome (fun value => text value "Parent Continuation id")
    input.parentContinuationId
  let createdAt ← timestamp input.observedAt "Continuation observedAt"
  validateProviderContinuation
    { schemaVersion := 1
      taskId := taskId
      roleName := roleName
      runId := runId
      identity := identity
      parentContinuationId := parentContinuationId
      execution := .active
      outcome := .pending
      attachment := input.attachment
      observation := input.observation
      mayWriteWorkspace := input.mayWriteWorkspace
      durability := .bestEffort
      reports := []
      resultRef := none
      settledAt := none
      lastProviderSequence := input.providerSequence
      identityConflict := false
      createdAt := createdAt
      updatedAt := input.observedAt }

def providerSequenceRegresses (current : ProviderContinuation) (incoming : Option JsNumeric) : Except String Bool :=
  match incoming with
  | none => .ok false
  | some incoming => do
    sequence incoming
    .ok (current.lastProviderSequence.any fun last => incoming.lt last)

/-- `...(providerSequence === undefined ? {} : { lastProviderSequence: providerSequence })`. -/
def laterSequence (current : ProviderContinuation) (incoming : Option JsNumeric) :
    Option JsNumeric := incoming.orElse fun _ => current.lastProviderSequence

/-- A report with a digest is the receipt of a durable result. -/
def laterDurability (current : ProviderContinuation) (report : ProviderReport) : ContinuationDurability :=
  if report.resultDigest = none then current.durability else .durableResult

/-- The part of `recordProviderReport` behind its filters. -/
def appendReport [JsHost] (current : ProviderContinuation) (report : ProviderReport)
    (providerSequence : Option JsNumeric) : Except String ProviderContinuation := do
  let normalized ← validateProviderReport report
  if ∃ entry ∈ current.reports, entry.reportId = normalized.reportId then .ok current
  else if normalized.resultDigest ≠ none ∧
      ∃ entry ∈ current.reports, entry.resultDigest = normalized.resultDigest then .ok current
  else
    validateProviderContinuation { current with
      reports := current.reports ++ [normalized]
      durability := laterDurability current normalized
      lastProviderSequence := laterSequence current providerSequence
      updatedAt := normalized.observedAt }

def recordProviderReport [JsHost] (raw : ProviderContinuation) (report : ProviderReport)
    (providerSequence : Option JsNumeric) : Except String ProviderContinuation := do
  let current ← validateProviderContinuation raw
  if current.identityConflict then .ok current
  else do
    let regresses ← providerSequenceRegresses current providerSequence
    if regresses then .ok current else appendReport current report providerSequence

structure ObserveInput where
  execution : ContinuationExecution
  outcome : ContinuationOutcome
  attachment : ContinuationAttachment
  observation : ContinuationObservationQuality
  mayWriteWorkspace : Bool
  observedAt : String
  resultRef : Option String
  providerSequence : Option JsNumeric

/-- The branch of `observeProviderContinuation` for a settled record. -/
def observeSettled [JsHost] (current : ProviderContinuation) (input : ObserveInput)
    (observedAt : String) : Except String ProviderContinuation :=
  if input.execution = .quiescent ∧ input.outcome = current.outcome ∧
      (input.resultRef = none ∨ input.resultRef = current.resultRef) then .ok current
  else if input.execution = .quiescent ∧ input.observation = .exactly ∧
      input.outcome = current.outcome ∧ current.resultRef = none ∧ input.resultRef ≠ none then do
    let resultRef ← onSome (fun value => text value "Result ref") input.resultRef
    validateProviderContinuation { current with
      resultRef := resultRef
      lastProviderSequence := laterSequence current input.providerSequence
      updatedAt := observedAt }
  else if current.outcome = .unknown ∧ input.execution = .quiescent ∧
      input.observation = .exactly ∧ input.outcome ≠ .pending then do
    let resultRef ← onSome (fun value => text value "Result ref") input.resultRef
    validateProviderContinuation { current with
      outcome := input.outcome
      resultRef := resultRef.orElse fun _ => current.resultRef
      lastProviderSequence := laterSequence current input.providerSequence
      updatedAt := observedAt }
  else validateProviderContinuation { current with identityConflict := true, updatedAt := observedAt }

def ObserveInput.settlesAt (input : ObserveInput) (observedAt : String) : Option String :=
  if input.execution = .quiescent ∧ input.observation = .exactly then some observedAt else none

/-- The branch of `observeProviderContinuation` for a record that is not settled. -/
def observeOpen [JsHost] (current : ProviderContinuation) (input : ObserveInput)
    (observedAt : String) : Except String ProviderContinuation :=
  if input.execution = .quiescent ∧ input.observation ≠ .exactly then
    validateProviderContinuation { current with
      execution := .unknown
      observation := input.observation
      attachment := input.attachment
      mayWriteWorkspace := current.mayWriteWorkspace || input.mayWriteWorkspace
      lastProviderSequence := laterSequence current input.providerSequence
      updatedAt := observedAt }
  else do
    let resultRef ← onSome (fun value => text value "Result ref") input.resultRef
    validateProviderContinuation { current with
      execution := input.execution
      outcome := input.outcome
      attachment := input.attachment
      observation := input.observation
      mayWriteWorkspace := input.mayWriteWorkspace
      resultRef := resultRef.orElse fun _ => current.resultRef
      settledAt := (input.settlesAt observedAt).orElse fun _ => current.settledAt
      lastProviderSequence := laterSequence current input.providerSequence
      updatedAt := observedAt }

def observeProviderContinuation [JsHost] (raw : ProviderContinuation) (input : ObserveInput) :
    Except String ProviderContinuation := do
  let current ← validateProviderContinuation raw
  if current.identityConflict then .ok current
  else do
    let regresses ← providerSequenceRegresses current input.providerSequence
    if regresses then .ok current
    else do
      let observedAt ← timestamp input.observedAt "Continuation observedAt"
      if current.settledAt = none then observeOpen current input observedAt
      else observeSettled current input observedAt

def detachProviderContinuation [JsHost] (raw : ProviderContinuation) (observedAt : String) :
    Except String ProviderContinuation := do
  let current ← validateProviderContinuation raw
  if current.attachment = .detached then .ok current
  else do
    let updatedAt ← timestamp observedAt "Continuation detachedAt"
    validateProviderContinuation { current with attachment := .detached, updatedAt := updatedAt }

/-- The record owns the writer umbrella; the source validates it first. -/
def OwnsWriterUmbrella (value : ProviderContinuation) : Prop :=
  value.mayWriteWorkspace = true ∧ value.identityConflict = false ∧
    (value.execution = .active ∨ value.execution = .unknown)

instance (value : ProviderContinuation) : Decidable (OwnsWriterUmbrella value) :=
  inferInstanceAs (Decidable (_ ∧ _ ∧ (_ ∨ _)))

section Valid

variable [JsHost] {value result : ProviderContinuation}

/-- What the proofs use of a valid record. -/
structure Valid (value : ProviderContinuation) : Prop where
  reports : checkReports value = .ok ()
  settled : ∀ settledAt ∈ value.settledAt, value.execution = .quiescent ∧ value.observation = .exactly
  active : value.execution = .active → value.outcome = .pending

theorem validateProviderContinuation_ok (h : validateProviderContinuation value = .ok result) :
    result = value ∧ Valid value := by
  unfold validateProviderContinuation at h
  iterate 5 obtain ⟨_, _, h⟩ := bind_ok h
  obtain ⟨_, hreports, _, _, _, _, _, hsettled, h⟩ := bind_ok₄ h
  obtain ⟨_, hactive, _, _, h⟩ := bind_ok₂ h
  cases h
  refine ⟨rfl, hreports, fun settledAt hsome => ?_, fun hexecution => ?_⟩
  · unfold checkSettled at hsettled
    rw [Option.mem_def.1 hsome] at hsettled
    obtain ⟨_, _, hsettled⟩ := bind_ok hsettled
    have hquiet := refuse_ok hsettled
    rw [not_or, not_not, not_not] at hquiet
    exact hquiet
  · have hpending := refuse_ok hactive
    rw [not_and, not_not] at hpending
    exact hpending hexecution

theorem recordProviderReport_cases {report : ProviderReport} {providerSequence : Option JsNumeric}
    (h : recordProviderReport value report providerSequence = .ok result) :
    Valid value ∧ (result = value ∨ value.identityConflict = false ∧ Valid result ∧ ∃ normalized : ProviderReport,
        (∀ entry ∈ value.reports, entry.reportId ≠ normalized.reportId) ∧
        (∀ digest ∈ normalized.resultDigest, ∀ entry ∈ value.reports, entry.resultDigest ≠ some digest) ∧
        result = { value with
          reports := value.reports ++ [normalized]
          durability := laterDurability value normalized
          lastProviderSequence := laterSequence value providerSequence
          updatedAt := normalized.observedAt }) := by
  unfold recordProviderReport at h
  obtain ⟨current, hcurrent, hrest⟩ := bind_ok h
  clear h
  obtain ⟨rfl, hvalid⟩ := validateProviderContinuation_ok hcurrent
  rename' hrest => h
  refine ⟨hvalid, ?_⟩
  split_ifs at h with hconflict
  · cases h
    exact .inl rfl
  · obtain ⟨regresses, _, h⟩ := bind_ok h
    split_ifs at h with hregresses
    · cases h
      exact .inl rfl
    · unfold appendReport at h
      obtain ⟨normalized, _, h⟩ := bind_ok h
      split_ifs at h with hid hdigest
      · cases h
        exact .inl rfl
      · cases h
        exact .inl rfl
      · obtain ⟨rfl, hresult⟩ := validateProviderContinuation_ok h
        refine .inr ⟨by simpa using hconflict, hresult, normalized, ?_, ?_, rfl⟩
        · exact fun entry hentry heq => hid ⟨entry, hentry, heq⟩
        · intro digest hsome entry hentry heq
          rw [Option.mem_def.1 hsome] at hdigest
          exact hdigest ⟨by simp, entry, hentry, heq⟩

theorem observeProviderContinuation_cases {input : ObserveInput}
    (h : observeProviderContinuation value input = .ok result) :
    Valid value ∧ (result = value ∨ value.identityConflict = false ∧
      providerSequenceRegresses value input.providerSequence = .ok false ∧
      ∃ observedAt, value.settledAt = none ∧ observeOpen value input observedAt = .ok result ∨
        value.settledAt ≠ none ∧ observeSettled value input observedAt = .ok result) := by
  unfold observeProviderContinuation at h
  obtain ⟨current, hcurrent, hrest⟩ := bind_ok h
  clear h
  obtain ⟨rfl, hvalid⟩ := validateProviderContinuation_ok hcurrent
  rename' hrest => h
  refine ⟨hvalid, ?_⟩
  by_cases hconflict : current.identityConflict = true
  · rw [if_pos hconflict] at h
    cases h
    exact .inl rfl
  · rw [if_neg hconflict] at h
    obtain ⟨regresses, hsequence, h⟩ := bind_ok h
    cases regresses with
    | true =>
      cases h
      exact .inl rfl
    | false =>
      obtain ⟨observedAt, _, h⟩ := bind_ok h
      refine .inr ⟨by simpa using hconflict, hsequence, observedAt, ?_⟩
      split_ifs at h with hopen
      · exact .inl ⟨hopen, h⟩
      · exact .inr ⟨hopen, h⟩

theorem detachProviderContinuation_cases {observedAt : String}
    (h : detachProviderContinuation value observedAt = .ok result) :
    Valid value ∧ (result = value ∨ Valid result ∧ ∃ updatedAt,
      result = { value with attachment := .detached, updatedAt := updatedAt }) := by
  unfold detachProviderContinuation at h
  obtain ⟨current, hcurrent, hrest⟩ := bind_ok h
  clear h
  obtain ⟨rfl, hvalid⟩ := validateProviderContinuation_ok hcurrent
  rename' hrest => h
  refine ⟨hvalid, ?_⟩
  split_ifs at h with hdetached
  · cases h
    exact .inl rfl
  · obtain ⟨updatedAt, _, h⟩ := bind_ok h
    obtain ⟨rfl, hresult⟩ := validateProviderContinuation_ok h
    exact .inr ⟨hresult, updatedAt, rfl⟩

end Valid

end Continuation
