import Yui.ContinuationFinality

/-!
# Folding continuation observations

`foldContinuationObservation` normalizes an observation, creates the record when there is none and
hands the evidence to `recordProviderReport` or `observeProviderContinuation`. The disposition that
the source returns beside the record only drives notifications and is left out.

The writer umbrella survives reports and inexact quiescence. It is lost to an observation that is
not quiescent and denies that the continuation may write.
-/

open JsText Checked Runtime FallibleRun

namespace Continuation

/-- A field that the kind of a normalized observation guarantees. -/
def guaranteed {α : Type} (value : Option α) : Except String α :=
  match value with
  | none => .error "Continuation observation payload is incomplete."
  | some value => .ok value

theorem guaranteed_ok {α : Type} {value : Option α} {result : α}
    (h : guaranteed value = .ok result) : value = some result := by
  cases value with
  | none => cases h
  | some value =>
    cases h
    rfl

section

variable [JobHost]

def durableResultReceipt (summary : Option String) : Option String × Option JsNumeric :=
  match summary with
  | none => (none, none)
  | some summary =>
    if trim summary = "" then (none, none)
    else (some (JobHost.sha256 summary), some (.finite (length16 summary)))

/-- The owner and the identity that the fence of a continuation observation names. -/
structure FenceIdentity where
  taskId : String
  runId : String
  identity : ProviderContinuationIdentity

def continuationIdentity (observation : RuntimeObservation) : Except String FenceIdentity :=
  match observation.fence.taskId, observation.fence.runId, observation.fence.conversationId,
    observation.fence.continuationId with
  | some taskId, some runId, some conversationId, some continuationId =>
    .ok ⟨taskId, runId, ⟨observation.fence.driverId, observation.fence.agentId, conversationId,
      continuationId⟩⟩
  | _, _, _, _ => .error "Continuation observation fence is incomplete."

/-- `observation.observedAt ?? observation.receivedAt`. -/
def evidenceTime (observation : RuntimeObservation) : String :=
  observation.observedAt.getD observation.receivedAt

def createFromObservation (observation : RuntimeObservation) (fence : FenceIdentity) :
    Except String ProviderContinuation := do
  let attachment ← guaranteed observation.payload.attachment
  let quality ← guaranteed observation.payload.observationQuality
  let mayWriteWorkspace ← guaranteed observation.payload.mayWriteWorkspace
  createProviderContinuation
    { taskId := fence.taskId
      roleName := observation.fence.roleName
      runId := fence.runId
      identity := fence.identity
      parentContinuationId := observation.fence.parentContinuationId
      attachment := attachment
      observation := quality
      mayWriteWorkspace := observation.kind = .continuationReported || mayWriteWorkspace
      observedAt := evidenceTime observation
      providerSequence := observation.sequence }

def foldBase (existing : Option ProviderContinuation) (observation : RuntimeObservation)
    (fence : FenceIdentity) : Except String ProviderContinuation :=
  match existing with
  | none => createFromObservation observation fence
  | some current => do
    let key ← providerContinuationKey current.identity
    let other ← providerContinuationKey fence.identity
    refuse (key ≠ other)
      "Continuation observation identity does not match the existing projection."
    .ok current

def foldReport (base : ProviderContinuation) (observation : RuntimeObservation) :
    Except String ProviderContinuation := do
  let reportId ← guaranteed observation.payload.reportId
  let receipt := durableResultReceipt observation.payload.summary
  recordProviderReport base ⟨reportId, observation.payload.resultRef,
    observation.payload.providerDeliveryRef, receipt.1, receipt.2, evidenceTime observation⟩
    observation.sequence

def foldEvidence (base : ProviderContinuation) (observation : RuntimeObservation) :
    Except String ProviderContinuation := do
  let execution ← guaranteed observation.payload.execution
  let outcome ← guaranteed observation.payload.outcome
  let attachment ← guaranteed observation.payload.attachment
  let quality ← guaranteed observation.payload.observationQuality
  let mayWriteWorkspace ← guaranteed observation.payload.mayWriteWorkspace
  observeProviderContinuation base ⟨execution, outcome, attachment, quality, mayWriteWorkspace,
    evidenceTime observation, observation.payload.resultRef, observation.sequence⟩

def foldNormalized (existing : Option ProviderContinuation) (observation : RuntimeObservation) :
    Except String ProviderContinuation := do
  refuse (observation.kind.isContinuation = false)
    "ContinuationManager requires a continuation observation."
  let fence ← continuationIdentity observation
  let base ← foldBase existing observation fence
  if observation.kind = .continuationReported then foldReport base observation
  else foldEvidence base observation

def foldContinuationObservation (existing : Option ProviderContinuation) (raw : RuntimeObservation) :
    Except String ProviderContinuation := do
  let observation ← createRuntimeObservation raw
  foldNormalized existing observation

/-- Folding one more observation into a stored record. -/
def fold (current : ProviderContinuation) (raw : RuntimeObservation) : Except String ProviderContinuation :=
  foldContinuationObservation (some current) raw

end

end Continuation

section Kept

variable [JsHost] {kind : RuntimeObservationKind} {input result : RuntimeObservationPayload}

structure SameLifecycle (input result : RuntimeObservationPayload) : Prop where
  execution : result.execution = input.execution
  outcome : result.outcome = input.outcome
  attachment : result.attachment = input.attachment
  observationQuality : result.observationQuality = input.observationQuality
  mayWriteWorkspace : result.mayWriteWorkspace = input.mayWriteWorkspace

theorem normalizePayload_lifecycle (h : normalizePayload kind input = .ok result) : SameLifecycle input result := by
  unfold normalizePayload at h
  iterate 20 obtain ⟨_, _, h⟩ := bind_ok h
  cases h
  exact ⟨rfl, rfl, rfl, rfl, rfl⟩

theorem createRuntimeObservation_kept {raw observation : RuntimeObservation}
    (h : createRuntimeObservation raw = .ok observation) :
    observation.kind = raw.kind ∧ observation.sequence = raw.sequence ∧
      SameLifecycle raw.payload observation.payload := by
  unfold createRuntimeObservation at h
  iterate 3 obtain ⟨_, _, h⟩ := bind_ok h
  obtain ⟨payload, hpayload, h⟩ := bind_ok h
  iterate 6 obtain ⟨_, _, h⟩ := bind_ok h
  cases h
  exact ⟨rfl, rfl, normalizePayload_lifecycle hpayload⟩

end Kept

namespace Continuation

section

variable [JobHost]

def ExactQuiescence (raw : RuntimeObservation) : Prop :=
  raw.payload.execution = some .quiescent ∧ raw.payload.observationQuality = some .exactly

instance (raw : RuntimeObservation) : Decidable (ExactQuiescence raw) :=
  inferInstanceAs (Decidable (_ ∧ _))

/-- An observation in sequence that is neither a report nor quiescent does not deny writing. -/
def ClaimsWriter (current : ProviderContinuation) (raw : RuntimeObservation) : Prop :=
  raw.kind ≠ .continuationReported → raw.payload.execution ≠ some .quiescent →
    providerSequenceRegresses current raw.sequence = .ok false →
    raw.payload.mayWriteWorkspace ≠ some false

/-- The observation is not applied, or it does not prove exact quiescence. -/
def KeepsOpen (current : ProviderContinuation) (raw : RuntimeObservation) : Prop :=
  raw.kind ≠ .continuationReported → providerSequenceRegresses current raw.sequence = .ok false →
    ¬ ExactQuiescence raw

theorem fold_cases {current result : ProviderContinuation} {raw : RuntimeObservation}
    (h : fold current raw = .ok result) : (∃ report, recordProviderReport current report raw.sequence = .ok result) ∨
    raw.kind ≠ .continuationReported ∧ ∃ input, observeProviderContinuation current input = .ok result ∧
      raw.payload.execution = some input.execution ∧ raw.payload.observationQuality = some input.observation ∧
      raw.payload.mayWriteWorkspace = some input.mayWriteWorkspace ∧ raw.sequence = input.providerSequence := by
  unfold fold foldContinuationObservation at h
  obtain ⟨observation, hobservation, h⟩ := bind_ok h
  obtain ⟨hkind, hsequence, hkept⟩ := createRuntimeObservation_kept hobservation
  unfold foldNormalized at h
  obtain ⟨_, _, fence, _, base, hbase, h⟩ := bind_ok₃ h
  iterate 3 obtain ⟨_, _, hbase⟩ := bind_ok hbase
  cases hbase
  split_ifs at h with hreported
  · obtain ⟨reportId, _, h⟩ := bind_ok h
    rw [hsequence] at h
    exact .inl ⟨_, h⟩
  · obtain ⟨execution, hexecution, outcome, _, attachment, _, quality, hquality, h⟩ := bind_ok₄ h
    obtain ⟨mayWrite, hmayWrite, h⟩ := bind_ok h
    refine .inr ⟨hkind ▸ hreported, _, h, ?_, ?_, ?_, hsequence.symm⟩
    · exact hkept.execution ▸ guaranteed_ok hexecution
    · exact hkept.observationQuality ▸ guaranteed_ok hquality
    · exact hkept.mayWriteWorkspace ▸ guaranteed_ok hmayWrite

theorem umbrella_step {current result : ProviderContinuation} {raw : RuntimeObservation}
    (howns : OwnsWriterUmbrella current) (hclaims : ClaimsWriter current raw)
    (hquiet : KeepsOpen current raw) (h : fold current raw = .ok result) : OwnsWriterUmbrella result := by
  obtain ⟨hwrites, hconflict, hexecution⟩ := howns
  rcases fold_cases h with ⟨report, hreport⟩ | ⟨hkind, input, hobserve, hraw, hquality, hmay, hseq⟩
  · obtain ⟨_, rfl | ⟨_, _, normalized, _, _, rfl⟩⟩ := recordProviderReport_cases hreport
    · exact ⟨hwrites, hconflict, hexecution⟩
    · exact ⟨hwrites, hconflict, hexecution⟩
  · obtain ⟨hvalid, rfl | ⟨_, hsequence, observedAt, ⟨_, hopen⟩ | ⟨hsettled, _⟩⟩⟩ :=
      observeProviderContinuation_cases hobserve
    · exact ⟨hwrites, hconflict, hexecution⟩
    · unfold observeOpen at hopen
      split_ifs at hopen with hinexact
      · obtain ⟨rfl, _⟩ := validateProviderContinuation_ok hopen
        exact ⟨by simp [hwrites], hconflict, .inr rfl⟩
      · obtain ⟨resultRef, _, hopen⟩ := bind_ok hopen
        obtain ⟨rfl, _⟩ := validateProviderContinuation_ok hopen
        have hactive : input.execution ≠ .quiescent := by
          intro hquiescent
          have hexact : input.observation = .exactly := by
            by_contra hne
            exact hinexact ⟨hquiescent, hne⟩
          exact hquiet hkind (hseq ▸ hsequence) ⟨by rw [hraw, hquiescent], by rw [hquality, hexact]⟩
        have hmayWrite : input.mayWriteWorkspace = true := by
          have hnot := hclaims hkind (by rw [hraw]; simpa using hactive) (hseq ▸ hsequence)
          rw [hmay] at hnot
          simpa using hnot
        refine ⟨hmayWrite, hconflict, ?_⟩
        cases hcase : input.execution with
        | active => exact .inl rfl
        | quiescent => exact absurd hcase hactive
        | unknown => exact .inr rfl
    · obtain ⟨settledAt, hsome⟩ := Option.ne_none_iff_exists'.1 hsettled
      have hquiescent := (hvalid.settled settledAt hsome).1
      rw [hquiescent] at hexecution
      rcases hexecution with hexecution | hexecution
      · cases hexecution
      · cases hexecution

/-- The umbrella is held throughout every run of observations in which no applied one is exactly quiescent and no
other one denies writing. -/
theorem umbrella_kept {current : ProviderContinuation} (howns : OwnsWriterUmbrella current)
    {observations : List RuntimeObservation} (hclaims : Along fold ClaimsWriter current observations)
    (hquiet : Along fold KeepsOpen current observations) :
    Throughout fold OwnsWriterUmbrella current observations := by
  induction observations generalizing current with
  | nil => exact howns
  | cons raw observations ih =>
    refine ⟨howns, ih ?_ hclaims.2 hquiet.2⟩
    exact attempt_preserves howns fun result hresult => umbrella_step howns hclaims.1 hquiet.1 hresult

end

def sampleEvidence (kind : RuntimeObservationKind) (execution : ContinuationExecution)
    (outcome : ContinuationOutcome) (quality : ContinuationObservationQuality) (mayWrite : Bool) :
    RuntimeObservation where
  schemaVersion := 1
  eventId := "event-1"
  semanticKey := "key-1"
  kind := kind
  authority := .providerStructured
  receivedAt := sampleInstant
  observedAt := none
  sequence := none
  ordinal := none
  fence :=
    { taskId := some "task-1"
      roleName := "leader"
      runId := some "run-1"
      agentId := "agent-1"
      driverId := "driver/sample"
      conversationId := some "conversation-1"
      continuationId := some "continuation-1"
      parentContinuationId := none
      nativeSessionId := some "session-1"
      nativeTurnId := none
      receiptId := none }
  payload :=
    { execution := some execution
      outcome := some outcome
      attachment := some .attached
      observationQuality := some quality
      mayWriteWorkspace := some mayWrite
      reportId := some "report-1" }

theorem umbrella_kept_unsettled :
    let _ := sampleRuntimeHost
    Throughout fold OwnsWriterUmbrella sampleContinuation
      [sampleEvidence .continuationStarted .quiescent .succeeded .partially false,
        sampleEvidence .continuationReported .quiescent .succeeded .exactly false,
        sampleEvidence .continuationStarted .unknown .unknown .unavailable true] := by
  let _ := sampleRuntimeHost
  apply umbrella_kept (by decide)
  · refine ⟨fun _ hactive => absurd rfl hactive, fun hreport => absurd rfl hreport, fun _ _ _ => ?_, trivial⟩
    decide
  · refine ⟨fun _ _ => ?_, fun hreport => absurd rfl hreport, fun _ _ => ?_, trivial⟩
    · decide
    · decide

/-- Partial evidence of an active continuation that denies writing releases the umbrella. -/
theorem umbrella_denied :
    let _ := sampleRuntimeHost
    let denial := sampleEvidence .continuationStarted .active .pending .partially false
    OwnsWriterUmbrella sampleContinuation ∧ ¬ ExactQuiescence denial ∧
      ∃ result, fold sampleContinuation denial = .ok result ∧ ¬ OwnsWriterUmbrella result := by
  let _ := sampleRuntimeHost
  refine ⟨by decide, by decide, { sampleContinuation with
    observation := .partially, mayWriteWorkspace := false }, by rfl, by decide⟩

end Continuation
