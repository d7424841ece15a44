import Yui.RuntimeObservationJson
import Yui.RuntimeObservationStable

/-!
# Runtime observations on the task log

An accepted observation is written to the log as one `runtime.observation` event and read back from it.
The token counters and the Goal budget are checked for one kind each and copied for all of them, so a
number that JSON cannot write reaches the log as `null`.
-/

open Checked

/-- The payload of a `runtime.observation` event, with the text of `observation` as the value it is
read as. -/
structure RuntimeObservationTaskEventPayload where
  eventId : String
  semanticKey : String
  roleName : String
  agentId : String
  driverId : String
  taskId : Option String
  runId : Option String
  nativeSessionId : Option String
  kind : RuntimeObservationKind
  receivedAt : String
  observation : JsonData

structure RuntimeTaskEvent where
  type : String
  payload : RuntimeObservationTaskEventPayload

namespace Runtime

def runtimeObservationTaskEvent : String := "runtime.observation"

def runtimeObservationTaskEventPayload [JsHost] (input : RuntimeObservation) :
    Except String RuntimeObservationTaskEventPayload := do
  let observation ← createRuntimeObservation input
  .ok {
    eventId := observation.eventId
    semanticKey := observation.semanticKey
    roleName := observation.fence.roleName
    agentId := observation.fence.agentId
    driverId := observation.fence.driverId
    taskId := observation.fence.taskId
    runId := observation.fence.runId
    nativeSessionId := observation.fence.nativeSessionId
    kind := observation.kind
    receivedAt := observation.receivedAt
    observation := observationCodec.write observation }

def runtimeObservationFromTaskEvent [JsHost] (event : RuntimeTaskEvent) : Option RuntimeObservation :=
  if event.type ≠ runtimeObservationTaskEvent then none
  else do
    let parsed ← observationCodec.read event.payload.observation
    (createRuntimeObservation parsed).toOption

/-- A number that JSON text can hold. -/
def isWritable : JsNumeric → Bool
  | .finite _ | .null => true
  | .nan | .infinite _ => false

/-- No token counter and no Goal budget is `NaN` or infinite. -/
def countersWritable (payload : RuntimeObservationPayload) : Bool :=
  (payload.usage.all fun usage => (usageEntries usage).all fun entry => isWritable entry.2) &&
    payload.goalTokenBudget.all isWritable

theorem jsonNumber_eq_iff (value : JsNumeric) : jsonNumber value = value ↔ isWritable value = true := by
  cases value <;> simp [jsonNumber, isWritable]

theorem isWritable_of_isSafeFrom {least : ℚ} {value : JsNumeric}
    (h : value.isSafeFrom least = true) : isWritable value = true := by
  cases value with
  | finite value => rfl
  | nan => cases h
  | infinite negative => cases h
  | null => cases h

theorem map_jsonNumber_iff (value : Option JsNumeric) :
    value.map jsonNumber = value ↔ value.all isWritable = true := by
  cases value with
  | none => simp
  | some value => simpa using jsonNumber_eq_iff value

theorem map_jsonNumber_of_safe {least : ℚ} {value : Option JsNumeric}
    (h : value.all (JsNumeric.isSafeFrom least) = true) : value.map jsonNumber = value := by
  apply (map_jsonNumber_iff value).2
  cases value with
  | none => rfl
  | some value => exact isWritable_of_isSafeFrom h

theorem usageCopy_eq_iff (usage : RuntimeUsageSnapshot) :
    usageCopy usage = usage ↔ ((usageEntries usage).all fun entry => isWritable entry.2) = true := by
  obtain ⟨semantics, inputs, outputs, cached, reasoning⟩ := usage
  have hcopy : usageCopy ⟨semantics, inputs, outputs, cached, reasoning⟩ =
      ⟨semantics, inputs, outputs, cached, reasoning⟩ ↔ inputs.map jsonNumber = inputs ∧
        outputs.map jsonNumber = outputs ∧ cached.map jsonNumber = cached ∧
          reasoning.map jsonNumber = reasoning := by
    simp [usageCopy, numberCodec]
  rw [hcopy]
  simp only [map_jsonNumber_iff]
  cases inputs <;> cases outputs <;> cases cached <;> cases reasoning <;>
    simp [usageEntries]

theorem costCopy_normal {cost : RuntimeCostSnapshot} {result : RuntimeCostSnapshot}
    (h : normalizeCost cost = .ok result) : costCopy cost = cost := by
  obtain ⟨_, hamount, -⟩ := bind_ok h
  have hamount := refuse_ok hamount
  obtain ⟨kind, semantics, amount, currency, source, basis⟩ := cost
  cases amount with
  | finite value => rfl
  | nan => exact absurd rfl hamount
  | infinite negative => exact absurd rfl hamount
  | null => exact absurd rfl hamount

/-- An Agent error that was accepted keeps its delay. -/
theorem failureCopy_normal {failure result : RuntimeRunFailure}
    (h : normalizeFailure failure = .ok result) : failureCopy failure = failure := by
  obtain ⟨_, herror, -⟩ := bind_ok h
  have herror := refuse_ok herror
  simp only [isStandardAgentError, Bool.not_eq_false, Bool.and_eq_true] at herror
  have hdelay : failure.error.retryAfterMs.map jsonNumber = failure.error.retryAfterMs :=
    map_jsonNumber_of_safe herror.2
  have hcopy : errorCopy failure.error = failure.error := by
    unfold errorCopy
    rw [show numberCodec.copy = jsonNumber from rfl, hdelay]
  unfold failureCopy
  rw [show errorCodec.copy = errorCopy from rfl, hcopy]

theorem map_of_onSome {α : Type} {check : α → Except String α} {copy : α → α} {value result : Option α}
    (hcopy : ∀ x y, check x = .ok y → copy x = x) (h : onSome check value = .ok result) : value.map copy = value := by
  cases value with
  | none => rfl
  | some x =>
    obtain ⟨y, hy, -⟩ := bind_ok h
    rw [Option.map_some, hcopy x y hy]

theorem payloadCopy_eq_iff [JsHost] {kind : RuntimeObservationKind}
    {payload result : RuntimeObservationPayload} (h : normalizePayload kind payload = .ok result) :
    payloadCopy payload = payload ↔ countersWritable payload = true := by
  unfold normalizePayload at h
  obtain ⟨_, -, _, -, cost, hcost, _, -, h⟩ := bind_ok₄ h
  obtain ⟨failure, hfailure, -⟩ := bind_ok h
  have hcost : payload.cost.map costCopy = payload.cost := map_of_onSome (fun _ _ => costCopy_normal) hcost
  have hfailure : payload.failure.map failureCopy = payload.failure :=
    map_of_onSome (fun _ _ => failureCopy_normal) hfailure
  have husage : payload.usage.map usageCopy = payload.usage ↔
      (payload.usage.all fun usage => (usageEntries usage).all fun entry => isWritable entry.2) =
        true := by
    cases payload.usage with
    | none => simp
    | some usage => simpa using usageCopy_eq_iff usage
  have hcopy : payloadCopy payload = payload ↔ payload.usage.map usageCopy = payload.usage ∧
      payload.goalTokenBudget.map jsonNumber = payload.goalTokenBudget := by
    have hform : payloadCopy payload = { payload with
        usage := payload.usage.map usageCopy
        goalTokenBudget := payload.goalTokenBudget.map jsonNumber } := by
      unfold payloadCopy
      rw [show costCodec.copy = costCopy from rfl, show failureCodec.copy = failureCopy from rfl, hcost, hfailure]
      rfl
    rw [hform]
    constructor
    · intro heq
      exact ⟨congrArg RuntimeObservationPayload.usage heq, congrArg RuntimeObservationPayload.goalTokenBudget heq⟩
    · rintro ⟨h1, h2⟩
      rw [h1, h2]
  rw [hcopy, husage, map_jsonNumber_iff, countersWritable, Bool.and_eq_true]

theorem observationCopy_eq_iff [JsHost] {input result : RuntimeObservation}
    (h : createRuntimeObservation input = .ok result) :
    observationCopy input = input ↔ countersWritable input.payload = true := by
  unfold createRuntimeObservation at h
  iterate 3 obtain ⟨_, -, h⟩ := bind_ok h
  obtain ⟨payload, hpayload, _, hsequence, h⟩ := bind_ok₂ h
  obtain ⟨_, hordinal, -⟩ := bind_ok h
  have hsequence : input.sequence.map jsonNumber = input.sequence :=
    map_jsonNumber_of_safe (by simpa using refuse_ok hsequence)
  have hordinal : input.ordinal.map jsonNumber = input.ordinal :=
    map_jsonNumber_of_safe (by simpa using refuse_ok hordinal)
  have hform : observationCopy input = { input with payload := payloadCopy input.payload } := by
    unfold observationCopy
    rw [show numberCodec.copy = jsonNumber from rfl, hsequence, hordinal]
    rfl
  rw [hform, ← payloadCopy_eq_iff hpayload]
  constructor
  · intro heq
    exact congrArg RuntimeObservation.payload heq
  · intro heq
    rw [heq]

theorem normalizePayload_counters [JsHost] {kind : RuntimeObservationKind}
    {input result : RuntimeObservationPayload} (h : normalizePayload kind input = .ok result) :
    result.usage = input.usage.map withSemantics ∧ result.goalTokenBudget = input.goalTokenBudget := by
  unfold normalizePayload at h
  iterate 20 obtain ⟨_, -, h⟩ := bind_ok h
  cases h
  exact ⟨rfl, rfl⟩

theorem countersWritable_normal [JsHost] {input result : RuntimeObservation}
    (h : createRuntimeObservation input = .ok result) :
    countersWritable result.payload = countersWritable input.payload := by
  unfold createRuntimeObservation at h
  iterate 3 obtain ⟨_, -, h⟩ := bind_ok h
  obtain ⟨payload, hpayload, h⟩ := bind_ok h
  iterate 6 obtain ⟨_, -, h⟩ := bind_ok h
  cases h
  obtain ⟨husage, hbudget⟩ := normalizePayload_counters hpayload
  dsimp only
  unfold countersWritable
  rw [husage, hbudget]
  cases input.payload.usage with
  | none => rfl
  | some usage => rfl

theorem countersWritable_copy (payload : RuntimeObservationPayload) :
    countersWritable (payloadCopy payload) = true := by
  have hnumber : ∀ value, isWritable (jsonNumber value) = true := by
    intro value
    cases value <;> rfl
  have hbudget : (payload.goalTokenBudget.map jsonNumber).all isWritable = true := by
    cases payload.goalTokenBudget with
    | none => rfl
    | some value => exact hnumber value
  have husage : ((payload.usage.map usageCopy).all fun usage =>
      (usageEntries usage).all fun entry => isWritable entry.2) = true := by
    cases payload.usage with
    | none => rfl
    | some usage =>
      obtain ⟨semantics, inputs, outputs, cached, reasoning⟩ := usage
      cases inputs <;> cases outputs <;> cases cached <;> cases reasoning <;>
        simp [usageCopy, usageEntries, numberCodec, hnumber]
  unfold countersWritable
  rw [Bool.and_eq_true]
  exact ⟨husage, hbudget⟩

section RoundTrip

variable [JsHost] {input result : RuntimeObservation}

/-- What is read back of an accepted observation. -/
theorem fromTaskEvent_payload (h : createRuntimeObservation input = .ok result) :
    ∃ payload, runtimeObservationTaskEventPayload input = .ok payload ∧
      runtimeObservationFromTaskEvent ⟨runtimeObservationTaskEvent, payload⟩ =
        (createRuntimeObservation (observationCopy result)).toOption := by
  simp only [runtimeObservationTaskEventPayload, h, ok_bind]
  apply Exists.intro
  apply And.intro rfl
  simp only [runtimeObservationFromTaskEvent, ne_eq, not_true_eq_false, if_false, observationCodec.read_write result]
  rfl

theorem createRuntimeObservation_copy_iff (h : createRuntimeObservation input = .ok result) :
    createRuntimeObservation (observationCopy result) = .ok result ↔ countersWritable input.payload = true := by
  have hstable := createRuntimeObservation_stable input result h
  rw [← countersWritable_normal h]
  constructor
  · intro hcreate
    rw [countersWritable_normal hcreate]
    exact countersWritable_copy result.payload
  · intro hwritable
    rw [(observationCopy_eq_iff hstable).2 hwritable]
    exact hstable

/-- An accepted observation is read back from the log as it was normalized, and normalizing it again
returns it, when the counters can be written. -/
theorem observation_round_trips_iff (h : createRuntimeObservation input = .ok result) :
    ((∃ payload, runtimeObservationTaskEventPayload input = .ok payload ∧
        runtimeObservationFromTaskEvent ⟨runtimeObservationTaskEvent, payload⟩ = some result) ∧
      createRuntimeObservation result = .ok result) ↔ countersWritable input.payload = true := by
  obtain ⟨payload, hpayload, hread⟩ := fromTaskEvent_payload h
  rw [← createRuntimeObservation_copy_iff h]
  constructor
  · rintro ⟨⟨written, hwritten, hsame⟩, -⟩
    rw [hpayload] at hwritten
    cases hwritten
    rw [hread] at hsame
    cases hcopy : createRuntimeObservation (observationCopy result) with
    | error e =>
      rw [hcopy] at hsame
      cases hsame
    | ok again =>
      rw [hcopy] at hsame
      cases hsame
      rfl
  · intro hcopy
    rw [hcopy] at hread
    exact ⟨⟨payload, hpayload, hread⟩, createRuntimeObservation_stable input result h⟩

end RoundTrip

/-- A ready session that reports `inputTokens` of its usage. -/
def readySession (inputTokens : JsNumeric) : RuntimeObservation where
  schemaVersion := 1
  eventId := "event-1"
  semanticKey := "session-ready:native-1"
  kind := .sessionReady
  authority := .providerStructured
  receivedAt := sampleInstant
  observedAt := none
  sequence := some (.finite 4)
  ordinal := none
  fence := ⟨some "task-1", "writer", some "run-1", "agent-1", "builtin/codex", none, none, none, some "native-1",
    none, none⟩
  payload := { usage := some ⟨some .cumulativeSession, some inputTokens, some (.finite 0), none, none⟩ }

theorem observation_round_trips_sample :
    let _ := sampleClock
    createRuntimeObservation (readySession (.finite 12)) = .ok (readySession (.finite 12)) ∧
      (((∃ payload, runtimeObservationTaskEventPayload (readySession (.finite 12)) = .ok payload ∧
          runtimeObservationFromTaskEvent ⟨runtimeObservationTaskEvent, payload⟩ = some (readySession (.finite 12))) ∧
        createRuntimeObservation (readySession (.finite 12)) = .ok (readySession (.finite 12))) ↔
          countersWritable (readySession (.finite 12)).payload = true) := by
  let _ := sampleClock
  have h : createRuntimeObservation (readySession (.finite 12)) = .ok (readySession (.finite 12)) := by rfl
  exact ⟨h, observation_round_trips_iff h⟩

/-- `NaN` is accepted with a ready session and comes back as `null`. -/
theorem usage_changes_on_reread :
    let _ := sampleClock
    ∃ payload, createRuntimeObservation (readySession .nan) = .ok (readySession .nan) ∧
      runtimeObservationTaskEventPayload (readySession .nan) = .ok payload ∧
        runtimeObservationFromTaskEvent ⟨runtimeObservationTaskEvent, payload⟩ =
          some (readySession .null) ∧ readySession .null ≠ readySession .nan := by
  let _ := sampleClock
  have h : createRuntimeObservation (readySession .nan) = .ok (readySession .nan) := by rfl
  have hcopy : createRuntimeObservation (observationCopy (readySession .nan)) =
      .ok (readySession .null) := by
    rfl
  obtain ⟨payload, hpayload, hread⟩ := fromTaskEvent_payload h
  rw [hcopy] at hread
  exact ⟨payload, h, hpayload, hread, by decide⟩

end Runtime
