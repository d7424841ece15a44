import Yui.DurableJobHistory

/-!
# The operations of a durable job under the guard

Every operation that returns a job leads to a transition that the guard accepts, as long as the
evidence lists of the stored run name no reference twice. The operations that record evidence need
not even that, and no operation brings a reference twice into the lists.
-/

open Checked Relation

/-- The evidence of the second run is what the guard expects after the first. -/
def Recorded (before after : JobRun) : Prop :=
  mergeEvidence before.operation after.operation.asEvidence = after.operation

variable {before after : JobRun}

theorem recorded_merge {evidence : Evidence}
    (h : after.operation = mergeEvidence before.operation evidence) : Recorded before after := by
  unfold Recorded
  rw [h]
  exact mergeEvidence_absorb _ _

theorem recorded_self (h : after.operation = before.operation)
    (hdistinct : before.operation.Distinct) : Recorded before after := by
  unfold Recorded
  rw [h]
  exact mergeEvidence_self hdistinct

theorem artifactsAppendOnly_self (h : before.artifacts = after.artifacts) :
    artifactsAppendOnly before after = true := by
  unfold artifactsAppendOnly
  rw [h]
  exact List.isPrefixOf_iff_prefix.2 List.prefix_rfl

/-- The fields of a run that its operations set. -/
structure Progress where
  status : DurableJobStatus
  operation : OperationFacts
  startedAt : Option String
  heartbeatAt : Option String
  terminalAt : Option String
  process : Option DurableJobProcess
  result : Option DurableJobResult
  businessResult : Option JobBusinessResult
  cancelRequestedAt : Option String
  updatedAt : String

def JobRun.advance (job : JobRun) (p : Progress) : JobRun :=
  { job with
    status := p.status
    operation := p.operation
    startedAt := p.startedAt
    heartbeatAt := p.heartbeatAt
    terminalAt := p.terminalAt
    process := p.process
    result := p.result
    businessResult := p.businessResult
    cancelRequestedAt := p.cancelRequestedAt
    updatedAt := p.updatedAt }

def JobRun.flag (job : JobRun) (wakeup : Option Bool) (acknowledged : Option String) (updatedAt : String) : JobRun :=
  { job with wakeupNotified := wakeup, acknowledgedAt := acknowledged, updatedAt := updatedAt }

theorem active_of_queued {job : JobRun} (h : job.status = .queued) : isDurableJobTerminal job.status = false := by
  rw [h]
  rfl

theorem active_of_running {job : JobRun} (h : job.status = .running) : isDurableJobTerminal job.status = false := by
  rw [h]
  rfl

theorem terminal_allowed_of_running {job after : JobRun} {status : DurableJobStatus}
    (h : job.status = .running) (hs : isDurableJobTerminal status = true) : status ∈ allowedStatuses job after := by
  unfold allowedStatuses
  rw [h]
  cases status <;> simp [isDurableJobTerminal] at hs ⊢

section

variable [JobHost]

inductive JobOperation where
  | start (process : DurableJobProcess) (now : JsDate)
  | touchHeartbeat (now : JsDate)
  | complete (result : DurableJobResult) (now : JsDate) (businessResult : Option JobBusinessResult)
  | reject (reason : String) (now : JsDate)
  | markUnknown (reason : String) (completedSteps : List DurableJobStepResult) (now : JsDate)
  | requestCancel (now : JsDate)
  | cancelQueued (now : JsDate)
  | markWakeupNotified (now : JsDate)
  | acknowledge (now : JsDate)

def JobOperation.apply (job : JobRun) : JobOperation → Except String JobRun
  | .start process now => startDurableJob job process now
  | .touchHeartbeat now => touchDurableJobHeartbeat job now
  | .complete result now businessResult => completeDurableJob job result now businessResult
  | .reject reason now => rejectQueuedDurableJob job reason now
  | .markUnknown reason completedSteps now => markDurableJobUnknown job reason completedSteps now
  | .requestCancel now => requestDurableJobCancel job now
  | .cancelQueued now => cancelQueuedDurableJob job now
  | .markWakeupNotified now => markDurableJobWakeupNotified job now
  | .acknowledge now => acknowledgeUnknownDurableJob job now

/-- The operations that write the evidence of the run. -/
def JobOperation.records : JobOperation → Bool
  | .start _ _ | .complete _ _ _ | .markUnknown _ _ _ => true
  | _ => false

/-- The step of an operation: an active run moves on to an allowed status with the evidence it had
or more, and any run may have its flags raised. -/
inductive Advances (job : JobRun) : JobRun → Prop where
  | moved (p : Progress) (hactive : isDurableJobTerminal job.status = false)
      (hallowed : p.status ∈ allowedStatuses job (job.advance p))
      (hoperation : p.operation = job.operation ∨
        ∃ evidence, p.operation = mergeEvidence job.operation evidence) : Advances job (job.advance p)
  | flagged (wakeup : Option Bool) (acknowledged : Option String) (updatedAt : String)
      (hactive : isDurableJobTerminal job.status = true)
      (hwakeup : wakeup = job.wakeupNotified ∨ wakeup = some true)
      (hacknowledged : acknowledged = job.acknowledgedAt ∨
        job.acknowledgedAt = none ∧ acknowledged ≠ none) :
      Advances job (job.flag wakeup acknowledged updatedAt)
  | unchanged : Advances job job

variable {job after : JobRun}

theorem validateDurableJob_ok (h : validateDurableJob job = .ok after) :
    after = job ∧ ValidOperation job.operation := by
  obtain ⟨_, hcheck, h⟩ := bind_ok h
  cases h
  refine ⟨rfl, ?_⟩
  unfold checkDurableJob at hcheck
  iterate 3 obtain ⟨_, _, hcheck⟩ := bind_ok hcheck
  obtain ⟨_, hoperation, _⟩ := bind_ok hcheck
  exact (validateOperationFacts_iff _).1 hoperation

theorem Advances.accepted (h : Advances job after)
    (hrecorded : Recorded job after) (hvalid : ValidOperation after.operation) : Accepted job after := by
  rw [accepted_iff]
  cases h with
  | moved p hactive hallowed hoperation =>
    refine ⟨?_, artifactsAppendOnly_self rfl, hrecorded, hvalid, ?_⟩
    · rcases hoperation with hsame | ⟨evidence, hmerge⟩
      · simp only [JobFacts.identity, JobRun.advance, hsame]
        rfl
      · simp only [JobFacts.identity, JobRun.advance, hmerge, mergeEvidence]
        rfl
    · rw [if_neg (by simp [hactive])]
      exact hallowed
  | flagged wakeup acknowledged updatedAt hterminal hwakeup hacknowledged =>
    refine ⟨rfl, artifactsAppendOnly_self rfl, hrecorded, hvalid, ?_⟩
    rw [if_pos hterminal]
    refine ⟨rfl, rfl, rfl, rfl, rfl, ?_, ?_⟩
    · by_cases hset : job.wakeupNotified = some true
      · left
        rcases hwakeup with h | h
        · exact h.symm
        · exact hset.trans h.symm
      · exact hwakeup.imp Eq.symm fun h => ⟨hset, h⟩
    · exact hacknowledged.imp Eq.symm id
  | unchanged =>
    refine ⟨rfl, artifactsAppendOnly_self rfl, hrecorded, hvalid, ?_⟩
    split_ifs with hterminal
    · exact ⟨rfl, rfl, rfl, rfl, rfl, .inl rfl, .inl rfl⟩
    · cases hs : job.status <;> simp [hs, isDurableJobTerminal, allowedStatuses] at hterminal ⊢

variable {now : JsDate}

theorem Advances.of_start {process : DurableJobProcess} (h : startDurableJob job process now = .ok after) :
    Advances job after ∧ ValidOperation after.operation ∧
      ∃ evidence, after.operation = mergeEvidence job.operation evidence := by
  unfold startDurableJob at h
  obtain ⟨_, _, _, hstatus, h⟩ := bind_ok₂ h
  have hqueued : job.status = .queued := not_not.1 (refuse_ok hstatus)
  obtain ⟨operation, hoperation, h⟩ := bind_ok h
  obtain ⟨hmerge, _⟩ := recordOperationEvidence_ok hoperation
  obtain ⟨rfl, hvalid⟩ := validateDurableJob_ok h
  refine ⟨.moved ⟨.running, operation, some now.iso, some now.iso, job.terminalAt, some process,
    job.result, job.businessResult, job.cancelRequestedAt, now.iso⟩ ?_ ?_ (.inr ⟨_, hmerge⟩),
    hvalid, _, hmerge⟩
  · exact active_of_queued hqueued
  · simp [allowedStatuses, hqueued]

theorem Advances.of_touchHeartbeat (h : touchDurableJobHeartbeat job now = .ok after) :
    Advances job after ∧ ValidOperation after.operation ∧ after.operation = job.operation := by
  unfold touchDurableJobHeartbeat at h
  obtain ⟨_, _, _, hstatus, h⟩ := bind_ok₂ h
  have hrunning : job.status = .running := not_not.1 (refuse_ok hstatus)
  obtain ⟨rfl, hvalid⟩ := validateDurableJob_ok h
  refine ⟨.moved ⟨job.status, job.operation, job.startedAt, some now.iso, job.terminalAt,
    job.process, job.result, job.businessResult, job.cancelRequestedAt, now.iso⟩
    (active_of_running hrunning) ?_ (.inl rfl), hvalid, rfl⟩
  simp [allowedStatuses, hrunning]

theorem Advances.of_complete {result : DurableJobResult} {businessResult : Option JobBusinessResult}
    (h : completeDurableJob job result now businessResult = .ok after) :
    Advances job after ∧ ValidOperation after.operation ∧
      ∃ evidence, after.operation = mergeEvidence job.operation evidence := by
  unfold completeDurableJob at h
  dsimp only at h
  generalize businessResult.getD (processBusinessResult job.toJobFacts result) = business at h
  obtain ⟨_, _, _, hstatus, h⟩ := bind_ok₂ h
  have hrunning : job.status = .running := not_not.1 (refuse_ok hstatus)
  obtain ⟨_, _, operation, hoperation, h⟩ := bind_ok₂ h
  obtain ⟨hmerge, _⟩ := recordOperationEvidence_ok hoperation
  obtain ⟨_, _, _, hbusiness, h⟩ := bind_ok₂ h
  have hterminal : isDurableJobTerminal business.outcome = true := by
    unfold validateBusinessResult at hbusiness
    obtain ⟨_, _, _, houtcome, _⟩ := bind_ok₂ hbusiness
    simpa using refuse_ok houtcome
  obtain ⟨rfl, hvalid⟩ := validateDurableJob_ok h
  exact ⟨.moved ⟨business.outcome, operation, job.startedAt, job.heartbeatAt, some now.iso,
    job.process, some result, some business, job.cancelRequestedAt, now.iso⟩
    (active_of_running hrunning) (terminal_allowed_of_running hrunning hterminal)
    (.inr ⟨_, hmerge⟩), hvalid, _, hmerge⟩

theorem Advances.of_endQueued {result : DurableJobResult}
    (hqueued : job.status = .queued) (hresult : result.outcome = .cancelled ∨
      result.outcome = .failed ∧ job.operation.effect = .none) (h : endQueued job result now = .ok after) :
    Advances job after ∧ ValidOperation after.operation ∧ after.operation = job.operation := by
  obtain ⟨rfl, hvalid⟩ := validateDurableJob_ok h
  refine ⟨.moved ⟨result.outcome, job.operation, job.startedAt, job.heartbeatAt, some now.iso,
    job.process, some result, some (processBusinessResult job.toJobFacts result),
    job.cancelRequestedAt, now.iso⟩ (active_of_queued hqueued) ?_ (.inl rfl), hvalid, rfl⟩
  rcases hresult with hcancelled | ⟨hfailed, heffect⟩
  · simp [allowedStatuses, hqueued, hcancelled]
  · simp [allowedStatuses, hqueued, hfailed, heffect, JobRun.advance]

theorem Advances.of_reject {reason : String} (h : rejectQueuedDurableJob job reason now = .ok after) :
    Advances job after ∧ ValidOperation after.operation ∧ after.operation = job.operation := by
  unfold rejectQueuedDurableJob at h
  obtain ⟨_, _, _, hstatus, h⟩ := bind_ok₂ h
  have hstate := refuse_ok hstatus
  rw [not_or, not_not, not_not] at hstate
  obtain ⟨_, _, h⟩ := bind_ok h
  exact Advances.of_endQueued hstate.1 (.inr ⟨rfl, hstate.2⟩) h

theorem Advances.of_cancelQueued (h : cancelQueuedDurableJob job now = .ok after) :
    Advances job after ∧ ValidOperation after.operation ∧ after.operation = job.operation := by
  unfold cancelQueuedDurableJob at h
  obtain ⟨_, _, _, hstatus, h⟩ := bind_ok₂ h
  exact Advances.of_endQueued (not_not.1 (refuse_ok hstatus)) (.inl rfl) h

theorem Advances.of_markUnknown {reason : String} {completedSteps : List DurableJobStepResult}
    (h : markDurableJobUnknown job reason completedSteps now = .ok after) :
    Advances job after ∧ ValidOperation after.operation ∧
      ∃ evidence, after.operation = mergeEvidence job.operation evidence := by
  unfold markDurableJobUnknown at h
  obtain ⟨_, _, _, hstatus, h⟩ := bind_ok₂ h
  have hactive : job.status = .running ∨ job.status = .queued := by
    have hnot := refuse_ok hstatus
    by_contra hneither
    rw [not_or] at hneither
    exact hnot ⟨hneither.1, fun hq => hneither.2 hq.1⟩
  obtain ⟨_, _, operation, hoperation, h⟩ := bind_ok₂ h
  obtain ⟨hmerge, _⟩ := recordOperationEvidence_ok hoperation
  obtain ⟨rfl, hvalid⟩ := validateDurableJob_ok h
  refine ⟨.moved ⟨.unknownNeedsAttention, operation, job.startedAt, job.heartbeatAt, some now.iso,
    job.process, some _, some _, job.cancelRequestedAt, now.iso⟩ ?_ ?_ (.inr ⟨_, hmerge⟩),
    hvalid, _, hmerge⟩
  · exact hactive.elim active_of_running active_of_queued
  · rcases hactive with hrunning | hqueued
    · exact terminal_allowed_of_running hrunning rfl
    · simp [allowedStatuses, hqueued]

theorem Advances.of_requestCancel (h : requestDurableJobCancel job now = .ok after) :
    Advances job after ∧ ValidOperation after.operation ∧ after.operation = job.operation := by
  unfold requestDurableJobCancel at h
  obtain ⟨_, hjob, h⟩ := bind_ok h
  obtain ⟨_, hvalid⟩ := validateDurableJob_ok hjob
  split_ifs at h with hterminal hrequested
  · cases h
    exact ⟨.unchanged, hvalid, rfl⟩
  · cases h
    exact ⟨.unchanged, hvalid, rfl⟩
  · rw [Bool.not_eq_true] at hterminal
    obtain ⟨rfl, hvalid⟩ := validateDurableJob_ok h
    refine ⟨.moved ⟨job.status, job.operation, job.startedAt, job.heartbeatAt, job.terminalAt,
      job.process, job.result, job.businessResult, some now.iso, now.iso⟩ hterminal ?_
      (.inl rfl), hvalid, rfl⟩
    cases hs : job.status <;> simp [hs, isDurableJobTerminal, allowedStatuses] at hterminal ⊢

theorem markWakeupNotified_ok (h : markDurableJobWakeupNotified job now = .ok after) :
    isDurableJobTerminal job.status = true ∧ ValidOperation job.operation ∧
      (after = job ∨ after = job.flag (some true) job.acknowledgedAt now.iso) := by
  unfold markDurableJobWakeupNotified at h
  obtain ⟨_, hjob, h⟩ := bind_ok h
  obtain ⟨_, hvalid⟩ := validateDurableJob_ok hjob
  obtain ⟨_, hstatus, h⟩ := bind_ok h
  have hterminal : isDurableJobTerminal job.status = true := by simpa using refuse_ok hstatus
  split_ifs at h with hnotified
  · cases h
    exact ⟨hterminal, hvalid, .inl rfl⟩
  · obtain ⟨rfl, _⟩ := validateDurableJob_ok h
    exact ⟨hterminal, hvalid, .inr rfl⟩

theorem Advances.of_markWakeupNotified (h : markDurableJobWakeupNotified job now = .ok after) :
    Advances job after ∧ ValidOperation after.operation ∧ after.operation = job.operation := by
  obtain ⟨hterminal, hvalid, rfl | rfl⟩ := markWakeupNotified_ok h
  · exact ⟨.unchanged, hvalid, rfl⟩
  · exact ⟨.flagged (some true) job.acknowledgedAt now.iso hterminal (.inr rfl) (.inl rfl), hvalid, rfl⟩

theorem Advances.of_acknowledge (h : acknowledgeUnknownDurableJob job now = .ok after) :
    Advances job after ∧ ValidOperation after.operation ∧ after.operation = job.operation := by
  unfold acknowledgeUnknownDurableJob at h
  obtain ⟨_, hjob, h⟩ := bind_ok h
  obtain ⟨_, hvalid⟩ := validateDurableJob_ok hjob
  obtain ⟨_, hstatus, h⟩ := bind_ok h
  have hunknown : job.status = .unknownNeedsAttention := not_not.1 (refuse_ok hstatus)
  split_ifs at h with hacknowledged
  · cases h
    exact ⟨.unchanged, hvalid, rfl⟩
  · rw [not_not] at hacknowledged
    obtain ⟨rfl, hvalid⟩ := validateDurableJob_ok h
    exact ⟨.flagged job.wakeupNotified (some now.iso) now.iso (by rw [hunknown]; rfl) (.inl rfl)
      (.inr ⟨hacknowledged, by simp⟩), hvalid, rfl⟩

variable {op : JobOperation}

theorem apply_advances (h : op.apply job = .ok after) : Advances job after ∧ ValidOperation after.operation ∧
      if op.records then ∃ evidence, after.operation = mergeEvidence job.operation evidence
      else after.operation = job.operation := by
  cases op with
  | start process now => exact Advances.of_start h
  | touchHeartbeat now => exact Advances.of_touchHeartbeat h
  | complete result now businessResult => exact Advances.of_complete h
  | reject reason now => exact Advances.of_reject h
  | markUnknown reason completedSteps now => exact Advances.of_markUnknown h
  | requestCancel now => exact Advances.of_requestCancel h
  | cancelQueued now => exact Advances.of_cancelQueued h
  | markWakeupNotified now => exact Advances.of_markWakeupNotified h
  | acknowledge now => exact Advances.of_acknowledge h

theorem accepted_of_apply (h : op.apply job = .ok after)
    (hdistinct : op.records = true ∨ job.operation.Distinct) : Accepted job after := by
  obtain ⟨hadvances, hvalid, hoperation⟩ := apply_advances h
  refine hadvances.accepted ?_ hvalid
  by_cases hrecords : op.records = true
  · rw [if_pos hrecords] at hoperation
    obtain ⟨evidence, hmerge⟩ := hoperation
    exact recorded_merge hmerge
  · rw [if_neg hrecords] at hoperation
    exact recorded_self hoperation (hdistinct.resolve_left hrecords)

theorem Accepted.notified {job after notified : JobRun} (h : Accepted job after)
    (hnotified : markDurableJobWakeupNotified after now = .ok notified) : Accepted job notified := by
  obtain ⟨_, _, rfl | rfl⟩ := markWakeupNotified_ok hnotified
  · exact h
  · rw [accepted_iff] at h ⊢
    obtain ⟨hidentity, hartifacts, hmerge, hvalid, hstatus⟩ := h
    refine ⟨hidentity, hartifacts, hmerge, hvalid, ?_⟩
    split_ifs at hstatus ⊢ with hterminal
    · obtain ⟨hfacts, hs, hresult, hoperation, hat, hwakeup, hack⟩ := hstatus
      refine ⟨hfacts, hs, hresult, hoperation, hat, ?_, hack⟩
      by_cases hset : job.wakeupNotified = some true
      · exact .inl hset
      · exact .inr ⟨hset, rfl⟩
    · exact hstatus

theorem distinct_of_apply (h : op.apply job = .ok after)
    (hdistinct : job.operation.Distinct) : after.operation.Distinct := by
  obtain ⟨_, _, hoperation⟩ := apply_advances h
  split_ifs at hoperation
  · obtain ⟨evidence, hmerge⟩ := hoperation
    exact hmerge ▸ mergeEvidence_distinct _ _
  · exact hoperation ▸ hdistinct

/-- Every operation is accepted by the guard, alone and together with the wakeup flag, and the
guard keeps the history of a run. -/
theorem operations_guarded : (∀ (job after : JobRun) (op : JobOperation), op.apply job = .ok after →
      (job.operation.Distinct → after.operation.Distinct) ∧
        ((op.records = true ∨ job.operation.Distinct) → Accepted job after ∧
          ∀ now notified, markDurableJobWakeupNotified after now = .ok notified → Accepted job notified)) ∧
      ∀ before after : JobRun, ReflTransGen Accepted before after → Unchanged before after ∧
        ∀ taskId owner, before.scope = .task taskId owner → after.scope = .task taskId owner := by
  constructor
  · intro job after op h
    refine ⟨distinct_of_apply h, fun hdistinct => ?_⟩
    have haccepted := accepted_of_apply h hdistinct
    exact ⟨haccepted, fun now notified => haccepted.notified⟩
  · intro before after h
    have hunchanged := unchanged_of_chain h
    exact ⟨hunchanged, fun taskId owner => scope_of_identity hunchanged.identity⟩

end

def sampleTime : String := "2026-01-05T08:00:00.000Z"

def sampleDigest : String := "ca978112ca1bbdcafac231b39a23dc4da786eff8147c4e72b9807785afee48bb"

/-- A host that reads one time and knows one digest. -/
@[reducible] def sampleJobHost : JobHost where
  dateParse text := if text = sampleTime then some 1767600000000 else none
  localeCompare left right := if left < right then -1 else if right < left then 1 else 0
  sha256 _ := sampleDigest
  sha256_hex _ := by decide
  numberText value := toString value.num

def sampleNow : @JsDate sampleJobHost.toJsHost :=
  letI := sampleJobHost
  ⟨sampleTime, by decide⟩

def sampleOperation : OperationFacts where
  requestId := "request-1"
  inputDigest := sampleDigest
  actorId := "user"
  authorityRef := "authority-1"
  targetId := "/work"
  capability := "job.start"
  implementation := ⟨"yui:job-runner", "1"⟩
  effect := .confirmed
  receiptRefs := ["artifacts/jobs/task-1/job-1/start.json"]
  partialResultRefs := []

/-- A running Task job with one step. -/
def sampleRun : JobRun where
  schemaVersion := 1
  delegation := none
  id := "job-1"
  definitionId := "job-1"
  definitionRevision := 1
  trigger := ⟨.manual, "request-1"⟩
  scope := .task "task-1" .task
  projectId := some "project-1"
  head := some "0123456789abcdef0123456789abcdef01234567"
  workspace := some "/work"
  env := some []
  steps := some [⟨"build", "make", none, none, none, none⟩]
  idempotencyKey := sampleDigest
  operation := sampleOperation
  status := .running
  artifactsLocator := "artifacts/jobs/task-1/job-1"
  createdAt := sampleTime
  startedAt := some sampleTime
  heartbeatAt := some sampleTime
  terminalAt := none
  process := some ⟨4242, "4242:1"⟩
  checkpoint := none
  result := none
  businessResult := none
  retryOf := none
  cancelRequestedAt := none
  artifacts := none
  wakeupNotified := none
  acknowledgedAt := none
  updatedAt := sampleTime

/-- The same run with one receipt named twice. -/
def repeatedRun : JobRun :=
  { sampleRun with operation := { sampleOperation with
      receiptRefs := sampleOperation.receiptRefs ++ sampleOperation.receiptRefs } }

theorem repeated_receipt_refused : ¬ ∀ (_ : JobHost) (job after : JobRun) (op : JobOperation),
    op.apply job = .ok after → Accepted job after := by
  intro h
  let host := sampleJobHost
  obtain ⟨after, hok⟩ : ∃ after,
      (JobOperation.touchHeartbeat sampleNow).apply repeatedRun = .ok after :=
    exists_of_isOk (by decide +kernel)
  have hkept := (Advances.of_touchHeartbeat hok).2.2
  have hmerge := ((accepted_iff _ _).1 (h sampleJobHost _ _ _ hok)).2.2.1
  rw [hkept] at hmerge
  revert hmerge
  decide

/-- The guard does not read the flags of a running job. -/
theorem flag_taken_back : ¬ ∀ (_ : JobHost) (before after : JobRun), Accepted before after →
    before.wakeupNotified = some true → after.wakeupNotified = some true := by
  intro h
  let _ := sampleJobHost
  have haccepted : Accepted { sampleRun with wakeupNotified := some true } sampleRun :=
    (accepted_iff _ _).2 ⟨rfl, rfl, rfl, ⟨by decide, by decide, by decide, by decide⟩, by decide⟩
  exact absurd (h _ _ _ haccepted rfl) (by decide)
