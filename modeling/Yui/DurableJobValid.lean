import Yui.DurableJobOperations

/-!
# Valid job runs

What `validateDurableJob` accepts, as a predicate on runs that execute a process. An operation that
ends such a run succeeds as soon as the step records and the business result it is given pass their
checks, and the record it returns is valid again.
-/

open JsText Checked Validation

theorem checkAll_iff {α : Type} {values : List α} {check : α → Except String Unit} :
    checkAll values check = .ok () ↔ ∀ value ∈ values, check value = .ok () := by
  induction values with
  | nil => simp [checkAll]
  | cons value values ih =>
    rw [checkAll, seq_iff, ih]
    simp

/-- A text that passes `requireText`. -/
structure Readable (value : String) : Prop where
  noNul : includesNul value = false
  notBlank : isBlank value = false

theorem checkText_iff {value label : String} : checkText value label = .ok () ↔ Readable value := by
  constructor
  · intro h
    obtain ⟨_, htext, _⟩ := bind_ok h
    unfold requireText requireTextWith at htext
    split_ifs at htext with hnul hblank
    exact ⟨by simpa using hnul, by simpa [isBlank] using hblank⟩
  · intro h
    unfold checkText requireText requireTextWith
    rw [if_neg (by simp [h.noNul]), if_neg (by simpa [isBlank] using h.notBlank)]
    rfl

theorem notBlank_of_mem {value : String} {c : Char} (hc : c ∈ value.toList)
    (hw : isWhitespace c = false) : isBlank value = false := by
  have hmem := mem_trim_of_mem hc hw
  simp only [isBlank, beq_eq_false_iff_ne]
  intro hempty
  simp [hempty] at hmem

theorem notBlank_below (path : String) {name : String} (h : '/' ∈ name.toList) : isBlank (path ++ name) = false := by
  apply @notBlank_of_mem _ '/'
  · rw [String.toList_append]
    exact List.mem_append_right _ h
  · decide

theorem includesNul_append {s t : String} (hs : includesNul s = false)
    (ht : includesNul t = false) : includesNul (s ++ t) = false := by
  simp only [includesNul, List.contains_eq_mem, decide_eq_false_iff_not, String.toList_append,
    List.mem_append] at hs ht ⊢
  exact fun h => h.elim hs ht

structure PathName (value : String) : Prop where
  noNul : includesNul value = false
  noSlash : '/' ∉ value.toList
  notDots : value ≠ ".."

theorem pathName_of_identity {value label normalized : String}
    (hidentity : requireIdentity value label = .ok normalized) : PathName value := by
  unfold requireIdentity at hidentity
  obtain ⟨trimmed, htext, hidentity⟩ := bind_ok hidentity
  have htrim := (requireTextWith_normal htext).2
  unfold requireText requireTextWith at htext
  split_ifs at htext with hnul
  split_ifs at hidentity with hforbidden
  rw [Bool.or_eq_true, not_or] at hforbidden
  refine ⟨by simpa using hnul, fun hslash => ?_, fun hdots => ?_⟩
  · have hmem := mem_trim_of_mem hslash (by decide)
    rw [← htrim] at hmem
    exact hforbidden.2 (List.any_eq_true.2 ⟨'/', hmem, by decide⟩)
  · apply hforbidden.1
    rw [htrim, hdots]
    decide

theorem readable_of_commit {value label : String} (h : requireCommit value label = .ok ()) : Readable value := by
  obtain ⟨normalized, htext, _⟩ := bind_ok h
  apply (@checkText_iff value label).1
  unfold checkText
  rw [htext]
  rfl

structure ValidBusiness (result : JobBusinessResult) (run : JobRunReference) : Prop where
  schema : result.schemaVersion = 1
  sourceRun : result.sourceRun = run
  terminal : isDurableJobTerminal result.outcome = true
  summary : Readable result.summary
  size : result.json.byteLength ≤ maxBusinessResultBytes
  evidence : ∀ ref ∈ result.evidence, checkResultReference run ref = .ok ()

theorem validateBusinessResult_iff {result : JobBusinessResult} {run : JobRunReference} :
    validateBusinessResult result run = .ok () ↔ ValidBusiness result run := by
  unfold validateBusinessResult
  simp only [seq_iff, refuse_iff, checkText_iff, checkAll_iff, not_or, not_not, not_lt, Bool.not_eq_false]
  constructor
  · rintro ⟨⟨hschema, hsource⟩, hterminal, hsummary, hsize, hevidence⟩
    exact ⟨hschema, hsource, hterminal, hsummary, hsize, hevidence⟩
  · intro h
    exact ⟨⟨h.schema, h.sourceRun⟩, h.terminal, h.summary, h.size, h.evidence⟩

theorem logPath_of_normalized {result : DurableJobResult} (h : normalizeDurableJobResult result = .ok ()) :
    ∀ step ∈ result.steps, validateStepResult step = .ok () ∧ isBlank step.logPath = false := by
  intro step hstep
  unfold normalizeDurableJobResult at h
  simp only [seq_iff, checkAll_iff] at h
  have hvalid := h.2.2.2.2 step hstep
  have hpath := hvalid
  unfold validateStepResult at hpath
  simp only [seq_iff, checkText_iff] at hpath
  exact ⟨hvalid, hpath.2.2.2.1.notBlank⟩

theorem evidenceReceipts_notBlank (job : JobRun) (result : DurableJobResult) :
    ∀ ref ∈ evidenceReceipts job result, isBlank ref = false := by
  intro ref href
  unfold evidenceReceipts at href
  split at href
  · cases href
  · rw [List.mem_singleton.1 href]
    exact notBlank_below _ (by decide)
  · rw [List.mem_singleton.1 href]
    exact notBlank_below _ (by decide)

variable [JobHost]

structure ValidRun (job : JobRun) : Prop where
  process : job.delegation = none
  artifacts : validateRunArtifacts job = .ok ()
  schema : job.schemaVersion = 1
  operation : ValidOperation job.operation
  definitionId : checkIdentity job.definitionId "Job definition id" = .ok ()
  definitionRevision : requirePositiveInteger job.definitionRevision "Job definition revision" =
    .ok ()
  trigger : Readable job.trigger.key
  scope : validateRunScope job = .ok ()
  configuration : validateJobExecutionConfiguration job.toJobFacts = .ok ()
  idempotencyKey : Readable job.idempotencyKey ∧ isHexDigest job.idempotencyKey = true
  locator : Readable job.artifactsLocator ∧ startsWithSlash job.artifactsLocator = false ∧
    includesDots job.artifactsLocator.toList = false
  times : validateRunTimes job = .ok ()
  progress : validateRunProgress job = .ok ()
  retryOf : validateRetryOf job = .ok ()
  flags : validateRunFlags job = .ok ()

theorem validRun_iff {job : JobRun} (hprocess : job.delegation = none) :
    checkDurableJob job = .ok () ↔ ValidRun job := by
  have hdelegated : validateDelegatedRun job = .ok () := by
    unfold validateDelegatedRun
    rw [hprocess]
    rfl
  unfold checkDurableJob
  simp only [if_pos hprocess, seq_iff, refuse_iff, checkText_iff, not_or, not_not,
    Bool.not_eq_true, Bool.not_eq_false, validateOperationFacts_iff, hdelegated, true_and]
  constructor
  · rintro ⟨h1, h2, h3, h4, h5, h6, h7, h8, h9, h10, h11, h12, h13, h14, h15, h16⟩
    exact ⟨hprocess, h1, h2, h3, h4, h5, h6, h7, h8, ⟨h9, h10⟩, ⟨h11, h12⟩, h13, h14, h15, h16⟩
  · intro h
    exact ⟨h.artifacts, h.schema, h.operation, h.definitionId, h.definitionRevision, h.trigger,
      h.scope, h.configuration, h.idempotencyKey.1, h.idempotencyKey.2, h.locator.1, h.locator.2,
      h.times, h.progress, h.retryOf, h.flags⟩

theorem ValidRun.validated {job : JobRun} (h : ValidRun job) : validateDurableJob job = .ok job := by
  unfold validateDurableJob
  rw [(validRun_iff h.process).2 h]
  rfl

section Ends

/-- The fields that the end of a run sets. -/
def JobRun.ended (job : JobRun) (operation : OperationFacts) (result : DurableJobResult)
    (business : JobBusinessResult) (now : JsDate) : JobRun :=
  { job with
    status := business.outcome
    operation := operation
    result := some result
    businessResult := some business
    terminalAt := some now.iso
    updatedAt := now.iso }

theorem requireTimestamp_now (now : JsDate) (label : String) : requireTimestamp now.iso label = .ok () := by
  apply refuse_of_not
  have hparses := now.parses
  intro hnone
  simp [hnone] at hparses

theorem ValidRun.ended {job : JobRun} (h : ValidRun job) (now : JsDate)
    {operation : OperationFacts} {result : DurableJobResult} {business : JobBusinessResult}
    (hoperation : ValidOperation operation) (hresult : normalizeDurableJobResult result = .ok ())
    (hbusiness : ValidBusiness business (runReference job.toJobFacts)) :
    ValidRun (job.ended operation result business now) := by
  have htimes := h.times
  have hprogress := h.progress
  have hflags := h.flags
  unfold validateRunTimes at htimes
  unfold validateRunProgress at hprogress
  unfold validateRunFlags at hflags
  simp only [seq_iff] at htimes hprogress hflags
  have hnow := requireTimestamp_now now
  refine { h with operation := hoperation, times := ?_, progress := ?_, flags := ?_ }
  · unfold validateRunTimes
    simp only [seq_iff]
    exact ⟨htimes.1, hnow _, htimes.2.2.1, htimes.2.2.2.1, hnow _⟩
  · unfold validateRunProgress
    simp only [seq_iff]
    refine ⟨hprogress.1, hprogress.2.1, hresult, ?_⟩
    change (validateBusinessResult business (runReference job.toJobFacts) >>= fun _ =>
      refuse (business.outcome ≠ business.outcome) _) = _
    rw [seq_iff, refuse_iff, not_not]
    exact ⟨validateBusinessResult_iff.2 hbusiness, rfl⟩
  · have hterminal : isDurableJobTerminal (job.ended operation result business now).status = true :=
      hbusiness.terminal
    unfold validateRunFlags
    simp only [if_pos hterminal, seq_iff, refuse_iff]
    refine ⟨hflags.1, hflags.2.1, hnow _, fun hqueued => ?_, fun hrunning => ?_⟩
    · simp [hqueued.1, isDurableJobTerminal] at hterminal
    · simp [hrunning.1, isDurableJobTerminal] at hterminal

theorem ValidRun.flagged {job : JobRun} (h : ValidRun job) (now : JsDate) :
    ValidRun (job.flag (some true) job.acknowledgedAt now.iso) := by
  have htimes := h.times
  unfold validateRunTimes at htimes
  simp only [seq_iff] at htimes
  refine { h with times := ?_ }
  unfold validateRunTimes
  simp only [seq_iff]
  exact ⟨htimes.1, requireTimestamp_now now _, htimes.2.2⟩

theorem markWakeupNotified_of_valid {job : JobRun} (h : ValidRun job)
    (hterminal : isDurableJobTerminal job.status = true) (now : JsDate) :
    ∃ notified, markDurableJobWakeupNotified job now = .ok notified ∧ ValidRun notified ∧
      (notified = job ∨ notified = job.flag (some true) job.acknowledgedAt now.iso) := by
  unfold markDurableJobWakeupNotified
  rw [h.validated, ok_bind, refuse_of_not (by simp [hterminal]), ok_bind]
  split_ifs
  · exact ⟨job, rfl, h, .inl rfl⟩
  · exact ⟨_, (h.flagged now).validated, h.flagged now, .inr rfl⟩

theorem completeDurableJob_of_valid {job : JobRun} (h : ValidRun job) {result : DurableJobResult}
    {business : JobBusinessResult} {now : JsDate} (hrunning : job.status = .running)
    (hresult : normalizeDurableJobResult result = .ok ())
    (hbusiness : ValidBusiness business (runReference job.toJobFacts)) :
    ∃ operation, completeDurableJob job result now (some business) = .ok (job.ended operation result business now) ∧
      ValidRun (job.ended operation result business now) := by
  have hterminal : isDurableJobTerminal result.outcome = true := by
    unfold normalizeDurableJobResult at hresult
    simp only [seq_iff, refuse_iff] at hresult
    simpa using hresult.1
  have hoperation : ValidOperation (mergeEvidence job.operation
      ⟨none, evidenceReceipts job result, result.steps.map DurableJobStepResult.logPath⟩) := by
    apply h.operation.merge
    · exact evidenceReceipts_notBlank job result
    · intro ref href
      obtain ⟨step, hstep, rfl⟩ := List.mem_map.1 href
      exact (logPath_of_normalized hresult step hstep).2
  have hvalid := h.ended now hoperation hresult hbusiness
  refine ⟨_, ?_, hvalid⟩
  unfold completeDurableJob
  rw [h.validated, ok_bind, refuse_of_not (by simp [hrunning]), ok_bind,
    refuse_of_not (by simp [hterminal]), ok_bind, recordOperationEvidence_of_valid hoperation,
    ok_bind, hresult, ok_bind, Option.getD_some, validateBusinessResult_iff.2 hbusiness, ok_bind]
  exact hvalid.validated

theorem normalized_of_complete {job after : JobRun} {result : DurableJobResult} {now : JsDate}
    {business : JobBusinessResult} (h : completeDurableJob job result now (some business) = .ok after) :
    normalizeDurableJobResult result = .ok () ∧ ValidBusiness business (runReference job.toJobFacts) := by
  unfold completeDurableJob at h
  iterate 4 obtain ⟨_, _, h⟩ := bind_ok h
  obtain ⟨_, hresult, _, hbusiness, _⟩ := bind_ok₂ h
  exact ⟨hresult, validateBusinessResult_iff.1 hbusiness⟩

/-- The result of a run whose end nothing proves. -/
def unknownResult (reason : String) (completedSteps : List DurableJobStepResult) : DurableJobResult :=
  ⟨.unknownNeedsAttention, none, none, none, some reason, none, completedSteps⟩

theorem markDurableJobUnknown_of_valid {job : JobRun} (h : ValidRun job) {reason : String}
    {completedSteps : List DurableJobStepResult} {now : JsDate}
    (hstatus : job.status = .running ∨ job.status = .queued ∧ job.operation.effect ≠ .none)
    (hreason : NormalText reason) (hsteps : ∀ step ∈ completedSteps, validateStepResult step = .ok ())
    (hbusiness : ValidBusiness (processBusinessResult job.toJobFacts
      (unknownResult reason completedSteps)) (runReference job.toJobFacts)) :
    ∃ operation, markDurableJobUnknown job reason completedSteps now =
        .ok (job.ended operation (unknownResult reason completedSteps)
          (processBusinessResult job.toJobFacts (unknownResult reason completedSteps)) now) ∧
      ValidRun (job.ended operation (unknownResult reason completedSteps)
        (processBusinessResult job.toJobFacts (unknownResult reason completedSteps)) now) := by
  have htext : checkText reason "DurableJob result unknownReason" = .ok () := by
    unfold checkText requireText
    rw [requireTextWith_of_normal hreason]
    rfl
  have hresult : normalizeDurableJobResult (unknownResult reason completedSteps) = .ok () := by
    unfold normalizeDurableJobResult
    simp only [seq_iff, checkAll_iff]
    exact ⟨rfl, rfl, rfl, htext, hsteps⟩
  have hoperation : ValidOperation (mergeEvidence job.operation
      ⟨none, [], completedSteps.map DurableJobStepResult.logPath⟩) := by
    apply h.operation.merge (by simp)
    intro ref href
    obtain ⟨step, hstep, rfl⟩ := List.mem_map.1 href
    exact (logPath_of_normalized hresult step hstep).2
  have hvalid := h.ended now hoperation hresult hbusiness
  refine ⟨_, ?_, hvalid⟩
  unfold markDurableJobUnknown requireText
  rw [h.validated, ok_bind, refuse_of_not (by tauto), ok_bind, requireTextWith_of_normal hreason,
    ok_bind, recordOperationEvidence_of_valid hoperation, ok_bind]
  exact hvalid.validated

theorem steps_of_markUnknown {job after : JobRun} {reason : String}
    {completedSteps : List DurableJobStepResult} {now : JsDate} (hprocess : job.delegation = none)
    (h : markDurableJobUnknown job reason completedSteps now = .ok after) :
    ∀ step ∈ completedSteps, validateStepResult step = .ok () := by
  unfold markDurableJobUnknown at h
  iterate 3 obtain ⟨_, _, h⟩ := bind_ok h
  obtain ⟨operation, _, _, hcheck, _⟩ := bind_ok₂ h
  have hprogress := ((validRun_iff (by exact hprocess)).1 hcheck).progress
  unfold validateRunProgress at hprogress
  simp only [seq_iff] at hprogress
  have hresult := hprogress.2.2.1
  exact fun step hstep => (logPath_of_normalized hresult step hstep).1

end Ends
