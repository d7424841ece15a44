import Yui.JobBusinessResult
import Yui.JobSupervisorStore

/-!
# Transactions that end a run

A transaction that ends a valid run commits as soon as the step records it brings are valid, the
business result is, and the clock is not behind the stored record.
-/

open JsText Checked Validation

variable [JobHost]

/-- The record that the end of a run commits. -/
structure Ended (current next : JobRun) (result : DurableJobResult) (business : JobBusinessResult)
    (now : JsDate) : Prop where
  valid : ValidRun next
  accepted : Accepted current next
  status : next.status = business.outcome
  result : next.result = some result
  businessResult : next.businessResult = some business
  updatedAt : next.updatedAt = now.iso
  scope : next.scope = current.scope

variable {result : DurableJobResult} {business : JobBusinessResult} {current next : JobRun} {now : JsDate}

theorem Ended.of_notified {operation : OperationFacts} (haccepted : Accepted current next) (hvalid : ValidRun next)
    (hnext : next = current.ended operation result business now)
    (hterminal : isDurableJobTerminal business.outcome = true) :
    ∃ notified, markDurableJobWakeupNotified next now = .ok notified ∧
      Ended current notified result business now := by
  have hstatus : isDurableJobTerminal next.status = true := by
    rw [hnext]
    exact hterminal
  obtain ⟨notified, hnotified, hvalid, hflag⟩ := markWakeupNotified_of_valid hvalid hstatus now
  refine ⟨notified, hnotified, ?_⟩
  have haccepted := haccepted.notified hnotified
  rcases hflag with rfl | rfl
  · exact ⟨hvalid, haccepted, by rw [hnext]; rfl, by rw [hnext]; rfl, by rw [hnext]; rfl,
      by rw [hnext]; rfl, by rw [hnext]; rfl⟩
  · exact ⟨hvalid, haccepted, by rw [hnext]; rfl, by rw [hnext]; rfl, by rw [hnext]; rfl, rfl, by rw [hnext]; rfl⟩

theorem notified_complete {current : JobRun} (h : ValidRun current) (hrunning : current.status = .running)
    (now : JsDate) (hresult : normalizeDurableJobResult result = .ok ())
    (hbusiness : ValidBusiness business (runReference current.toJobFacts)) :
    ∃ next, notified (completeDurableJob current result now (some business)) now = .ok next ∧
      Ended current next result business now := by
  obtain ⟨operation, hcomplete, hvalid⟩ := @completeDurableJob_of_valid _ _ h _ _ now hrunning hresult hbusiness
  have haccepted : Accepted current (current.ended operation result business now) :=
    @accepted_of_apply _ _ _ (.complete result now (some business)) hcomplete (.inl rfl)
  obtain ⟨next, hnext, hended⟩ := Ended.of_notified haccepted hvalid rfl hbusiness.terminal
  refine ⟨next, ?_, hended⟩
  unfold notified
  rw [hcomplete, ok_bind, hnext]

theorem notified_unknown {current : JobRun} (h : ValidRun current) {reason : String}
    {completedSteps : List DurableJobStepResult} (now : JsDate) (hstatus : current.status = .running ∨
      current.status = .queued ∧ current.operation.effect ≠ .none)
    (hreason : NormalText reason) (hshort : current.toJobFacts.Short)
    (hsteps : ∀ step ∈ completedSteps, validateStepResult step = .ok ()) :
    ∃ next, notified (markDurableJobUnknown current reason completedSteps now) now = .ok next ∧
      Ended current next (unknownResult reason completedSteps)
        (processBusinessResult current.toJobFacts (unknownResult reason completedSteps)) now := by
  have hbusiness : ValidBusiness (processBusinessResult current.toJobFacts
      (unknownResult reason completedSteps)) (runReference current.toJobFacts) := by
    apply processBusinessResult_valid h hshort rfl
    · intro name hname
      cases hname
    · intro text htext
      cases htext
      exact ⟨hreason.noNul, by simp [isBlank, hreason.trimmed, hreason.nonempty]⟩
  obtain ⟨operation, hmark, hvalid⟩ := @markDurableJobUnknown_of_valid _ _ h _ _ now hstatus hreason hsteps hbusiness
  have haccepted := @accepted_of_apply _ _ _ (.markUnknown reason completedSteps now) hmark (.inl rfl)
  obtain ⟨next, hnext, hended⟩ := Ended.of_notified haccepted hvalid rfl rfl
  refine ⟨next, ?_, hended⟩
  unfold notified
  rw [hmark, ok_bind, hnext]

theorem Ended.saved (h : Ended current next result business now)
    (hclock : movesBack current.updatedAt now.iso = false) : saveJobRun current next = .ok () := by
  have hscope : World.isTaskRun next = World.isTaskRun current := by
    unfold World.isTaskRun
    rw [h.scope]
  have hvalid : validDurableJobTransition current next = .ok true := h.accepted
  unfold saveJobRun
  rw [refuse_of_not (by simp [hscope]), ok_bind, h.valid.validated, ok_bind,
    refuse_of_not (by simp [h.updatedAt, hclock]), ok_bind, hvalid, ok_bind,
    refuse_of_not (by simp)]
  rfl

theorem transitionDurableJob_of_ended {w : World} {key : JobKey} {transition : JobTransition}
    (hlookup : w.lookup key = some current) (happly : transition.apply w now current = .ok next)
    (hended : Ended current next result business now) (hclock : movesBack current.updatedAt now.iso = false) :
    transitionDurableJob w key transition now =
      (.ok (some next), (w.put next).record (transitionEvents transition current next)) := by
  simp only [transitionDurableJob, hlookup, happly, hended.saved hclock]
