import Yui.JobRunner
import Yui.JobSupervisorStarts

/-!
# Harvesting what a runner wrote

The runner measures a step by two readings of the clock and may write a duration of 0 ms, which the
validation of step records refuses. The exit record of a runner is therefore harvested with its
outcome exactly when every executed step took its time, and a dead runner is settled from its
checkpoint exactly when the recorded steps did.
-/

open JsText Checked Validation Program

section Plan

variable {job : JobRun} {dir : String}

theorem mapM_find {planned : List DurableJobStep} {completed done : List DurableJobStepResult}
    (hnames : planned.map DurableJobStep.name = done.map DurableJobStepResult.name)
    (hfind : ∀ step ∈ done, completed.find? (fun other => other.name == step.name) = some step) :
    planned.mapM (fun step => completed.find? fun other => other.name == step.name) = some done := by
  induction planned generalizing done with
  | nil =>
    cases done with
    | nil => rfl
    | cons first done => cases hnames
  | cons step planned ih =>
    cases done with
    | nil => cases hnames
    | cons first done =>
      rw [List.map_cons, List.map_cons, List.cons.injEq] at hnames
      have hrest := ih hnames.2 fun other hother => hfind other (by simp [hother])
      rw [List.mapM_cons, hnames.1, hfind first (by simp), hrest]
      rfl

variable {completed : List DurableJobStepResult}

theorem find_of_nodup_names (h : (completed.map DurableJobStepResult.name).Nodup) :
    ∀ step ∈ completed, completed.find? (fun other => other.name == step.name) = some step := by
  intro step hstep
  cases hfind : completed.find? fun other => other.name == step.name with
  | none =>
    have hnone := List.find?_eq_none.1 hfind step hstep
    simp at hnone
  | some other =>
    have hname : other.name = step.name := by simpa using List.find?_some hfind
    rw [List.inj_on_of_nodup_map h (List.mem_of_find?_eq_some hfind) hstep hname]

theorem follows_names (h : Follows (job.spec dir) completed)
    (hlength : completed.length = (job.steps.getD []).length) :
    (job.steps.getD []).map DurableJobStep.name = completed.map DurableJobStepResult.name := by
  obtain ⟨runs, count, hcount, rfl⟩ := h
  have hall : (job.spec dir).steps.take count = job.steps.getD [] := by
    apply List.take_of_length_le
    have hspec : (job.spec dir).steps = job.steps.getD [] := rfl
    simp only [List.length_mapIdx, List.length_take] at hlength
    rw [hspec] at hlength hcount ⊢
    omega
  rw [hall]
  apply List.ext_getElem (by simp)
  intro index hleft hright
  simp [stepResult]

theorem follows_codes (h : Follows (job.spec dir) completed) : ∀ step ∈ completed,
      (∀ code ∈ step.exitCode, ∃ value : UInt32, code = (value.toNat : ℚ)) ∧
        ∃ planned ∈ job.steps.getD [], planned.name = step.name := by
  obtain ⟨runs, count, hcount, rfl⟩ := h
  intro step hstep
  obtain ⟨index, hindex, rfl⟩ := List.mem_mapIdx.1 hstep
  refine ⟨fun code hcode => ?_, _, List.mem_of_mem_take (List.getElem_mem _), rfl⟩
  simp only [stepResult] at hcode
  split_ifs at hcode
  · cases hcode
  · obtain ⟨value, _, hvalue⟩ := Option.map_eq_some_iff.1 hcode
    exact ⟨value, hvalue.symm⟩

/-- What a checkpoint of the runner proves. -/
structure Proven (job : JobRun) (result : DurableJobResult) : Prop where
  outcome : result.outcome = .succeeded ∨ result.outcome = .failed ∨ result.outcome = .timedOut
  exitCode : ∀ code ∈ result.exitCode, ∃ value : UInt32, code = (value.toNat : ℚ)
  failedStep : ∀ name ∈ result.failedStep, ∃ step ∈ job.steps.getD [], step.name = name
  unknownReason : result.unknownReason = none

theorem prove_follows {checkpoint : DurableJobCheckpoint} {result : DurableJobResult}
    (hfollows : Follows (job.spec dir) checkpoint.completedSteps)
    (hprove : proveOutcomeFromCheckpoint job checkpoint = some result) :
    Proven job result ∧ result.steps = checkpoint.completedSteps := by
  unfold proveOutcomeFromCheckpoint at hprove
  dsimp only at hprove
  split_ifs at hprove with hdelegation hnames hlength
  rw [not_not] at hlength
  rw [mapM_find (follows_names hfollows hlength) (find_of_nodup_names hnames)] at hprove
  dsimp only at hprove
  have hcodes := follows_codes hfollows
  split at hprove
  · cases hprove
    refine ⟨⟨.inl rfl, fun code hcode => ?_, by simp, rfl⟩, rfl⟩
    cases hcode
    exact ⟨0, by simp⟩
  · next failing hfailing =>
      cases hprove
      obtain ⟨hcode, hname⟩ := hcodes failing (List.mem_of_find?_eq_some hfailing)
      refine ⟨⟨?_, hcode, fun name hname' => ?_, rfl⟩, rfl⟩
      · dsimp only
        split_ifs <;> simp
      · cases hname'
        exact hname

theorem runnerLost_normal : NormalText "runner process exited without writing exit.json" :=
  ⟨by decide, by decide, by decide⟩

end Plan

section

variable [JobHost]

theorem movesBack_self (time : String) : movesBack time time = false := by
  unfold movesBack
  split
  · simp_all
  · rfl

def JobRun.receipted (job : JobRun) (exit : DurableJobExit) (now : JsDate) : JobRun :=
  { job with
    operation := mergeEvidence job.operation (exitEvidence job exit)
    updatedAt := now.iso }

theorem receipted_operation {job : JobRun} (h : ValidRun job) (exit : DurableJobExit) :
    ValidOperation (mergeEvidence job.operation (exitEvidence job exit)) := by
  apply h.operation.merge
  · intro ref href
    rw [List.mem_singleton.1 href]
    exact notBlank_below _ (by decide)
  · intro ref href
    simpa using (List.mem_filter.1 href).2

theorem ValidRun.receipted {job : JobRun} (h : ValidRun job) (exit : DurableJobExit) (now : JsDate) :
    ValidRun (job.receipted exit now) := by
  have htimes := h.times
  unfold validateRunTimes at htimes
  simp only [seq_iff] at htimes
  refine { h with operation := receipted_operation h exit, times := ?_ }
  unfold validateRunTimes
  simp only [seq_iff]
  exact ⟨htimes.1, requireTimestamp_now now _, htimes.2.2⟩

theorem receipt_apply {w : World} {job : JobRun} (h : ValidRun job) (exit : DurableJobExit)
    (now : JsDate) : (JobTransition.receipt exit).apply w now job = .ok (job.receipted exit now) := by
  unfold JobTransition.apply
  dsimp only
  rw [recordOperationEvidence_of_valid (receipted_operation h exit)]
  rfl

theorem receipt_accepted {job : JobRun} (h : ValidRun job) (hrunning : job.status = .running)
    (exit : DurableJobExit) (now : JsDate) : Accepted job (job.receipted exit now) := by
  have hmoved : Advances job (job.receipted exit now) :=
    .moved ⟨job.status, mergeEvidence job.operation (exitEvidence job exit), job.startedAt,
      job.heartbeatAt, job.terminalAt, job.process, job.result, job.businessResult,
      job.cancelRequestedAt, now.iso⟩ (active_of_running hrunning)
      (by simp [allowedStatuses, hrunning]) (.inr ⟨exitEvidence job exit, rfl⟩)
  have hrecorded : Recorded job (job.receipted exit now) :=
    recorded_merge (show _ = mergeEvidence job.operation (exitEvidence job exit) from rfl)
  exact hmoved.accepted hrecorded (receipted_operation h exit)

theorem receipt_commits {w : World} {job : JobRun} (h : ValidRun job)
    (hrunning : job.status = .running) (hlookup : w.lookup job.key = some job)
    (exit : DurableJobExit) {now : JsDate} (hclock : movesBack job.updatedAt now.iso = false) :
    ∃ w', run World.perform w (ask (.transition job.key (.receipt exit) now)) =
      (.ok (some (job.receipted exit now)), w') ∧ w'.lookup job.key = some (job.receipted exit now) := by
  have hsave : saveJobRun job (job.receipted exit now) = .ok () := by
    have hvalid : validDurableJobTransition job (job.receipted exit now) = .ok true :=
      receipt_accepted h hrunning exit now
    unfold saveJobRun
    rw [refuse_of_not (by simp [World.isTaskRun, JobRun.receipted]), ok_bind,
      (h.receipted exit now).validated, ok_bind, refuse_of_not (by simp [JobRun.receipted, hclock]),
      ok_bind, hvalid, ok_bind, refuse_of_not (by simp)]
    rfl
  refine ⟨(w.put (job.receipted exit now)).record (transitionEvents (.receipt exit) job
    (job.receipted exit now)), ?_, (Commits.of_save hlookup hsave).lookup_put⟩
  rw [ask, run_issue]
  change transitionDurableJob w job.key (.receipt exit) now = _
  simp only [transitionDurableJob, hlookup, receipt_apply h exit now, hsave]

theorem receipt_refused {w : World} {job : JobRun} (h : ValidRun job)
    (hlookup : w.lookup job.key = some job) (exit : DurableJobExit) {now : JsDate}
    (hclock : movesBack job.updatedAt now.iso = true) :
    ∃ failure, run World.perform w (ask (.transition job.key (.receipt exit) now)) = (.error failure, w) := by
  have hsave : ∃ failure, saveJobRun job (job.receipted exit now) = .error failure := by
    cases hsave : saveJobRun job (job.receipted exit now) with
    | error failure => exact ⟨failure, rfl⟩
    | ok _ =>
      have hforward := (saveJobRun_ok hsave).2.2
      simp [JobRun.receipted, hclock] at hforward
  obtain ⟨failure, hsave⟩ := hsave
  refine ⟨failure, ?_⟩
  rw [ask, run_issue]
  change transitionDurableJob w job.key (.receipt exit) now = _
  simp only [transitionDurableJob, hlookup, receipt_apply h exit now, hsave]

section Exit

variable {job : JobRun} {dir : String} {exit : DurableJobExit} {now : JsDate} {w : World}

theorem exitResult_valid_iff (h : ValidRun job) (hexit : RunnerExit (job.spec dir) exit) :
    normalizeDurableJobResult (exitResult exit) = .ok () ↔ ∀ step ∈ exit.steps, step.Timed := by
  rw [← follows_valid_iff h dir hexit.follows]
  unfold normalizeDurableJobResult
  simp only [seq_iff, checkAll_iff]
  constructor
  · exact fun h => h.2.2.2.2
  · intro hsteps
    refine ⟨?_, checkExitCode_of_code hexit.exitCode, ?_, rfl, hsteps⟩
    · apply refuse_of_not
      simp only [exitResult]
      rcases hexit.outcome with ho | ho | ho | ho <;> simp [ho, isDurableJobTerminal]
    · simp only [exitResult]
      cases hfailed : exit.failedStep with
      | none => rfl
      | some name =>
        obtain ⟨step, hstep, rfl⟩ := hexit.failedStep name hfailed
        exact checkText_iff.2 (h.steps_named.1 step hstep)

theorem exit_business_valid (h : ValidRun job) (hshort : job.toJobFacts.Short)
    (hexit : RunnerExit (job.spec dir) exit) : ValidBusiness (processBusinessResult job.toJobFacts (exitResult exit))
      (runReference job.toJobFacts) := by
  apply processBusinessResult_valid h hshort
  · simp only [exitResult]
    rcases hexit.outcome with ho | ho | ho | ho <;> simp [ho, isDurableJobTerminal]
  · intro name hname
    obtain ⟨step, hstep, rfl⟩ := hexit.failedStep name hname
    exact (h.steps_named.1 step hstep).noNul
  · intro reason hreason
    cases hreason

def harvestCommand (job : JobRun) (exit : DurableJobExit) (now : JsDate) : JobCommand :=
  .transition job.key (.harvest (exitResult exit)
    (processBusinessResult job.toJobFacts (exitResult exit))) now

theorem harvest_saved (hlookup : w.lookup job.key = some (job.receipted exit now)) {next : JobRun}
    {result : DurableJobResult} {business : JobBusinessResult} (happly : (JobTransition.harvest (exitResult exit)
      (processBusinessResult job.toJobFacts (exitResult exit))).apply w now (job.receipted exit now) = .ok next)
    (hended : Ended (job.receipted exit now) next result business now) :
    ∃ w', run World.perform w (ask (harvestCommand job exit now)) = (.ok (some next), w') ∧
      w'.lookup job.key = some next := by
  have hclock : movesBack (job.receipted exit now).updatedAt now.iso = false := movesBack_self now.iso
  refine ⟨(w.put next).record (transitionEvents (.harvest (exitResult exit)
    (processBusinessResult job.toJobFacts (exitResult exit))) (job.receipted exit now) next), ?_,
    (Commits.of_save hlookup (hended.saved hclock)).lookup_put⟩
  rw [ask, run_issue]
  exact transitionDurableJob_of_ended hlookup happly hended hclock

theorem harvest_commits (h : ValidRun job) (hrunning : job.status = .running)
    (hshort : job.toJobFacts.Short) (hexit : RunnerExit (job.spec dir) exit)
    (hlookup : w.lookup job.key = some (job.receipted exit now)) (htimed : ∀ step ∈ exit.steps, step.Timed) :
    ∃ next w', run World.perform w (ask (harvestCommand job exit now)) = (.ok (some next), w') ∧
      w'.lookup job.key = some next ∧ next.status = exit.outcome ∧ next.result = some (exitResult exit) := by
  have hbusiness : ValidBusiness (processBusinessResult job.toJobFacts (exitResult exit))
      (runReference (job.receipted exit now).toJobFacts) := exit_business_valid h hshort hexit
  obtain ⟨next, hnext, hended⟩ := notified_complete (h.receipted exit now) hrunning now
    ((exitResult_valid_iff h hexit).2 htimed) hbusiness
  obtain ⟨completed, hcomplete, hmark⟩ := bind_ok hnext
  have happly : (JobTransition.harvest (exitResult exit)
      (processBusinessResult job.toJobFacts (exitResult exit))).apply w now
      (job.receipted exit now) = .ok next := by
    unfold JobTransition.apply
    dsimp only
    rw [hcomplete]
    dsimp only
    rw [hmark]
    rfl
  obtain ⟨w', hrun, hsaved⟩ := harvest_saved hlookup happly hended
  exact ⟨next, w', hrun, hsaved, hended.status, hended.result⟩

omit [JobHost] in
theorem invalidOutput_normal : normalizeDurableJobResult invalidOutput = .ok () := by
  rfl

theorem invalidOutput_valid (h : ValidRun job) (hshort : job.toJobFacts.Short) :
    ValidBusiness (processBusinessResult job.toJobFacts invalidOutput)
      (runReference (job.receipted exit now).toJobFacts) := by
  apply processBusinessResult_valid h hshort rfl
  · intro name hname
    cases hname
  · intro reason hreason
    cases hreason
    exact ⟨by rfl, by rfl⟩

theorem harvest_unknown (h : ValidRun job) (hrunning : job.status = .running)
    (hshort : job.toJobFacts.Short) (hexit : RunnerExit (job.spec dir) exit)
    (hlookup : w.lookup job.key = some (job.receipted exit now)) (htimed : ¬ ∀ step ∈ exit.steps, step.Timed) :
    ∃ next w', run World.perform w (ask (harvestCommand job exit now)) = (.ok (some next), w') ∧
      w'.lookup job.key = some next ∧ next.status = .unknownNeedsAttention := by
  obtain ⟨next, hnext, hended⟩ := notified_complete (h.receipted exit now) hrunning now
    invalidOutput_normal (invalidOutput_valid h hshort)
  have happly : (JobTransition.harvest (exitResult exit)
      (processBusinessResult job.toJobFacts (exitResult exit))).apply w now
      (job.receipted exit now) = .ok next := by
    unfold JobTransition.apply
    dsimp only
    cases hcomplete : completeDurableJob (job.receipted exit now) (exitResult exit) now
        (some (processBusinessResult job.toJobFacts (exitResult exit))) with
    | ok completed =>
      have hnormal := (normalized_of_complete hcomplete).1
      exact absurd ((exitResult_valid_iff h hexit).1 hnormal) htimed
    | error failure =>
      dsimp only
      exact congrArg orThrow hnext
  obtain ⟨w', hrun, hsaved⟩ := harvest_saved hlookup happly hended
  exact ⟨next, w', hrun, hsaved, hended.status⟩

theorem terminalTail_routine (job : JobRun) (terminal : Option JobRun) (key : JobKey) :
    ((deliverTerminalEvent terminal).bind fun _ => ask (.clearSigkill job.key)).Issues (JobCommand.Routine key) :=
  Issues.bind (deliverTerminalEvent_routine terminal) fun _ => .issue trivial

theorem harvestExit_lookup {taskId : String} {owner : DurableJobOwner} (h : ValidRun job)
    (hscope : job.scope = .task taskId owner) (hrunning : job.status = .running)
    (hlookup : w.lookup job.key = some job) (hclock : movesBack job.updatedAt now.iso = false) :
    ∃ w1, w1.lookup job.key = some (job.receipted exit now) ∧
      ∀ next w2, run World.perform w1 (ask (harvestCommand job exit now)) = (.ok (some next), w2) →
        (run World.perform w (harvestExit job exit now)).2.lookup job.key = w2.lookup job.key := by
  obtain ⟨w1, hreceipt, hlookup1⟩ := receipt_commits h hrunning hlookup exit hclock
  refine ⟨w1, hlookup1, fun next w2 hharvest => ?_⟩
  have hread : readReceipt job (exitResult exit) = .done none := by
    unfold readReceipt
    rw [hscope]
  have hbusiness : ∀ receipt, businessResult receipt job (exitResult exit) =
      processBusinessResult job.toJobFacts (exitResult exit) := fun receipt => by
    unfold businessResult
    rw [hscope]
  have hrun : run World.perform w (harvestExit job exit now) =
      run World.perform w1 ((ask (harvestCommand job exit now)).bind fun terminal =>
        (deliverTerminalEvent terminal).bind fun _ => ask (.clearSigkill job.key)) := by
    refine (run_bind_ok hreceipt _).trans ?_
    rw [hread]
    unfold harvestCommand
    rw [← hbusiness none]
    rfl
  have hframe : SameFor job.key w2 (run World.perform w2
      ((deliverTerminalEvent (some next)).bind fun _ => ask (.clearSigkill job.key))).2 :=
    sameFor_run (apart_of_routine (terminalTail_routine job (some next)) _) w2
  rw [hrun, run_bind_ok hharvest, hframe.lookup]

/-- A running Task job reaches the outcome of its runner, with exactly the recorded steps, just when
every executed step took a millisecond at least and the clock is not behind. -/
theorem harvest_runner_exit {taskId : String} {owner : DurableJobOwner}
    (hvalid : validateDurableJob job = .ok job) (hprocess : job.delegation = none)
    (hscope : job.scope = .task taskId owner) (hrunning : job.status = .running)
    (hshort : job.toJobFacts.Short) (hlookup : w.lookup job.key = some job) (dir : String)
    (runs : ℕ → StepRun) (finishedAt : String) (now : JsDate)
    (hexit : exit = (runDurableJobRunner (job.spec dir) runs finishedAt).exit) :
    (∃ next result, (run World.perform w (harvestExit job exit now)).2.lookup job.key = some next ∧
        next.status = exit.outcome ∧ next.result = some result ∧ result.steps = exit.steps) ↔
      (∀ step ∈ exit.steps, step.Timed) ∧ movesBack job.updatedAt now.iso = false := by
  obtain ⟨_, hchecked, _⟩ := bind_ok hvalid
  have h : ValidRun job := (validRun_iff hprocess).1 hchecked
  have hrunner : RunnerExit (job.spec dir) exit :=
    hexit ▸ (runDurableJobRunner_follows (job.spec dir) runs finishedAt).2
  by_cases hclock : movesBack job.updatedAt now.iso = true
  · obtain ⟨failure, hreceipt⟩ := receipt_refused h hlookup exit hclock
    have hrun : run World.perform w (harvestExit job exit now) = (.error failure, w) := run_bind_error hreceipt _
    have hactive : job.status ≠ exit.outcome := by
      rw [hrunning]
      rcases hrunner.outcome with ho | ho | ho | ho <;> simp [ho]
    rw [hrun, hclock]
    constructor
    · rintro ⟨next, result, hnext, hstatus, _⟩
      rw [hlookup, Option.some.injEq] at hnext
      exact absurd (hnext ▸ hstatus) hactive
    · rintro ⟨_, hback⟩
      cases hback
  · rw [Bool.not_eq_true] at hclock
    obtain ⟨w1, hlookup1, hharvested⟩ := harvestExit_lookup h hscope hrunning hlookup hclock
    by_cases htimed : ∀ step ∈ exit.steps, step.Timed
    · obtain ⟨next, w2, hharvest, hnext, hstatus, hresult⟩ :=
        harvest_commits h hrunning hshort hrunner hlookup1 htimed
      refine iff_of_true ⟨next, exitResult exit, ?_, hstatus, hresult, rfl⟩ ⟨htimed, hclock⟩
      rw [hharvested next w2 hharvest]
      exact hnext
    · obtain ⟨next, w2, hharvest, hnext, hstatus⟩ := harvest_unknown h hrunning hshort hrunner hlookup1 htimed
      refine iff_of_false ?_ fun hcondition => htimed hcondition.1
      rintro ⟨final, result, hfinal, hsame, _⟩
      rw [hharvested next w2 hharvest, hnext, Option.some.injEq] at hfinal
      rw [← hfinal, hstatus] at hsame
      rcases hrunner.outcome with ho | ho | ho | ho <;> simp [ho] at hsame

end Exit

end

/-- One step that exits with code 0 after the given time. -/
def cleanRuns (elapsed : ℕ) : ℕ → StepRun := fun _ =>
  ⟨false, false, some 0, none, false, false, elapsed, sampleTime⟩

def runningWorld : @World sampleJobHost :=
  letI := sampleJobHost
  { emptyWorld with jobs := [sampleRun] }

theorem sampleRun_short : sampleRun.toJobFacts.Short := by
  unfold JobFacts.Short
  decide

def validSampleRun : { job : JobRun // @validateDurableJob sampleJobHost.toJsHost job = .ok job } :=
  ⟨sampleRun, by decide +kernel⟩

theorem sampleRun_valid :
    let _ := sampleJobHost
    validateDurableJob sampleRun = .ok sampleRun := validSampleRun.2

theorem harvest_runner_exit_timed :
    let _ := sampleJobHost
    let exit := (runDurableJobRunner (sampleRun.spec "/yui") (cleanRuns 5) sampleTime).exit
    ∃ next result, (run World.perform runningWorld (harvestExit sampleRun exit sampleNow)).2.lookup
        sampleRun.key = some next ∧
      next.status = exit.outcome ∧ next.result = some result ∧ result.steps = exit.steps := by
  let _ := sampleJobHost
  apply (harvest_runner_exit sampleRun_valid rfl rfl rfl sampleRun_short rfl "/yui" (cleanRuns 5)
    sampleTime sampleNow rfl).2
  refine ⟨fun step hstep => ?_, by rfl⟩
  rw [List.mem_singleton.1 hstep]
  exact ⟨by rfl, by rfl⟩

/-- A step of 0 ms makes the harvest of a succeeded runner end unknown. -/
theorem harvest_quick_step :
    let _ := sampleJobHost
    let exit := (runDurableJobRunner (sampleRun.spec "/yui") (cleanRuns 0) sampleTime).exit
    exit.outcome = .succeeded ∧
      ((run World.perform runningWorld (harvestExit sampleRun exit sampleNow)).2.lookup
        sampleRun.key).map (fun job => job.status) = some .unknownNeedsAttention := by
  intro host exit
  have houtcome : exit.outcome = .succeeded := by rfl
  have hsteps : ¬ ∀ step ∈ exit.steps, step.Timed := fun htimed =>
    absurd (htimed _ (List.mem_singleton.2 rfl)).1 (by decide)
  obtain ⟨_, hchecked, _⟩ := bind_ok sampleRun_valid
  have h : ValidRun sampleRun := (validRun_iff rfl).1 hchecked
  obtain ⟨w1, hlookup1, hharvested⟩ := @harvestExit_lookup _ _ exit sampleNow runningWorld _ _ h rfl rfl rfl (by rfl)
  obtain ⟨next, w2, hharvest, hnext, hstatus⟩ := harvest_unknown h rfl sampleRun_short
    (runDurableJobRunner_follows (sampleRun.spec "/yui") (cleanRuns 0) sampleTime).2 hlookup1 hsteps
  refine ⟨houtcome, ?_⟩
  rw [hharvested next w2 hharvest, hnext, Option.map_some, hstatus]

section

variable [JobHost]

section Dead

variable {job : JobRun} {dir : String} {now : JsDate} {w : World}

variable {result : DurableJobResult}

theorem proven_normalized (h : ValidRun job) (hproven : Proven job result) :
    normalizeDurableJobResult result = .ok () ↔ ∀ step ∈ result.steps, validateStepResult step = .ok () := by
  unfold normalizeDurableJobResult
  simp only [seq_iff, checkAll_iff, hproven.unknownReason]
  constructor
  · exact fun h => h.2.2.2.2
  · intro hsteps
    refine ⟨?_, checkExitCode_of_code hproven.exitCode, ?_, rfl, hsteps⟩
    · apply refuse_of_not
      rcases hproven.outcome with ho | ho | ho <;> simp [ho, isDurableJobTerminal]
    · cases hfailed : result.failedStep with
      | none => rfl
      | some name =>
        obtain ⟨step, hstep, rfl⟩ := hproven.failedStep name hfailed
        exact checkText_iff.2 (h.steps_named.1 step hstep)

theorem executionEvidence_valid (h : ValidRun job) (text : String) :
    checkResultReference (runReference job.toJobFacts)
      ⟨.executionEvidence, .run (runReference job.toJobFacts), runReference job.toJobFacts,
        resultDigest text, job.artifactsLocator ++ "/business-result.json"⟩ = .ok () := by
  obtain ⟨hreadable, hslash, hdots⟩ := h.locator
  unfold checkResultReference
  simp only [seq_iff, refuse_iff, checkText_iff]
  refine ⟨?_, ⟨includesNul_append hreadable.noNul (by decide), notBlank_below _ (by decide)⟩, ?_⟩
  · simp [ownerMatches, resultDigest, JobHost.sha256_hex]
  · have hname : "/business-result.json" = "/" ++ "business-result.json" := by decide
    rw [hname, segments_below _ (by decide), List.mem_append, not_or, not_or]
    refine ⟨?_, dots_not_mem_segments hdots, by decide⟩
    unfold startsWithSlash at hslash ⊢
    rw [String.toList_append]
    cases hchars : job.artifactsLocator.toList with
    | nil =>
      have hblank := hreadable.notBlank
      rw [String.toList_eq_nil_iff.1 hchars] at hblank
      revert hblank
      decide
    | cons c chars =>
      rw [hchars] at hslash
      simpa using hslash

theorem receiptResult_valid (h : ValidRun job) {business : JobBusinessResult} {text : String}
    {evidence : List JobResultReference}
    (hok : (validateBusinessResult business (runReference job.toJobFacts)).isOk = true)
    (hevidence : ∀ ref ∈ evidence, checkResultReference (runReference job.toJobFacts) ref = .ok ())
    (hsize : (JobBusinessResult.json { business with evidence := business.evidence ++
      [⟨.executionEvidence, .run (runReference job.toJobFacts), runReference job.toJobFacts,
        resultDigest text, job.artifactsLocator ++ "/business-result.json"⟩] ++ evidence }).byteLength ≤
      maxBusinessResultBytes) :
    ValidBusiness { business with evidence := business.evidence ++
      [⟨.executionEvidence, .run (runReference job.toJobFacts), runReference job.toJobFacts,
        resultDigest text, job.artifactsLocator ++ "/business-result.json"⟩] ++ evidence }
      (runReference job.toJobFacts) := by
  obtain ⟨_, hvalid⟩ := exists_of_isOk hok
  have hbusiness := validateBusinessResult_iff.1 hvalid
  refine ⟨hbusiness.schema, hbusiness.sourceRun, hbusiness.terminal, hbusiness.summary, hsize, fun ref href => ?_⟩
  rcases List.mem_append.1 href with href | href
  · rcases List.mem_append.1 href with href | href
    · exact hbusiness.evidence ref href
    · rw [List.mem_singleton.1 href]
      exact executionEvidence_valid h text
  · exact hevidence ref href

theorem businessResult_valid_iff (h : ValidRun job) (hshort : job.toJobFacts.Short) (hproven : Proven job result)
    (receipt : Option BusinessReceipt) :
    ValidBusiness (businessResult receipt job result) (runReference job.toJobFacts) ↔
      (businessResult receipt job result).json.byteLength ≤ maxBusinessResultBytes := by
  refine ⟨fun hvalid => hvalid.size, fun hsize => ?_⟩
  have hterminal : isDurableJobTerminal result.outcome = true := by
    rcases hproven.outcome with ho | ho | ho <;> simp [ho, isDurableJobTerminal]
  have hfallback : ValidBusiness (processBusinessResult job.toJobFacts result)
      (runReference job.toJobFacts) := by
    apply processBusinessResult_valid h hshort hterminal
    · intro name hname
      obtain ⟨step, hstep, rfl⟩ := hproven.failedStep name hname
      exact (h.steps_named.1 step hstep).noNul
    · simp [hproven.unknownReason]
  have hwithout : ∀ summary, Readable summary →
      (withoutEvidence (processBusinessResult job.toJobFacts result) summary).json.byteLength ≤
        maxBusinessResultBytes →
      ValidBusiness (withoutEvidence (processBusinessResult job.toJobFacts result) summary)
        (runReference job.toJobFacts) := fun summary hsummary hsize =>
    ⟨hfallback.schema, hfallback.sourceRun, rfl, hsummary, hsize, hfallback.evidence⟩
  unfold businessResult at hsize ⊢
  dsimp only at hsize ⊢
  split at hsize
  · exact hfallback
  · split_ifs at hsize ⊢ with hcancelled hnoop hshell
    · exact hfallback
    · exact ⟨hfallback.schema, hfallback.sourceRun, hfallback.terminal, hfallback.summary, hsize, hfallback.evidence⟩
    · exact hfallback
    · cases receipt with
      | none => exact hwithout _ ⟨by decide +kernel, by decide +kernel⟩ hsize
      | some receipt =>
        obtain ⟨text, parsed⟩ := receipt
        cases parsed with
        | none => exact hwithout _ ⟨by rfl, by rfl⟩ hsize
        | some business =>
          dsimp only at hsize ⊢
          split_ifs at hsize ⊢ with hok
          · exact receiptResult_valid h hok hfallback.evidence hsize
          · exact hwithout _ ⟨by rfl, by rfl⟩ hsize

theorem ended_of_complete {after : JobRun} {business : Option JobBusinessResult}
    (h : completeDurableJob job result now business = .ok after) : after.updatedAt = now.iso := by
  unfold completeDurableJob at h
  iterate 6 obtain ⟨_, _, h⟩ := bind_ok h
  obtain ⟨rfl, _⟩ := validateDurableJob_ok h
  rfl

theorem ended_of_markUnknown {after : JobRun} {reason : String} {completedSteps : List DurableJobStepResult}
    (h : markDurableJobUnknown job reason completedSteps now = .ok after) : after.updatedAt = now.iso := by
  unfold markDurableJobUnknown at h
  iterate 4 obtain ⟨_, _, h⟩ := bind_ok h
  obtain ⟨rfl, _⟩ := validateDurableJob_ok h
  rfl

theorem notified_time {ended : Except String JobRun} {next : JobRun} (h : orThrow (notified ended now) = .ok next)
    (htime : ∀ job, ended = .ok job → job.updatedAt = now.iso) : next.updatedAt = now.iso := by
  obtain ⟨job, hjob, hnotified⟩ := bind_ok (orThrow_ok h)
  obtain ⟨_, _, rfl | rfl⟩ := markWakeupNotified_ok hnotified
  · exact htime _ hjob
  · rfl

/-- What a checkpoint leaves to the transaction of a dead runner. -/
def recordedSteps (checkpoint : Option DurableJobCheckpoint) : List DurableJobStepResult :=
  (checkpoint.map DurableJobCheckpoint.completedSteps).getD []

/-- The business result of a proven outcome fits the limit. -/
def ReceiptFits (w : World) (job : JobRun) : Prop :=
  ∀ result, (w.checkpoints job.key).bind (proveOutcomeFromCheckpoint job) = some result →
    (businessResult (w.receipts job.key) job result).json.byteLength ≤ maxBusinessResultBytes

theorem deadTransition_ends (h : ValidRun job) (hrunning : job.status = .running)
    (hshort : job.toJobFacts.Short) (now : JsDate) (hfollows : ∀ checkpoint ∈ w.checkpoints job.key,
      Follows (job.spec dir) checkpoint.completedSteps)
    (htimed : ∀ step ∈ recordedSteps (w.checkpoints job.key), step.Timed) (hfits : ReceiptFits w job) :
    ∃ next result business, (deadTransition job (w.checkpoints job.key)).apply w now job = .ok next ∧
        Ended job next result business now ∧ isDurableJobTerminal business.outcome = true := by
  have hvalid : ∀ step ∈ recordedSteps (w.checkpoints job.key), validateStepResult step = .ok () := by
    cases hcheckpoint : w.checkpoints job.key with
    | none => simp [recordedSteps]
    | some checkpoint =>
      rw [hcheckpoint] at htimed
      exact (follows_valid_iff h dir (hfollows checkpoint hcheckpoint)).2 htimed
  unfold deadTransition
  cases hprove : (w.checkpoints job.key).bind (proveOutcomeFromCheckpoint job) with
  | none =>
    obtain ⟨next, hnext, hended⟩ := notified_unknown h now (.inl hrunning) runnerLost_normal hshort hvalid
    refine ⟨next, _, _, ?_, hended, rfl⟩
    change orThrow (notified (markDurableJobUnknown job _ (recordedSteps _) now) now) = _
    rw [hnext]
    rfl
  | some result =>
    obtain ⟨checkpoint, hcheckpoint, hproves⟩ := Option.bind_eq_some_iff.1 hprove
    obtain ⟨hproven, hsteps⟩ := prove_follows (hfollows checkpoint hcheckpoint) hproves
    have hnormal : normalizeDurableJobResult result = .ok () := by
      rw [proven_normalized h hproven, hsteps]
      simpa [recordedSteps, hcheckpoint] using hvalid
    have hbusiness := (businessResult_valid_iff h hshort hproven (w.receipts job.key)).2 (hfits result hprove)
    obtain ⟨next, hnext, hended⟩ := notified_complete h hrunning now hnormal hbusiness
    refine ⟨next, _, _, ?_, hended, hbusiness.terminal⟩
    unfold JobTransition.apply
    dsimp only
    rw [hnext]
    rfl

theorem deadTransition_conditions {next : JobRun} (h : ValidRun job) (hprocess : job.delegation = none)
    (hfollows : ∀ checkpoint ∈ w.checkpoints job.key, Follows (job.spec dir) checkpoint.completedSteps)
    (happly : (deadTransition job (w.checkpoints job.key)).apply w now job = .ok next) :
    (∀ step ∈ recordedSteps (w.checkpoints job.key), step.Timed) ∧ ReceiptFits w job ∧ next.updatedAt = now.iso := by
  have htimed : (∀ step ∈ recordedSteps (w.checkpoints job.key), validateStepResult step = .ok ()) →
      ∀ step ∈ recordedSteps (w.checkpoints job.key), step.Timed := by
    cases hcheckpoint : w.checkpoints job.key with
    | none => simp [recordedSteps]
    | some checkpoint => exact (follows_valid_iff h dir (hfollows checkpoint hcheckpoint)).1
  unfold deadTransition at happly
  cases hprove : (w.checkpoints job.key).bind (proveOutcomeFromCheckpoint job) with
  | none =>
    rw [hprove] at happly
    unfold JobTransition.apply at happly
    dsimp only at happly
    obtain ⟨ended, hended, _⟩ := bind_ok (orThrow_ok happly)
    refine ⟨htimed (steps_of_markUnknown hprocess hended), fun result hresult => ?_,
      notified_time happly fun _ => ended_of_markUnknown⟩
    rw [hprove] at hresult
    cases hresult
  | some result =>
    rw [hprove] at happly
    unfold JobTransition.apply at happly
    dsimp only at happly
    obtain ⟨ended, hended, _⟩ := bind_ok (orThrow_ok happly)
    obtain ⟨hnormal, hbusiness⟩ := normalized_of_complete hended
    obtain ⟨checkpoint, hcheckpoint, hproves⟩ := Option.bind_eq_some_iff.1 hprove
    obtain ⟨hproven, hsteps⟩ := prove_follows (hfollows checkpoint hcheckpoint) hproves
    refine ⟨htimed ?_, fun other hother => ?_, notified_time happly fun _ => ended_of_complete⟩
    · have hvalid := (proven_normalized h hproven).1 hnormal
      rw [hsteps] at hvalid
      simpa [recordedSteps, hcheckpoint] using hvalid
    · rw [hprove] at hother
      cases hother
      exact hbusiness.size

theorem terminalTail_ok (w : World) (terminal : Option JobRun) :
    (run World.perform w ((deliverTerminalEvent terminal).bind fun _ =>
      ask (.clearSigkill job.key))).1 = .ok () := by
  unfold deliverTerminalEvent
  split
  · rfl
  · split_ifs
    · rfl
    · rfl

/-- A pass over a dead runner ends the run without an error just when every step of its checkpoint
took a millisecond at least, the business result fits its limit and the clock is not behind. -/
theorem handleDeadProcess_ends (hvalid : validateDurableJob job = .ok job)
    (hprocess : job.delegation = none) (hrunning : job.status = .running)
    (hshort : job.toJobFacts.Short) (hlookup : w.lookup job.key = some job) (dir : String)
    (runs : ℕ → StepRun) (finishedAt : String) (now : JsDate) (hwritten : ∀ checkpoint ∈ w.checkpoints job.key,
      checkpoint ∈ (runDurableJobRunner (job.spec dir) runs finishedAt).checkpoints) :
    ((run World.perform w (handleDeadProcess job now)).1 = .ok () ∧
        ∃ next, (run World.perform w (handleDeadProcess job now)).2.lookup job.key = some next ∧
          isDurableJobTerminal next.status = true) ↔
      (∀ step ∈ recordedSteps (w.checkpoints job.key), step.Timed) ∧ ReceiptFits w job ∧
        movesBack job.updatedAt now.iso = false := by
  obtain ⟨_, hchecked, _⟩ := bind_ok hvalid
  have h : ValidRun job := (validRun_iff hprocess).1 hchecked
  have hfollows : ∀ checkpoint ∈ w.checkpoints job.key,
      Follows (job.spec dir) checkpoint.completedSteps := fun checkpoint hcheckpoint =>
    (runDurableJobRunner_follows (job.spec dir) runs finishedAt).1 _ (hwritten checkpoint hcheckpoint)
  have hrun : run World.perform w (handleDeadProcess job now) =
      run World.perform w ((ask (.transition job.key
        (deadTransition job (w.checkpoints job.key)) now)).bind fun terminal =>
          (deliverTerminalEvent terminal).bind fun _ => ask (.clearSigkill job.key)) := rfl
  rw [hrun]
  constructor
  · rintro ⟨hok, next, hnext, hterminal⟩
    rcases transitionDurableJob_cases w job.key (deadTransition job (w.checkpoints job.key)) now
      with ⟨hsame, hnone⟩ | ⟨current, committed, hcommits, happly, _⟩
    · have hlast : (run World.perform w ((ask (.transition job.key
          (deadTransition job (w.checkpoints job.key)) now)).bind fun terminal =>
            (deliverTerminalEvent terminal).bind fun _ =>
              ask (.clearSigkill job.key))).2.lookup job.key = w.lookup job.key := by
        have hperform : (w.perform (.transition job.key
            (deadTransition job (w.checkpoints job.key)) now)).2 = w := hsame
        rw [run_bind, ask, run_issue]
        cases hanswer : w.perform (.transition job.key
            (deadTransition job (w.checkpoints job.key)) now) with
        | mk answer w2 =>
          rw [hanswer] at hperform
          obtain rfl : w2 = w := hperform
          cases answer with
          | ok terminal =>
            exact (sameFor_run (apart_of_routine (terminalTail_routine job terminal) _) w2).lookup
          | error failure => rfl
      rw [hlast, hlookup, Option.some.injEq] at hnext
      rw [← hnext, hrunning] at hterminal
      cases hterminal
    · have hcurrent := hcommits.lookup
      rw [hlookup, Option.some.injEq] at hcurrent
      subst hcurrent
      obtain ⟨htimed, hfits, htime⟩ := deadTransition_conditions h hprocess hfollows happly
      have hclock := hcommits.clock
      rw [htime] at hclock
      exact ⟨htimed, hfits, hclock⟩
  · rintro ⟨htimed, hfits, hclock⟩
    obtain ⟨next, result, business, happly, hended, hterminal⟩ :=
      deadTransition_ends h hrunning hshort now hfollows htimed hfits
    have hcommitted := transitionDurableJob_of_ended hlookup happly hended hclock
    have hask : run World.perform w (ask (.transition job.key
        (deadTransition job (w.checkpoints job.key)) now)) = (.ok (some next),
          (w.put next).record (transitionEvents (deadTransition job (w.checkpoints job.key)) job
            next)) := by
      rw [ask, run_issue]
      exact hcommitted
    rw [run_bind_ok hask]
    refine ⟨terminalTail_ok _ _, next, ?_, by rw [hended.status]; exact hterminal⟩
    rw [(sameFor_run (apart_of_routine (terminalTail_routine job (some next)) _) _).lookup]
    exact (Commits.of_save hlookup (hended.saved hclock)).lookup_put

end Dead

end

/-- The runner died after a checkpoint of its only step. -/
def deadWorld (elapsed : ℕ) : @World sampleJobHost :=
  letI := sampleJobHost
  { runningWorld with
    checkpoints := fun key => if key = sampleRun.key then
      (runDurableJobRunner (sampleRun.spec "/yui") (cleanRuns elapsed) sampleTime).checkpoints.head?
      else none }

theorem handleDeadProcess_ends_timed :
    let _ := sampleJobHost
    (run World.perform (deadWorld 5) (handleDeadProcess sampleRun sampleNow)).1 = .ok () ∧
      ∃ next, (run World.perform (deadWorld 5) (handleDeadProcess sampleRun sampleNow)).2.lookup
          sampleRun.key = some next ∧ isDurableJobTerminal next.status = true := by
  let _ := sampleJobHost
  apply (handleDeadProcess_ends sampleRun_valid rfl rfl sampleRun_short rfl "/yui" (cleanRuns 5)
    sampleTime sampleNow ?_).2
  · refine ⟨fun step hstep => ?_, fun result hresult => ?_, by decide +kernel⟩
    · rw [List.mem_singleton.1 hstep]
      exact ⟨by decide +kernel, by decide +kernel⟩
    · cases hresult
      decide +kernel
  · intro checkpoint hcheckpoint
    exact List.mem_of_mem_head? hcheckpoint

/-- A checkpoint with a step of 0 ms makes the pass throw and leaves the run running. -/
theorem handleDeadProcess_quick_step :
    let _ := sampleJobHost
    let after := run World.perform (deadWorld 0) (handleDeadProcess sampleRun sampleNow)
    after.1.isOk = false ∧ (after.2.lookup sampleRun.key).map (fun job => job.status) = some .running := by
  decide +kernel
