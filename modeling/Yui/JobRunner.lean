import Yui.JobSupervisorEnds

/-!
# The job runner

The step loop of `job/jobRunner.ts`. What happens to a step is given from outside: whether a
cancellation is seen before or during it, whether it can be spawned, how it ends and how long it
takes. The runner writes a checkpoint after every step it has executed and an exit record at its end.
-/

open JsText Checked Validation

/-- What the runner observes of a step. -/
structure StepRun where
  cancelledBefore : Bool
  spawnError : Bool
  code : Option UInt32
  signal : Option String
  timedOut : Bool
  cancelledDuring : Bool
  elapsed : ℕ
  checkpointedAt : String

def isLogChar (c : Char) : Bool := c.isAlphanum || c == '.' || c == '_' || c == '-'

def sanitizeLogName (name : String) : String :=
  let chars := (name.toList.map fun c => if isLogChar c then c else '_').take 80
  if chars = [] then "step" else String.ofList chars

/-- `String(index + 1).padStart(3, "0")`. -/
def stepNumber (index : ℕ) : String :=
  String.ofList ((toString (index + 1)).toList.leftpad 3 '0')

def logName (index : ℕ) (step : DurableJobStep) : String :=
  stepNumber index ++ "-" ++ sanitizeLogName step.name ++ ".log"

def exitCodeOf (run : StepRun) : Option ℚ := run.code.map fun code => (code.toNat : ℚ)

def stepResult (spec : DurableJobSpec) (index : ℕ) (step : DurableJobStep) (run : StepRun) :
    DurableJobStepResult where
  name := step.name
  exitCode := if run.spawnError then none else exitCodeOf run
  signal := if run.spawnError then none else run.signal
  timedOut := !run.spawnError && run.timedOut
  durationMs := run.elapsed
  logPath := logName index step
  head := spec.head

/-- The checkpoints written so far and the exit record. -/
structure RunnerFiles where
  checkpoints : List DurableJobCheckpoint
  exit : DurableJobExit

def runSteps (spec : DurableJobSpec) (runs : ℕ → StepRun) (finishedAt : String) :
    ℕ → List DurableJobStep → List DurableJobStepResult → List DurableJobCheckpoint → RunnerFiles
  | _, [], completed, checkpoints =>
    ⟨checkpoints, ⟨.succeeded, some 0, none, none, completed, finishedAt⟩⟩
  | index, step :: steps, completed, checkpoints =>
    let run := runs index
    if run.cancelledBefore then
      ⟨checkpoints, ⟨.cancelled, none, none, none, completed, finishedAt⟩⟩
    else
      let completed := completed ++ [stepResult spec index step run]
      let checkpoints := checkpoints ++ [⟨completed, run.checkpointedAt⟩]
      if run.spawnError then
        ⟨checkpoints, ⟨.failed, none, none, some step.name, completed, finishedAt⟩⟩
      else if run.cancelledDuring then
        ⟨checkpoints, ⟨.cancelled, none, none, none, completed, finishedAt⟩⟩
      else if run.timedOut then
        ⟨checkpoints, ⟨.timedOut, exitCodeOf run, run.signal, some step.name, completed,
          finishedAt⟩⟩
      else if run.code ≠ some 0 then
        ⟨checkpoints, ⟨.failed, exitCodeOf run, run.signal, some step.name, completed,
          finishedAt⟩⟩
      else runSteps spec runs finishedAt (index + 1) steps completed checkpoints

def runDurableJobRunner (spec : DurableJobSpec) (runs : ℕ → StepRun) (finishedAt : String) : RunnerFiles :=
  runSteps spec runs finishedAt 0 spec.steps [] []

section Records

/-- The first records of a plan: the results of its first steps, in order. -/
def Follows (spec : DurableJobSpec) (completed : List DurableJobStepResult) : Prop :=
  ∃ runs : ℕ → StepRun, ∃ count ≤ spec.steps.length,
    completed = (spec.steps.take count).mapIdx fun index step => stepResult spec index step (runs index)

/-- What the runner can write as an exit record. -/
structure RunnerExit (spec : DurableJobSpec) (exit : DurableJobExit) : Prop where
  follows : Follows spec exit.steps
  outcome : exit.outcome = .succeeded ∨ exit.outcome = .failed ∨ exit.outcome = .timedOut ∨
    exit.outcome = .cancelled
  exitCode : ∀ code ∈ exit.exitCode, ∃ value : UInt32, code = (value.toNat : ℚ)
  failedStep : ∀ name ∈ exit.failedStep, ∃ step ∈ spec.steps, step.name = name

theorem follows_take (spec : DurableJobSpec) (runs : ℕ → StepRun) {count : ℕ}
    (h : count ≤ spec.steps.length) :
    Follows spec ((spec.steps.take count).mapIdx fun index step =>
      stepResult spec index step (runs index)) := ⟨runs, count, h, rfl⟩

/-- The loop keeps to the plan from any point of it on. -/
theorem runSteps_follows (spec : DurableJobSpec) (runs : ℕ → StepRun) (finishedAt : String)
    {index : ℕ} {steps : List DurableJobStep} {checkpoints : List DurableJobCheckpoint}
    (hsteps : spec.steps.drop index = steps) (hindex : index ≤ spec.steps.length)
    (hcheckpoints : ∀ checkpoint ∈ checkpoints, Follows spec checkpoint.completedSteps) :
    (∀ checkpoint ∈ (runSteps spec runs finishedAt index steps
        ((spec.steps.take index).mapIdx fun i step => stepResult spec i step (runs i))
        checkpoints).checkpoints, Follows spec checkpoint.completedSteps) ∧
      RunnerExit spec (runSteps spec runs finishedAt index steps
        ((spec.steps.take index).mapIdx fun i step => stepResult spec i step (runs i)) checkpoints).exit := by
  induction steps generalizing index checkpoints with
  | nil =>
    rw [runSteps]
    refine ⟨hcheckpoints, follows_take spec runs hindex, .inl rfl, fun code hcode => ?_,
      fun name hname => ?_⟩
    · cases hcode
      exact ⟨0, by simp⟩
    · cases hname
  | cons step steps ih =>
    have hlt : index < spec.steps.length := by
      by_contra hge
      rw [List.drop_eq_nil_of_le (not_lt.1 hge)] at hsteps
      cases hsteps
    have hstep : spec.steps[index] = step := by
      have hget := List.drop_eq_getElem_cons hlt
      rw [hsteps, List.cons.injEq] at hget
      exact hget.1.symm
    have hmem : step ∈ spec.steps := hstep ▸ List.getElem_mem hlt
    have hnext : (spec.steps.take index).mapIdx (fun i step => stepResult spec i step (runs i)) ++
        [stepResult spec index step (runs index)] =
        (spec.steps.take (index + 1)).mapIdx fun i step => stepResult spec i step (runs i) := by
      rw [List.take_add_one, List.mapIdx_append]
      simp [hstep, List.length_take, Nat.min_eq_left hindex, hlt]
    have hfollows := follows_take spec runs (Nat.succ_le_of_lt hlt)
    have hwritten : ∀ checkpoint ∈ checkpoints ++
        [⟨(spec.steps.take (index + 1)).mapIdx fun i step => stepResult spec i step (runs i),
          (runs index).checkpointedAt⟩], Follows spec checkpoint.completedSteps := by
      intro checkpoint hcheckpoint
      rcases List.mem_append.1 hcheckpoint with hcheckpoint | hcheckpoint
      · exact hcheckpoints checkpoint hcheckpoint
      · rw [List.mem_singleton.1 hcheckpoint]
        exact hfollows
    have hcode : ∀ code ∈ exitCodeOf (runs index), ∃ value : UInt32, code = (value.toNat : ℚ) := by
      intro code hcode
      obtain ⟨value, _, hvalue⟩ := Option.map_eq_some_iff.1 hcode
      exact ⟨value, hvalue.symm⟩
    have hname : ∀ name ∈ some step.name, ∃ step ∈ spec.steps, step.name = name := by
      intro name hname
      cases hname
      exact ⟨step, hmem, rfl⟩
    rw [runSteps]
    dsimp only
    rw [hnext]
    split_ifs
    · exact ⟨hcheckpoints, follows_take spec runs hindex, by simp, by simp, by simp⟩
    · exact ⟨hwritten, hfollows, by simp, by simp, hname⟩
    · exact ⟨hwritten, hfollows, by simp, by simp, by simp⟩
    · exact ⟨hwritten, hfollows, by simp, hcode, hname⟩
    · exact ⟨hwritten, hfollows, by simp, hcode, hname⟩
    · have hrest : spec.steps.drop (index + 1) = steps := by
        rw [← List.drop_drop, hsteps]
        rfl
      exact ih hrest hlt hwritten

theorem runDurableJobRunner_follows (spec : DurableJobSpec) (runs : ℕ → StepRun) (finishedAt : String) :
    (∀ checkpoint ∈ (runDurableJobRunner spec runs finishedAt).checkpoints, Follows spec checkpoint.completedSteps) ∧
      RunnerExit spec (runDurableJobRunner spec runs finishedAt).exit := by
  have h := @runSteps_follows spec runs finishedAt 0 spec.steps [] rfl (Nat.zero_le _) (by simp)
  unfold runDurableJobRunner
  simpa using h

end Records

section Valid

/-- The duration that the validation of a step record demands. -/
def DurableJobStepResult.Timed (step : DurableJobStepResult) : Prop :=
  1 ≤ step.durationMs ∧ step.durationMs ≤ maxSafeInteger

theorem isSafeInteger_natCast (n : ℕ) : isSafeInteger (n : ℚ) = decide (n ≤ maxSafeInteger) := by
  rw [Bool.eq_iff_iff]
  simp only [isSafeInteger, Rat.den_natCast, Rat.num_natCast, Int.natAbs_natCast, beq_self_eq_true,
    Bool.true_and, decide_eq_true_eq]
  exact decide_eq_true_iff

theorem checkExitCode_of_code {code : Option ℚ} {message : String}
    (h : ∀ value ∈ code, ∃ exit : UInt32, value = (exit.toNat : ℚ)) : checkExitCode code message = .ok () := by
  cases code with
  | none => rfl
  | some value =>
    obtain ⟨exit, rfl⟩ := h value rfl
    have hlt := exit.toNat_lt
    apply refuse_of_not
    rw [isSafeInteger_natCast]
    unfold maxSafeInteger
    simp only [decide_eq_false_iff_not, not_or, not_not]
    exact ⟨by omega, Rat.not_lt.2 Rat.natCast_nonneg⟩

theorem isLogChar_nul : isLogChar nul = false := by decide

theorem nul_not_mem_sanitized (name : String) : nul ∉ (sanitizeLogName name).toList := by
  unfold sanitizeLogName
  dsimp only
  split_ifs
  · decide
  · rw [String.toList_ofList]
    intro hmem
    obtain ⟨c, _, hc⟩ := List.mem_map.1 (List.mem_of_mem_take hmem)
    split_ifs at hc with hlog
    · rw [hc, isLogChar_nul] at hlog
      cases hlog
    · revert hc
      decide

theorem nul_not_mem_stepNumber (index : ℕ) : nul ∉ (stepNumber index).toList := by
  unfold stepNumber
  rw [String.toList_ofList, List.leftpad]
  intro hmem
  rcases List.mem_append.1 hmem with hmem | hmem
  · have hzero := List.eq_of_mem_replicate hmem
    revert hzero
    decide
  · have hdigits : (toString (index + 1)).toList = Nat.toDigits 10 (index + 1) := Nat.toList_repr
    rw [hdigits] at hmem
    have hdigit := Nat.isDigit_of_mem_toDigits (by decide) (by decide) hmem
    revert hdigit
    decide

theorem readable_logName (index : ℕ) (step : DurableJobStep) : Readable (logName index step) := by
  constructor
  · apply includesNul_append _ (by decide)
    apply includesNul_append
    · apply includesNul_append _ (by decide)
      simpa [includesNul] using nul_not_mem_stepNumber index
    · simpa [includesNul] using nul_not_mem_sanitized step.name
  · apply @notBlank_of_mem _ '-'
    · simp [logName]
    · decide

theorem requireCommit_label {value label other : String} (h : requireCommit value label = .ok ()) :
    requireCommit value other = .ok () := by
  obtain ⟨normalized, htext, hcommit⟩ := bind_ok h
  obtain ⟨hnormal, htrim⟩ := requireTextWith_normal htext
  have hreadable := readable_of_commit h
  unfold requireCommit requireText requireTextWith
  rw [if_neg (by simp [hreadable.noNul]), if_neg (by simpa [isBlank] using hreadable.notBlank), ok_bind, ← htrim]
  exact refuse_of_not (refuse_ok hcommit) _

theorem readable_of_requireText {value label text : String} (h : requireText value label = .ok text) :
    Readable value := by
  apply (@checkText_iff value label).1
  unfold checkText
  rw [h]
  rfl

theorem checkSteps_names {names : List String} {steps : List DurableJobStep} (h : checkSteps names steps = .ok ()) :
    (∀ step ∈ steps, Readable step.name ∧ trim step.name ∉ names) ∧ (steps.map DurableJobStep.name).Nodup := by
  induction steps generalizing names with
  | nil => simp
  | cons step steps ih =>
    obtain ⟨name, hname, h⟩ := bind_ok h
    rw [seq_iff, seq_iff, refuse_iff] at h
    obtain ⟨hnew, _, hrest⟩ := h
    obtain ⟨hsteps, hnodup⟩ := ih hrest
    have htrim : name = trim step.name := (requireTextWith_normal hname).2
    refine ⟨fun other hother => ?_, ?_⟩
    · rcases List.mem_cons.1 hother with rfl | hother
      · exact ⟨readable_of_requireText hname, htrim ▸ hnew⟩
      · obtain ⟨hreadable, hnot⟩ := hsteps other hother
        exact ⟨hreadable, fun hmem => hnot (List.mem_cons_of_mem _ hmem)⟩
    · rw [List.map_cons, List.nodup_cons]
      refine ⟨fun hmem => ?_, hnodup⟩
      obtain ⟨other, hother, heq⟩ := List.mem_map.1 hmem
      apply (hsteps other hother).2
      rw [heq, ← htrim]
      exact List.mem_cons_self

variable [JobHost]

variable {job : JobRun}

theorem ValidRun.head_commit (h : ValidRun job) (label : String) :
    requireCommit (job.head.getD "") label = .ok () := by
  obtain ⟨head, hhead, hconfiguration⟩ := bind_ok h.configuration
  rw [seq_iff] at hconfiguration
  cases hjob : job.head with
  | none =>
    rw [hjob] at hhead
    cases hhead
  | some value =>
    rw [hjob] at hhead
    cases hhead
    exact requireCommit_label hconfiguration.1

theorem ValidRun.steps_named (h : ValidRun job) : (∀ step ∈ job.steps.getD [], Readable step.name) ∧
      ((job.steps.getD []).map DurableJobStep.name).Nodup := by
  have hconfiguration := h.configuration
  unfold validateJobExecutionConfiguration at hconfiguration
  obtain ⟨_, _, hconfiguration⟩ := bind_ok hconfiguration
  rw [seq_iff] at hconfiguration
  obtain ⟨_, _, hconfiguration⟩ := bind_ok hconfiguration.2
  rw [seq_iff, seq_iff] at hconfiguration
  have hsteps : checkSteps [] (job.steps.getD []) = .ok () := by
    have hrest := hconfiguration.2.2
    cases henv : job.env with
    | none =>
      simp only [henv] at hrest
      cases hrest
    | some env =>
      simp only [henv, seq_iff] at hrest
      exact hrest.2.2
  obtain ⟨hnames, hnodup⟩ := checkSteps_names hsteps
  exact ⟨fun step hstep => (hnames step hstep).1, hnodup⟩

theorem stepResult_valid_iff (h : ValidRun job) (dir : String) (index : ℕ)
    {step : DurableJobStep} (hstep : step ∈ (job.spec dir).steps) (run : StepRun) :
    validateStepResult (stepResult (job.spec dir) index step run) = .ok () ↔
      (stepResult (job.spec dir) index step run).Timed := by
  have hname : Readable step.name := h.steps_named.1 step hstep
  have hcode : ∀ value ∈ (stepResult (job.spec dir) index step run).exitCode,
      ∃ exit : UInt32, value = (exit.toNat : ℚ) := by
    intro value hvalue
    unfold stepResult at hvalue
    dsimp only at hvalue
    split_ifs at hvalue
    · cases hvalue
    · obtain ⟨code, _, hcode⟩ := Option.map_eq_some_iff.1 hvalue
      exact ⟨code, hcode.symm⟩
  unfold validateStepResult
  simp only [seq_iff, checkText_iff, checkExitCode_of_code hcode, true_and]
  have hduration : requirePositiveInteger (run.elapsed : ℚ)
      ("DurableJob step durationMs (" ++ step.name ++ ")") = .ok () ↔
      (stepResult (job.spec dir) index step run).Timed := by
    unfold requirePositiveInteger DurableJobStepResult.Timed
    rw [refuse_iff, isSafeInteger_natCast, not_or, Rat.not_lt, decide_eq_false_iff_not, not_not]
    constructor
    · exact fun h => ⟨h.2, Rat.natCast_le_natCast.2 h.1⟩
    · exact fun h => ⟨Rat.natCast_le_natCast.1 h.2, h.1⟩
  constructor
  · exact fun h => hduration.1 h.2.1
  · exact fun htimed => ⟨hname, hduration.2 htimed, readable_logName index step, h.head_commit _⟩

theorem follows_valid_iff (h : ValidRun job) (dir : String)
    {completed : List DurableJobStepResult} (hfollows : Follows (job.spec dir) completed) :
    (∀ step ∈ completed, validateStepResult step = .ok ()) ↔ ∀ step ∈ completed, step.Timed := by
  obtain ⟨runs, count, _, rfl⟩ := hfollows
  have hiff : ∀ step ∈ ((job.spec dir).steps.take count).mapIdx fun index step =>
      stepResult (job.spec dir) index step (runs index),
      (validateStepResult step = .ok () ↔ step.Timed) := by
    intro step hstep
    obtain ⟨index, hindex, rfl⟩ := List.mem_mapIdx.1 hstep
    exact stepResult_valid_iff h dir index (List.mem_of_mem_take (List.getElem_mem _)) _
  exact ⟨fun hall step hstep => (hiff step hstep).1 (hall step hstep),
    fun hall step hstep => (hiff step hstep).2 (hall step hstep)⟩

end Valid
