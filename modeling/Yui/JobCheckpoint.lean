import Yui.JobHarvest

/-!
# A checkpoint and the exit record that was not written

The supervisor looks for the first failing step among the recorded ones, the runner decides after each step.
Where no cancellation is seen both name the same step with the same ending.
-/

/-- The rule of the supervisor. -/
def DurableJobStepResult.failing (step : DurableJobStepResult) : Bool :=
  step.timedOut || step.exitCode != some 0 || step.signal.isSome

/-- Outcome, exit code, signal and failed step. -/
abbrev Verdict := DurableJobStatus × Option ℚ × Option String × Option String

def verdictOf (steps : List DurableJobStepResult) : Verdict :=
  match steps.find? DurableJobStepResult.failing with
  | none => (.succeeded, some 0, none, none)
  | some step => (if step.timedOut then .timedOut else .failed, step.exitCode, step.signal, some step.name)

def DurableJobExit.verdict (exit : DurableJobExit) : Verdict :=
  (exit.outcome, exit.exitCode, exit.signal, exit.failedStep)

def DurableJobResult.verdict (result : DurableJobResult) : Verdict :=
  (result.outcome, result.exitCode, result.signal, result.failedStep)

/-- No cancellation is seen, and the `close` event carries an exit code or a signal, never both. -/
structure Undisturbed (runs : ℕ → StepRun) : Prop where
  before : ∀ index, (runs index).cancelledBefore = false
  during : ∀ index, (runs index).cancelledDuring = false
  close : ∀ index, (runs index).code = none ∨ (runs index).signal = none

section Verdicts

variable {completed : List DurableJobStepResult} {step : DurableJobStepResult}

theorem verdictOf_clean (h : ∀ done ∈ completed, done.failing = false) :
    verdictOf completed = (.succeeded, some 0, none, none) := by
  have hnone : completed.find? DurableJobStepResult.failing = none :=
    List.find?_eq_none.2 fun done hdone => by simp [h done hdone]
  rw [verdictOf, hnone]

theorem verdictOf_failing (h : ∀ done ∈ completed, done.failing = false) (hstep : step.failing = true) :
    verdictOf (completed ++ [step]) =
      (if step.timedOut then .timedOut else .failed, step.exitCode, step.signal, some step.name) := by
  have hnone : completed.find? DurableJobStepResult.failing = none :=
    List.find?_eq_none.2 fun done hdone => by simp [h done hdone]
  have hfind : (completed ++ [step]).find? DurableJobStepResult.failing = some step := by
    rw [List.find?_append, hnone, Option.none_or, List.find?_cons, hstep]
  rw [verdictOf, hfind]

theorem exitCodeOf_zero {run : StepRun} : exitCodeOf run = some 0 ↔ run.code = some 0 := by
  unfold exitCodeOf
  cases run.code with
  | none => simp
  | some code =>
    rw [Option.map_some, Option.some.injEq, Option.some.injEq]
    constructor
    · intro h
      have hnat : code.toNat = 0 := by exact_mod_cast h
      exact UInt32.toNat_inj.1 hnat
    · rintro rfl
      rfl

variable (spec : DurableJobSpec) (index : ℕ) (planned : DurableJobStep) {run : StepRun}

theorem stepResult_unspawned (h : run.spawnError = true) : (stepResult spec index planned run).failing = true := by
  simp [DurableJobStepResult.failing, stepResult, h]

theorem stepResult_timedOut (hspawn : run.spawnError = false) (h : run.timedOut = true) :
    (stepResult spec index planned run).failing = true := by
  simp [DurableJobStepResult.failing, stepResult, hspawn, h]

theorem stepResult_failed (hspawn : run.spawnError = false) (h : run.code ≠ some 0) :
    (stepResult spec index planned run).failing = true := by
  have hcode : exitCodeOf run ≠ some 0 := fun hzero => h (exitCodeOf_zero.1 hzero)
  simp [DurableJobStepResult.failing, stepResult, hspawn, hcode]

theorem stepResult_clean (hspawn : run.spawnError = false) (htime : run.timedOut = false)
    (hcode : run.code = some 0) (hsignal : run.signal = none) :
    (stepResult spec index planned run).failing = false := by
  have hzero : exitCodeOf run = some 0 := exitCodeOf_zero.2 hcode
  simp [DurableJobStepResult.failing, stepResult, hspawn, htime, hzero, hsignal]

end Verdicts

theorem runSteps_verdict (spec : DurableJobSpec) {runs : ℕ → StepRun} (hruns : Undisturbed runs)
    (finishedAt : String) {index : ℕ} {steps : List DurableJobStep}
    {completed : List DurableJobStepResult} {checkpoints : List DurableJobCheckpoint}
    (hclean : ∀ done ∈ completed, done.failing = false)
    (hlast : ∀ checkpoint, checkpoints.getLast? = some checkpoint → checkpoint.completedSteps = completed) :
    let files := runSteps spec runs finishedAt index steps completed checkpoints
    files.exit.verdict = verdictOf files.exit.steps ∧ ∀ checkpoint, files.checkpoints.getLast? = some checkpoint →
        checkpoint.completedSteps = files.exit.steps := by
  induction steps generalizing index completed checkpoints with
  | nil => exact ⟨(verdictOf_clean hclean).symm, hlast⟩
  | cons planned steps ih =>
    let next := completed ++ [stepResult spec index planned (runs index)]
    let written : DurableJobCheckpoint := ⟨next, (runs index).checkpointedAt⟩
    have hwritten : ∀ checkpoint, (checkpoints ++ [written]).getLast? = some checkpoint →
        checkpoint.completedSteps = next := by
      intro checkpoint h
      rw [List.getLast?_concat, Option.some.injEq] at h
      exact h ▸ rfl
    rw [runSteps]
    simp only [hruns.before index, hruns.during index, Bool.false_eq_true, if_false]
    split_ifs with hspawn htime hcode
    · refine ⟨?_, hwritten⟩
      rw [verdictOf_failing hclean (stepResult_unspawned spec index planned hspawn)]
      simp [DurableJobExit.verdict, stepResult, hspawn]
    · rw [Bool.not_eq_true] at hspawn
      refine ⟨?_, hwritten⟩
      rw [verdictOf_failing hclean (stepResult_timedOut spec index planned hspawn htime)]
      simp [DurableJobExit.verdict, stepResult, hspawn, htime]
    · rw [Bool.not_eq_true] at hspawn htime
      refine ⟨?_, hwritten⟩
      rw [verdictOf_failing hclean (stepResult_failed spec index planned hspawn hcode)]
      simp [DurableJobExit.verdict, stepResult, hspawn, htime]
    · rw [Bool.not_eq_true] at hspawn htime
      rw [not_not] at hcode
      have hsignal : (runs index).signal = none := by
        rcases hruns.close index with hnone | hnone
        · rw [hnone] at hcode
          cases hcode
        · exact hnone
      refine ih (fun done hdone => ?_) hwritten
      rcases List.mem_append.1 hdone with hdone | hdone
      · exact hclean done hdone
      · rw [List.mem_singleton.1 hdone]
        exact stepResult_clean spec index planned hspawn htime hcode hsignal

section Proof

variable {job : JobRun} {checkpoint : DurableJobCheckpoint}

theorem prove_of_follows {dir : String} (hprocess : job.delegation = none)
    (hnames : ((job.steps.getD []).map DurableJobStep.name).Nodup)
    (hfollows : Follows (job.spec dir) checkpoint.completedSteps)
    (hlength : checkpoint.completedSteps.length = (job.steps.getD []).length) :
    ∃ result, proveOutcomeFromCheckpoint job checkpoint = some result ∧
      result.verdict = verdictOf checkpoint.completedSteps ∧ result.steps = checkpoint.completedSteps := by
  have hsame := follows_names hfollows hlength
  have hdistinct : (checkpoint.completedSteps.map DurableJobStepResult.name).Nodup := hsame ▸ hnames
  unfold proveOutcomeFromCheckpoint
  dsimp only
  rw [if_neg (not_not.2 hprocess), if_neg (not_not.2 hdistinct), if_neg (not_not.2 hlength),
    mapM_find hsame (find_of_nodup_names hdistinct)]
  dsimp only
  change ∃ result, (match checkpoint.completedSteps.find? DurableJobStepResult.failing with
    | none => _
    | some failing => _) = some result ∧ _
  unfold verdictOf
  cases checkpoint.completedSteps.find? DurableJobStepResult.failing with
  | none => exact ⟨_, rfl, rfl, rfl⟩
  | some failing => exact ⟨_, rfl, rfl, rfl⟩

theorem length_of_prove {result : DurableJobResult} (h : proveOutcomeFromCheckpoint job checkpoint = some result) :
    checkpoint.completedSteps.length = (job.steps.getD []).length := by
  unfold proveOutcomeFromCheckpoint at h
  dsimp only at h
  split_ifs at h with hdelegation hnames hlength
  exact not_not.1 hlength

theorem length_of_covered {dir : String} {completed : List DurableJobStepResult}
    (hnames : ((job.steps.getD []).map DurableJobStep.name).Nodup) (hfollows : Follows (job.spec dir) completed)
    (hcovered : ∀ step ∈ job.steps.getD [], ∃ done ∈ completed, done.name = step.name) :
    completed.length = (job.steps.getD []).length := by
  obtain ⟨runs, count, hcount, rfl⟩ := hfollows
  have hspec : (job.spec dir).steps = job.steps.getD [] := rfl
  rw [hspec] at hcount ⊢
  rw [List.length_mapIdx, List.length_take, min_eq_left hcount]
  by_contra hne
  have hlt : count < (job.steps.getD []).length := by omega
  obtain ⟨done, hdone, hname⟩ := hcovered _ (List.getElem_mem hlt)
  obtain ⟨index, hindex, rfl⟩ := List.mem_mapIdx.1 hdone
  rw [hspec] at hindex
  have hindex' : index < count := by
    rw [List.length_take, min_eq_left hcount] at hindex
    exact hindex
  have hcountName : count < ((job.steps.getD []).map DurableJobStep.name).length := by rwa [List.length_map]
  have hindexName : index < ((job.steps.getD []).map DurableJobStep.name).length := hindex'.trans hcountName
  have hsame : ((job.steps.getD []).map DurableJobStep.name)[index] =
      ((job.steps.getD []).map DurableJobStep.name)[count] := by
    rw [List.getElem_map, List.getElem_map, ← hname]
    simp [stepResult, hspec]
  have := (List.Nodup.getElem_inj_iff hnames).1 hsame
  omega

end Proof

/-- If the runner of a process Job dies between its last checkpoint and its exit record, the checkpoint proves
what that record would have said, or nothing, and it proves something exactly when it has a result for every
planned step. -/
theorem checkpoint_agrees (job : JobRun) (dir : String) (runs : ℕ → StepRun) (finishedAt : String)
    (checkpoint : DurableJobCheckpoint) (hprocess : job.delegation = none)
    (hnames : ((job.steps.getD []).map DurableJobStep.name).Nodup) (hruns : Undisturbed runs)
    (hlast : (runDurableJobRunner (job.spec dir) runs finishedAt).checkpoints.getLast? = some checkpoint) :
    let exit := (runDurableJobRunner (job.spec dir) runs finishedAt).exit
    (∀ result, proveOutcomeFromCheckpoint job checkpoint = some result →
      result.outcome = exit.outcome ∧ result.exitCode = exit.exitCode ∧ result.signal = exit.signal ∧
        result.failedStep = exit.failedStep ∧ result.steps = exit.steps) ∧
    ((proveOutcomeFromCheckpoint job checkpoint).isSome = true ↔
      ∀ step ∈ job.steps.getD [], ∃ done ∈ checkpoint.completedSteps, done.name = step.name) := by
  intro exit
  have hclean : ∀ done ∈ ([] : List DurableJobStepResult), done.failing = false := (by simp)
  have hnone : ∀ found : DurableJobCheckpoint, ([] : List DurableJobCheckpoint).getLast? = some found →
      found.completedSteps = [] := (by simp)
  obtain ⟨hverdict, hwritten⟩ := @runSteps_verdict (job.spec dir) runs hruns finishedAt 0
    (job.spec dir).steps [] [] hclean hnone
  have hsteps : checkpoint.completedSteps = exit.steps := hwritten checkpoint hlast
  have hfollows : Follows (job.spec dir) checkpoint.completedSteps :=
    (runDurableJobRunner_follows (job.spec dir) runs finishedAt).1 checkpoint (List.mem_of_getLast? hlast)
  refine ⟨fun result hresult => ?_, fun hsome => ?_, fun hcovered => ?_⟩
  · obtain ⟨proven, hproven, hreports, hrecords⟩ :=
      prove_of_follows hprocess hnames hfollows (length_of_prove hresult)
    obtain rfl := Option.some.inj (hresult.symm.trans hproven)
    have hsame : result.verdict = exit.verdict := by
      rw [hreports, hsteps]
      exact hverdict.symm
    simp only [DurableJobResult.verdict, DurableJobExit.verdict, Prod.mk.injEq] at hsame
    exact ⟨hsame.1, hsame.2.1, hsame.2.2.1, hsame.2.2.2, hrecords.trans hsteps⟩
  · obtain ⟨result, hresult⟩ := Option.isSome_iff_exists.1 hsome
    have hplan := follows_names hfollows (length_of_prove hresult)
    intro step hstep
    have hname : step.name ∈ checkpoint.completedSteps.map DurableJobStepResult.name :=
      hplan ▸ List.mem_map_of_mem hstep
    exact List.mem_map.1 hname
  · obtain ⟨result, hresult, -⟩ := prove_of_follows hprocess hnames hfollows
      (length_of_covered hnames hfollows hcovered)
    exact hresult ▸ rfl

def testedRun : JobRun := { sampleRun with
  steps := some [⟨"build", "make", none, none, none, none⟩, ⟨"test", "make test", none, none, none, none⟩] }

/-- The first step passes, and a later one is killed when its time is over. -/
def timedOutRuns (index : ℕ) : StepRun :=
  if index = 0 then ⟨false, false, some 0, none, false, false, 5, "2026"⟩
  else ⟨false, false, none, some "SIGTERM", true, false, 5, "2026"⟩

theorem timedOutRuns_undisturbed : Undisturbed timedOutRuns := by
  refine ⟨fun index => ?_, fun index => ?_, fun index => ?_⟩ <;> unfold timedOutRuns <;> split_ifs <;> simp

def timedOutCheckpoint : DurableJobCheckpoint :=
  ⟨(testedRun.steps.getD []).zipIdx.map fun (step, index) =>
    stepResult (testedRun.spec "/yui") index step (timedOutRuns index), "2026"⟩

theorem checkpoint_agrees_timedOut : ∃ result, proveOutcomeFromCheckpoint testedRun timedOutCheckpoint = some result ∧
    result.outcome = .timedOut ∧ result.failedStep = some "test" := by
  have hnames : ((testedRun.steps.getD []).map DurableJobStep.name).Nodup := by decide
  obtain ⟨hagrees, hcovered⟩ := checkpoint_agrees testedRun "/yui" timedOutRuns "2026" timedOutCheckpoint rfl
    hnames timedOutRuns_undisturbed rfl
  obtain ⟨result, hresult⟩ := Option.isSome_iff_exists.1 (hcovered.2 (by decide))
  obtain ⟨houtcome, -, -, hfailed, -⟩ := hagrees result hresult
  exact ⟨result, hresult, houtcome, hfailed⟩
