import Yui.IntegrationSourceKeeps

/-!
# The calls keep to the discipline

Each way to the target ref brings its evidence along: checks that did not fail, and for a bound Job the
results of every step. `integrate` and `abort` are put together from the ways.
-/

open Program Protocol

namespace GitIntegration

variable {k : Knowledge} {attempt : IntegrationAttempt}

/-- Nothing is claimed of how a call ends. -/
def anyEnd {α : Type} : Knowledge → α → Prop := fun _ _ => True

section Saves

theorem fail_keeps (hk : k.record = some attempt) (error checkName : String)
    (hfollows : ∀ next : IntegrationAttempt, next.status = .failed → Follows k attempt next) :
    discipline.Keeps anyEnd anyError k (fail attempt error checkName) := by
  unfold fail
  exact seq_keeps (lax (saveUpdate_keeps hk (.of_fields rfl rfl rfl rfl rfl) (hfollows _ rfl))) fun _ _ _ => trivial

theorem recordFailed_keeps (hk : Holds k attempt) (checks : List CheckResult) :
    discipline.Keeps anyEnd anyError k (recordFailed attempt checks) := by
  unfold recordFailed
  exact seq_keeps (lax (saveUpdate_keeps hk.1 (.of_fields rfl rfl rfl rfl rfl) (.fails hk.2 rfl)))
    fun _ _ _ => trivial

theorem recordCommitted_keeps {candidate : String} (hk : k.record = some attempt)
    (hstatus : attempt.status = .validating) (hcandidate : attempt.candidateCommit = some candidate)
    (htarget : k.target = some (attempt.target, candidate)) :
    discipline.Keeps anyEnd (sameRecord k) k (recordCommitted attempt false) := by
  unfold recordCommitted
  rw [hcandidate]
  refine ofExcept_seq (fun _ => rfl) fun summary _ => ofExcept_seq (fun _ => rfl) fun committed hcommitted => ?_
  obtain rfl := update_ok hcommitted
  have hsame : SameAttempt attempt { attempt with
      status := .committed, afterCommit := some candidate, summary := some summary } :=
    .of_fields rfl rfl rfl rfl rfl
  have hsave := save_keeps hk hsame (.commits candidate summary hstatus hcandidate htarget rfl)
  refine seq_keeps (Keeps.mono (fun _ _ _ => trivial) (fun t _ ht => ?_) hsave) (Q := anyEnd) fun _ _ _ => trivial
  exact congrArg Knowledge.record (show t = k from ht)

theorem settleCommitted_keeps {candidate : String} (hk : k.snapshot = some attempt)
    (hstatus : attempt.status = .validating) (hcandidate : attempt.candidateCommit = some candidate)
    (htarget : k.target = some (attempt.target, candidate)) :
    discipline.Keeps anyEnd anyError k (recordCommitted attempt true) := by
  unfold recordCommitted
  rw [hcandidate]
  refine ofExcept_seq (fun _ => trivial) fun summary _ =>
    ofExcept_seq (fun _ => trivial) fun committed hcommitted => ?_
  obtain rfl := update_ok hcommitted
  exact seq_keeps (Q := anyEnd) (Keeps.issue ⟨hk, .of_fields rfl rfl rfl rfl rfl,
    .commits candidate summary hstatus hcandidate htarget rfl⟩ (fun _ _ => trivial) fun _ => trivial)
    fun _ _ _ => trivial

theorem deliver_keeps (hk : Holds k attempt) (candidate : String) {checks : List CheckResult}
    (hchecks : anyFailed checks = false)
    (hevidence : attempt.jobId ≠ none → ∃ job, k.job = some job ∧ Proves attempt candidate job) :
    discipline.Keeps anyEnd anyError k (deliver attempt candidate checks) := by
  unfold deliver
  refine seq_keeps (lax (saveUpdate_keeps hk.1 (.of_fields rfl rfl rfl rfl rfl)
    (.validates candidate checks hk.2 hchecks rfl))) fun t validating ht => ?_
  obtain ⟨rfl, rfl⟩ := ht
  have hdelivers : Delivers (k.recorded { attempt with
      status := .validating, candidateCommit := some candidate, checks := some checks })
      { attempt with
        status := .validating, candidateCommit := some candidate, checks := some checks } candidate := by
    refine ⟨rfl, rfl, rfl, fun hjob => ?_⟩
    obtain ⟨job, hk', hproves⟩ := hevidence hjob
    exact ⟨job, hk', hproves.bound, hproves.digest, hproves.head, hproves.steps⟩
  refine seq_keeps (advanceTargetRef_keeps hdelivers) fun t _ ht => ?_
  refine seq_keeps (lax (recordCommitted_keeps (ht.1.trans rfl) rfl rfl ht.2)) fun _ _ _ => trivial

theorem finalizeGateSuccess_keeps (hk : Holds k attempt) (worktree : Worktree) (candidate : String)
    {checks : List CheckResult} (hchecks : anyFailed checks = false)
    (hevidence : attempt.jobId ≠ none → ∃ job, k.job = some job ∧ Proves attempt candidate job) :
    discipline.Keeps anyEnd anyError k (finalizeGateSuccess attempt worktree candidate checks) := by
  unfold finalizeGateSuccess
  refine quiet_seq (assertIntegrationCandidate_quiet _ _) (fun _ => trivial) fun _ => ?_
  exact deliver_keeps hk candidate hchecks hevidence

end Saves

section Jobs

/-- The stored digest of the conditions is that of the checks of the attempt under the gate. -/
def Admitted [CheckHost] (attempt : IntegrationAttempt) (gate : Option Gate) : Prop :=
  ∀ digest, attempt.checkInputDigest = some digest →
    ∃ head runtime, digest = checkSpec attempt head gate runtime

variable {gate : Option Gate}

theorem specification_seq [CheckHost] {β : Type} {S : Knowledge → β → Prop} {f : CheckSpec → Call β}
    (hf : ∀ head runtime, attempt.candidateCommit = some head →
      discipline.Keeps S anyError k (f (checkSpec attempt head gate runtime))) :
    discipline.Keeps S anyError k (checkSpecification attempt gate >>= f) := by
  have hspec : discipline.Keeps (fun t spec => t = k ∧ ∃ head runtime,
      attempt.candidateCommit = some head ∧ spec = checkSpec attempt head gate runtime) anyError k
      (checkSpecification attempt gate) := by
    unfold checkSpecification
    refine quiet_seq (issue_quiet trivial) (fun _ => trivial) fun runtime => ?_
    split
    · trivial
    · next head hhead => exact ⟨rfl, head, runtime, hhead, rfl⟩
  refine seq_keeps hspec fun t spec ht => ?_
  obtain ⟨rfl, head, runtime, hhead, rfl⟩ := ht
  exact hf head runtime hhead

theorem unproven_failed [CheckHost] {job : CheckJob} {path : String}
    (hadmitted : Admitted attempt gate) (hmatches : jobMatches attempt job path = true)
    (hstatus : job.status ≠ .succeeded) : anyFailed (jobChecks attempt job gate) = true := by
  have houtcome : job.outcome ≠ some .succeeded := fun h => hstatus (job.agrees _ h).symm
  cases gate with
  | some gate => exact failClosed_failed _ (by simpa using job.hasStep) houtcome
  | none =>
    obtain ⟨head, runtime, hdigest⟩ := hadmitted _ (jobMatches_iff.1 hmatches).2.2.2.2.2.2
    have hcommands : attempt.checkCommands ≠ [] := by
      intro hnil
      apply job.hasStep
      rw [hdigest]
      simp [checkSpec, checkSteps, explicitChecks, hnil]
    have hresults : attempt.checkCommands.mapIdx (explicitResult job) ≠ [] := by simpa using hcommands
    exact failClosed_failed (fun _ => failClosedJobDetails job) hresults houtcome

theorem importGateEvidence_keeps [CheckHost] (worktree : Worktree) (job : CheckJob) (gate : Option Gate)
    (checks : List CheckResult) : discipline.Keeps (fun t (imported : String ⊕ List CheckResult) => t = k ∧
      ∀ result, imported = .inr result → anyFailed result = false → anyFailed checks = false) anyError k
      (importGateEvidence worktree job gate checks) := by
  unfold importGateEvidence
  split
  · refine Keeps.handle (R := still k) ?_ fun t error ht => ⟨ht, nofun⟩
    refine quiet_seq (assertIntegrationCandidate_quiet _ _) (fun _ => rfl) fun _ => ?_
    refine quiet_seq (issue_quiet trivial) (fun _ => rfl) fun _ => ?_
    refine quiet_seq (issue_quiet trivial) (fun _ => rfl) fun _ => ⟨rfl, fun result h hresult => ?_⟩
    obtain rfl := Sum.inr.inj h
    by_contra hfailed
    rw [if_neg hfailed] at hresult
    exact hfailed hresult
  · exact ⟨rfl, fun result h hresult => Sum.inr.inj h ▸ hresult⟩

theorem resumeCheckJob_keeps [CheckHost] (hk : Holds k attempt) (worktree : Worktree)
    (hadmitted : Admitted attempt gate) :
    discipline.Keeps anyEnd anyError k (resumeCheckJob attempt worktree gate) := by
  unfold resumeCheckJob
  split
  · trivial
  next jobId hjobId =>
  refine seq_keeps (Q := fun t job => t = k.sawJob job) (Keeps.issue trivial (fun _ _ => rfl)
    fun _ => trivial) fun t job ht => ?_
  obtain rfl := ht
  refine require_seq (fun _ => trivial) fun _ => ?_
  refine identity_seq fun hmatches hproved => ?_
  refine quiet_seq (assertIntegrationCandidate_quiet _ _) (fun _ => trivial) fun _ => ?_
  refine seq_keeps (lax (assertTargetReady_keeps _ _)) fun t _ ht => ?_
  obtain rfl := ht
  refine require_seq (fun _ => trivial) fun _ => ?_
  have hholds : Holds ((k.sawJob job).sawTarget attempt.target attempt.beforeCommit) attempt := hk
  split_ifs
  · trivial
  refine quiet_seq (issue_quiet trivial) (fun _ => trivial) fun _ => ?_
  refine seq_keeps (importGateEvidence_keeps worktree job gate _) fun t imported ht => ?_
  obtain ⟨rfl, himported⟩ := ht
  cases imported with
  | inl error => exact fail_keeps hholds.1 error "gate-artifact" fun next => .fails hholds.2
  | inr checks =>
    dsimp only
    split_ifs with hfailed
    · exact recordFailed_keeps hholds checks
    · have hchecks : anyFailed checks = false := by simpa using hfailed
      refine finalizeGateSuccess_keeps hholds worktree _ hchecks fun _ => ⟨job, rfl, ?_⟩
      have hsucceeded : job.status = .succeeded := by
        by_contra hstatus
        have hfalse := himported checks rfl hchecks
        rw [unproven_failed hadmitted hmatches hstatus] at hfalse
        cases hfalse
      exact proves_of (jobMatches_iff.1 hmatches).2.2.2.2.1 (matches_bound hjobId hmatches) hmatches
        (hproved hsucceeded)

theorem admitted_same (gate : Option Gate) (digest : CheckSpec) :
    SameAttempt attempt (admitted gate digest attempt) := by
  cases gate <;> exact .of_fields rfl rfl rfl rfl rfl

theorem admitted_status (gate : Option Gate) (digest : CheckSpec) :
    (admitted gate digest attempt).status = attempt.status := by
  cases gate <;> rfl

theorem admitted_jobId (gate : Option Gate) (digest : CheckSpec) :
    (admitted gate digest attempt).jobId = attempt.jobId := by
  cases gate <;> rfl

theorem admit_keeps (hk : Holds k attempt) (gate : Option Gate) (digest : CheckSpec) :
    discipline.Keeps (fun t next => next = admitted gate digest attempt ∧ Holds t next) anyError k
      (saveUpdate attempt (admitted gate digest)) :=
  lax (progress_keeps hk (admitted_same gate digest) ((admitted_status gate digest).symm ▸ hk.2))

theorem bindCheckJob_keeps [CheckHost] (hk : Holds k attempt) (worktree : Worktree) (gate : Option Gate)
    (head : String) (runtime : Runtime) : discipline.Keeps anyEnd anyError k
      (bindCheckJob attempt worktree gate (checkSpec attempt head gate runtime)) := by
  unfold bindCheckJob
  refine seq_keeps (admit_keeps hk gate _) fun t persisted ht => ?_
  obtain ⟨hpersisted, hholds⟩ := ht
  refine quiet_seq (provided_quiet _ (issue_quiet trivial)) (fun _ => trivial) fun _ => ?_
  refine quiet_seq (issue_quiet trivial) (fun _ => trivial) fun _ => ?_
  refine quiet_seq (issue_quiet trivial) (fun _ => trivial) fun job => ?_
  refine identity_seq fun _ _ => ofExcept_seq (fun _ => trivial) fun bound hbound => ?_
  obtain ⟨-, -, rfl⟩ := checkJob_ok hbound
  have hsame : SameAttempt persisted { persisted with jobId := some job.id } := .of_fields rfl rfl rfl rfl rfl
  refine seq_keeps (lax (save_keeps hholds.1 hsame (.progresses hholds.2 hholds.2))) fun t' _ ht' => ?_
  obtain rfl := ht'
  split_ifs
  · trivial
  · have hbound : Holds (t.recorded { persisted with jobId := some job.id })
        { persisted with jobId := some job.id } := ⟨rfl, hholds.2⟩
    refine resumeCheckJob_keeps hbound worktree fun digest hdigest => ⟨head, runtime, ?_⟩
    subst hpersisted
    cases gate with
    | none => exact (Option.some.inj hdigest).symm
    | some gate => exact (Option.some.inj hdigest).symm

theorem startCheckJob_keeps [CheckHost] (hk : Holds k attempt) (worktree : Worktree) (gate : Option Gate) :
    discipline.Keeps anyEnd anyError k (startCheckJob attempt worktree gate) := by
  unfold startCheckJob
  refine require_seq (fun _ => trivial) fun _ => ?_
  refine quiet_seq (assertIntegrationCandidate_quiet _ _) (fun _ => trivial) fun _ => ?_
  refine seq_keeps (lax (assertTargetReady_keeps _ _)) fun t _ ht => ?_
  obtain rfl := ht
  have hholds : Holds (k.sawTarget attempt.target attempt.beforeCommit) attempt := hk
  refine specification_seq fun head runtime _ => require_seq (fun _ => trivial) fun hdigest => ?_
  split_ifs
  · refine resumeCheckJob_keeps hholds worktree fun digest hstored => ⟨head, runtime, ?_⟩
    obtain hnone | hsome := of_decide_eq_true hdigest
    · rw [hstored] at hnone
      cases hnone
    · exact Option.some.inj (hstored.symm.trans hsome)
  · exact bindCheckJob_keeps hholds worktree gate head runtime

end Jobs

section Checks

theorem reusedChecks_keeps (candidate : String) :
    discipline.Keeps (fun t (reused : Option (List CheckResult)) => t = k ∧
      ∀ checks, reused = some checks → anyFailed checks = false) anyError k (reusedChecks attempt candidate) := by
  unfold reusedChecks
  split_ifs
  · refine quiet_seq (issue_quiet trivial) (fun _ => trivial) fun existing => ?_
    cases existing with
    | none => exact ⟨rfl, (by simp)⟩
    | some artifact =>
      dsimp only
      split_ifs with hreusable
      · refine quiet_seq (issue_quiet trivial) (fun _ => trivial) fun _ => ⟨rfl, fun checks h => ?_⟩
        obtain rfl := Option.some.inj h
        exact reusable_failed hreusable true
      · exact ⟨rfl, (by simp)⟩
  · exact ⟨rfl, (by simp)⟩

theorem gate_passed [CheckHost] {commit : String} {steps : List CheckStep} {outcomes : List StepResult}
    (hsteps : steps ≠ []) (h : (decide (outcomes.length = steps.length) && outcomes.all StepResult.passed) = true) :
    anyFailed (checkResultsFromGateArtifact (recordGateArtifact commit outcomes true) false) = false := by
  simp only [Bool.and_eq_true, decide_eq_true_eq, List.all_eq_true] at h
  refine reusable_failed (recordGateArtifact_reusable commit ?_ h.2) false
  intro hnil
  apply hsteps
  apply List.length_eq_zero_iff.1
  rw [← h.1, hnil]
  rfl

theorem runGateInProcess_keeps [CheckHost] (hk : Holds k attempt) (hjob : attempt.jobId = none) (worktree : Worktree)
    {spec : CheckSpec} (hsteps : spec.steps ≠ []) (candidate : String) :
    discipline.Keeps anyEnd anyError k (runGateInProcess attempt worktree spec candidate) := by
  unfold runGateInProcess
  refine quiet_seq (issue_quiet trivial) (fun _ => trivial) fun _ => ?_
  refine quiet_seq (issue_quiet trivial) (fun _ => trivial) fun outcomes => ?_
  refine quiet_seq (assertIntegrationCandidate_quiet _ _) (fun _ => trivial) fun _ => ?_
  refine quiet_seq (issue_quiet trivial) (fun _ => trivial) fun _ => ?_
  refine quiet_seq (issue_quiet trivial) (fun _ => trivial) fun _ => ?_
  split_ifs with hfailed
  · exact recordFailed_keeps hk _
  · have hsucceeded := eq_true_of_ne_false hfailed
    refine finalizeGateSuccess_keeps hk worktree candidate ?_ fun h => absurd hjob h
    rw [hsucceeded]
    exact gate_passed hsteps hsucceeded

theorem runVerificationGate_keeps [CheckHost] (hk : Holds k attempt) (hjob : attempt.jobId = none)
    (worktree : Worktree) (gate : Gate) :
    discipline.Keeps anyEnd anyError k (runVerificationGate attempt worktree gate) := by
  unfold runVerificationGate
  refine specification_seq fun head runtime _ => ?_
  refine quiet_seq (issue_quiet trivial) (fun _ => trivial) fun _ => ?_
  refine seq_keeps (admit_keeps hk (some gate) _) fun t current ht => ?_
  obtain ⟨rfl, hholds⟩ := ht
  have hcurrent := (admitted_jobId (some gate) (checkSpec attempt head (some gate) runtime)).trans hjob
  refine quiet_seq (issue_quiet trivial) (fun _ => trivial) fun candidate => ?_
  refine seq_keeps (reusedChecks_keeps candidate) fun t' reused ht' => ?_
  obtain ⟨rfl, hreused⟩ := ht'
  cases reused with
  | some checks =>
    exact finalizeGateSuccess_keeps hholds worktree candidate (hreused checks rfl) fun h => absurd hcurrent h
  | none =>
    refine quiet_seq (issue_quiet trivial) (fun _ => trivial) fun port => ?_
    split_ifs
    · exact startCheckJob_keeps hholds worktree (some gate)
    · refine quiet_seq (issue_quiet trivial) (fun _ => trivial) fun _ => ?_
      refine quiet_seq (issue_quiet trivial) (fun _ => trivial) fun _ => ?_
      exact finallyDo_keeps (runGateInProcess_keeps hholds hcurrent worktree
        (checkSteps_gate attempt gate runtime.workspace) candidate) (issue_quiet trivial)

theorem checkInProcess_keeps [CheckHost] (hk : Holds k attempt) (hjob : attempt.jobId = none) (worktree : Worktree) :
    discipline.Keeps anyEnd anyError k (checkInProcess attempt worktree) := by
  unfold checkInProcess
  refine specification_seq fun head runtime _ => ?_
  refine seq_keeps (admit_keeps hk none _) fun t current ht => ?_
  obtain ⟨rfl, hholds⟩ := ht
  refine quiet_seq (issue_quiet trivial) (fun _ => trivial) fun checkedHead => ?_
  refine quiet_seq (runChecks_quiet _) (fun _ => trivial) fun checks => ?_
  refine quiet_seq (assertIntegrationCandidate_quiet _ _) (fun _ => trivial) fun _ => ?_
  split_ifs with hfailed
  · exact recordFailed_keeps hholds checks
  · refine quiet_seq (issue_quiet trivial) (fun _ => trivial) fun candidate => ?_
    exact deliver_keeps hholds candidate (by simpa using hfailed) fun h => absurd hjob h

theorem assertStoredJob_keeps {candidate : String} (hcandidate : attempt.candidateCommit = some candidate)
    (worktree : Worktree) : discipline.Keeps (fun t (_ : Unit) => t.record = k.record ∧ (attempt.jobId ≠ none →
      ∃ job, t.job = some job ∧ Proves attempt candidate job)) anyError k (assertStoredJob attempt worktree) := by
  unfold assertStoredJob
  split
  · next hnone => exact ⟨rfl, fun h => absurd hnone h⟩
  next jobId hjobId =>
  refine seq_keeps (Q := fun t (job : Option CheckJob) => t.record = k.record ∧
    ∀ found, job = some found → t.job = some found) ?_ fun t job ht => ?_
  · refine Keeps.issue trivial (fun job _ => ?_) fun _ => trivial
    cases job with
    | none => exact ⟨rfl, nofun⟩
    | some job => exact ⟨rfl, fun _ h => h ▸ rfl⟩
  cases job with
  | none => trivial
  | some job =>
    refine require_seq (fun _ => trivial) fun hsucceeded => ?_
    refine Keeps.mono (fun t' _ ht' => ?_) (fun _ _ _ => trivial) (assertCheckJobIdentity_keeps worktree.path)
    obtain ⟨rfl, hmatches, hproved⟩ := ht'
    exact ⟨ht.1, fun _ => ⟨job, ht.2 job rfl, proves_of hcandidate (matches_bound hjobId hmatches) hmatches
      (hproved (of_decide_eq_true hsucceeded))⟩⟩

end Checks

end GitIntegration
