import Mathlib.Data.List.Forall2
import Yui.IntegrationKnowledge

/-!
# The parts that only look

The checks and the reads of a call. They store nothing, move no target and read no record, so what a call
knows stays as it was; only the target may have been read again.
-/

open Program Protocol

namespace GitIntegration

section Quiet

variable {α β : Type}

theorem issue_quiet {c : Command} (hc : c.Quiet) :
    (issue c : Call c.Answer).Issues Command.Quiet := .issue hc

theorem then_quiet {p : Call α} {f : α → Call β} (hp : p.Issues Command.Quiet)
    (hf : ∀ value, (f value).Issues Command.Quiet) : (p >>= f).Issues Command.Quiet := .bind hp hf

theorem require_quiet (condition : Bool) (message : String) : (require condition message).Issues Command.Quiet := by
  unfold require
  split_ifs <;> trivial

theorem provided_quiet (condition : Prop) [Decidable condition] {p : Call Unit}
    (hp : p.Issues Command.Quiet) : (provided condition p).Issues Command.Quiet := by
  unfold provided
  split_ifs
  · exact hp
  · trivial

theorem succeeds_quiet {p : Call Bool} (hp : p.Issues Command.Quiet) :
    (succeeds p).Issues Command.Quiet := .handle hp fun _ => trivial

theorem assertClean_quiet : assertClean.Issues Command.Quiet := by
  unfold assertClean
  refine then_quiet (issue_quiet trivial) fun _ => ?_
  exact then_quiet (issue_quiet trivial) fun _ => require_quiet _ _

theorem assertIntegrationCandidate_quiet (head branch : Option String) :
    (assertIntegrationCandidate head branch).Issues Command.Quiet := by
  unfold assertIntegrationCandidate
  refine then_quiet assertClean_quiet fun _ => ?_
  refine then_quiet (issue_quiet trivial) fun _ => then_quiet (require_quiet _ _) fun _ => ?_
  cases branch with
  | none => trivial
  | some branch => exact then_quiet (issue_quiet trivial) fun _ => require_quiet _ _

theorem assertOperation_quiet (app : Application) (commit before : String) :
    (assertOperation app commit before).Issues Command.Quiet := by
  unfold assertOperation
  refine then_quiet (issue_quiet trivial) fun _ => then_quiet (require_quiet _ _) fun _ => ?_
  exact then_quiet (issue_quiet trivial) fun _ => require_quiet _ _

theorem hasExactRefReceipt_quiet (branch before action : String) :
    (hasExactRefReceipt branch before action).Issues Command.Quiet := by
  unfold hasExactRefReceipt
  refine then_quiet (issue_quiet trivial) fun current => ?_
  split_ifs
  · trivial
  · refine then_quiet (issue_quiet trivial) fun _ => ?_
    exact then_quiet (issue_quiet trivial) fun _ => trivial

theorem provenEmpty_quiet (app : Application) (progress : SourceProgress) :
    (provenEmpty app progress).Issues Command.Quiet := by
  unfold provenEmpty
  split_ifs
  · trivial
  · refine then_quiet (issue_quiet trivial) fun head => ?_
    split_ifs
    · trivial
    · exact then_quiet (issue_quiet trivial) fun _ => trivial

theorem assertUpstream_quiet (source : Source) (commit : String) :
    (assertUpstream source commit).Issues Command.Quiet := by
  unfold assertUpstream
  split
  · exact then_quiet (issue_quiet trivial) fun _ => require_quiet _ _
  · trivial

theorem assertOwnedResolution_quiet (app : Application) : (assertOwnedResolution app).Issues Command.Quiet := by
  unfold assertOwnedResolution
  refine then_quiet (require_quiet _ _) fun _ => ?_
  refine then_quiet (succeeds_quiet (issue_quiet trivial)) fun _ => ?_
  refine then_quiet (succeeds_quiet (issue_quiet trivial)) fun _ => ?_
  exact then_quiet (issue_quiet trivial) fun _ => require_quiet _ _

theorem sourceCommits_quiet (source : Source) : (sourceCommits source).Issues Command.Quiet := by
  unfold sourceCommits
  split
  · exact issue_quiet trivial
  · trivial
  · trivial

theorem checkSpecification_quiet [CheckHost] (attempt : IntegrationAttempt) (gate : Option Gate) :
    (checkSpecification attempt gate).Issues Command.Quiet := by
  unfold checkSpecification
  refine then_quiet (issue_quiet trivial) fun _ => ?_
  split <;> trivial

theorem assertCheckJobIdentity_quiet (attempt : IntegrationAttempt) (job : CheckJob) (path : String) :
    (assertCheckJobIdentity attempt job path).Issues Command.Quiet := by
  unfold assertCheckJobIdentity
  refine then_quiet (require_quiet _ _) fun _ => ?_
  split_ifs
  · exact require_quiet _ _
  · trivial

theorem assertRecordedSourceCandidate_quiet (attempt : IntegrationAttempt) (worktree : Worktree) :
    (assertRecordedSourceCandidate attempt worktree).Issues Command.Quiet := by
  unfold assertRecordedSourceCandidate
  split_ifs
  · trivial
  · split
    · trivial
    · exact require_quiet _ _

theorem runChecks_quiet (attempt : IntegrationAttempt) : (runChecks attempt).Issues Command.Quiet := by
  unfold runChecks
  split_ifs
  · trivial
  · refine then_quiet (issue_quiet trivial) fun _ => ?_
    unfold finallyDo
    refine then_quiet (.handle ?_ fun _ => then_quiet (issue_quiet trivial) fun _ => trivial)
      fun _ => then_quiet (issue_quiet trivial) fun _ => trivial
    exact then_quiet (issue_quiet trivial) fun _ => issue_quiet trivial

theorem cancelJobs_quiet (jobs : List CheckJob) : (cancelJobs jobs).Issues Command.Quiet := by
  induction jobs with
  | nil => trivial
  | cons job jobs ih =>
    unfold cancelJobs
    refine then_quiet (issue_quiet trivial) fun port => ?_
    exact then_quiet (provided_quiet _ (issue_quiet trivial)) fun _ => ih

end Quiet

section Evidence

variable {k : Knowledge} {β : Type} {S : Knowledge → β → Prop}
  {attempt : IntegrationAttempt} {job : CheckJob}

theorem assertCheckJobIdentity_keeps (path : String) :
    discipline.Keeps (fun t (_ : Unit) => t = k ∧ jobMatches attempt job path = true ∧
      (job.status = .succeeded → jobProved job = true)) anyError k (assertCheckJobIdentity attempt job path) := by
  unfold assertCheckJobIdentity
  refine require_seq (fun _ => trivial) fun hmatches => ?_
  unfold require
  split_ifs with hsucceeded hproved
  · exact ⟨rfl, hmatches, fun _ => hproved⟩
  · trivial
  · exact ⟨rfl, hmatches, fun h => absurd h hsucceeded⟩

theorem identity_seq {path : String} {f : Unit → Call β}
    (hf : jobMatches attempt job path = true → (job.status = .succeeded → jobProved job = true) →
      discipline.Keeps S anyError k (f ())) :
    discipline.Keeps S anyError k (assertCheckJobIdentity attempt job path >>= f) := by
  refine seq_keeps (assertCheckJobIdentity_keeps path) fun t _ ht => ?_
  obtain ⟨rfl, hmatches, hproved⟩ := ht
  exact hf hmatches hproved

theorem stepProved_iff {head : String} {step : CheckStep} {result : StepResult} :
    stepProved head step result = true ↔ result.name = step.name ∧ result.head = head ∧
      result.exitCode = some 0 ∧ result.signal = none ∧ result.timedOut = false := by
  unfold stepProved StepResult.passed
  simp only [Bool.and_eq_true, decide_eq_true_eq, Bool.not_eq_true', Option.isNone_iff_eq_none]
  tauto

theorem forall₂_of_zip {R : CheckStep → StepResult → Prop} {steps : List CheckStep}
    {results : List StepResult} (hlength : results.length = steps.length)
    (h : ∀ pair ∈ steps.zip results, R pair.1 pair.2) : List.Forall₂ R steps results :=
  List.forall₂_iff_zip.2 ⟨hlength.symm, fun hmem => h _ hmem⟩

theorem jobMatches_iff {path : String} : jobMatches attempt job path = true ↔
    job.taskId = attempt.taskId ∧ job.spec.integrationId = attempt.id ∧
      job.spec.projectId = attempt.projectId ∧ job.spec.workspace = path ∧
        attempt.candidateCommit = some job.spec.head ∧ (attempt.jobId = none ∨ attempt.jobId = some job.id) ∧
            attempt.checkInputDigest = some job.spec := by
  unfold jobMatches
  rw [decide_eq_true_eq]

theorem matches_bound {path jobId : String} (hbound : attempt.jobId = some jobId)
    (h : jobMatches attempt job path = true) : attempt.jobId = some job.id := by
  obtain hnone | hsome := (jobMatches_iff.1 h).2.2.2.2.2.1
  · rw [hbound] at hnone
    cases hnone
  · exact hsome

theorem proves_of {candidate path : String} (hcandidate : attempt.candidateCommit = some candidate)
    (hbound : attempt.jobId = some job.id) (hmatches : jobMatches attempt job path = true)
    (hproved : jobProved job = true) : Proves attempt candidate job := by
  have hparts := jobMatches_iff.1 hmatches
  have hhead : job.spec.head = candidate := Option.some.inj (hparts.2.2.2.2.1.symm.trans hcandidate)
  refine ⟨hbound, hparts.2.2.2.2.2.2, hhead, ?_⟩
  unfold jobProved at hproved
  split at hproved
  · cases hproved
  · next result hresult =>
      simp only [Bool.and_eq_true, decide_eq_true_eq, List.all_eq_true] at hproved
      obtain ⟨⟨houtcome, hlength⟩, hsteps⟩ := hproved
      refine ⟨result.steps, result.unknownReason, ?_, ?_⟩
      · rw [hresult, ← houtcome]
      · refine forall₂_of_zip hlength fun pair hpair => ?_
        rw [← hhead]
        exact stepProved_iff.1 (hsteps pair hpair)

end Evidence

section Targets

variable {k : Knowledge}

theorem assertTargetReady_keeps (target : Target) (expected : String) :
    discipline.Keeps (fun t (_ : Unit) => t = k.sawTarget target expected) (sameRecord k) k
      (assertTargetReadyForChecks target expected) := by
  unfold assertTargetReadyForChecks
  refine seq_keeps (Q := fun t value => t = k.sawTarget target value)
    (Keeps.issue trivial (fun _ _ => rfl) fun _ => rfl) fun t current ht => ?_
  obtain rfl := ht
  refine require_seq (fun _ => rfl) fun hcurrent => ?_
  obtain rfl := of_decide_eq_true hcurrent
  refine quiet_seq (issue_quiet trivial) (fun _ => rfl) fun _ => ?_
  refine Keeps.mono (fun _ _ ht => ht) (fun t _ ht => ?_) (quiet_keeps (issue_quiet trivial))
  rw [sameRecord, show t = _ from ht]
  rfl

theorem updateRef_keeps {attempt : IntegrationAttempt} {candidate : String} (hk : Delivers k attempt candidate) :
    discipline.Keeps (fun t (_ : Unit) => t = k.moved attempt.target candidate) anyError k
      (issue (Command.updateRef attempt.id attempt.target candidate attempt.beforeCommit)) :=
  Keeps.issue ⟨attempt, hk, rfl, rfl, rfl⟩ (fun _ _ => rfl) fun _ => trivial

theorem advanceTargetRef_keeps {attempt : IntegrationAttempt} {candidate : String}
    (hk : Delivers k attempt candidate) :
    discipline.Keeps (fun t (_ : Unit) => t.record = k.record ∧ t.target = some (attempt.target, candidate))
      anyError k (advanceTargetRef attempt.id attempt.target candidate attempt.beforeCommit) := by
  unfold advanceTargetRef
  refine quiet_seq (issue_quiet trivial) (fun _ => trivial) fun checkedOut => ?_
  split_ifs
  · refine Keeps.mono (fun t _ ht => ?_) (fun _ _ _ => trivial) (updateRef_keeps hk)
    subst ht
    exact ⟨rfl, rfl⟩
  refine quiet_seq (issue_quiet trivial) (fun _ => trivial) fun _ => ?_
  refine quiet_seq (issue_quiet trivial) (fun _ => trivial) fun _ => ?_
  refine require_seq (fun _ => trivial) fun _ => ?_
  refine quiet_seq (issue_quiet trivial) (fun _ => trivial) fun _ => ?_
  refine seq_keeps (updateRef_keeps hk) fun t _ ht => ?_
  obtain rfl := ht
  refine quiet_seq (issue_quiet trivial) (fun _ => trivial) fun _ => ?_
  refine quiet_seq (issue_quiet trivial) (fun _ => trivial) fun _ => ?_
  refine seq_keeps (Q := fun t value => t = (k.moved attempt.target candidate).sawTarget attempt.target value)
    (Keeps.issue trivial (fun _ _ => rfl) fun _ => trivial) fun t advanced ht => ?_
  obtain rfl := ht
  refine require_seq (fun _ => trivial) fun hadvanced => ?_
  obtain rfl := of_decide_eq_true hadvanced
  refine Keeps.mono (fun t _ ht => ?_) (fun _ _ _ => trivial) (quiet_keeps (issue_quiet trivial))
  rw [show t = _ from ht]
  exact ⟨rfl, rfl⟩

end Targets

end GitIntegration
