import Yui.IntegrationKeeps

/-!
# `integrate` and `abort` keep to the discipline
-/

open Program Protocol

namespace GitIntegration

variable {k : Knowledge} {attempt : IntegrationAttempt}

section Recovery

theorem assertValidatingEvidence_keeps [CheckHost] {candidate : String}
    (hcandidate : attempt.candidateCommit = some candidate) (worktree : Worktree) :
    discipline.Keeps (fun t (_ : Unit) => t.record = k.record ∧ (attempt.jobId ≠ none →
      ∃ job, t.job = some job ∧ Proves attempt candidate job)) anyError k
      (assertValidatingEvidence attempt worktree candidate) := by
  unfold assertValidatingEvidence
  refine quiet_seq (assertIntegrationCandidate_quiet _ _) (fun _ => trivial) fun _ => ?_
  refine quiet_seq (assertRecordedSourceCandidate_quiet _ _) (fun _ => trivial) fun _ => ?_
  refine quiet_seq (issue_quiet trivial) (fun _ => trivial) fun gate => ?_
  refine quiet_seq (checkSpecification_quiet _ _) (fun _ => trivial) fun spec => ?_
  refine require_seq (fun _ => trivial) fun _ => ?_
  exact assertStoredJob_keeps hcandidate worktree

theorem advanceValidating_keeps [CheckHost] {candidate : String} (hk : k.record = some attempt)
    (hstatus : attempt.status = .validating) (hcandidate : attempt.candidateCommit = some candidate)
    (worktree : Worktree) (target : String) :
    discipline.Keeps (fun t (_ : Unit) => t.record = some attempt) anyError k
      (advanceValidating attempt worktree candidate target) := by
  unfold advanceValidating
  refine require_seq (fun _ => trivial) fun _ => ?_
  refine seq_keeps (assertValidatingEvidence_keeps hcandidate worktree) fun t _ ht => ?_
  have hrecord := ht.1.trans hk
  exact Keeps.mono (fun t' _ ht' => ht'.1.trans hrecord) (fun _ _ _ => trivial)
    (advanceTargetRef_keeps ⟨hrecord, hstatus, hcandidate, ht.2⟩)

theorem recoverValidating_keeps [CheckHost] (hk : k.record = some attempt) (hstatus : attempt.status = .validating)
    (worktree : Worktree) : discipline.Keeps anyEnd anyError k (recoverValidating attempt worktree) := by
  have hfail : attempt.candidateCommit = none ∨ attempt.checks = none →
      discipline.Keeps anyEnd anyError k (fail attempt
        "Validating Integration is missing its candidate commit or checks." "integration-recovery") :=
    fun hmissing => fail_keeps hk _ _ fun next => .incomplete hstatus hmissing
  unfold recoverValidating
  cases hcandidate : attempt.candidateCommit with
  | none => exact hfail (.inl hcandidate)
  | some candidate =>
    cases hchecks : attempt.checks with
    | none => exact hfail (.inr hchecks)
    | some checks =>
      dsimp only
      refine seq_keeps (Q := fun t value => t = k.sawTarget attempt.target value)
        (Keeps.issue trivial (fun _ _ => rfl) fun _ => trivial) fun t target ht => ?_
      have hrecord : t.record = some attempt := ht ▸ hk
      refine seq_keeps (Q := fun t (_ : Unit) => t.record = some attempt) ?_ fun t' _ ht' => ?_
      · unfold provided
        split_ifs
        · exact advanceValidating_keeps hrecord hstatus hcandidate worktree target
        · exact hrecord
      · refine seq_keeps (lax (assertTargetReady_keeps _ _)) fun t'' _ ht'' => ?_
        subst ht''
        have hcommitted := recordCommitted_keeps (k := t'.sawTarget attempt.target candidate) ht'
          hstatus hcandidate rfl
        exact seq_keeps (lax hcommitted) fun _ _ _ => trivial

end Recovery

section Integrate

theorem integrateSource_keeps [CheckHost] (hk : Holds k attempt) (worktree : Worktree) (gate : Option Gate)
    (continuing : Bool) : discipline.Keeps anyEnd anyError k (integrateSource attempt worktree gate continuing) := by
  unfold integrateSource
  refine seq_keeps (applyIntegrationSource_keeps hk worktree continuing) fun t current hcurrent => ?_
  split_ifs with hconflicted hblocked hadmitted
  · trivial
  · trivial
  · refine quiet_seq (assertIntegrationCandidate_quiet _ _) (fun _ => trivial) fun _ => ?_
    refine quiet_seq (issue_quiet trivial) (fun _ => trivial) fun port => ?_
    exact require_seq (fun _ => trivial) fun _ => startCheckJob_keeps hcurrent worktree gate
  · have hjob : current.jobId = none := by
      by_contra hsome
      exact hadmitted (.inl (Option.isSome_iff_ne_none.2 hsome))
    refine quiet_seq (assertIntegrationCandidate_quiet _ _) (fun _ => trivial) fun _ => ?_
    refine seq_keeps (lax (assertTargetReady_keeps _ _)) fun t' _ ht' => ?_
    have hholds : Holds t' current := ht' ▸ hcurrent
    cases gate with
    | some gate => exact runVerificationGate_keeps hholds hjob worktree gate
    | none =>
      refine quiet_seq (issue_quiet trivial) (fun _ => trivial) fun port => ?_
      split_ifs
      · exact startCheckJob_keeps hholds worktree none
      · exact checkInProcess_keeps hholds hjob worktree

theorem settleDelivered_keeps (hk : k.record = some attempt) (worktree : Worktree) :
    discipline.Keeps (fun t (delivered : Option IntegrationResult) =>
      delivered = none → t.record = some attempt) anyError k (settleDelivered attempt worktree) := by
  unfold settleDelivered
  split
  · next candidate hstatus hcandidate =>
    refine seq_keeps (Q := fun t value => t = k.sawTarget attempt.target value)
      (Keeps.issue trivial (fun _ _ => rfl) fun _ => trivial) fun t target ht => ?_
    have hrecord : t.record = some attempt := ht ▸ hk
    split_ifs
    · refine Keeps.handle (R := fun t _ => t.record = some attempt) ?_ fun t error ht _ => ht
      refine quiet_seq (assertIntegrationCandidate_quiet _ _) (fun _ => hrecord) fun _ => ?_
      refine seq_keeps (Keeps.mono (fun _ _ h => h) (fun t' _ ht' => ht'.trans hrecord)
        (assertTargetReady_keeps attempt.target candidate)) fun t' _ ht' => ?_
      subst ht'
      have hcommitted := recordCommitted_keeps (k := t.sawTarget attempt.target candidate) hrecord hstatus
        hcandidate rfl
      refine seq_keeps (Keeps.mono (fun _ _ h => h) (fun t' _ ht' => ht'.trans hrecord) hcommitted) fun _ _ _ => ?_
      exact nofun
    · exact fun _ => hrecord
  · exact fun _ => hk

theorem settleFailure_keeps (id : String) (worktree : Worktree) (error : String) :
    discipline.Keeps anyEnd anyError k (settleFailure id worktree error) := by
  unfold settleFailure
  refine seq_keeps (Q := fun t current => t = k.recorded current)
    (Keeps.issue trivial (fun _ _ => rfl) fun _ => trivial) fun t current ht => ?_
  subst ht
  refine seq_keeps (settleDelivered_keeps (k := k.recorded current) rfl worktree) fun t' delivered ht' => ?_
  cases delivered with
  | some result => trivial
  | none =>
    refine seq_keeps (lax (saveUpdate_keeps (ht' rfl) (.of_fields rfl rfl rfl rfl rfl)
      (.diagnoses error rfl))) fun _ diagnosed _ => ?_
    split_ifs <;> trivial

theorem prepareWorktree_keeps {id : String} (hk : k.record = some attempt) (hid : attempt.id = id) :
    discipline.Keeps (fun t (prepared : String ⊕ Worktree) => t.record = some attempt ∧
      ∀ error, prepared = .inl error → t.unprepared = true) anyError k (prepareWorktree id) := by
  unfold prepareWorktree
  refine Keeps.handle (R := fun t _ => t.record = some attempt ∧ t.unprepared = true) ?_
    fun t error ht => ⟨ht.1, fun _ _ => ht.2⟩
  refine seq_keeps (Q := still k) (Keeps.issue ⟨attempt, hk, hid⟩ (fun _ _ => rfl) fun _ => ⟨hk, rfl⟩)
    fun t worktree ht => ?_
  obtain rfl : t = k := ht
  refine seq_keeps (Q := still t) (Keeps.issue ⟨attempt, hk, hid⟩ (fun _ _ => rfl) fun _ => ⟨hk, rfl⟩)
    fun t' _ ht' => ?_
  obtain rfl : t' = t := ht'
  exact ⟨hk, nofun⟩

theorem unfinished_of_resumable {status : AttemptStatus} (h : status.resumable = true)
    (hvalidating : status ≠ .validating) : status.unfinished = true := by
  cases status with
  | validating => exact absurd rfl hvalidating
  | _ => exact h

theorem integrateFenced_keeps [CheckHost] (id projectId : String) (continuing : Bool) :
    discipline.Keeps anyEnd anyError k (integrateFenced id projectId continuing) := by
  unfold integrateFenced
  refine seq_keeps (Q := fun t current => t = k.recorded current ∧ current.id = id)
    (Keeps.issue trivial (fun _ h => ⟨rfl, h⟩) fun _ => trivial) fun t initial ht => ?_
  obtain ⟨rfl, hid⟩ := ht
  refine require_seq (fun _ => trivial) fun hrequired => ?_
  simp only [Bool.and_eq_true] at hrequired
  refine quiet_seq (issue_quiet trivial) (fun _ => trivial) fun _ => ?_
  refine quiet_seq (issue_quiet trivial) (fun _ => trivial) fun _ => ?_
  refine seq_keeps (prepareWorktree_keeps (k := k.recorded initial) rfl hid) fun t prepared ht => ?_
  cases prepared with
  | inl error =>
    exact fail_keeps ht.1 error _ fun next => .unprepared (ht.2 error rfl) hrequired.2
  | inr worktree =>
    dsimp only
    split_ifs with hvalidating
    · exact recoverValidating_keeps ht.1 hvalidating worktree
    · refine quiet_seq (issue_quiet trivial) (fun _ => trivial) fun gate => ?_
      have hholds : Holds t initial := ⟨ht.1, unfinished_of_resumable hrequired.2 hvalidating⟩
      exact Keeps.handle (integrateSource_keeps hholds worktree gate continuing)
        fun t error _ => settleFailure_keeps id worktree error

theorem integrate_keeps [CheckHost] (id : String) (continuing : Bool) :
    discipline.Keeps anyEnd anyError k (integrate id continuing) := by
  unfold integrate
  refine quiet_seq (issue_quiet trivial) (fun _ => trivial) fun initial => ?_
  refine quiet_seq (issue_quiet trivial) (fun _ => trivial) fun _ => ?_
  refine require_seq (fun _ => trivial) fun _ => ?_
  refine seq_keeps (Q := anyEnd) (Keeps.issue trivial (fun _ _ => trivial) fun _ => trivial) fun t _ _ => ?_
  exact release_keeps (integrateFenced_keeps id _ continuing)

end Integrate

section Abort

theorem settleValidating_keeps (hk : k.snapshot = some attempt) (hstatus : attempt.status = .validating)
    (jobs : List CheckJob) : discipline.Keeps (fun t (delivered : Option IntegrationAttempt) => delivered = none →
      t.snapshot = some attempt ∧ t.target = some (attempt.target, attempt.beforeCommit)) anyError k
      (settleValidating attempt jobs) := by
  unfold settleValidating
  split
  · next candidate checks hcandidate hchecks =>
    refine quiet_seq (issue_quiet trivial) (fun _ => trivial) fun worktree => ?_
    refine require_seq (fun _ => trivial) fun _ => ?_
    refine quiet_seq ?_ (fun _ => trivial) fun _ => ?_
    · unfold assertBoundJob
      split
      · trivial
      · exact assertCheckJobIdentity_quiet _ _ _
    refine seq_keeps (Q := fun t value => t = k.sawTarget attempt.target value)
      (Keeps.issue trivial (fun _ _ => rfl) fun _ => trivial) fun t target ht => ?_
    subst ht
    split_ifs with hdelivered
    · refine require_seq (fun _ => trivial) fun _ => ?_
      refine quiet_seq (assertIntegrationCandidate_quiet _ _) (fun _ => trivial) fun _ => ?_
      refine quiet_seq (assertRecordedSourceCandidate_quiet _ _) (fun _ => trivial) fun _ => ?_
      refine seq_keeps (lax (assertTargetReady_keeps _ _)) fun t' _ ht' => ?_
      subst ht'
      have hcommitted := settleCommitted_keeps
        (k := (k.sawTarget attempt.target target).sawTarget attempt.target target) hk hstatus hcandidate
        (by rw [hdelivered.1]; rfl)
      exact seq_keeps hcommitted fun _ _ _ h => by cases h
    · refine require_seq (fun _ => trivial) fun hbefore => fun _ => ⟨hk, ?_⟩
      rw [← of_decide_eq_true hbefore]
      rfl
  · trivial

theorem abortFenced_keeps (id projectId reason : String) :
    discipline.Keeps anyEnd anyError k (abortFenced id projectId reason) := by
  unfold abortFenced
  refine seq_keeps (Q := fun t current => t = k.inspected current)
    (Keeps.issue trivial (fun _ _ => rfl) fun _ => trivial) fun t attempt ht => ?_
  subst ht
  refine quiet_seq (issue_quiet trivial) (fun _ => trivial) fun _ => ?_
  refine require_seq (fun _ => trivial) fun _ => require_seq (fun _ => trivial) fun hresumable => ?_
  refine require_seq (fun _ => trivial) fun _ => ?_
  refine quiet_seq (issue_quiet trivial) (fun _ => trivial) fun jobs => ?_
  refine require_seq (fun _ => trivial) fun _ => require_seq (fun _ => trivial) fun _ => ?_
  -- What the last save needs of the knowledge.
  refine seq_keeps (Q := fun t (delivered : Option IntegrationAttempt) => delivered = none →
    t.snapshot = some attempt ∧ ∀ next : IntegrationAttempt, next.status = .failed →
      Follows { t with unprepared := false } attempt next) ?_ fun t delivered ht => ?_
  · split_ifs with hvalidating
    · refine Keeps.mono (fun t delivered ht hnone => ?_) (fun _ _ _ => trivial)
        (settleValidating_keeps (k := k.inspected attempt) rfl hvalidating jobs)
      exact ⟨(ht hnone).1, fun next => .unadvanced hvalidating (ht hnone).2⟩
    · exact fun _ => ⟨rfl, fun next => .fails (unfinished_of_resumable hresumable hvalidating)⟩
  cases delivered with
  | some committed => trivial
  | none =>
    obtain ⟨hrecord, hfollows⟩ := ht rfl
    refine quiet_seq (cancelJobs_quiet jobs) (fun _ => trivial) fun _ => ?_
    refine ofExcept_seq (fun _ => trivial) fun aborted haborted => ?_
    obtain rfl := update_ok haborted
    exact seq_keeps (Q := anyEnd) (Keeps.issue
      ⟨hrecord, .of_fields rfl rfl rfl rfl rfl, hfollows _ rfl⟩ (fun _ _ => trivial) fun _ => trivial)
      fun _ _ _ => trivial

theorem abort_keeps (id reason : String) : discipline.Keeps anyEnd anyError k (abort id reason) := by
  unfold abort
  refine quiet_seq (issue_quiet trivial) (fun _ => trivial) fun initial => ?_
  refine seq_keeps (Q := anyEnd) (Keeps.issue trivial (fun _ _ => trivial) fun _ => trivial) fun t _ _ => ?_
  exact release_keeps (abortFenced_keeps id _ reason)

end Abort

end GitIntegration
