import Yui.ProviderRetryBudget

/-!
# Runs of the retry operations

Every operation keeps the books of the ledger, so a whole run does. The number of automatic submissions
of a chain, their instants and the error class they are allowed under follow from the books.
-/

open JsText Checked FallibleRun

namespace Binding

theorem refundOf_cases (binding : ProviderRuntimeBinding) (input : FailureInput) :
    refundOf binding input = [] ∨ ∃ chainId, refundOf binding input = [.undone chainId] := by
  unfold refundOf
  split
  · exact .inl rfl
  · split
    · exact .inl rfl
    · split_ifs
      · exact .inr ⟨_, rfl⟩
      · exact .inl rfl

theorem deferralOf_cases (binding : ProviderRuntimeBinding) :
    deferralOf binding = [] ∨ ∃ chainId, deferralOf binding = [.undone chainId] := by
  unfold deferralOf
  split
  · split_ifs
    · exact .inr ⟨_, rfl⟩
    · exact .inl rfl
  · exact .inl rfl

theorem limit_le (error : StandardAgentError) : (providerErrorRetryPolicy error).limit ≤ retryLimit := by
  unfold providerErrorRetryPolicy
  split_ifs <;> simp [retryLimit]

theorem limit_of_source (error : StandardAgentError) : ((providerErrorRetryPolicy error).source = .unknownFallback →
      (providerErrorRetryPolicy error).limit = 1) ∧ ((providerErrorRetryPolicy error).source = .knownNonRetryable →
      (providerErrorRetryPolicy error).limit = 0) := by
  unfold providerErrorRetryPolicy
  split_ifs <;> simp

theorem archived_new {binding : ProviderRuntimeBinding} {next : ProviderRetry} (h : next.chainId ∉ chainIds binding) :
    archived binding next = binding.retryHistory ++ binding.retry.toList := by
  unfold archived
  cases hretry : binding.retry with
  | none => rfl
  | some previous =>
    have hchain : previous.chainId ≠ next.chainId := by
      intro hchain
      apply h
      rw [← hchain]
      exact List.mem_map_of_mem (mem_records_of_retry hretry)
    rw [Option.filter_some, if_pos (decide_eq_true hchain)]

section

variable [RuntimeHost] {ledger : Ledger} {result : ProviderRuntimeBinding}

variable {retry : ProviderRetry}

theorem Balanced.fresh_id (h : Balanced ledger) (hretry : ledger.binding.retry = some retry) :
    providerRetryAttemptId retry ∉ submittedIds ledger.log := by
  intro hmem
  obtain ⟨event, hevent, hattempt⟩ := List.mem_filterMap.1 hmem
  cases event with
  | undone chainId => cases hattempt
  | submitted before attemptId time =>
    injection hattempt with hattempt
    obtain ⟨hid, record, hrecord, hsame, hless⟩ := h.sequenced before attemptId time hevent
    obtain ⟨hchain, hsequence⟩ := attemptId_injective (hid.symm.trans hattempt)
    -- both are the one record of the chain
    have hrecordIs : record = retry := by
      apply List.inj_on_of_nodup_map h.nodup hrecord (mem_records_of_retry hretry)
      rw [hsame.chainId, hchain]
    rw [hrecordIs] at hless
    omega

/-- An automatic submission within the budget of its chain. -/
structure Granted (before : List RetryEvent) (retry : ProviderRetry) (time : ℤ) : Prop where
  eligible : timeValue retry.nextEligibleAt ≤ time
  early : time < timeValue retry.deadline
  window : windowDiffers retry = false
  afforded : spent before retry.chainId < (providerErrorRetryPolicy retry.error).limit
  counted : 0 ≤ spent before retry.chainId

/-- Every automatic submission of the log was granted when it was made. -/
def AllGranted (log : List RetryEvent) : Prop :=
  ∀ before retry attemptId time after, log = before ++ RetryEvent.submitted retry attemptId time :: after →
    isAutomatic retry = true → Granted before retry time

theorem AllGranted.append {log : List RetryEvent} (h : AllGranted log) {event : RetryEvent}
    (hevent : ∀ retry attemptId time, event = .submitted retry attemptId time →
      isAutomatic retry = true → Granted log retry time) : AllGranted (log ++ [event]) := by
  intro before retry attemptId time after hsplit hautomatic
  cases List.eq_nil_or_concat after with
  | inl hnil =>
    subst hnil
    obtain ⟨hlog, hlast⟩ := List.append_inj' hsplit rfl
    subst hlog
    exact hevent retry attemptId time (List.cons.inj hlast).1 hautomatic
  | inr hconcat =>
    obtain ⟨front, last, rfl⟩ := hconcat
    rw [List.concat_eq_append, ← List.cons_append, ← List.append_assoc] at hsplit
    exact h before retry attemptId time front (List.append_inj' hsplit rfl).1 hautomatic

theorem AllGranted.undone {log events : List RetryEvent} (h : AllGranted log)
    (hevents : events = [] ∨ ∃ chainId, events = [.undone chainId]) : AllGranted (log ++ events) := by
  rcases hevents with rfl | ⟨chainId, rfl⟩
  · rw [List.append_nil]
    exact h
  · apply h.append
    intro retry attemptId time hevent
    cases hevent

/-- What the admission of a waiting chain was checked for. -/
structure Admits (binding : ProviderRuntimeBinding) (retry : ProviderRetry) (time : ℤ) : Prop where
  waiting : retry.status = .waiting
  eligible : timeValue retry.nextEligibleAt ≤ time
  budget : ¬ OutOfBudget binding retry time
  chain : MatchesChain binding retry

variable {time : ℤ} {binding : ProviderRuntimeBinding}

theorem admit_ok {attemptId : String} (hretry : binding.retry = some retry)
    (hcurrent : retry.currentAttemptId ≠ some attemptId)
    (h : admitProviderRetry binding attemptId time = .ok result) : Admits binding retry time ∧
      ∃ updatedAt, result = { binding with
        retry := some (submittedRetry retry attemptId updatedAt) } := by
  unfold admitProviderRetry at h
  rw [hretry] at h
  simp only at h
  rw [if_neg fun hboth => hcurrent hboth.2] at h
  split_ifs at h with hrefused
  obtain ⟨updatedAt, _, hok⟩ := bind_ok h
  injection hok with hok
  rw [not_or, not_or, not_or, not_not, not_not, not_lt] at hrefused
  exact ⟨⟨hrefused.1, hrefused.2.1, hrefused.2.2.1, hrefused.2.2.2⟩, updatedAt, hok.symm⟩

theorem submission_begun {admitted : ProviderRuntimeBinding}
    {input : BeginInput} (h : Accounted ledger) (hretry : ledger.binding.retry = some retry)
    (hadmission : admitProviderRetry ledger.binding (providerRetryAttemptId retry) time = .ok admitted)
    (hbegin : beginProviderTurn admitted { input with attemptId := providerRetryAttemptId retry } =
      .ok result) : Admits ledger.binding retry time ∧
      ∃ updatedAt turn, turn.attemptId = providerRetryAttemptId retry ∧
        (JsHost.dateParse turn.submittedAt).isSome = true ∧ turn.updatedAt = turn.submittedAt ∧
        checkBinding result = .ok () ∧ result = { ledger.binding with
          run := some turn
          retry := some (submittedRetry retry (providerRetryAttemptId retry) updatedAt) } := by
  have hfresh := h.balanced.fresh_id hretry
  have hcurrent : retry.currentAttemptId ≠ some (providerRetryAttemptId retry) :=
    fun hcurrent => hfresh (h.placed.currentUsed retry hretry _ hcurrent).2
  obtain ⟨hadmits, updatedAt, rfl⟩ := admit_ok hretry hcurrent hadmission
  refine ⟨hadmits, updatedAt, ?_⟩
  have hbegun := begin_begun hbegin
  simp only [trim_attemptId] at hbegun
  rcases hbegun with ⟨hreplay, _⟩ | ⟨_, hbegun⟩
  · -- the turn that the chain is about has settled
    obtain ⟨run, hrun, _, _, _, hsubmitting⟩ := hreplay
    obtain ⟨_, _, _, other, hother, _, hresubmittable⟩ := hadmits.chain
    have hsame : ledger.binding.run = some run := hrun
    rw [Option.mem_def, hsame] at hother
    cases hother
    rw [hsubmitting] at hresubmittable
    simp [isResubmittable] at hresubmittable
  · cases hbegun with
    | @begun released turn hreleased hidle hattempt hstatus hid hturn hupdated hchecked =>
      rcases hreleased with ⟨_, rfl⟩ | ⟨hother, _⟩
      · exact ⟨turn, hattempt, hturn, hupdated, hchecked, rfl⟩
      · exact absurd rfl hother

theorem Accounted.submitted (h : Accounted ledger) {admitted : ProviderRuntimeBinding} {input : BeginInput}
    (hretry : ledger.binding.retry = some retry)
    (hadmission : admitProviderRetry ledger.binding (providerRetryAttemptId retry) time = .ok admitted)
    (hbegin : beginProviderTurn admitted { input with attemptId := providerRetryAttemptId retry } = .ok result) :
    Accounted ⟨result, ledger.used ++ [providerRetryAttemptId retry],
      ledger.log ++ [RetryEvent.submitted retry (providerRetryAttemptId retry) time]⟩ := by
  obtain ⟨hadmits, updatedAt, turn, hattempt, _, _, _, rfl⟩ := submission_begun h hretry hadmission hbegin
  have hfresh := h.balanced.fresh_id hretry
  have hbounded := h.balanced.bounded retry (mem_records_of_retry hretry)
  have hids : submittedIds (ledger.log ++ [RetryEvent.submitted retry (providerRetryAttemptId retry) time]) =
      submittedIds ledger.log ++ [providerRetryAttemptId retry] := by
    simp [submittedIds, RetryEvent.attemptId?]
  have hentry : Entry ledger retry
      (submittedRetry retry (providerRetryAttemptId retry) updatedAt)
      [.submitted retry (providerRetryAttemptId retry) time] := by
    constructor
    · exact ⟨rfl, rfl, rfl, by simp [submittedRetry]⟩
    · simp [submittedRetry, spent, RetryEvent.cost]
    · simp only [submittedRetry]
      by_cases hautomatic : isAutomatic retry = true
      · have hlimit : retry.attempts < (providerErrorRetryPolicy retry.error).limit := by
          by_contra hspent
          exact hadmits.budget ⟨hautomatic, .inr (.inr (not_lt.1 hspent))⟩
        have hmost := limit_le retry.error
        rw [if_pos hautomatic]
        push_cast
        omega
      · rw [if_neg hautomatic]
        push_cast
        omega
    · intro event hevent
      rw [List.mem_singleton.1 hevent]
      rfl
    · intro before attemptId at' hevent
      cases List.mem_singleton.1 hevent
      exact ⟨rfl, ⟨rfl, rfl, rfl, by simp [submittedRetry]⟩, by simp [submittedRetry]⟩
    · rw [hids]
      apply List.Nodup.append h.balanced.distinct (List.nodup_singleton _)
      rw [List.disjoint_singleton]
      exact hfresh
  refine ⟨h.balanced.entered { ledger.binding with
    run := some turn
    retry := some (submittedRetry retry (providerRetryAttemptId retry) updatedAt) }
    hretry rfl rfl hentry _, ?_⟩
  constructor
  · intro other hother _
    cases hother
    exact ⟨turn, rfl, by rw [hattempt]; rfl⟩
  · intro other hother _ hautomatic
    cases hother
    have hautomatic' : isAutomatic retry = true := hautomatic
    simp only [submittedRetry, if_pos hautomatic']
    omega
  · intro other hother hwaiting
    cases hother
    simp [submittedRetry] at hwaiting
  · intro other hother hchain
    cases hother
    have hchains : chainIds { ledger.binding with
        run := some turn
        retry := some (submittedRetry retry (providerRetryAttemptId retry) updatedAt) } =
        chainIds ledger.binding := chainIds_eq rfl (by rw [hretry]; rfl)
    rw [hattempt] at hchain
    rcases h.balanced.made _ (hchains ▸ hchain) with hplain | hsubmitted
    · rw [isRetryId_attemptId] at hplain
      cases hplain
    · exact absurd hsubmitted hfresh
  · intro other hother attemptId hcurrent
    cases hother
    cases hcurrent
    rw [hids]
    simp
  · intro other hother
    cases hother
    rw [hattempt]
    simp
  · intro other hother
    cases hother
    refine .inr ?_
    rw [hattempt, hids]
    simp

theorem AllGranted.submitted {log : List RetryEvent} (hgranted : AllGranted log) (hlog : log = ledger.log)
    (h : Accounted ledger) (attemptId : String)
    (hretry : ledger.binding.retry = some retry) (hadmits : Admits ledger.binding retry time) :
    AllGranted (log ++ [RetryEvent.submitted retry attemptId time]) := by
  subst hlog
  apply hgranted.append
  intro other _ _ hevent hautomatic
  cases hevent
  have hmem := mem_records_of_retry hretry
  have hcounted := h.balanced.counted retry hmem
  refine ⟨hadmits.eligible, ?_, h.balanced.window retry hmem, ?_, ?_⟩
  · by_contra hlate
    exact hadmits.budget ⟨hautomatic, .inr (.inl (not_lt.1 hlate))⟩
  · rw [← hcounted]
    by_contra hspent
    exact hadmits.budget ⟨hautomatic, .inr (.inr (not_lt.1 hspent))⟩
  · rw [← hcounted]
    exact (h.balanced.bounded retry hmem).1

theorem Accounted.defer (h : Accounted ledger) {reason : Option String}
    (hdefer : deferProviderRetry ledger.binding time reason = .ok result) : Accounted { ledger with
      binding := result, log := ledger.log ++ deferralOf ledger.binding } := by
  have hkept : ∀ events : List RetryEvent, events = [] → ledger.binding = result →
      Accounted { ledger with binding := result, log := ledger.log ++ events } := by
    rintro events rfl rfl
    rw [List.append_nil]
    exact h
  unfold deferProviderRetry at hdefer
  unfold deferralOf
  cases hretry : ledger.binding.retry with
  | none =>
    rw [hretry] at hdefer
    injection hdefer with hdefer
    exact hkept _ rfl hdefer
  | some retry =>
    cases hrun : ledger.binding.run with
    | none =>
      rw [hretry, hrun] at hdefer
      injection hdefer with hdefer
      exact hkept _ rfl hdefer
    | some turn =>
      rw [hretry, hrun] at hdefer
      simp only at hdefer ⊢
      by_cases hflight : retry.status = .inFlight ∧ retry.currentAttemptId = some turn.attemptId
      · rw [if_pos hflight] at hdefer
        obtain ⟨nextEligibleAt, _, updatedAt, _, hok⟩ := bind_ok₂ hdefer
        injection hok with hok
        subst hok
        refine h.returned _ rfl ⟨turn, hrun, rfl⟩ hretry hflight.1 rfl rfl
          (h.undo hretry hflight.1 rfl rfl rfl rfl ?_) ?_ rfl rfl
        · by_cases hautomatic : isAutomatic retry = true
          · refine .inr ⟨by rw [if_pos ⟨hflight, hautomatic⟩], ?_, hautomatic⟩
            simp [deferredRetry, hautomatic]
          · refine .inl ⟨by rw [if_neg fun hboth => hautomatic hboth.2], ?_⟩
            simp [deferredRetry, hautomatic]
        · simp only [deferredRetry]
          split_ifs <;> simp
      · rw [if_neg hflight] at hdefer
        injection hdefer with hdefer
        exact hkept _ (if_neg fun hboth => hflight hboth.1) hdefer

/-- A chain that waits again keeps its books. -/
theorem Accounted.waits (h : Accounted ledger) {turn : ProviderTurn} {retry next : ProviderRetry}
    (hrun : ledger.binding.run = some turn) (hretry : ledger.binding.retry = some retry) (hsame : next = { next with
      chainId := retry.chainId, attempts := retry.attempts, startedAt := retry.startedAt,
      transportSequence := retry.transportSequence, deadline := retry.deadline, status := .waiting })
    (hfailed : next.failedAttemptId = turn.attemptId)
    (howned : ∀ owner, Owns ledger.binding owner retry → Owns { ledger.binding with retry := some next } owner next)
    (hattempt : ∀ attemptId ∈ next.currentAttemptId, attemptId ∈ retry.currentAttemptId) :
    Accounted (ledger.moved { ledger.binding with retry := some next }) := by
  have hbalanced := h.balanced.touched { ledger.binding with retry := some next }
    hretry rfl rfl (by rw [hsame]) (by rw [hsame]) (by rw [hsame]) (by rw [hsame]) (by rw [hsame]) []
  rw [List.append_nil] at hbalanced
  have hstatus : next.status = .waiting := by rw [hsame]
  refine ⟨hbalanced, ?_⟩
  constructor
  · intro other hother hflight
    cases hother
    rw [hstatus] at hflight
    cases hflight
  · intro other hother hflight
    cases hother
    rw [hstatus] at hflight
    cases hflight
  · intro other hother _
    cases hother
    exact ⟨turn, hrun, hfailed.symm⟩
  · intro other hother hchain
    have hids : chainIds { ledger.binding with retry := some next } = chainIds ledger.binding := by
      refine chainIds_eq rfl ?_
      rw [hretry, hsame]
      rfl
    obtain ⟨owner, howner, howns⟩ := h.placed.owned other hother (hids ▸ hchain)
    rw [hretry] at howner
    cases howner
    exact ⟨next, rfl, howned other howns⟩
  · intro other hother attemptId hcurrent
    cases hother
    exact h.placed.currentUsed retry hretry attemptId (hattempt attemptId hcurrent)
  · exact h.placed.turnUsed
  · exact h.placed.turnMade

theorem Accounted.resumed (h : Accounted ledger) {turn : ProviderTurn} {retry next : ProviderRetry}
    (hrun : ledger.binding.run = some turn) (hretry : ledger.binding.retry = some retry) (hsame : next = { retry with
      status := .waiting, intentAt := next.intentAt, nextEligibleAt := next.nextEligibleAt,
      successorRunId := next.successorRunId, successorAutomatic := next.successorAutomatic })
    (hfailed : retry.failedAttemptId = turn.attemptId) :
    Accounted (ledger.moved { ledger.binding with retry := some next }) := by
  refine h.waits hrun hretry (by rw [hsame]) (by rw [hsame]; exact hfailed) (fun owner howns => ?_) (by rw [hsame]; simp)
  rw [hsame]
  exact ⟨howns.chainId, howns.failed, by simp, by simp, howns.current, howns.run, howns.authority, howns.session⟩

theorem Accounted.reasked (h : Accounted ledger) {turn : ProviderTurn} {retry next : ProviderRetry}
    (hrun : ledger.binding.run = some turn) (hretry : ledger.binding.retry = some retry) (hsame : next = { next with
      chainId := retry.chainId, attempts := retry.attempts, startedAt := retry.startedAt,
      transportSequence := retry.transportSequence, deadline := retry.deadline, status := .waiting,
      currentAttemptId := none }) (hfailed : next.failedAttemptId = turn.attemptId)
    (hcurrent : retry.currentAttemptId = some turn.attemptId) :
    Accounted (ledger.moved { ledger.binding with retry := some next }) := by
  refine h.waits hrun hretry (by rw [hsame]) hfailed (fun owner howns => ?_) (by rw [hsame]; nofun)
  -- a turn that a chain submitted opened none itself
  rw [howns.current] at hcurrent
  cases hcurrent

theorem Accounted.resume (h : Accounted ledger) {chainId runId : String} {successorRunId : Option String}
    (hresume : resumeRun ledger.binding chainId runId time successorRunId = .ok result) :
    Accounted (ledger.moved result) := by
  unfold resumeRun at hresume
  split at hresume
  · cases hresume
  · next retry hretry =>
      split_ifs at hresume with hrefused
      injection hresume with hresume
      subst hresume
      rw [not_or, not_or, not_not, not_not] at hrefused
      obtain ⟨turn, hrun, hfailed⟩ := h.placed.waiting retry hretry hrefused.2.1
      apply h.resumed hrun hretry _ hfailed.symm
      rw [← hrefused.2.1]

/-- What a manual retry finds: the chain of the run, the chain whose submission failed, or a chain that
it opens. -/
inductive Found (binding : ProviderRuntimeBinding) (turn : ProviderTurn) (runId : String) : ProviderRetry → Prop where
  | matched {previous : ProviderRetry} (hretry : binding.retry = some previous)
      (hmatches : MatchesRun binding turn runId previous) : Found binding turn runId previous
  | continued {previous : ProviderRetry} (now : String) (failure : ProviderFailure)
      (hretry : binding.retry = some previous) (hcontinues : ContinuesChain binding turn previous) :
      Found binding turn runId (manualRecord binding turn runId now previous.input failure
        previous.chainId previous.attempts previous.transportSequence previous.startedAt
        previous.deadline)
  | opened {time : ℤ} {now deadline : String} (owned : ProviderInput) (failure : ProviderFailure)
      (hnow : iso time = .ok now) (hdeadline : iso (time + retryBudgetMs) = .ok deadline)
      (hother : ∀ previous ∈ binding.retry, ¬ MatchesRun binding turn runId previous) :
      Found binding turn runId
        (manualRecord binding turn runId now owned failure turn.attemptId 0 0 now deadline)

theorem providerRunRetry_found {runId : String} (h : providerRunRetry binding runId time = .ok (some retry)) :
    ∃ turn, binding.run = some turn ∧ turn.runId = some runId ∧ Found binding turn runId retry := by
  unfold providerRunRetry at h
  split at h
  · cases h
  · next turn hrun =>
      by_cases hretryable : IsRetryableRun binding turn runId
      case neg =>
        rw [if_neg hretryable] at h
        cases h
      rw [if_pos hretryable] at h
      refine ⟨turn, hrun, hretryable.1, ?_⟩
      split at h
      · next previous hprevious =>
          obtain ⟨hretry, hmatches⟩ := Option.filter_eq_some_iff.1 hprevious
          cases h
          exact .matched hretry (by simpa using hmatches)
      · next hnone =>
          have hother : ∀ previous ∈ binding.retry, ¬ MatchesRun binding turn runId previous := by
            intro previous hprevious hmatches
            have hall := Option.filter_eq_none_iff.1 hnone previous hprevious
            simp [hmatches] at hall
          unfold provenRetry at h
          split at h
          · next owned failure _ _ _ =>
              split at h
              · cases h
              obtain ⟨found, hfound, hok⟩ := bind_ok h
              cases hok
              unfold manualRetry at hfound
              obtain ⟨now, hnow, hrest⟩ := bind_ok hfound
              split at hrest
              · next previous hprevious =>
                  obtain ⟨hretry, hcontinues⟩ := Option.filter_eq_some_iff.1 hprevious
                  cases hrest
                  exact .continued now failure hretry (by simpa using hcontinues)
              · obtain ⟨deadline, hdeadline, hok⟩ := bind_ok hrest
                cases hok
                exact .opened owned failure hnow hdeadline hother
          · cases h

theorem Accounted.manual (h : Accounted ledger) {runId : String} {successorRunId : Option String}
    (hmanual : retryRun ledger.binding runId time successorRunId = .ok result) : Accounted (ledger.moved result) := by
  unfold retryRun at hmanual
  obtain ⟨found, hfound, hrest⟩ := bind_ok hmanual
  split at hrest
  · cases hrest
    exact h
  · next retry =>
      split at hrest
      · obtain ⟨intentAt, _, nextEligibleAt, _, hok⟩ := bind_ok₂ hrest
        obtain ⟨turn, hrun, hrunId, hfoundIs⟩ := providerRunRetry_found hfound
        injection hok with hok
        subst hok
        cases hfoundIs with
        | matched hretry hmatches =>
          have harchived : archived ledger.binding retry = ledger.binding.retryHistory := by simp [archived, hretry]
          rw [harchived]
          exact h.resumed hrun hretry rfl hmatches.2.2.1
        | @continued previous now failure hretry hcontinues =>
          have harchived : archived ledger.binding (manualRecord ledger.binding turn runId now
              previous.input failure previous.chainId previous.attempts previous.transportSequence
              previous.startedAt previous.deadline) = ledger.binding.retryHistory := by
            simp [archived, hretry, manualRecord]
          rw [harchived]
          exact h.reasked hrun hretry rfl rfl hcontinues.2.1
        | @opened time' now deadline owned failure hnow hdeadline hother =>
          have hnew : turn.attemptId ∉ chainIds ledger.binding := by
            intro hchain
            obtain ⟨owner, howner, howns⟩ := h.placed.owned turn hrun hchain
            exact hother owner howner ⟨howns.run.trans hrunId, howns.unrecovered, howns.failed,
              howns.authority, howns.session⟩
          have harchived : archived ledger.binding (manualRecord ledger.binding turn runId now owned
              failure turn.attemptId 0 0 now deadline) =
              ledger.binding.retryHistory ++ ledger.binding.retry.toList := archived_new hnew
          rw [harchived]
          refine h.opens _ hrun ⟨turn, hrun, rfl⟩ rfl rfl ⟨⟨rfl, rfl, by simp, by simp, rfl,
            hrunId.symm, rfl, rfl⟩, rfl, windowDiffers_opened hnow hdeadline⟩ hnew
      · cases hrest
        exact h

/-- The state that the runs keep. -/
structure Kept (ledger : Ledger) : Prop where
  accounted : Accounted ledger
  granted : AllGranted ledger.log

theorem Kept.moved (h : Kept ledger) (haccounted : Accounted (ledger.moved result)) :
    Kept (ledger.moved result) := ⟨haccounted, h.granted⟩

/-- One operation keeps the books. -/
theorem Kept.of_op (h : Kept ledger) {op : RetryOp} (hfresh : Fresh ledger op) {next : Ledger}
    (hop : op.apply ledger = .ok next) : Kept next := by
  cases op with
  | begin input =>
    obtain ⟨binding, hbegin, hok⟩ := bind_ok hop
    cases hok
    exact ⟨h.accounted.begin hfresh hbegin, h.granted⟩
  | accept input =>
    obtain ⟨binding, haccept, hok⟩ := bind_ok hop
    cases hok
    exact h.moved (h.accounted.turnMove (accept_turnMove haccept))
  | markUnknown input =>
    obtain ⟨binding, hmark, hok⟩ := bind_ok hop
    cases hok
    exact h.moved (h.accounted.turnMove (markUnknown_turnMove hmark))
  | settleSubmission status input =>
    obtain ⟨binding, hsettle, hok⟩ := bind_ok hop
    cases hok
    exact h.moved (h.accounted.turnMove (settleSubmission_turnMove hsettle))
  | settle input =>
    obtain ⟨binding, hsettle, hok⟩ := bind_ok hop
    cases hok
    exact h.moved (h.accounted.turnMove (settle_turnMove hsettle))
  | fail input =>
    obtain ⟨binding, hfail, hok⟩ := bind_ok hop
    cases hok
    exact ⟨h.accounted.fail hfail, h.granted.undone (refundOf_cases _ _)⟩
  | submit time input =>
    simp only [RetryOp.apply] at hop
    split at hop
    · cases hop
    · next retry hretry =>
        obtain ⟨admitted, hadmission, binding, hbegin, hok⟩ := bind_ok₂ hop
        cases hok
        obtain ⟨hadmits, _⟩ := submission_begun h.accounted hretry hadmission hbegin
        exact ⟨h.accounted.submitted hretry hadmission hbegin, h.granted.submitted rfl h.accounted _ hretry hadmits⟩
  | defer time reason =>
    obtain ⟨binding, hdefer, hok⟩ := bind_ok hop
    cases hok
    exact ⟨h.accounted.defer hdefer, h.granted.undone (deferralOf_cases _)⟩
  | cancel reason time =>
    obtain ⟨binding, hcancel, hok⟩ := bind_ok hop
    cases hok
    exact h.moved (h.accounted.cancel hcancel)
  | control action time =>
    obtain ⟨binding, hcontrol, hok⟩ := bind_ok hop
    cases hok
    exact h.moved (h.accounted.control hcontrol)
  | manual runId time successorRunId =>
    obtain ⟨binding, hmanual, hok⟩ := bind_ok hop
    cases hok
    exact h.moved (h.accounted.manual hmanual)
  | resume chainId runId time successorRunId =>
    obtain ⟨binding, hresume, hok⟩ := bind_ok hop
    cases hok
    exact h.moved (h.accounted.resume hresume)

/-- The ledger of a binding that was just created. -/
def Ledger.start (binding : ProviderRuntimeBinding) : Ledger := ⟨binding, [], []⟩

variable {input : CreateInput}

theorem create_parts (h : createProviderRuntimeBinding input = .ok binding) :
    binding.run = none ∧ binding.retry = none ∧ binding.retryHistory = [] ∧ checkBinding binding = .ok () := by
  unfold createProviderRuntimeBinding at h
  iterate 4 obtain ⟨_, _, h⟩ := bind_ok h
  obtain ⟨rfl, hcheck⟩ := validate_ok h
  exact ⟨rfl, rfl, rfl, hcheck⟩

theorem Kept.start (h : createProviderRuntimeBinding input = .ok binding) : Kept (Ledger.start binding) := by
  obtain ⟨hrun, hretry, hhistory, _⟩ := create_parts h
  have hrecords : records binding = [] := by rw [records, hretry, hhistory]; rfl
  refine ⟨⟨?_, ?_⟩, ?_⟩
  · constructor <;> simp [Ledger.start, chainIds, hrecords, submittedIds]
  · constructor <;> simp [Ledger.start, hrun, hretry]
  · intro before retry attemptId time after hsplit
    simp [Ledger.start] at hsplit

/-- The ledger after a run of operations on a created binding. -/
def ledgerAfter (binding : ProviderRuntimeBinding) (ops : List RetryOp) : Ledger :=
  run RetryOp.apply (Ledger.start binding) ops

theorem kept_run (hcreate : createProviderRuntimeBinding input = .ok binding) {ops : List RetryOp}
    (hfresh : Along RetryOp.apply Fresh (Ledger.start binding) ops) : Kept (ledgerAfter binding ops) := by
  have hboth := run_relates (R := fun _ _ => True) (fun _ _ => trivial) (fun _ _ _ _ _ => trivial)
    (fun ledger op next h hop happly => ⟨Kept.of_op h hop happly, trivial⟩) (Kept.start hcreate) hfresh
  exact hboth.1

/-- The books of a chain bound its automatic submissions. -/
theorem Accounted.spent_le (h : Accounted ledger) (chainId : String) : spent ledger.log chainId ≤ retryLimit := by
  by_cases hchain : chainId ∈ chainIds ledger.binding
  · obtain ⟨retry, hretry, rfl⟩ := List.mem_map.1 hchain
    rw [← h.balanced.counted retry hretry]
    exact (h.balanced.bounded retry hretry).2.1
  · rw [spent_of_other fun event hevent heq => hchain (by rw [← heq]; exact h.balanced.logged event hevent)]
    simp [retryLimit]

theorem window_parses (h : windowDiffers retry = false) :
    ∃ startedAt, JsHost.dateParse retry.startedAt = some startedAt ∧
      JsHost.dateParse retry.deadline = some (startedAt + 600000) := by
  unfold windowDiffers at h
  cases hdeadline : JsHost.dateParse retry.deadline with
  | none =>
    rw [hdeadline] at h
    cases h
  | some deadline =>
    cases hstarted : JsHost.dateParse retry.startedAt with
    | none =>
      rw [hdeadline, hstarted] at h
      cases h
    | some startedAt =>
      rw [hdeadline, hstarted] at h
      refine ⟨startedAt, rfl, ?_⟩
      have hdifference : deadline - startedAt = retryBudgetMs := by simpa using h
      rw [retryBudgetMs] at hdifference
      congr 1
      omega

/-- In every run whose explicit inputs have attempt ids of their own, a chain makes at most five
automatic submissions that are not undone, each of them between its eligible time and the deadline ten
minutes after the chain started, one of them at most under an unclassified error and none under an error
that rules retries out. -/
theorem automatic_budget {input : CreateInput} {binding : ProviderRuntimeBinding}
    (hcreate : createProviderRuntimeBinding input = .ok binding) (ops : List RetryOp)
    (hfresh : Along RetryOp.apply Fresh (Ledger.start binding) ops) :
    (∀ chainId, spent (ledgerAfter binding ops).log chainId ≤ 5) ∧ ∀ before retry attemptId time after,
      (ledgerAfter binding ops).log = before ++ .submitted retry attemptId time :: after → isAutomatic retry = true →
        timeValue retry.nextEligibleAt ≤ time ∧ time < timeValue retry.deadline ∧
        (∃ startedAt, JsHost.dateParse retry.startedAt = some startedAt ∧
          JsHost.dateParse retry.deadline = some (startedAt + 600000)) ∧
        ((providerErrorRetryPolicy retry.error).source = .unknownFallback → spent before retry.chainId = 0) ∧
        (providerErrorRetryPolicy retry.error).source ≠ .knownNonRetryable := by
  have hkept := kept_run hcreate hfresh
  refine ⟨fun chainId => hkept.accounted.spent_le chainId, ?_⟩
  intro before retry attemptId time after hsplit hautomatic
  have hgranted := hkept.granted before retry attemptId time after hsplit hautomatic
  have hafforded := hgranted.afforded
  have hcounted := hgranted.counted
  obtain ⟨hunknown, hrefused⟩ := limit_of_source retry.error
  refine ⟨hgranted.eligible, hgranted.early, window_parses hgranted.window, ?_, ?_⟩
  · intro hsource
    rw [hunknown hsource] at hafforded
    omega
  · intro hsource
    rw [hrefused hsource] at hafforded
    omega

end

section Samples

def sampleError : StandardAgentError where
  source := .provider
  phase := .turnExecute
  category := .unknown
  code := "unclassified"
  message := "The turn failed."
  raw := "{}"
  inputDisposition := .accepted
  sessionDisposition := .recoverable
  retryAfterMs := none
  retryable := none

def sampleFailure (time : ℤ) : FailureInput where
  error := sampleError
  failureRef := "failure-1"
  time := time
  random := 1
  noProviderWrite := false
  standard := by decide +kernel
  named := by decide

def sampleBegin (attemptId submittedAt : String) : BeginInput :=
  ⟨none, attemptId, 1, submittedAt, some (.text "go"), some true⟩

def failedTurn (attemptId now : String) (time : ℤ) : List RetryOp :=
  [.accept ⟨attemptId, some "turn-1", now⟩,
    .settle ⟨none, some attemptId, .failed, now, none⟩, .fail (sampleFailure time)]

def explicitFailure (attemptId now : String) (time : ℤ) : List RetryOp :=
  .begin (sampleBegin attemptId now) :: failedTurn attemptId now time

/-- One explicit input that fails, and the automatic submission that follows. -/
def retriedOps : List RetryOp :=
  explicitFailure "a" sampleInstant 1767600000000 ++
    [RetryOp.submit 1767600005000 (sampleBegin "" "2026-01-05T08:00:05.000Z")]

/-- The submission fails as well, and a later explicit input has the attempt id of the first. -/
def reusedOps : List RetryOp :=
  retriedOps ++ failedTurn "provider-retry:a/1" "2026-01-05T08:00:05.000Z" 1767600005000 ++
    explicitFailure "b" "2026-01-05T08:00:05.000Z" 1767600005000 ++
    explicitFailure "a" "2026-01-05T08:00:10.000Z" 1767600010000 ++
    [RetryOp.submit 1767600015000 (sampleBegin "" "2026-01-05T08:00:15.000Z")]

def sampleChain (startedAt nextEligibleAt deadline : String) : ProviderRetry where
  policyVersion := 1
  chainId := "a"
  status := .waiting
  input := .text "go"
  nativeSessionId := "conversation-1"
  authorityEpoch := 1
  attempts := 0
  transportSequence := 0
  startedAt := startedAt
  intentAt := startedAt
  deadline := deadline
  nextEligibleAt := nextEligibleAt
  updatedAt := startedAt
  failedAttemptId := "a"
  failureAttemptId := "a"
  failedNativeTurnId := some "turn-1"
  previousRunId := none
  currentAttemptId := none
  successorRunId := none
  successorAutomatic := none
  failureRef := "failure-1"
  error := sampleError
  reason := none

def firstSubmission : RetryEvent :=
  .submitted (sampleChain sampleInstant "2026-01-05T08:00:05.000Z" "2026-01-05T08:10:00.000Z")
    "provider-retry:a/1" 1767600005000

def secondSubmission : RetryEvent :=
  .submitted
    (sampleChain "2026-01-05T08:00:10.000Z" "2026-01-05T08:00:15.000Z" "2026-01-05T08:10:10.000Z")
    "provider-retry:a/1" 1767600015000

/-- Operations from the sample binding together with the log that they leave. -/
structure LoggedRun where
  ops : List RetryOp
  log : List RetryEvent
  logged : (@ledgerAfter sampleRetryHost sampleBinding ops).log = log

def reusedRun : LoggedRun where
  ops := reusedOps
  log := [firstSubmission, secondSubmission]
  logged := by decide +kernel

theorem sampleBinding_created :
    let _ := sampleRetryHost
    createProviderRuntimeBinding sampleCreate = .ok sampleBinding := by
  rfl

theorem reused_log :
    let _ := sampleRetryHost
    createProviderRuntimeBinding sampleCreate = .ok sampleBinding ∧
      (ledgerAfter sampleBinding reusedOps).log = [firstSubmission, secondSubmission] :=
  ⟨sampleBinding_created, reusedRun.logged⟩

theorem retried_fresh :
    let _ := sampleRetryHost
    Along RetryOp.apply Fresh (Ledger.start sampleBinding) retriedOps := by
  intro host
  have hfirst : Fresh (Ledger.start sampleBinding) (.begin (sampleBegin "a" sampleInstant)) :=
    .inr ⟨by simp [Ledger.start], by rfl⟩
  exact ⟨hfirst, trivial, trivial, trivial, trivial, trivial⟩

theorem automatic_budget_retried :
    let _ := sampleRetryHost
    createProviderRuntimeBinding sampleCreate = .ok sampleBinding ∧
      (∀ chainId, spent (ledgerAfter sampleBinding retriedOps).log chainId ≤ 5) ∧ ∀ before retry attemptId time after,
        (ledgerAfter sampleBinding retriedOps).log =
          before ++ .submitted retry attemptId time :: after → isAutomatic retry = true →
          timeValue retry.nextEligibleAt ≤ time ∧ time < timeValue retry.deadline ∧
          (∃ startedAt, JsHost.dateParse retry.startedAt = some startedAt ∧
            JsHost.dateParse retry.deadline = some (startedAt + 600000)) ∧
          ((providerErrorRetryPolicy retry.error).source = .unknownFallback → spent before retry.chainId = 0) ∧
          (providerErrorRetryPolicy retry.error).source ≠ .knownNonRetryable := by
  intro host
  exact ⟨sampleBinding_created, automatic_budget sampleBinding_created retriedOps retried_fresh⟩

/-- An explicit input that repeats an old attempt id opens the old chain anew, and the chain makes a
second automatic submission under an unclassified error. -/
theorem second_unclassified_submission :
    let _ := sampleRetryHost
    createProviderRuntimeBinding sampleCreate = .ok sampleBinding ∧
      ¬ ∀ (ops : List RetryOp) before retry attemptId time after, (ledgerAfter sampleBinding ops).log =
          before ++ .submitted retry attemptId time :: after → isAutomatic retry = true →
          (providerErrorRetryPolicy retry.error).source = .unknownFallback → spent before retry.chainId = 0 := by
  intro host
  obtain ⟨hcreated, hlog⟩ := reused_log
  refine ⟨hcreated, fun hclaim => ?_⟩
  have hspent := hclaim reusedOps [firstSubmission] _ _ _ [] hlog (by decide +kernel) (by decide +kernel)
  revert hspent
  decide +kernel

end Samples

end Binding
