import Mathlib.Algebra.BigOperators.Group.List.Basic
import Yui.ProviderAuthority
import Yui.ProviderRetry

/-!
# The accounts of a retry chain

A ledger follows one binding: the attempt ids that were used and, in order, the submissions that chains
made and the automatic ones that were undone. As long as every explicit input has an attempt id of its
own, a chain is opened once, its attempts are its automatic submissions that were not undone, and no two
submissions share an attempt id.
-/

open JsText Checked FallibleRun

namespace Binding

inductive RetryEvent where
  | submitted (retry : ProviderRetry) (attemptId : String) (time : ℤ)
  | undone (chainId : String)
  deriving DecidableEq

structure Ledger where
  binding : ProviderRuntimeBinding
  used : List String
  log : List RetryEvent

def records (binding : ProviderRuntimeBinding) : List ProviderRetry :=
  binding.retryHistory ++ binding.retry.toList

def chainIds (binding : ProviderRuntimeBinding) : List String :=
  (records binding).map ProviderRetry.chainId

/-- The automatic submissions of a chain, less those undone. -/
def RetryEvent.cost (chainId : String) : RetryEvent → ℤ
  | .submitted retry _ _ => if retry.chainId = chainId ∧ isAutomatic retry = true then 1 else 0
  | .undone chain => if chain = chainId then -1 else 0

def spent (log : List RetryEvent) (chainId : String) : ℤ :=
  (log.map (RetryEvent.cost chainId)).sum

def RetryEvent.attemptId? : RetryEvent → Option String
  | .submitted _ attemptId _ => some attemptId
  | .undone _ => none

def submittedIds (log : List RetryEvent) : List String := log.filterMap RetryEvent.attemptId?

def RetryEvent.chainId : RetryEvent → String
  | .submitted retry _ _ => retry.chainId
  | .undone chainId => chainId

/-- The attempt ids that chains make up. -/
def isRetryId (attemptId : String) : Bool := "provider-retry:".toList.isPrefixOf attemptId.toList

inductive RetryOp where
  | begin (input : BeginInput)
  | accept (input : AcceptInput)
  | markUnknown (input : OutcomeInput)
  | settleSubmission (status : SubmissionStatus) (input : OutcomeInput)
  | settle (input : SettleInput)
  | fail (input : FailureInput)
  | submit (time : ℤ) (input : BeginInput)
  | defer (time : ℤ) (reason : Option String)
  | cancel (reason : String) (time : ℤ)
  | control (action : RetryAction) (time : ℤ)
  | manual (runId : String) (time : ℤ) (successorRunId : Option String)
  | resume (chainId runId : String) (time : ℤ) (successorRunId : Option String)

/-- Retries that a command installs, outside the turns of the Provider. -/
def RetryOp.isCommand : RetryOp → Bool
  | .manual _ _ _ | .resume _ _ _ _ => true
  | _ => false

/-- A failure that wrote nothing undoes the automatic submission that its chain had in flight. -/
def refundOf (binding : ProviderRuntimeBinding) (input : FailureInput) : List RetryEvent :=
  match binding.run with
  | none => []
  | some turn =>
    match continuingRetry binding turn with
    | none => []
    | some previous =>
      if (turn.status = .failed ∨ turn.status = .rejected) ∧
          failureBlocker { binding with run := some (ProviderTurn.withFailure turn input) }
            input.error = none ∧ refund previous input.noProviderWrite = 1 then
        [.undone previous.chainId]
      else []

/-- A deferral undoes the automatic submission that its chain had in flight. -/
def deferralOf (binding : ProviderRuntimeBinding) : List RetryEvent :=
  match binding.retry, binding.run with
  | some retry, some turn =>
    if (retry.status = .inFlight ∧ retry.currentAttemptId = some turn.attemptId) ∧
        isAutomatic retry = true then [.undone retry.chainId] else []
  | _, _ => []

/-- Two records of one chain. -/
structure SameChain (before after : ProviderRetry) : Prop where
  chainId : after.chainId = before.chainId
  startedAt : after.startedAt = before.startedAt
  deadline : after.deadline = before.deadline
  sequence : before.transportSequence ≤ after.transportSequence

theorem SameChain.refl (retry : ProviderRetry) : SameChain retry retry := ⟨rfl, rfl, rfl, le_refl _⟩

theorem SameChain.trans {a b c : ProviderRetry} (h : SameChain a b) (h' : SameChain b c) : SameChain a c :=
  ⟨h'.chainId.trans h.chainId, h'.startedAt.trans h.startedAt, h'.deadline.trans h.deadline,
    h.sequence.trans h'.sequence⟩

theorem spent_append (log events : List RetryEvent) (chainId : String) :
    spent (log ++ events) chainId = spent log chainId + spent events chainId := by
  simp only [spent, List.map_append, List.sum_append]

theorem spent_of_other {log : List RetryEvent} {chainId : String}
    (h : ∀ event ∈ log, event.chainId ≠ chainId) : spent log chainId = 0 := by
  unfold spent
  apply List.sum_eq_zero
  intro cost hcost
  obtain ⟨event, hevent, rfl⟩ := List.mem_map.1 hcost
  have hother := h event hevent
  cases event with
  | submitted retry attemptId time =>
    simp only [RetryEvent.chainId] at hother
    simp [RetryEvent.cost, hother]
  | undone chain =>
    simp only [RetryEvent.chainId] at hother
    simp [RetryEvent.cost, hother]

theorem records_some {binding : ProviderRuntimeBinding} {retry : ProviderRetry}
    (h : binding.retry = some retry) : records binding = binding.retryHistory ++ [retry] := by
  rw [records, h]
  rfl

theorem mem_records_of_retry {binding : ProviderRuntimeBinding} {retry : ProviderRetry}
    (h : binding.retry = some retry) : retry ∈ records binding := by
  rw [records_some h]
  simp

section

variable [RuntimeHost]

def Ledger.moved (ledger : Ledger) (binding : ProviderRuntimeBinding) : Ledger :=
  { ledger with binding := binding }

def RetryOp.apply (ledger : Ledger) : RetryOp → Except String Ledger
  | .begin input => do
    let binding ← beginProviderTurn ledger.binding input
    .ok { ledger with binding := binding, used := ledger.used ++ [trim input.attemptId] }
  | .accept input => do
    let binding ← acceptProviderTurn ledger.binding input
    .ok (ledger.moved binding)
  | .markUnknown input => do
    let binding ← markProviderTurnDeliveryUnknown ledger.binding input
    .ok (ledger.moved binding)
  | .settleSubmission status input => do
    let binding ← settleProviderTurnSubmission ledger.binding status input
    .ok (ledger.moved binding)
  | .settle input => do
    let binding ← settleProviderTurn ledger.binding input
    .ok (ledger.moved binding)
  | .fail input => do
    let binding ← recordProviderFailure ledger.binding input
    .ok { ledger with
      binding := binding
      log := ledger.log ++ refundOf ledger.binding input }
  | .submit time input =>
    match ledger.binding.retry with
    | none => .error ineligible
    | some retry => do
      let attemptId := providerRetryAttemptId retry
      let admitted ← admitProviderRetry ledger.binding attemptId time
      let binding ← beginProviderTurn admitted { input with attemptId := attemptId }
      .ok ⟨binding, ledger.used ++ [attemptId], ledger.log ++ [.submitted retry attemptId time]⟩
  | .defer time reason => do
    let binding ← deferProviderRetry ledger.binding time reason
    .ok { ledger with
      binding := binding
      log := ledger.log ++ deferralOf ledger.binding }
  | .cancel reason time => do
    let binding ← cancelProviderRetry ledger.binding reason time
    .ok (ledger.moved binding)
  | .control action time => do
    let binding ← controlProviderRetry ledger.binding action time
    .ok (ledger.moved binding)
  | .manual runId time successorRunId => do
    let binding ← retryRun ledger.binding runId time successorRunId
    .ok (ledger.moved binding)
  | .resume chainId runId time successorRunId => do
    let binding ← resumeRun ledger.binding chainId runId time successorRunId
    .ok (ledger.moved binding)

/-- The explicit input repeats the submission under way, or it has a new attempt id that no chain makes
up. -/
def Fresh (ledger : Ledger) : RetryOp → Prop
  | .begin input =>
    IsReplay ledger.binding (input.runId.map trim) (trim input.attemptId) input.authorityEpoch ∨
      (trim input.attemptId ∉ ledger.used ∧ isRetryId (trim input.attemptId) = false)
  | _ => True

structure Balanced (ledger : Ledger) : Prop where
  nodup : (chainIds ledger.binding).Nodup
  known : ∀ chainId ∈ chainIds ledger.binding, chainId ∈ ledger.used
  made : ∀ chainId ∈ chainIds ledger.binding,
    isRetryId chainId = false ∨ chainId ∈ submittedIds ledger.log
  counted : ∀ retry ∈ records ledger.binding, retry.attempts = spent ledger.log retry.chainId
  bounded : ∀ retry ∈ records ledger.binding, 0 ≤ retry.attempts ∧ retry.attempts ≤ retryLimit ∧
    retry.attempts ≤ retry.transportSequence
  window : ∀ retry ∈ records ledger.binding, windowDiffers retry = false
  logged : ∀ event ∈ ledger.log, event.chainId ∈ chainIds ledger.binding
  sequenced : ∀ retry attemptId time, .submitted retry attemptId time ∈ ledger.log →
    attemptId = providerRetryAttemptId retry ∧ ∃ record ∈ records ledger.binding,
      SameChain retry record ∧ retry.transportSequence < record.transportSequence
  distinct : (submittedIds ledger.log).Nodup

/-- The submissions of a chain that are added to the books. -/
structure Entry (ledger : Ledger) (retry next : ProviderRetry) (events : List RetryEvent) : Prop where
  same : SameChain retry next
  counted : next.attempts = retry.attempts + spent events retry.chainId
  bounded : 0 ≤ next.attempts ∧ next.attempts ≤ retryLimit ∧ next.attempts ≤ next.transportSequence
  chain : ∀ event ∈ events, event.chainId = retry.chainId
  sequenced : ∀ before attemptId time, .submitted before attemptId time ∈ events →
    attemptId = providerRetryAttemptId before ∧ SameChain before next ∧
      before.transportSequence < next.transportSequence
  distinct : (submittedIds (ledger.log ++ events)).Nodup

theorem windowDiffers_same {before after : ProviderRetry} (h : SameChain before after) :
    windowDiffers after = windowDiffers before := by
  simp only [windowDiffers, h.deadline, h.startedAt]

variable {ledger : Ledger}

theorem Balanced.entered (h : Balanced ledger) (binding : ProviderRuntimeBinding)
    {retry next : ProviderRetry} (hretry : ledger.binding.retry = some retry)
    (hhistory : binding.retryHistory = ledger.binding.retryHistory) (hnext : binding.retry = some next)
    {events : List RetryEvent} (hentry : Entry ledger retry next events) (more : List String) :
    Balanced ⟨binding, ledger.used ++ more, ledger.log ++ events⟩ := by
  have hbefore := records_some hretry
  have hafter : records binding = ledger.binding.retryHistory ++ [next] := by rw [records_some hnext, hhistory]
  have hids : chainIds binding = chainIds ledger.binding := by
    simp only [chainIds, hafter, hbefore, List.map_append, List.map_cons, List.map_nil, hentry.same.chainId]
  have hmem : ∀ record ∈ records binding,
      record = next ∨ (record ∈ records ledger.binding ∧ record.chainId ≠ retry.chainId) := by
    intro record hrecord
    rw [hafter] at hrecord
    rcases List.mem_append.1 hrecord with hold | hlast
    · refine .inr ⟨by rw [hbefore]; exact List.mem_append_left _ hold, ?_⟩
      have hnodup := h.nodup
      simp only [chainIds, hbefore, List.map_append, List.map_cons, List.map_nil] at hnodup
      rw [List.nodup_append] at hnodup
      exact hnodup.2.2 _ (List.mem_map_of_mem hold) _ (by simp)
    · exact .inl (List.mem_singleton.1 hlast)
  have hretryMem := mem_records_of_retry hretry
  constructor
  · rw [hids]
    exact h.nodup
  · intro chainId hchain
    rw [hids] at hchain
    exact List.mem_append_left _ (h.known chainId hchain)
  · intro chainId hchain
    rw [hids] at hchain
    rcases h.made chainId hchain with hplain | hsubmitted
    · exact .inl hplain
    · refine .inr ?_
      simp only [submittedIds, List.filterMap_append]
      exact List.mem_append_left _ hsubmitted
  · intro record hrecord
    rw [spent_append]
    rcases hmem record hrecord with rfl | ⟨hold, hother⟩
    · rw [hentry.same.chainId, ← h.counted retry hretryMem]
      exact hentry.counted
    · rw [spent_of_other fun event hevent heq => hother (heq.symm.trans (hentry.chain event hevent)), add_zero]
      exact h.counted record hold
  · intro record hrecord
    rcases hmem record hrecord with rfl | ⟨hold, _⟩
    · exact hentry.bounded
    · exact h.bounded record hold
  · intro record hrecord
    rcases hmem record hrecord with rfl | ⟨hold, _⟩
    · rw [windowDiffers_same hentry.same]
      exact h.window retry hretryMem
    · exact h.window record hold
  · intro event hevent
    rw [hids]
    rcases List.mem_append.1 hevent with hold | hnew
    · exact h.logged event hold
    · rw [hentry.chain event hnew]
      exact List.mem_map_of_mem hretryMem
  · intro before attemptId time hevent
    have hnextMem : next ∈ records binding := mem_records_of_retry hnext
    rcases List.mem_append.1 hevent with hold | hnew
    · obtain ⟨hid, record, hrecord, hsame, hless⟩ := h.sequenced before attemptId time hold
      refine ⟨hid, ?_⟩
      rw [hbefore] at hrecord
      rcases List.mem_append.1 hrecord with hhistory' | hlast
      · exact ⟨record, by rw [hafter]; exact List.mem_append_left _ hhistory', hsame, hless⟩
      · rw [List.mem_singleton.1 hlast] at hsame hless
        exact ⟨next, hnextMem, hsame.trans hentry.same, lt_of_lt_of_le hless hentry.same.sequence⟩
    · obtain ⟨hid, hsame, hless⟩ := hentry.sequenced before attemptId time hnew
      exact ⟨hid, next, hnextMem, hsame, hless⟩
  · exact hentry.distinct

/-- A record that keeps its accounts. -/
theorem Balanced.touched (h : Balanced ledger) (binding : ProviderRuntimeBinding)
    {retry next : ProviderRetry} (hretry : ledger.binding.retry = some retry)
    (hhistory : binding.retryHistory = ledger.binding.retryHistory) (hnext : binding.retry = some next)
    (hchain : next.chainId = retry.chainId) (hstarted : next.startedAt = retry.startedAt)
    (hdeadline : next.deadline = retry.deadline) (hsequence : next.transportSequence = retry.transportSequence)
    (hattempts : next.attempts = retry.attempts) (more : List String) :
    Balanced ⟨binding, ledger.used ++ more, ledger.log⟩ := by
  have hentry : Entry ledger retry next [] := by
    refine ⟨⟨hchain, hstarted, hdeadline, hsequence.ge⟩, ?_, ?_, by simp, by simp, ?_⟩
    · simp [spent, hattempts]
    · rw [hattempts, hsequence]
      exact h.bounded retry (mem_records_of_retry hretry)
    · rw [List.append_nil]
      exact h.distinct
  have hbalanced := h.entered binding hretry hhistory hnext hentry more
  rwa [List.append_nil] at hbalanced

theorem Balanced.kept (h : Balanced ledger) (binding : ProviderRuntimeBinding)
    (hhistory : binding.retryHistory = ledger.binding.retryHistory)
    (hretry : binding.retry = ledger.binding.retry) (more : List String) :
    Balanced ⟨binding, ledger.used ++ more, ledger.log⟩ := by
  have hrecords : records binding = records ledger.binding := by rw [records, records, hhistory, hretry]
  have hids : chainIds binding = chainIds ledger.binding := by rw [chainIds, chainIds, hrecords]
  refine ⟨hids ▸ h.nodup, ?_, hids ▸ h.made, hrecords ▸ h.counted, hrecords ▸ h.bounded,
    hrecords ▸ h.window, hids ▸ h.logged, hrecords ▸ h.sequenced, h.distinct⟩
  intro chainId hchain
  exact List.mem_append_left _ (h.known chainId (hids ▸ hchain))

theorem Balanced.opened (h : Balanced ledger) {next : ProviderRetry} {binding : ProviderRuntimeBinding}
    (hrecords : records binding = records ledger.binding ++ [next])
    (hnew : next.chainId ∉ chainIds ledger.binding) (hused : next.chainId ∈ ledger.used)
    (hmade : isRetryId next.chainId = false ∨ next.chainId ∈ submittedIds ledger.log)
    (hattempts : next.attempts = 0) (hwindow : windowDiffers next = false) :
    Balanced ⟨binding, ledger.used, ledger.log⟩ := by
  have hids : chainIds binding = chainIds ledger.binding ++ [next.chainId] := by
    simp only [chainIds, hrecords, List.map_append, List.map_cons, List.map_nil]
  constructor
  · rw [hids]
    apply List.Nodup.append h.nodup (List.nodup_singleton _)
    rw [List.disjoint_singleton]
    exact hnew
  · intro chainId hchain
    rw [hids] at hchain
    rcases List.mem_append.1 hchain with hold | hlast
    · exact h.known chainId hold
    · rw [List.mem_singleton.1 hlast]
      exact hused
  · intro chainId hchain
    rw [hids] at hchain
    rcases List.mem_append.1 hchain with hold | hlast
    · exact h.made chainId hold
    · rw [List.mem_singleton.1 hlast]
      exact hmade
  · intro record hrecord
    rw [hrecords] at hrecord
    rcases List.mem_append.1 hrecord with hold | hlast
    · exact h.counted record hold
    · rw [List.mem_singleton.1 hlast, hattempts]
      rw [spent_of_other]
      intro event hevent heq
      exact hnew (heq ▸ h.logged event hevent)
  · intro record hrecord
    rw [hrecords] at hrecord
    rcases List.mem_append.1 hrecord with hold | hlast
    · exact h.bounded record hold
    · rw [List.mem_singleton.1 hlast, hattempts]
      simp [retryLimit]
  · intro record hrecord
    rw [hrecords] at hrecord
    rcases List.mem_append.1 hrecord with hold | hlast
    · exact h.window record hold
    · rw [List.mem_singleton.1 hlast]
      exact hwindow
  · intro event hevent
    rw [hids]
    exact List.mem_append_left _ (h.logged event hevent)
  · intro before attemptId time hevent
    obtain ⟨hid, record, hrecord, hsame, hless⟩ := h.sequenced before attemptId time hevent
    exact ⟨hid, record, by rw [hrecords]; exact List.mem_append_left _ hrecord, hsame, hless⟩
  · exact h.distinct

end

end Binding
