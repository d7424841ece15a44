import Yui.DurableJobValid
import Yui.ProviderRetryRuns

/-!
# The records of the retry operations

`recordProviderFailure`, `deferProviderRetry`, `cancelProviderRetry` and `completeProviderRetry` store the
record they build without validating it. The parts of a valid binding that they rebuild stay valid, so
every binding that a run of the operations reaches passes `validateProviderRuntimeBinding`.
-/

open JsText Checked FallibleRun

namespace Binding

theorem whenPresent_iff {α : Type} {value : Option α} {check : α → Except String Unit} :
    whenPresent value check = .ok () ↔ ∀ x ∈ value, check x = .ok () := by
  cases value with
  | none => simp [whenPresent]
  | some x => simp [whenPresent]

theorem texts_iff {retry : ProviderRetry} : (∀ text ∈ retryTexts retry, text ≠ "") ↔
    retry.chainId ≠ "" ∧ retry.nativeSessionId ≠ "" ∧ retry.failedAttemptId ≠ "" ∧
      retry.failureRef ≠ "" := by
  simp only [retryTexts, List.forall_mem_cons, List.not_mem_nil, false_implies, implies_true, and_true]

theorem Placed.ended {ledger : Ledger} (h : Placed ledger) {turn : ProviderTurn} (hrun : ledger.binding.run = some turn)
    {retry : ProviderRetry} (hretry : ledger.binding.retry = some retry)
    (hunrecorded : ¬ (retry.failedAttemptId = turn.attemptId ∧ retry.status ≠ .inFlight))
    (hother : ¬ (retry.status = .inFlight ∧ retry.currentAttemptId = some turn.attemptId)) :
    retry.status ≠ .waiting ∧ retry.status ≠ .inFlight := by
  constructor
  · intro hwaiting
    obtain ⟨waited, hwaited, hfailed⟩ := h.waiting retry hretry hwaiting
    rw [hrun] at hwaited
    cases hwaited
    exact hunrecorded ⟨hfailed.symm, by rw [hwaiting]; simp⟩
  · intro hflight
    obtain ⟨flying, hflying, hcurrent⟩ := h.inFlight retry hretry hflight
    rw [hrun] at hflying
    cases hflying
    exact hother ⟨hflight, hcurrent⟩

/-- Every chain of the first binding is a chain of the second, with its start and its deadline. -/
def Continues (before after : ProviderRuntimeBinding) : Prop :=
  ∀ record ∈ records before, ∃ later ∈ records after, SameChain record later

theorem Continues.refl (binding : ProviderRuntimeBinding) : Continues binding binding :=
  fun record hrecord => ⟨record, hrecord, SameChain.refl record⟩

theorem Continues.trans {a b c : ProviderRuntimeBinding} (h : Continues a b) (h' : Continues b c) :
    Continues a c := by
  intro record hrecord
  obtain ⟨later, hlater, hsame⟩ := h record hrecord
  obtain ⟨last, hlast, hsame'⟩ := h' later hlater
  exact ⟨last, hlast, hsame.trans hsame'⟩

variable {before after : ProviderRuntimeBinding}

theorem Continues.of_retry (hhistory : after.retryHistory = before.retryHistory)
    (hretry : ∀ retry ∈ before.retry, ∃ next ∈ after.retry, SameChain retry next) : Continues before after := by
  intro record hrecord
  rcases List.mem_append.1 hrecord with hold | hlast
  · refine ⟨record, List.mem_append_left _ ?_, SameChain.refl record⟩
    rw [hhistory]
    exact hold
  · obtain ⟨next, hnext, hsame⟩ := hretry record (Option.mem_toList.1 hlast)
    exact ⟨next, List.mem_append_right _ (Option.mem_toList.2 hnext), hsame⟩

theorem Continues.of_record {retry next : ProviderRetry}
    (hhistory : after.retryHistory = before.retryHistory) (hretry : before.retry = some retry)
    (hnext : after.retry = some next) (hsame : SameChain retry next) : Continues before after := by
  apply Continues.of_retry hhistory
  intro other hother
  rw [hretry] at hother
  cases hother
  exact ⟨next, hnext, hsame⟩

theorem Continues.of_same
    (hhistory : after.retryHistory = before.retryHistory) (hretry : after.retry = before.retry) :
    Continues before after :=
  Continues.of_retry hhistory fun retry hmem => ⟨retry, hretry ▸ hmem, SameChain.refl retry⟩

section

variable [RuntimeHost]

/-- The conjuncts of `validateProviderRetry`. -/
structure ValidRetry (retry : ProviderRetry) : Prop where
  policy : retry.policyVersion = 1
  attempts : 0 ≤ retry.attempts ∧ retry.attempts ≤ retryLimit
  sequence : retry.transportSequence ≤ maxSafeInteger ∧ retry.attempts ≤ retry.transportSequence
  epoch : retry.authorityEpoch.natAbs ≤ maxSafeInteger ∧ 1 ≤ retry.authorityEpoch
  texts : ∀ text ∈ retryTexts retry, text ≠ ""
  times : ∀ time ∈ retryTimes retry, (JsHost.dateParse time).isSome = true
  window : windowDiffers retry = false
  current : ¬ (retry.status = .inFlight ∧ retry.currentAttemptId.getD "" = "")
  input : validateProviderInput retry.input = .ok ()

variable {retry : ProviderRetry}

theorem validRetry_iff : validateProviderRetry retry = .ok () ↔ ValidRetry retry := by
  unfold validateProviderRetry
  simp only [seq_iff, refuse_iff, not_not, not_or, not_lt, not_exists, not_and, Bool.not_eq_true,
    ← Option.isSome_iff_ne_none]
  constructor
  · rintro ⟨h1, h2, h3, h4, h5, h6, h7, h8, h9⟩
    exact ⟨h1, h2, h3, h4, h5, h6, h7, fun hboth => h8 hboth.1 hboth.2, h9⟩
  · rintro ⟨h1, h2, h3, h4, h5, h6, h7, h8, h9⟩
    exact ⟨h1, h2, h3, h4, h5, h6, h7, fun hstatus hcurrent => h8 ⟨hstatus, hcurrent⟩, h9⟩

theorem times_iff : (∀ time ∈ retryTimes retry, (JsHost.dateParse time).isSome = true) ↔
    (JsHost.dateParse retry.startedAt).isSome = true ∧ (JsHost.dateParse retry.intentAt).isSome = true ∧
      (JsHost.dateParse retry.deadline).isSome = true ∧ (JsHost.dateParse retry.nextEligibleAt).isSome = true ∧
      (JsHost.dateParse retry.updatedAt).isSome = true := by
  simp only [retryTimes, List.forall_mem_cons, List.not_mem_nil, false_implies, implies_true, and_true]

theorem times_updated (h : ∀ time ∈ retryTimes retry, (JsHost.dateParse time).isSome = true) {next : ProviderRetry}
    (hstarted : next.startedAt = retry.startedAt) (hintent : next.intentAt = retry.intentAt)
    (hdeadline : next.deadline = retry.deadline) (hnext : (JsHost.dateParse next.nextEligibleAt).isSome = true)
    (hupdated : (JsHost.dateParse next.updatedAt).isSome = true) :
    ∀ time ∈ retryTimes next, (JsHost.dateParse time).isSome = true := by
  rw [times_iff] at h ⊢
  rw [hstarted, hintent, hdeadline]
  exact ⟨h.1, h.2.1, h.2.2.1, hnext, hupdated⟩

theorem ValidRetry.eligible (h : ValidRetry retry) :
    (JsHost.dateParse retry.nextEligibleAt).isSome = true := h.times _ (by simp [retryTimes])

/-- What `checkBinding` asks of the turn. -/
structure ValidTurn (binding : ProviderRuntimeBinding) (turn : ProviderTurn) : Prop where
  checked : validateProviderTurn turn binding.authority.epoch = .ok ()
  input : ∀ input ∈ turn.input, validateProviderInput input = .ok ()
  failure : ∀ failure ∈ turn.failure,
    isStandardAgentError failure.error = true ∧ failure.ref ≠ ""

/-- What `checkBinding` asks of the parts that the retry operations leave alone. -/
structure ValidFrame (binding : ProviderRuntimeBinding) : Prop where
  schema : binding.schemaVersion = 1
  names : checkText binding.providerNamespace "Provider namespace" = .ok () ∧
    checkText binding.accountScope "Provider account scope" = .ok ()
  epoch : integer binding.currentConversationEpoch 1 "Current Provider Conversation epoch" = .ok ()
  conversations : binding.conversations ≠ [] ∧
    checkConversations binding.currentConversationEpoch [] binding.conversations = .ok ()
  current : currentCount binding.conversations = 1
  authority : checkAuthority binding.authority = .ok ()
  goal : ∀ goal ∈ binding.goal, (do
    let _ ← validateProviderGoal goal
    .ok () : Except String Unit) = .ok ()

structure ValidBinding (binding : ProviderRuntimeBinding) : Prop where
  frame : ValidFrame binding
  run : ∀ turn ∈ binding.run, ValidTurn binding turn
  retry : ∀ retry ∈ binding.retry, ValidRetry retry
  history : ∀ retry ∈ binding.retryHistory, ValidRetry retry ∧
    retry.status ≠ .waiting ∧ retry.status ≠ .inFlight

theorem validBinding_iff {binding : ProviderRuntimeBinding} :
    checkBinding binding = .ok () ↔ ValidBinding binding := by
  unfold checkBinding checkRun checkHistory
  simp only [seq_iff, refuse_iff, whenPresent_iff, checkAll_iff, not_not, not_or, validRetry_iff, Bool.not_eq_false]
  constructor
  · rintro ⟨h1, h2, h3, h4, h5, h6, h7, h8, h9, h10, h11, h12, h13⟩
    exact ⟨⟨h1, ⟨h2, h3⟩, h4, ⟨h5, h6⟩, h7, h8, h10⟩,
      fun turn hturn => ⟨h9 turn hturn, (h13 turn hturn).1, (h13 turn hturn).2⟩, h11, h12⟩
  · rintro ⟨⟨h1, ⟨h2, h3⟩, h4, ⟨h5, h6⟩, h7, h8, h10⟩, hturn, h11, h12⟩
    exact ⟨h1, h2, h3, h4, h5, h6, h7, h8, fun turn h => (hturn turn h).checked, h10, h11, h12,
      fun turn h => ⟨(hturn turn h).input, (hturn turn h).failure⟩⟩

theorem conversation_mem {currentEpoch : ℤ} {seen conversations : List ProviderConversation}
    (h : checkConversations currentEpoch seen conversations = .ok ())
    {conversation : ProviderConversation} (hmem : conversation ∈ conversations) :
    conversation.conversationId ≠ "" ∧
      (conversation.status = .current → conversation.epoch = currentEpoch) := by
  induction conversations generalizing seen with
  | nil => cases hmem
  | cons first rest ih =>
    unfold checkConversations at h
    obtain ⟨hfirst, hrest⟩ := seq_iff.1 h
    rcases List.mem_cons.1 hmem with rfl | hlater
    · unfold checkConversation at hfirst
      simp only [seq_iff] at hfirst
      obtain ⟨hid, _, _, _, hstatus⟩ := hfirst
      constructor
      · intro hempty
        rw [hempty] at hid
        cases hid
      · intro hcurrent
        rw [hcurrent] at hstatus
        simp only [seq_iff, refuse_iff, not_not] at hstatus
        exact hstatus.1
    · exact ih hrest hlater

theorem ValidFrame.session {binding : ProviderRuntimeBinding} (h : ValidFrame binding) :
    sessionOf binding ≠ "" := by
  have hexists : ∃ conversation ∈ binding.conversations, conversation.status = .current := by
    have hpos : 0 < currentCount binding.conversations := by
      rw [h.current]
      exact Nat.one_pos
    obtain ⟨conversation, hmem, hstatus⟩ := List.countP_pos_iff.1 hpos
    exact ⟨conversation, hmem, by simpa using hstatus⟩
  obtain ⟨conversation, hmem, hstatus⟩ := hexists
  have hepoch := (conversation_mem h.conversations.2 hmem).2 hstatus
  have hfound : (currentConversation binding).isSome = true := by
    unfold currentConversation
    rw [List.find?_isSome]
    exact ⟨conversation, hmem, by simpa using hepoch⟩
  obtain ⟨found, hfound⟩ := Option.isSome_iff_exists.1 hfound
  have hname := (conversation_mem h.conversations.2 (List.mem_of_find?_eq_some hfound)).1
  unfold sessionOf
  rw [hfound]
  exact hname

theorem ValidFrame.authorityEpoch {binding : ProviderRuntimeBinding} (h : ValidFrame binding) :
    binding.authority.epoch.natAbs ≤ maxSafeInteger ∧ 1 ≤ binding.authority.epoch := by
  have hauthority := h.authority
  unfold checkAuthority integer at hauthority
  simp only [seq_iff, refuse_iff, not_not] at hauthority
  exact hauthority.1

theorem ValidTurn.attempt {binding : ProviderRuntimeBinding} {turn : ProviderTurn}
    (h : ValidTurn binding turn) : turn.attemptId ≠ "" := by
  have hchecked := h.checked
  unfold validateProviderTurn at hchecked
  simp only [seq_iff] at hchecked
  intro hempty
  rw [hempty] at hchecked
  exact absurd hchecked.2.1 (by decide)

/-- A valid binding whose turn has times as they were printed. -/
structure Sound (binding : ProviderRuntimeBinding) : Prop where
  valid : ValidBinding binding
  times : ∀ turn ∈ binding.run, (JsHost.dateParse turn.submittedAt).isSome = true ∧
    (JsHost.dateParse turn.updatedAt).isSome = true

variable {binding result : ProviderRuntimeBinding}

theorem Sound.withRetry (h : Sound binding) (hvalid : ValidRetry retry) :
    Sound { binding with retry := some retry } := by
  refine ⟨⟨⟨h.valid.frame.1, h.valid.frame.2, h.valid.frame.3, h.valid.frame.4, h.valid.frame.5,
    h.valid.frame.6, h.valid.frame.7⟩, fun turn hturn => ?_, ?_, h.valid.history⟩, h.times⟩
  · exact ⟨(h.valid.run turn hturn).checked, (h.valid.run turn hturn).input, (h.valid.run turn hturn).failure⟩
  · intro other hother
    cases hother
    exact hvalid

theorem Sound.withFailure (h : Sound binding) {turn : ProviderTurn} (hrun : binding.run = some turn)
    (input : FailureInput) : Sound { binding with run := some (ProviderTurn.withFailure turn input) } := by
  refine ⟨⟨⟨h.valid.frame.1, h.valid.frame.2, h.valid.frame.3, h.valid.frame.4, h.valid.frame.5,
    h.valid.frame.6, h.valid.frame.7⟩, ?_, h.valid.retry, h.valid.history⟩, ?_⟩
  · intro other hother
    cases hother
    have hvalid := h.valid.run turn hrun
    refine ⟨hvalid.checked, hvalid.input, ?_⟩
    intro failure hfailure
    cases hfailure
    exact ⟨input.standard, input.named⟩
  · intro other hother
    cases hother
    exact h.times turn hrun

theorem Sound.turnMove (h : Sound binding) (hmove : TurnMove binding result) : Sound result := by
  cases hmove with
  | same => exact h
  | @turn turn next hrun hattempt hid hsubmitted hparses hchecked =>
    refine ⟨validBinding_iff.1 hchecked, ?_⟩
    intro other hother
    cases hother
    exact ⟨hsubmitted ▸ (h.times turn hrun).1, hparses⟩
  | @recovered turn retry next hrun hattempt hid hsubmitted hparses hchecked hretry hcurrent =>
    have hsound : Sound { binding with run := some next } := by
      refine ⟨validBinding_iff.1 hchecked, ?_⟩
      intro other hother
      cases hother
      exact ⟨hsubmitted ▸ (h.times turn hrun).1, hparses⟩
    have hvalid := h.valid.retry retry hretry
    apply hsound.withRetry
    refine ⟨hvalid.policy, hvalid.attempts, hvalid.sequence, hvalid.epoch, hvalid.texts, ?_,
      hvalid.window, by simp, hvalid.input⟩
    exact times_updated hvalid.times rfl rfl rfl hvalid.eligible hparses

theorem Sound.stopped (h : Sound binding) (hstop : Stopped binding result) : Sound result := by
  cases hstop with
  | same hidle => exact h
  | @cancelled retry reason updatedAt hretry hpending hparses =>
    have hvalid := h.valid.retry retry hretry
    apply h.withRetry
    refine ⟨hvalid.policy, hvalid.attempts, hvalid.sequence, hvalid.epoch, hvalid.texts, ?_,
      hvalid.window, by simp, hvalid.input⟩
    exact times_updated hvalid.times rfl rfl rfl hvalid.eligible hparses

theorem Sound.withDisabled (h : Sound binding) (disabled : Option Bool) :
    Sound { binding with retryDisabled := disabled } :=
  ⟨⟨⟨h.valid.frame.1, h.valid.frame.2, h.valid.frame.3, h.valid.frame.4, h.valid.frame.5,
    h.valid.frame.6, h.valid.frame.7⟩, fun turn hturn => ⟨(h.valid.run turn hturn).checked,
      (h.valid.run turn hturn).input, (h.valid.run turn hturn).failure⟩, h.valid.retry,
    h.valid.history⟩, h.times⟩

theorem Begun.sound {runId : Option String} {attemptId : String}
    (h : Begun binding runId attemptId result) : Sound result := by
  cases h with
  | begun turn hreleased hidle hattempt hstatus hid hparses hupdated hchecked =>
    refine ⟨validBinding_iff.1 hchecked, ?_⟩
    intro other hother
    cases hother
    exact ⟨hparses, hupdated ▸ hparses⟩

variable {input : BeginInput}

theorem Sound.begin (h : Sound binding) (hbegin : beginProviderTurn binding input = .ok result) : Sound result := by
  rcases begin_begun hbegin with ⟨_, rfl⟩ | ⟨_, hbegun⟩
  · exact h
  · exact hbegun.sound

variable {ledger : Ledger}

variable {time : ℤ}

theorem Sound.submitted (h : Accounted ledger) {admitted : ProviderRuntimeBinding}
    (hretry : ledger.binding.retry = some retry)
    (hadmission : admitProviderRetry ledger.binding (providerRetryAttemptId retry) time = .ok admitted)
    (hbegin : beginProviderTurn admitted { input with attemptId := providerRetryAttemptId retry } =
      .ok result) : Sound result := by
  obtain ⟨_, updatedAt, turn, _, hsubmitted, hupdated, hchecked, rfl⟩ := submission_begun h hretry hadmission hbegin
  refine ⟨validBinding_iff.1 hchecked, ?_⟩
  intro other hother
  cases hother
  exact ⟨hsubmitted, hupdated ▸ hsubmitted⟩

theorem ValidRetry.of_accounted (h : Accounted ledger)
    (hretry : ledger.binding.retry = some retry) (hpolicy : retry.policyVersion = 1)
    (hsequence : retry.transportSequence ≤ maxSafeInteger)
    (hepoch : retry.authorityEpoch.natAbs ≤ maxSafeInteger ∧ 1 ≤ retry.authorityEpoch)
    (htexts : ∀ text ∈ retryTexts retry, text ≠ "")
    (htimes : ∀ time ∈ retryTimes retry, (JsHost.dateParse time).isSome = true)
    (hidle : retry.status ≠ .inFlight) (hinput : validateProviderInput retry.input = .ok ()) :
    ValidRetry retry := by
  have hmem := mem_records_of_retry hretry
  obtain ⟨hleast, hmost, hcount⟩ := h.balanced.bounded retry hmem
  exact ⟨hpolicy, ⟨hleast, hmost⟩, ⟨hsequence, hcount⟩, hepoch, htexts, htimes,
    h.balanced.window retry hmem, fun hboth => hidle hboth.1, hinput⟩

theorem iso_isSome {text : String} (h : iso time = .ok text) : (JsHost.dateParse text).isSome = true := by
  rw [iso_parses h]
  rfl

theorem Sound.defer (h : Sound ledger.binding) (haccounted : Accounted ledger)
    {reason : Option String} (hdefer : deferProviderRetry ledger.binding time reason = .ok result) :
    Sound result := by
  have hafter := haccounted.defer hdefer
  unfold deferProviderRetry at hdefer
  split at hdefer
  · next retry turn hretry hrun =>
      split_ifs at hdefer with hflight
      · obtain ⟨nextEligibleAt, hnext, updatedAt, hupdated, hok⟩ := bind_ok₂ hdefer
        injection hok with hok
        subst hok
        have hvalid := h.valid.retry retry hretry
        have htexts := texts_iff.1 hvalid.texts
        apply h.withRetry
        apply ValidRetry.of_accounted hafter rfl hvalid.policy hvalid.sequence.1 hvalid.epoch
        · exact texts_iff.2 ⟨htexts.1, htexts.2.1, (h.valid.run turn hrun).attempt, htexts.2.2.2⟩
        · exact times_updated hvalid.times rfl rfl rfl (iso_isSome hnext) (iso_isSome hupdated)
        · simp only [deferredRetry]
          split_ifs <;> simp
        · exact hvalid.input
      · injection hdefer with hdefer
        subst hdefer
        exact h
  · injection hdefer with hdefer
    subst hdefer
    exact h

theorem Sound.control (h : Sound binding) {action : RetryAction}
    (hcontrol : controlProviderRetry binding action time = .ok result) : Sound result := by
  cases action with
  | enable =>
    injection hcontrol with hcontrol
    subst hcontrol
    exact h.withDisabled _
  | cancel => exact h.stopped (cancel_stopped hcontrol)
  | disable =>
    obtain ⟨stopped, hstop, hok⟩ := bind_ok hcontrol
    injection hok with hok
    subst hok
    exact (h.stopped (cancel_stopped hstop)).withDisabled _

theorem Sound.withHistory (h : Sound binding)
    (hended : ∀ retry ∈ binding.retry, retry.status ≠ .waiting ∧ retry.status ≠ .inFlight) :
    Sound { binding with retryHistory := binding.retryHistory ++ binding.retry.toList } := by
  refine ⟨⟨⟨h.valid.frame.1, h.valid.frame.2, h.valid.frame.3, h.valid.frame.4, h.valid.frame.5,
    h.valid.frame.6, h.valid.frame.7⟩, fun turn hturn => ⟨(h.valid.run turn hturn).checked,
      (h.valid.run turn hturn).input, (h.valid.run turn hturn).failure⟩, h.valid.retry, ?_⟩, h.times⟩
  intro retry hmem
  rcases List.mem_append.1 hmem with hold | hlast
  · exact h.valid.history retry hold
  · have hretry := Option.mem_toList.1 hlast
    exact ⟨h.valid.retry retry hretry, hended retry hretry⟩

theorem Sound.fail (h : Sound ledger.binding) (haccounted : Accounted ledger) {input : FailureInput}
    (hfail : recordProviderFailure ledger.binding input = .ok result) : Sound result := by
  have hafter := haccounted.fail hfail
  have hfailed := recordProviderFailure_failed hfail
  generalize hevents : refundOf ledger.binding input = events at hfailed hafter
  cases hfailed with
  | same => exact h
  | noted hrun => exact h.withFailure hrun input
  | @stopped turn retry reason updatedAt hrun hretry hunrecorded hparses =>
    have hvalid := h.valid.retry retry hretry
    have htexts := texts_iff.1 hvalid.texts
    apply (h.withFailure hrun input).withRetry
    refine ⟨hvalid.policy, hvalid.attempts, hvalid.sequence, hvalid.epoch, ?_, ?_, hvalid.window,
      by simp [stoppedRetry], hvalid.input⟩
    · exact texts_iff.2 ⟨htexts.1, htexts.2.1, (h.valid.run turn hrun).attempt, input.named⟩
    · exact times_updated hvalid.times rfl rfl rfl hvalid.eligible hparses
  | @continued turn retry current next hrun hretry hstatus hcurrent hcontinued hnext =>
    have hvalid := h.valid.retry retry hretry
    have htexts := texts_iff.1 hvalid.texts
    obtain ⟨now, hnow, hok⟩ := bind_ok hcontinued
    injection hok with hok
    obtain ⟨nextEligibleAt, status, reason, hscheduled, helig, hidle, _⟩ := scheduledRetry_ok hnext
    subst hok
    subst hscheduled
    apply (h.withFailure hrun input).withRetry
    apply ValidRetry.of_accounted hafter rfl rfl hvalid.sequence.1 h.valid.frame.authorityEpoch
    · exact texts_iff.2 ⟨htexts.1, h.valid.frame.session, (h.valid.run turn hrun).attempt, input.named⟩
    · exact times_updated hvalid.times rfl rfl rfl helig (iso_isSome hnow)
    · exact hidle
    · exact hvalid.input
  | @opened turn owned current next hrun howned hunrecorded hopened hnext =>
    have hturn := h.valid.run turn hrun
    obtain ⟨now, hnow, deadline, hdeadline, hok⟩ := bind_ok₂ hopened
    injection hok with hok
    obtain ⟨nextEligibleAt, status, reason, hscheduled, helig, hidle, _⟩ := scheduledRetry_ok hnext
    subst hok
    subst hscheduled
    have hhistory := (h.withFailure hrun input).withHistory fun retry hretry =>
      haccounted.placed.ended hrun hretry (hunrecorded retry hretry).1 (hunrecorded retry hretry).2
    apply hhistory.withRetry
    apply ValidRetry.of_accounted hafter rfl rfl (Nat.zero_le _) h.valid.frame.authorityEpoch
    · exact texts_iff.2 ⟨hturn.attempt, h.valid.frame.session, hturn.attempt, input.named⟩
    · exact times_iff.2 ⟨iso_isSome hnow, (h.times turn hrun).1, iso_isSome hdeadline, helig, iso_isSome hnow⟩
    · exact hidle
    · exact hturn.input owned howned

theorem TurnMove.continues (h : TurnMove binding result) : Continues binding result := by
  cases h with
  | same => exact Continues.refl binding
  | turn next hrun => exact Continues.of_same rfl rfl
  | recovered next hrun hattempt hid hsubmitted hparses hchecked hretry hcurrent =>
    exact Continues.of_record rfl hretry rfl ⟨rfl, rfl, rfl, le_refl _⟩

theorem Stopped.continues (h : Stopped binding result) : Continues binding result := by
  cases h with
  | same hidle => exact Continues.refl binding
  | cancelled reason updatedAt hretry hpending hparses =>
    exact Continues.of_record rfl hretry rfl ⟨rfl, rfl, rfl, le_refl _⟩

theorem Begun.continues {runId : Option String} {attemptId : String}
    (h : Begun binding runId attemptId result) : Continues binding result := by
  cases h with
  | @begun released turn hreleased =>
    have hturn : Continues released { released with run := some turn } := Continues.of_same rfl rfl
    rcases hreleased with ⟨_, rfl⟩ | ⟨_, hstop⟩
    · exact hturn
    · exact hstop.continues.trans hturn

theorem begin_continues (h : beginProviderTurn binding input = .ok result) : Continues binding result := by
  rcases begin_begun h with ⟨_, rfl⟩ | ⟨_, hbegun⟩
  · exact Continues.refl result
  · exact hbegun.continues

theorem fail_continues {input : FailureInput} (h : recordProviderFailure binding input = .ok result) :
    Continues binding result := by
  have hfailed := recordProviderFailure_failed h
  generalize refundOf binding input = events at hfailed
  cases hfailed with
  | same => exact Continues.refl binding
  | noted hrun => exact Continues.of_same rfl rfl
  | stopped reason updatedAt hrun hretry =>
    exact Continues.of_record rfl hretry rfl ⟨rfl, rfl, rfl, le_refl _⟩
  | continued hrun hretry hstatus hcurrent hcontinued hnext =>
    obtain ⟨hchain, hstarted, hdeadline, hsequence, _⟩ := continuedRetry_ok hcontinued
    obtain ⟨nextEligibleAt, status, reason, hscheduled, _⟩ := scheduledRetry_ok hnext
    subst hscheduled
    exact Continues.of_record rfl hretry rfl ⟨hchain, hstarted, hdeadline, hsequence.ge⟩
  | opened =>
    intro record hrecord
    exact ⟨record, List.mem_append_left _ hrecord, SameChain.refl record⟩

theorem defer_continues {reason : Option String}
    (h : deferProviderRetry binding time reason = .ok result) : Continues binding result := by
  unfold deferProviderRetry at h
  split at h
  · next retry turn hretry hrun =>
      split_ifs at h with hflight
      · obtain ⟨nextEligibleAt, _, updatedAt, _, hok⟩ := bind_ok₂ h
        injection hok with hok
        subst hok
        exact Continues.of_record rfl hretry rfl ⟨rfl, rfl, rfl, le_refl _⟩
      · injection h with h
        subst h
        exact Continues.refl binding
  · injection h with h
    subst h
    exact Continues.refl binding

theorem control_continues {action : RetryAction}
    (h : controlProviderRetry binding action time = .ok result) : Continues binding result := by
  cases action with
  | enable =>
    injection h with h
    subst h
    exact Continues.of_same rfl rfl
  | cancel => exact (cancel_stopped h).continues
  | disable =>
    obtain ⟨stopped, hstop, hok⟩ := bind_ok h
    injection hok with hok
    subst hok
    exact (cancel_stopped hstop).continues.trans (Continues.of_same rfl rfl)

theorem Sound.of_op (h : Sound ledger.binding) (hkept : Kept ledger) {op : RetryOp}
    (hop : op.isCommand = false) {next : Ledger} (happly : op.apply ledger = .ok next) :
    Sound next.binding ∧ Continues ledger.binding next.binding := by
  cases op with
  | begin input =>
    obtain ⟨binding, hbegin, hok⟩ := bind_ok happly
    cases hok
    exact ⟨h.begin hbegin, begin_continues hbegin⟩
  | accept input =>
    obtain ⟨binding, haccept, hok⟩ := bind_ok happly
    cases hok
    have hmove := accept_turnMove haccept
    exact ⟨h.turnMove hmove, hmove.continues⟩
  | markUnknown input =>
    obtain ⟨binding, hmark, hok⟩ := bind_ok happly
    cases hok
    have hmove := markUnknown_turnMove hmark
    exact ⟨h.turnMove hmove, hmove.continues⟩
  | settleSubmission status input =>
    obtain ⟨binding, hsettle, hok⟩ := bind_ok happly
    cases hok
    have hmove := settleSubmission_turnMove hsettle
    exact ⟨h.turnMove hmove, hmove.continues⟩
  | settle input =>
    obtain ⟨binding, hsettle, hok⟩ := bind_ok happly
    cases hok
    have hmove := settle_turnMove hsettle
    exact ⟨h.turnMove hmove, hmove.continues⟩
  | fail input =>
    obtain ⟨binding, hfail, hok⟩ := bind_ok happly
    cases hok
    exact ⟨h.fail hkept.accounted hfail, fail_continues hfail⟩
  | submit time input =>
    simp only [RetryOp.apply] at happly
    split at happly
    · cases happly
    · next retry hretry =>
        obtain ⟨admitted, hadmission, binding, hbegin, hok⟩ := bind_ok₂ happly
        cases hok
        obtain ⟨_, updatedAt, turn, _, _, _, _, hbinding⟩ := submission_begun hkept.accounted hretry hadmission hbegin
        refine ⟨Sound.submitted hkept.accounted hretry hadmission hbegin, ?_⟩
        rw [hbinding]
        exact Continues.of_record rfl hretry rfl ⟨rfl, rfl, rfl, by simp [submittedRetry]⟩
  | defer time reason =>
    obtain ⟨binding, hdefer, hok⟩ := bind_ok happly
    cases hok
    exact ⟨h.defer hkept.accounted hdefer, defer_continues hdefer⟩
  | cancel reason time =>
    obtain ⟨binding, hcancel, hok⟩ := bind_ok happly
    cases hok
    have hstop := cancel_stopped hcancel
    exact ⟨h.stopped hstop, hstop.continues⟩
  | control action time =>
    obtain ⟨binding, hcontrol, hok⟩ := bind_ok happly
    cases hok
    exact ⟨h.control hcontrol, control_continues hcontrol⟩
  | manual => cases hop
  | resume => cases hop

/-- An operation of the turns whose explicit input has an attempt id of its own. -/
def Allowed (ledger : Ledger) (op : RetryOp) : Prop := op.isCommand = false ∧ Fresh ledger op

structure Closed (ledger : Ledger) : Prop where
  kept : Kept ledger
  sound : Sound ledger.binding

theorem Closed.start {input : CreateInput} (h : createProviderRuntimeBinding input = .ok binding) :
    Closed (Ledger.start binding) := by
  obtain ⟨hrun, _, _, hchecked⟩ := create_parts h
  refine ⟨Kept.start h, validBinding_iff.1 hchecked, ?_⟩
  intro turn hturn
  rw [Ledger.start, hrun] at hturn
  cases hturn

theorem Closed.run {ledger : Ledger} (h : Closed ledger) {ops : List RetryOp}
    (hallowed : Along RetryOp.apply Allowed ledger ops) : Closed (run RetryOp.apply ledger ops) ∧
      Continues ledger.binding (run RetryOp.apply ledger ops).binding := by
  apply run_relates (R := fun before after : Ledger => Continues before.binding after.binding)
    (fun before _ => Continues.refl before.binding) (fun _ _ _ => Continues.trans) ?_ h hallowed
  intro before op after hbefore hop happly
  obtain ⟨hsound, hcontinues⟩ := hbefore.sound.of_op hbefore.kept hop.1 happly
  exact ⟨⟨hbefore.kept.of_op hop.2 happly, hsound⟩, hcontinues⟩

/-- A run of the turn operations keeps the books of its retry chains: every binding it reaches is valid,
the counters stay in their bounds, a chain keeps its deadline, the history schedules nothing, and no two
submissions share an attempt id. -/
theorem retry_books_closed {input : CreateInput} {binding : ProviderRuntimeBinding}
    (hcreate : createProviderRuntimeBinding input = .ok binding) (ops more : List RetryOp)
    (hallowed : Along RetryOp.apply Allowed (Ledger.start binding) (ops ++ more)) :
    validateProviderRuntimeBinding (ledgerAfter binding ops).binding = .ok (ledgerAfter binding ops).binding ∧
      (∀ record ∈ records (ledgerAfter binding ops).binding,
        0 ≤ record.attempts ∧ record.attempts ≤ 5 ∧ record.attempts ≤ record.transportSequence) ∧
      (∀ record ∈ records (ledgerAfter binding ops).binding,
        ∀ later ∈ records (ledgerAfter binding (ops ++ more)).binding,
          later.chainId = record.chainId → later.deadline = record.deadline) ∧
      (∀ record ∈ (ledgerAfter binding ops).binding.retryHistory,
        record.status ≠ .waiting ∧ record.status ≠ .inFlight) ∧
      (submittedIds (ledgerAfter binding ops).log).Nodup := by
  obtain ⟨hfirst, hlast⟩ := along_append.1 hallowed
  have hreached : Closed (ledgerAfter binding ops) := ((Closed.start hcreate).run hfirst).1
  obtain ⟨hend, hcontinues⟩ := hreached.run hlast
  have hlater : run RetryOp.apply (ledgerAfter binding ops) more = ledgerAfter binding (ops ++ more) :=
    (run_append _ ops more).symm
  rw [hlater] at hend hcontinues
  refine ⟨?_, hreached.kept.accounted.balanced.bounded, ?_,
    fun record hrecord => (hreached.sound.valid.history record hrecord).2,
    hreached.kept.accounted.balanced.distinct⟩
  · unfold validateProviderRuntimeBinding
    rw [validBinding_iff.2 hreached.sound.valid]
    rfl
  · intro record hrecord later hlater hchain
    obtain ⟨next, hnext, hsame⟩ := hcontinues record hrecord
    have hnextIs : later = next := by
      apply List.inj_on_of_nodup_map hend.kept.accounted.balanced.nodup hlater hnext
      rw [hchain, hsame.chainId]
    rw [hnextIs]
    exact hsame.deadline

end

theorem retry_books_closed_retried :
    let _ := sampleRetryHost
    createProviderRuntimeBinding sampleCreate = .ok sampleBinding ∧
      validateProviderRuntimeBinding (ledgerAfter sampleBinding retriedOps).binding =
        .ok (ledgerAfter sampleBinding retriedOps).binding ∧
      (∀ record ∈ records (ledgerAfter sampleBinding retriedOps).binding,
        0 ≤ record.attempts ∧ record.attempts ≤ 5 ∧ record.attempts ≤ record.transportSequence) ∧
      (∀ record ∈ records (ledgerAfter sampleBinding retriedOps).binding,
        ∀ later ∈ records (ledgerAfter sampleBinding
          (retriedOps ++ [.cancel "user-cancel" 1767600005000])).binding,
          later.chainId = record.chainId → later.deadline = record.deadline) ∧
      (∀ record ∈ (ledgerAfter sampleBinding retriedOps).binding.retryHistory,
        record.status ≠ .waiting ∧ record.status ≠ .inFlight) ∧
      (submittedIds (ledgerAfter sampleBinding retriedOps).log).Nodup := by
  intro host
  have hcreated : createProviderRuntimeBinding sampleCreate = .ok sampleBinding := sampleBinding_created
  have hfirst : Fresh (Ledger.start sampleBinding) (.begin (sampleBegin "a" sampleInstant)) :=
    .inr ⟨by simp [Ledger.start], by rfl⟩
  have hallowed : Along RetryOp.apply Allowed (Ledger.start sampleBinding)
      (retriedOps ++ [.cancel "user-cancel" 1767600005000]) :=
    ⟨⟨rfl, hfirst⟩, ⟨rfl, trivial⟩, ⟨rfl, trivial⟩, ⟨rfl, trivial⟩, ⟨rfl, trivial⟩, ⟨rfl, trivial⟩,
      trivial⟩
  exact ⟨hcreated, retry_books_closed hcreated retriedOps _ hallowed⟩

/-- An explicit input that repeats an old attempt id opens the old chain anew, and the chain gives out
an attempt id that it gave out before. -/
theorem repeated_attempt_id :
    let _ := sampleRetryHost
    createProviderRuntimeBinding sampleCreate = .ok sampleBinding ∧
      ¬ ∀ ops : List RetryOp, (∀ op ∈ ops, op.isCommand = false) →
        (submittedIds (ledgerAfter sampleBinding ops).log).Nodup := by
  intro host
  obtain ⟨hcreated, hlog⟩ := reused_log
  refine ⟨hcreated, fun hclaim => ?_⟩
  have hdistinct := hclaim reusedOps (by decide +kernel)
  rw [hlog] at hdistinct
  revert hdistinct
  decide +kernel

end Binding
