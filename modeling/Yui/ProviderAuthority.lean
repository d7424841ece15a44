import Yui.ProviderBinding

/-!
# One writer under a monotone authority

Every operation on a binding moves it in one of six ways. The authority and the current conversation
move only while no turn is under way, a turn that is under way has the epoch of the authority, and a
settled turn is only replaced.
-/

open JsText Checked FallibleRun

namespace Binding

inductive BindingOp where
  | transfer (input : TransferInput)
  | begin (input : BeginInput)
  | accept (input : AcceptInput)
  | markUnknown (input : OutcomeInput)
  | reject (input : OutcomeInput)
  | settleSubmission (status : SubmissionStatus) (input : OutcomeInput)
  | settle (input : SettleInput)
  | cancelInput (input : OutcomeInput)
  | recoverability (value : ConversationRecoverability)
  | goal (goal : ProviderGoal)
  | clearGoal
  | supersede (conversationId switchedAt : String)

/-- The operations that hand the authority on. -/
def BindingOp.raisesEpoch : BindingOp → Bool
  | .transfer _ | .supersede _ _ => true
  | _ => false

def BindingOp.begins : BindingOp → Bool
  | .begin _ => true
  | _ => false

def BindingOp.apply [RuntimeHost] (binding : ProviderRuntimeBinding) :
    BindingOp → Except String ProviderRuntimeBinding
  | .transfer input => transferProviderAuthority binding input
  | .begin input => beginProviderTurn binding input
  | .accept input => acceptProviderTurn binding input
  | .markUnknown input => markProviderTurnDeliveryUnknown binding input
  | .reject input => rejectProviderTurn binding input
  | .settleSubmission status input => settleProviderTurnSubmission binding status input
  | .settle input => settleProviderTurn binding input
  | .cancelInput input => cancelQuiescentProviderInput binding input
  | .recoverability value => updateProviderConversationRecoverability binding value
  | .goal value => updateProviderGoal binding value
  | .clearGoal => clearProviderGoal binding
  | .supersede conversationId switchedAt =>
    supersedeProviderConversation binding conversationId switchedAt

variable (conversations : List ProviderConversation)

def superseded (current : ProviderConversation)
    (switchedAt conversationId : String) : List ProviderConversation :=
  (conversations.map fun entry => if entry.epoch = current.epoch then
    { entry with status := .superseded, supersededAt := some switchedAt } else entry) ++
    [⟨conversationId, current.epoch + 1, .current, .unknown, switchedAt, none⟩]

def recovered (current : ProviderConversation)
    (recoverability : ConversationRecoverability) : List ProviderConversation :=
  conversations.map fun entry => if entry.epoch = current.epoch then
    { entry with recoverability := recoverability } else entry

/-- The ways in which an operation moves a binding; the flag tells a submission. -/
inductive Moves (submits : Bool) (before : ProviderRuntimeBinding) : ProviderRuntimeBinding → Prop where
  | kept (goal : Option ProviderGoal) : Moves submits before { before with goal := goal }
  | turn {run : ProviderTurn} (next : ProviderTurn) (retry : Option ProviderRetry)
      (hrun : before.run = some run) (hactive : providerTurnIsActive before.run = true)
      (hattempt : next.attemptId = run.attemptId) (hepoch : next.authorityEpoch = run.authorityEpoch) :
      Moves submits before { before with run := some next, retry := retry }
  | begins (next : ProviderTurn) (retry : Option ProviderRetry) (hsubmits : submits = true)
      (hidle : providerTurnIsActive before.run = false)
      (hepoch : next.authorityEpoch = before.authority.epoch) (hstatus : next.status = .submitting) :
      Moves submits before { before with run := some next, retry := retry }
  | transfers (authority : ProviderAuthority) (hidle : providerTurnIsActive before.run = false)
      (hepoch : authority.epoch = before.authority.epoch + 1) :
      Moves submits before { before with authority := authority }
  | recovers {current : ProviderConversation} (recoverability : ConversationRecoverability)
      (hcurrent : currentEntry before = some current) :
      Moves submits before { before with
        conversations := recovered before.conversations current recoverability }
  | supersedes {current : ProviderConversation} (switchedAt conversationId : String)
      (hcurrent : currentEntry before = some current)
      (hidle : providerTurnIsActive before.run = false) :
      Moves submits before { before with
        currentConversationEpoch := current.epoch + 1
        conversations := superseded before.conversations current switchedAt conversationId
        authority := ⟨before.authority.epoch + 1, .controller, some "controller", switchedAt⟩
        goal := none }

theorem turnOf_ok {binding : ProviderRuntimeBinding} {attemptId message : String}
    {accepts : ProviderTurnStatus → Bool} {run : ProviderTurn}
    (h : turnOf binding attemptId message accepts = .ok run) :
    binding.run = some run ∧ run.attemptId = attemptId ∧ accepts run.status = true := by
  unfold turnOf at h
  split at h
  · cases h
  · next found hfound =>
      split_ifs at h with hmatch
      cases h
      exact ⟨hfound, hmatch⟩

theorem active_of_unanswered {run : ProviderTurn} (h : isUnanswered run.status = true) :
    providerTurnIsActive (some run) = true := by
  unfold isUnanswered at h
  split at h <;> simp_all [providerTurnIsActive]

section

variable [RuntimeHost] {submits : Bool} {binding result : ProviderRuntimeBinding}

theorem validate_ok (h : validateProviderRuntimeBinding binding = .ok result) :
    result = binding ∧ checkBinding binding = .ok () := by
  obtain ⟨_, hcheck, h⟩ := bind_ok h
  cases h
  exact ⟨rfl, hcheck⟩

theorem current_of_check (h : checkBinding binding = .ok ()) : currentCount binding.conversations = 1 := by
  unfold checkBinding at h
  simp only [seq_iff, refuse_iff, not_not] at h
  exact h.2.2.2.2.2.2.1

/-- An operation that validates its argument and its result. -/
structure Validated (submits : Bool) (before after : ProviderRuntimeBinding) : Prop where
  checked : checkBinding before = .ok ()
  current : currentCount after.conversations = 1
  moves : Moves submits before after

theorem Validated.same (h : checkBinding binding = .ok ()) : Validated submits binding binding :=
  ⟨h, current_of_check h, .kept binding.goal⟩

theorem validated_turn {run next : ProviderTurn} (hbefore : checkBinding binding = .ok ())
    (hrun : binding.run = some run)
    (h : validateProviderRuntimeBinding { binding with run := some next } = .ok result)
    (hactive : providerTurnIsActive (some run) = true) (hattempt : next.attemptId = run.attemptId)
    (hepoch : next.authorityEpoch = run.authorityEpoch) : Validated submits binding result := by
  obtain ⟨rfl, hcheck⟩ := validate_ok h
  exact ⟨hbefore, current_of_check hcheck, .turn next binding.retry hrun (hrun ▸ hactive) hattempt hepoch⟩

theorem transfer_validated {input : TransferInput} (h : transferProviderAuthority binding input = .ok result) :
    Validated submits binding result ∧ result.authority.epoch = binding.authority.epoch + 1 := by
  unfold transferProviderAuthority at h
  obtain ⟨current, hcurrent, hrest⟩ := bind_ok h
  clear h
  obtain ⟨rfl, hcheck⟩ := validate_ok hcurrent
  obtain ⟨_, _, _, hidle, hrest⟩ := bind_ok₂ hrest
  iterate 3 obtain ⟨_, _, hrest⟩ := bind_ok hrest
  obtain ⟨rfl, hresult⟩ := validate_ok hrest
  exact ⟨⟨hcheck, current_of_check hresult, .transfers _ (by simpa using refuse_ok hidle) rfl⟩, rfl⟩

theorem cancelProviderRetry_keeps {reason : String} {time : ℤ}
    (h : cancelProviderRetry binding reason time = .ok result) :
    ∃ retry, result = { binding with retry := retry } := by
  unfold cancelProviderRetry at h
  split_ifs at h with hpending
  · obtain ⟨updatedAt, _, h⟩ := bind_ok h
    cases h
    exact ⟨_, rfl⟩
  · cases h
    exact ⟨binding.retry, rfl⟩

theorem releaseRetry_keeps {attemptId submittedAt : String}
    (h : releaseRetry binding attemptId submittedAt = .ok result) :
    ∃ retry, result = { binding with retry := retry } := by
  unfold releaseRetry at h
  split_ifs at h with hother
  · split at h
    · cases h
    · exact cancelProviderRetry_keeps h
  · cases h
    exact ⟨binding.retry, rfl⟩

theorem begin_validated {input : BeginInput} (h : beginProviderTurn binding input = .ok result) :
    Validated true binding result := by
  unfold beginProviderTurn at h
  obtain ⟨current, hcurrent, hrest⟩ := bind_ok h
  clear h
  obtain ⟨rfl, hcheck⟩ := validate_ok hcurrent
  obtain ⟨attemptId, _, runId, _, hrest⟩ := bind_ok₂ hrest
  split_ifs at hrest with hreplay
  · cases hrest
    exact .same hcheck
  · unfold submitTurn at hrest
    obtain ⟨_, hfence, _, hidle, submittedAt, _, released, hreleased, hrest⟩ := bind_ok₄ hrest
    obtain ⟨retry, rfl⟩ := releaseRetry_keeps hreleased
    obtain ⟨rfl, hresult⟩ := validate_ok hrest
    have hepoch := refuse_ok hfence
    rw [not_or, not_not] at hepoch
    exact ⟨hcheck, current_of_check hresult, .begins _ retry rfl (by simpa using refuse_ok hidle) hepoch.1.symm rfl⟩

theorem accept_validated {input : AcceptInput} (h : acceptProviderTurn binding input = .ok result) :
    Validated submits binding result := by
  unfold acceptProviderTurn at h
  obtain ⟨current, hcurrent, hrest⟩ := bind_ok h
  clear h
  obtain ⟨rfl, hcheck⟩ := validate_ok hcurrent
  obtain ⟨_, _, run, hrun, _, _, _, _, hrest⟩ := bind_ok₄ hrest
  obtain ⟨hrun, _, hstatus⟩ := turnOf_ok hrun
  exact validated_turn hcheck hrun hrest (active_of_unanswered hstatus) rfl rfl

variable {input : OutcomeInput}

theorem markUnknown_validated
    (h : markProviderTurnDeliveryUnknown binding input = .ok result) : Validated submits binding result := by
  unfold markProviderTurnDeliveryUnknown at h
  obtain ⟨current, hcurrent, hrest⟩ := bind_ok h
  clear h
  obtain ⟨rfl, hcheck⟩ := validate_ok hcurrent
  obtain ⟨_, _, run, hrun, _, _, _, _, hrest⟩ := bind_ok₄ hrest
  obtain ⟨hrun, _, hstatus⟩ := turnOf_ok hrun
  have hactive : providerTurnIsActive (some run) = true := by simp_all [providerTurnIsActive]
  exact validated_turn hcheck hrun hrest hactive rfl rfl

theorem reject_validated (h : rejectProviderTurn binding input = .ok result) : Validated submits binding result := by
  unfold rejectProviderTurn at h
  obtain ⟨current, hcurrent, hrest⟩ := bind_ok h
  clear h
  obtain ⟨rfl, hcheck⟩ := validate_ok hcurrent
  obtain ⟨_, _, run, hrun, _, _, _, _, hrest⟩ := bind_ok₄ hrest
  obtain ⟨hrun, _, hstatus⟩ := turnOf_ok hrun
  exact validated_turn hcheck hrun hrest (active_of_unanswered hstatus) rfl rfl

theorem settleSubmission_validated {status : SubmissionStatus}
    (h : settleProviderTurnSubmission binding status input = .ok result) : Validated submits binding result := by
  unfold settleProviderTurnSubmission at h
  obtain ⟨current, hcurrent, hrest⟩ := bind_ok h
  clear h
  obtain ⟨rfl, hcheck⟩ := validate_ok hcurrent
  obtain ⟨attemptId, _, run, hrun, hrest⟩ := bind_ok₂ hrest
  obtain ⟨hrun, _⟩ := turnOf_ok hrun
  split_ifs at hrest with hsame hother
  · cases hrest
    exact .same hcheck
  · cases status with
    | deferred =>
      obtain ⟨_, _, _, _, hrest⟩ := bind_ok₂ hrest
      have hactive : providerTurnIsActive (some run) = true := by simp_all [providerTurnIsActive]
      exact validated_turn hcheck hrun hrest hactive rfl rfl
    | deliveryUnknown => exact markUnknown_validated hrest
    | rejected => exact reject_validated hrest

theorem settle_validated {input : SettleInput} (h : settleProviderTurn binding input = .ok result) :
    Validated submits binding result := by
  unfold settleProviderTurn at h
  obtain ⟨current, hcurrent, hrest⟩ := bind_ok h
  clear h
  obtain ⟨rfl, hcheck⟩ := validate_ok hcurrent
  obtain ⟨nativeTurnId, _, hrest⟩ := bind_ok hrest
  split at hrest
  · cases hrest
  · next run hrun =>
      split_ifs at hrest with hsettles
      unfold settleTurn at hrest
      obtain ⟨_, _, _, _, settled, hsettled, hrest⟩ := bind_ok₃ hrest
      cases hrest
      obtain ⟨rfl, hresult⟩ := validate_ok hsettled
      have hcount := current_of_check hresult
      refine ⟨hcheck, hcount, .turn _ _ hrun ?_ rfl rfl⟩
      rw [hrun]
      simp [providerTurnIsActive, hsettles.2.2]

theorem cancelInput_validated
    (h : cancelQuiescentProviderInput binding input = .ok result) : Validated submits binding result := by
  unfold cancelQuiescentProviderInput at h
  obtain ⟨current, hcurrent, hrest⟩ := bind_ok h
  clear h
  obtain ⟨rfl, hcheck⟩ := validate_ok hcurrent
  obtain ⟨run, hrun, hrest⟩ := bind_ok hrest
  obtain ⟨hrun, _⟩ := turnOf_ok hrun
  split_ifs at hrest with hactive
  · obtain ⟨_, _, hrest⟩ := bind_ok hrest
    exact validated_turn hcheck hrun hrest hactive rfl rfl
  · cases hrest
    exact .same hcheck

theorem recoverability_validated {value : ConversationRecoverability}
    (h : updateProviderConversationRecoverability binding value = .ok result) : Validated submits binding result := by
  unfold updateProviderConversationRecoverability at h
  obtain ⟨current, hcurrent, hrest⟩ := bind_ok h
  clear h
  obtain ⟨rfl, hcheck⟩ := validate_ok hcurrent
  split at hrest
  · cases hrest
  · next entry hentry =>
      obtain ⟨rfl, hresult⟩ := validate_ok hrest
      exact ⟨hcheck, current_of_check hresult, .recovers value hentry⟩

theorem goal_validated {goal : ProviderGoal} (h : updateProviderGoal binding goal = .ok result) :
    Validated submits binding result := by
  unfold updateProviderGoal at h
  obtain ⟨current, hcurrent, hrest⟩ := bind_ok h
  clear h
  obtain ⟨rfl, hcheck⟩ := validate_ok hcurrent
  obtain ⟨_, _, hrest⟩ := bind_ok hrest
  obtain ⟨rfl, hresult⟩ := validate_ok hrest
  exact ⟨hcheck, current_of_check hresult, .kept _⟩

theorem clearGoal_validated (h : clearProviderGoal binding = .ok result) : Validated submits binding result := by
  unfold clearProviderGoal at h
  obtain ⟨current, hcurrent, hrest⟩ := bind_ok h
  clear h
  obtain ⟨rfl, hcheck⟩ := validate_ok hcurrent
  split_ifs at hrest with hnone
  · cases hrest
    exact .same hcheck
  · obtain ⟨rfl, hresult⟩ := validate_ok hrest
    exact ⟨hcheck, current_of_check hresult, .kept _⟩

theorem supersede_validated {conversationId switchedAt : String}
    (h : supersedeProviderConversation binding conversationId switchedAt = .ok result) :
    Validated submits binding result ∧ result.authority.epoch = binding.authority.epoch + 1 := by
  unfold supersedeProviderConversation at h
  obtain ⟨current, hcurrent, hrest⟩ := bind_ok h
  clear h
  obtain ⟨rfl, hcheck⟩ := validate_ok hcurrent
  split at hrest
  · cases hrest
  · next entry hentry =>
      obtain ⟨_, hidle, _, _, _, _, hrest⟩ := bind_ok₃ hrest
      obtain ⟨rfl, hresult⟩ := validate_ok hrest
      exact ⟨⟨hcheck, current_of_check hresult, .supersedes _ _ hentry (by simpa using refuse_ok hidle)⟩, rfl⟩

theorem BindingOp.apply_validated {op : BindingOp} (h : op.apply binding = .ok result) :
    Validated op.begins binding result := by
  cases op with
  | transfer input => exact (transfer_validated h).1
  | begin input => exact begin_validated h
  | accept input => exact accept_validated h
  | markUnknown input => exact markUnknown_validated h
  | reject input => exact reject_validated h
  | settleSubmission status input => exact settleSubmission_validated h
  | settle input => exact settle_validated h
  | cancelInput input => exact cancelInput_validated h
  | recoverability value => exact recoverability_validated h
  | goal value => exact goal_validated h
  | clearGoal => exact clearGoal_validated h
  | supersede conversationId switchedAt => exact (supersede_validated h).1

theorem BindingOp.apply_raises {op : BindingOp} (hraises : op.raisesEpoch = true)
    (h : op.apply binding = .ok result) : result.authority.epoch = binding.authority.epoch + 1 := by
  cases op with
  | transfer input => exact (@transfer_validated _ false _ _ _ h).2
  | supersede conversationId switchedAt => exact (@supersede_validated _ false _ _ _ _ h).2
  | _ => cases hraises

end

/-- The identity of a conversation, which no operation changes. -/
def conversationKey (conversation : ProviderConversation) : String × ℤ × String :=
  (conversation.conversationId, conversation.epoch, conversation.createdAt)

def conversationKeys (binding : ProviderRuntimeBinding) : List (String × ℤ × String) :=
  binding.conversations.map conversationKey

structure SingleWriter (binding : ProviderRuntimeBinding) : Prop where
  epoch : ∀ run ∈ binding.run, providerTurnIsActive binding.run = true →
    run.authorityEpoch = binding.authority.epoch
  epochs : binding.conversations.map ProviderConversation.epoch =
    (List.range binding.conversations.length).map fun index : ℕ => (index : ℤ) + 1
  latest : binding.currentConversationEpoch = binding.conversations.length
  current : currentCount binding.conversations = 1

/-- What one operation may change. -/
structure Lawful (op : BindingOp) (before after : ProviderRuntimeBinding) : Prop where
  monotone : before.authority.epoch ≤ after.authority.epoch
  raises : op.raisesEpoch = true → before.authority.epoch < after.authority.epoch
  fixed : providerTurnIsActive before.run = true → after.authority = before.authority ∧
    after.currentConversationEpoch = before.currentConversationEpoch ∧
    conversationKeys after = conversationKeys before
  settled : before.run ≠ none → providerTurnIsActive before.run = false → after.run = before.run ∨
    op.begins = true ∧ ∃ run, after.run = some run ∧ run.status = .submitting
  appended : conversationKeys before <+: conversationKeys after

theorem recovered_keys (current : ProviderConversation)
    (value : ConversationRecoverability) : (recovered conversations current value).map conversationKey =
      conversations.map conversationKey := by
  unfold recovered
  rw [List.map_map]
  apply List.map_congr_left
  intro entry _
  simp only [Function.comp_apply]
  split_ifs
  · rfl
  · rfl

theorem superseded_keys (current : ProviderConversation)
    (switchedAt conversationId : String) :
    (superseded conversations current switchedAt conversationId).map conversationKey =
      conversations.map conversationKey ++ [(conversationId, current.epoch + 1, switchedAt)] := by
  unfold superseded
  rw [List.map_append, List.map_map]
  congr 1
  apply List.map_congr_left
  intro entry _
  simp only [Function.comp_apply]
  split_ifs
  · rfl
  · rfl

theorem epochs_of_keys : conversations.map ProviderConversation.epoch =
      (conversations.map conversationKey).map fun key => key.2.1 := by
  rw [List.map_map]
  rfl

theorem keys_length :
    conversations.length = (conversations.map conversationKey).length := by
  rw [List.length_map]

section Moved

variable {submits : Bool} {before after : ProviderRuntimeBinding}

theorem Moves.monotone (h : Moves submits before after) : before.authority.epoch ≤ after.authority.epoch := by
  cases h with
  | kept | turn | begins | recovers => exact le_refl _
  | transfers authority hidle hepoch =>
    dsimp only
    omega
  | supersedes switchedAt conversationId hcurrent hidle =>
    dsimp only
    omega

theorem Moves.appended (h : Moves submits before after) : conversationKeys before <+: conversationKeys after := by
  cases h with
  | kept | turn | begins | transfers => exact List.prefix_refl _
  | recovers value hcurrent =>
    unfold conversationKeys
    rw [recovered_keys]
  | supersedes switchedAt conversationId hcurrent hidle =>
    unfold conversationKeys
    rw [superseded_keys]
    exact List.prefix_append _ _

theorem Moves.fixed (h : Moves submits before after) (hactive : providerTurnIsActive before.run = true) :
    after.authority = before.authority ∧ after.currentConversationEpoch = before.currentConversationEpoch ∧
      conversationKeys after = conversationKeys before := by
  cases h with
  | kept | turn => exact ⟨rfl, rfl, rfl⟩
  | recovers value hcurrent => exact ⟨rfl, rfl, recovered_keys _ _ _⟩
  | begins next retry hsubmits hidle => simp [hactive] at hidle
  | transfers authority hidle => simp [hactive] at hidle
  | supersedes switchedAt conversationId hcurrent hidle => simp [hactive] at hidle

theorem Moves.settled (h : Moves submits before after) (hidle : providerTurnIsActive before.run = false) :
    after.run = before.run ∨ submits = true ∧ ∃ run, after.run = some run ∧ run.status = .submitting := by
  cases h with
  | kept | transfers | recovers | supersedes => exact .inl rfl
  | turn next retry hrun hactive => simp [hidle] at hactive
  | begins next retry hsubmits hidle hepoch hstatus => exact .inr ⟨hsubmits, next, rfl, hstatus⟩

theorem Moves.singleWriter (h : Moves submits before after) (hbefore : SingleWriter before)
    (hcurrent : currentCount after.conversations = 1) : SingleWriter after := by
  obtain ⟨hepoch, hepochs, hlatest, _⟩ := hbefore
  cases h with
  | kept goal => exact ⟨hepoch, hepochs, hlatest, hcurrent⟩
  | turn next retry hrun hactive hattempt hsame =>
    refine ⟨fun run hnext _ => ?_, hepochs, hlatest, hcurrent⟩
    cases hnext
    exact hsame.trans (hepoch _ hrun hactive)
  | begins next retry hsubmits hidle hnew hstatus =>
    refine ⟨fun run hnext _ => ?_, hepochs, hlatest, hcurrent⟩
    cases hnext
    exact hnew
  | transfers authority hidle hraised =>
    refine ⟨fun run _ hactive => ?_, hepochs, hlatest, hcurrent⟩
    simp [hidle] at hactive
  | recovers value hfound =>
    refine ⟨hepoch, ?_, ?_, hcurrent⟩
    · dsimp only
      rw [epochs_of_keys, keys_length (recovered _ _ _), recovered_keys, ← epochs_of_keys, ← keys_length]
      exact hepochs
    · dsimp only
      rw [keys_length, recovered_keys, ← keys_length]
      exact hlatest
  | @supersedes current switchedAt conversationId hfound hidle =>
    have hsame : current.epoch = before.conversations.length := by
      have hmatches := List.find?_some hfound
      simp only [decide_eq_true_eq] at hmatches
      exact hmatches.1.trans hlatest
    refine ⟨fun run _ hactive => ?_, ?_, ?_, hcurrent⟩
    · simp [hidle] at hactive
    · dsimp only
      rw [epochs_of_keys, keys_length (superseded _ _ _ _), superseded_keys, List.map_append,
        ← epochs_of_keys, hepochs, hsame, List.length_append, List.length_map,
        List.length_singleton, List.range_succ, List.map_append]
      rfl
    · dsimp only
      rw [keys_length, superseded_keys, hsame]
      simp

end Moved

section

variable [RuntimeHost]

theorem create_singleWriter {input : CreateInput} {binding : ProviderRuntimeBinding}
    (h : createProviderRuntimeBinding input = .ok binding) : SingleWriter binding := by
  unfold createProviderRuntimeBinding at h
  iterate 4 obtain ⟨_, _, h⟩ := bind_ok h
  obtain ⟨rfl, hcheck⟩ := validate_ok h
  refine ⟨fun run hrun => ?_, rfl, rfl, current_of_check hcheck⟩
  cases hrun

theorem BindingOp.apply_lawful {op : BindingOp} {before after : ProviderRuntimeBinding}
    (h : op.apply before = .ok after) : Lawful op before after := by
  have hmoves := (BindingOp.apply_validated h).moves
  refine ⟨hmoves.monotone, fun hraises => ?_, hmoves.fixed, fun _ => hmoves.settled, hmoves.appended⟩
  rw [BindingOp.apply_raises hraises h]
  omega

/-- Along every run from a created binding there is one writer turn at most, under an authority that
only rises, in the latest of conversations that are only appended. -/
theorem single_writer {input : CreateInput} {created : ProviderRuntimeBinding}
    (hcreated : createProviderRuntimeBinding input = .ok created) (ops more : List BindingOp) :
    SingleWriter (run BindingOp.apply created ops) ∧
      (∀ op after, op.apply (run BindingOp.apply created ops) = .ok after →
        Lawful op (run BindingOp.apply created ops) after) ∧ (run BindingOp.apply created ops).authority.epoch ≤
        (run BindingOp.apply created (ops ++ more)).authority.epoch ∧
      conversationKeys (run BindingOp.apply created ops) <+:
        conversationKeys (run BindingOp.apply created (ops ++ more)) := by
  refine ⟨?_, fun op after => BindingOp.apply_lawful, ?_⟩
  · apply run_preserves ops (create_singleWriter hcreated)
    intro op _ before after hbefore hstep
    have hvalidated := BindingOp.apply_validated hstep
    exact hvalidated.moves.singleWriter hbefore hvalidated.current
  · rw [run_append]
    apply @run_preserves _ _ _ _ (fun binding =>
      (run BindingOp.apply created ops).authority.epoch ≤ binding.authority.epoch ∧
        conversationKeys (run BindingOp.apply created ops) <+: conversationKeys binding) _ more
        ⟨le_refl _, List.prefix_refl _⟩
    rintro op _ before after ⟨hepoch, hkeys⟩ hstep
    have hlawful := BindingOp.apply_lawful hstep
    exact ⟨hepoch.trans hlawful.monotone, hkeys.trans hlawful.appended⟩

end

def sampleCreate : CreateInput := ⟨"driver/sample", "agent-1", "conversation-1", sampleInstant⟩

def sampleBinding : ProviderRuntimeBinding where
  schemaVersion := 1
  providerNamespace := "driver/sample"
  accountScope := "agent-1"
  currentConversationEpoch := 1
  conversations := [⟨"conversation-1", 1, .current, .unknown, sampleInstant, none⟩]
  authority := ⟨1, .controller, some "controller", sampleInstant⟩
  run := none
  goal := none
  retry := none
  retryHistory := []
  retryDisabled := none

def sampleOps : List BindingOp :=
  [.begin ⟨none, "attempt-1", 1, sampleInstant, none, none⟩]

theorem single_writer_sample :
    let _ := sampleRetryHost
    SingleWriter (run BindingOp.apply sampleBinding sampleOps) ∧
      (∀ op after, op.apply (run BindingOp.apply sampleBinding sampleOps) = .ok after →
        Lawful op (run BindingOp.apply sampleBinding sampleOps) after) ∧
      (run BindingOp.apply sampleBinding sampleOps).authority.epoch ≤
        (run BindingOp.apply sampleBinding (sampleOps ++ [.clearGoal])).authority.epoch ∧
      conversationKeys (run BindingOp.apply sampleBinding sampleOps) <+:
        conversationKeys (run BindingOp.apply sampleBinding (sampleOps ++ [.clearGoal])) := by
  intro host
  have hcreated : createProviderRuntimeBinding sampleCreate = .ok sampleBinding := by rfl
  exact single_writer hcreated sampleOps [.clearGoal]

end Binding
