import Yui.ProviderRetryChain

/-!
# The budget of a retry chain

Where a chain stands relative to the turn of its binding decides which accounts an operation may touch:
a chain in flight is about the current turn, a waiting chain about its failure, and a turn whose attempt
id names a chain belongs to that chain.
-/

open JsText Checked FallibleRun

namespace Binding

section AttemptIds

theorem split_last_slash {left right front back : List Char} (hfront : '/' ∉ front)
    (hback : '/' ∉ back) (h : left ++ '/' :: front = right ++ '/' :: back) : left = right ∧ front = back := by
  have hreverse := congrArg List.reverse h
  simp only [List.reverse_append, List.reverse_cons, List.append_assoc, List.singleton_append] at hreverse
  have hspan := congrArg (List.span (· ≠ '/')) hreverse
  have hspanOf : ∀ tail rest : List Char, '/' ∉ tail →
      (tail.reverse ++ '/' :: rest).span (· ≠ '/') = (tail.reverse, '/' :: rest) := by
    intro tail rest htail
    rw [List.span_eq_takeWhile_dropWhile]
    have hall : ∀ c ∈ tail.reverse, decide (c ≠ '/') = true := by
      intro c hc
      simp only [ne_eq, decide_eq_true_eq]
      rintro rfl
      exact htail (List.mem_reverse.1 hc)
    rw [List.takeWhile_append_of_pos hall, List.dropWhile_append_of_pos hall]
    simp
  rw [hspanOf front _ hfront, hspanOf back _ hback] at hspan
  have h1 : front.reverse = back.reverse := congrArg Prod.fst hspan
  have h2 : '/' :: left.reverse = '/' :: right.reverse := congrArg Prod.snd hspan
  exact ⟨List.reverse_injective (List.cons.inj h2).2, List.reverse_injective h1⟩

theorem slash_not_mem_digits (n : ℕ) : '/' ∉ (toString n).toList := by
  intro hmem
  have hdigits : (toString n).toList = Nat.toDigits 10 n := Nat.toList_repr
  rw [hdigits] at hmem
  have hdigit := Nat.isDigit_of_mem_toDigits (by decide) (by decide) hmem
  revert hdigit
  decide

theorem toString_injective {m n : ℕ} (h : (toString m).toList = (toString n).toList) : m = n := by
  have hm : (toString m).toList = Nat.toDigits 10 m := Nat.toList_repr
  have hn : (toString n).toList = Nat.toDigits 10 n := Nat.toList_repr
  rw [hm, hn] at h
  rw [← @Nat.ofDigitChars_toDigits 10 m (by decide) (by decide), h]
  exact Nat.ofDigitChars_toDigits (by decide) (by decide)

theorem attemptId_toList (retry : ProviderRetry) : (providerRetryAttemptId retry).toList =
    "provider-retry:".toList ++ (retry.chainId.toList ++
      '/' :: (toString (retry.transportSequence + 1)).toList) := by
  unfold providerRetryAttemptId
  rw [String.toList_append, String.toList_append, String.toList_append, List.append_assoc, List.append_assoc]
  rfl

theorem attemptId_injective {first second : ProviderRetry}
    (h : providerRetryAttemptId first = providerRetryAttemptId second) :
    first.chainId = second.chainId ∧ first.transportSequence = second.transportSequence := by
  have hlist := congrArg String.toList h
  rw [attemptId_toList, attemptId_toList] at hlist
  have htail := List.append_cancel_left hlist
  obtain ⟨hchain, hnumber⟩ := split_last_slash (slash_not_mem_digits _) (slash_not_mem_digits _) htail
  have hsucc := toString_injective hnumber
  exact ⟨String.toList_injective hchain, by omega⟩

theorem isRetryId_attemptId (retry : ProviderRetry) : isRetryId (providerRetryAttemptId retry) = true := by
  rw [isRetryId, attemptId_toList, List.isPrefixOf_iff_prefix]
  exact List.prefix_append _ _

theorem trim_attemptId (retry : ProviderRetry) :
    trim (providerRetryAttemptId retry) = providerRetryAttemptId retry := by
  apply trim_eq_self
  · intro c hc
    rw [attemptId_toList] at hc
    have hhead : c = 'p' := by simpa using hc.symm
    rw [hhead]
    decide
  · intro c hc
    rw [attemptId_toList] at hc
    have hdigits : (toString (retry.transportSequence + 1)).toList =
        Nat.toDigits 10 (retry.transportSequence + 1) := Nat.toList_repr
    rw [hdigits, List.getLast?_append, List.getLast?_append, List.getLast?_cons,
      List.getLast?_eq_some_getLast (Nat.toDigits_ne_nil)] at hc
    simp only [Option.getD_some, Option.some_or, Option.mem_def, Option.some.injEq] at hc
    apply isWhitespace_of_isDigit
    rw [← hc]
    exact Nat.isDigit_of_mem_toDigits (by decide) (by decide) (List.getLast_mem _)

end AttemptIds

/-- The chain that a turn opened. -/
structure Owns (binding : ProviderRuntimeBinding) (turn : ProviderTurn) (retry : ProviderRetry) : Prop where
  chainId : retry.chainId = turn.attemptId
  failed : retry.failedAttemptId = turn.attemptId
  idle : retry.status ≠ .inFlight
  unrecovered : retry.status ≠ .recovered
  current : retry.currentAttemptId = none
  run : retry.previousRunId = turn.runId
  authority : retry.authorityEpoch = binding.authority.epoch
  session : retry.nativeSessionId = sessionOf binding

structure Placed (ledger : Ledger) : Prop where
  inFlight : ∀ retry ∈ ledger.binding.retry, retry.status = .inFlight →
    ∃ turn ∈ ledger.binding.run, retry.currentAttemptId = some turn.attemptId
  paid : ∀ retry ∈ ledger.binding.retry, retry.status = .inFlight → isAutomatic retry = true →
    1 ≤ retry.attempts
  waiting : ∀ retry ∈ ledger.binding.retry, retry.status = .waiting →
    ∃ turn ∈ ledger.binding.run, turn.attemptId = retry.failedAttemptId
  owned : ∀ turn ∈ ledger.binding.run, turn.attemptId ∈ chainIds ledger.binding →
    ∃ retry ∈ ledger.binding.retry, Owns ledger.binding turn retry
  currentUsed : ∀ retry ∈ ledger.binding.retry, ∀ attemptId ∈ retry.currentAttemptId,
    attemptId ∈ ledger.used ∧ attemptId ∈ submittedIds ledger.log
  turnUsed : ∀ turn ∈ ledger.binding.run, turn.attemptId ∈ ledger.used
  turnMade : ∀ turn ∈ ledger.binding.run,
    isRetryId turn.attemptId = false ∨ turn.attemptId ∈ submittedIds ledger.log

theorem complete_cases (binding : ProviderRuntimeBinding) (turn : ProviderTurn) :
    completeProviderRetry binding turn = binding ∨ ∃ retry, binding.retry = some retry ∧
      retry.currentAttemptId = some turn.attemptId ∧ completeProviderRetry binding turn = { binding with
        retry := some { retry with status := .recovered, updatedAt := turn.updatedAt } } := by
  unfold completeProviderRetry
  cases hretry : binding.retry with
  | none =>
    refine .inl ?_
    rw [Option.map_none, ← hretry]
  | some retry =>
    rw [Option.map_some]
    split_ifs with hdone
    · exact .inr ⟨retry, rfl, hdone.2.1, rfl⟩
    · refine .inl ?_
      rw [← hretry]

theorem Placed.of_stopped {ledger : Ledger}
    (hstopped : ∀ retry ∈ ledger.binding.retry, retry.status ≠ .inFlight ∧ retry.status ≠ .waiting)
    (howned : ∀ turn ∈ ledger.binding.run, turn.attemptId ∈ chainIds ledger.binding →
      ∃ retry ∈ ledger.binding.retry, Owns ledger.binding turn retry)
    (hcurrent : ∀ retry ∈ ledger.binding.retry, ∀ attemptId ∈ retry.currentAttemptId,
      attemptId ∈ ledger.used ∧ attemptId ∈ submittedIds ledger.log)
    (hused : ∀ turn ∈ ledger.binding.run, turn.attemptId ∈ ledger.used) (hmade : ∀ turn ∈ ledger.binding.run,
      isRetryId turn.attemptId = false ∨ turn.attemptId ∈ submittedIds ledger.log) : Placed ledger where
  inFlight retry hretry h := absurd h (hstopped retry hretry).1
  paid retry hretry h := absurd h (hstopped retry hretry).1
  waiting retry hretry h := absurd h (hstopped retry hretry).2
  owned := howned
  currentUsed := hcurrent
  turnUsed := hused
  turnMade := hmade

theorem chainIds_eq {first second : ProviderRuntimeBinding} (hhistory : second.retryHistory = first.retryHistory)
    (hretry : second.retry.map ProviderRetry.chainId = first.retry.map ProviderRetry.chainId) :
    chainIds second = chainIds first := by
  simp only [chainIds, records, List.map_append, hhistory]
  congr 1
  cases hfirst : first.retry with
  | none =>
    rw [hfirst, Option.map_none, Option.map_eq_none_iff] at hretry
    rw [hretry]
  | some before =>
    rw [hfirst, Option.map_some] at hretry
    obtain ⟨after, hafter, hchain⟩ := Option.map_eq_some_iff.1 hretry
    rw [hafter, Option.toList_some, Option.toList_some, List.map_singleton, List.map_singleton, hchain]

theorem Owns.cancelled {binding : ProviderRuntimeBinding} {turn : ProviderTurn} {retry : ProviderRetry} (h : Owns binding turn retry)
    (reason updatedAt : String) : Owns binding turn { retry with
      status := .cancelled, reason := some reason, updatedAt := updatedAt } :=
  ⟨h.chainId, h.failed, by simp, by simp, h.current, h.run, h.authority, h.session⟩

theorem identity_trim {value label text : String} (h : identity value label = .ok text) : text = trim value := by
  unfold identity at h
  split_ifs at h with hblank
  injection h with h
  exact h.symm

theorem onSome_trim {value result : Option String} {label : String}
    (h : onSome (fun value => identity value label) value = .ok result) : result = value.map trim := by
  obtain ⟨hmem, hsome⟩ := onSome_ok h
  cases value with
  | none =>
    cases result with
    | none => rfl
    | some text => simp at hsome
  | some text =>
    cases result with
    | none => simp at hsome
    | some found =>
      obtain ⟨x, hx, hidentity⟩ := hmem found rfl
      cases hx
      rw [identity_trim hidentity]
      rfl

theorem Placed.usedMore {ledger : Ledger} (h : Placed ledger) (more : List String) :
    Placed { ledger with used := ledger.used ++ more } :=
  ⟨h.inFlight, h.paid, h.waiting, h.owned,
    fun retry hretry attemptId hattempt =>
      ⟨List.mem_append_left _ (h.currentUsed retry hretry attemptId hattempt).1,
        (h.currentUsed retry hretry attemptId hattempt).2⟩,
    fun turn hturn => List.mem_append_left _ (h.turnUsed turn hturn), h.turnMade⟩

section

variable {binding : ProviderRuntimeBinding}

variable {turn : ProviderTurn} {retry : ProviderRetry}

theorem continuingRetry_some (h : continuingRetry binding turn = some retry) : binding.retry = some retry ∧
      retry.status = .inFlight ∧ retry.currentAttemptId = some turn.attemptId := by
  unfold continuingRetry at h
  obtain ⟨hretry, hcond⟩ := Option.filter_eq_some_iff.1 h
  simp only [decide_eq_true_eq] at hcond
  exact ⟨hretry, hcond⟩

theorem continuingRetry_none (h : continuingRetry binding turn = none) (hretry : binding.retry = some retry) :
    ¬ (retry.status = .inFlight ∧ retry.currentAttemptId = some turn.attemptId) := by
  unfold continuingRetry at h
  rw [hretry] at h
  simpa using h

theorem continuingRetry_of_recorded (h : AlreadyRecorded binding turn) : continuingRetry binding turn = none := by
  obtain ⟨retry, hretry, hcases⟩ := h
  unfold continuingRetry
  rw [show binding.retry = some retry from hretry]
  rcases hcases with ⟨_, hstopped⟩ | ⟨_, hidle⟩
  · cases hstatus : retry.status <;> simp_all [isStopped]
  · simp [hidle]

theorem refundOf_noted {input : FailureInput} (hrun : binding.run = some turn)
    (h : (turn.status = .failed ∨ turn.status = .rejected) →
      failureBlocker { binding with run := some (ProviderTurn.withFailure turn input) }
        input.error = none → continuingRetry binding turn = none) : refundOf binding input = [] := by
  unfold refundOf
  rw [hrun]
  simp only
  cases hcontinuing : continuingRetry binding turn with
  | none => rfl
  | some previous =>
    simp only
    rw [if_neg]
    rintro ⟨hstatus, hblocker, _⟩
    rw [h hstatus hblocker] at hcontinuing
    cases hcontinuing

theorem Placed.not_chain {ledger : Ledger} (h : Placed ledger)
    (hrun : ledger.binding.run = some turn) (hretry : ledger.binding.retry = some retry)
    (hunrecorded : ¬ (retry.failedAttemptId = turn.attemptId ∧ retry.status ≠ .inFlight)) :
    turn.attemptId ∉ chainIds ledger.binding := by
  intro hchain
  obtain ⟨owner, howner, howns⟩ := h.owned turn hrun hchain
  rw [hretry] at howner
  cases howner
  exact hunrecorded ⟨howns.failed, howns.idle⟩

theorem refund_cases (retry : ProviderRetry) (noProviderWrite : Bool) : refund retry noProviderWrite = 0 ∨
      (refund retry noProviderWrite = 1 ∧ isAutomatic retry = true) := by
  unfold refund
  split_ifs with hrefund
  · exact .inr ⟨rfl, by simpa [isAutomatic] using hrefund.2⟩
  · exact .inl rfl

theorem spent_undone (chainId : String) : spent [.undone chainId] chainId = -1 := by
  simp [spent, RetryEvent.cost]

end

section

variable [RuntimeHost]

structure Accounted (ledger : Ledger) : Prop where
  balanced : Balanced ledger
  placed : Placed ledger

/-- What a report about the current turn does: it may end the chain whose submission the turn is. -/
inductive TurnMove (before : ProviderRuntimeBinding) : ProviderRuntimeBinding → Prop where
  | same : TurnMove before before
  | turn {turn : ProviderTurn} (next : ProviderTurn) (hrun : before.run = some turn)
      (hattempt : next.attemptId = turn.attemptId) (hid : next.runId = turn.runId)
      (hsubmitted : next.submittedAt = turn.submittedAt)
      (hparses : (JsHost.dateParse next.updatedAt).isSome = true)
      (hchecked : checkBinding { before with run := some next } = .ok ()) :
      TurnMove before { before with run := some next }
  | recovered {turn : ProviderTurn} {retry : ProviderRetry} (next : ProviderTurn)
      (hrun : before.run = some turn) (hattempt : next.attemptId = turn.attemptId)
      (hid : next.runId = turn.runId) (hsubmitted : next.submittedAt = turn.submittedAt)
      (hparses : (JsHost.dateParse next.updatedAt).isSome = true)
      (hchecked : checkBinding { before with run := some next } = .ok ())
      (hretry : before.retry = some retry)
      (hcurrent : retry.currentAttemptId = some turn.attemptId) :
      TurnMove before { before with
        run := some next
        retry := some { retry with status := .recovered, updatedAt := next.updatedAt } }

theorem timestamp_parses {value label text : String} (h : timestamp value label = .ok text) :
    (JsHost.dateParse text).isSome = true := by
  obtain ⟨normalized, _, hrest⟩ := bind_ok h
  split_ifs at hrest with hparse
  obtain rfl : normalized = text := Except.ok.inj hrest
  exact Option.isSome_iff_ne_none.2 hparse

theorem ordered_parses {run : ProviderTurn} {value label text : String}
    (h : orderedRunTimestamp run value label = .ok text) : (JsHost.dateParse text).isSome = true := by
  obtain ⟨normalized, htime, _, _, hok⟩ := bind_ok₂ h
  cases hok
  exact timestamp_parses htime

variable {binding result : ProviderRuntimeBinding}

theorem accept_turnMove {input : AcceptInput} (h : acceptProviderTurn binding input = .ok result) :
    TurnMove binding result := by
  unfold acceptProviderTurn at h
  obtain ⟨current, hcurrent, hrest⟩ := bind_ok h
  clear h
  obtain ⟨rfl, _⟩ := validate_ok hcurrent
  obtain ⟨_, _, run, hrun, _, htime, _, _, hrest⟩ := bind_ok₄ hrest
  obtain ⟨rfl, hchecked⟩ := validate_ok hrest
  exact .turn _ (turnOf_ok hrun).1 rfl rfl rfl (ordered_parses htime) hchecked

theorem markUnknown_turnMove {input : OutcomeInput}
    (h : markProviderTurnDeliveryUnknown binding input = .ok result) : TurnMove binding result := by
  unfold markProviderTurnDeliveryUnknown at h
  obtain ⟨current, hcurrent, hrest⟩ := bind_ok h
  clear h
  obtain ⟨rfl, _⟩ := validate_ok hcurrent
  obtain ⟨_, _, run, hrun, _, htime, _, _, hrest⟩ := bind_ok₄ hrest
  obtain ⟨rfl, hchecked⟩ := validate_ok hrest
  exact .turn _ (turnOf_ok hrun).1 rfl rfl rfl (ordered_parses htime) hchecked

theorem reject_turnMove {input : OutcomeInput} (h : rejectProviderTurn binding input = .ok result) :
    TurnMove binding result := by
  unfold rejectProviderTurn at h
  obtain ⟨current, hcurrent, hrest⟩ := bind_ok h
  clear h
  obtain ⟨rfl, _⟩ := validate_ok hcurrent
  obtain ⟨_, _, run, hrun, _, htime, _, _, hrest⟩ := bind_ok₄ hrest
  obtain ⟨rfl, hchecked⟩ := validate_ok hrest
  exact .turn _ (turnOf_ok hrun).1 rfl rfl rfl (ordered_parses htime) hchecked

theorem settleSubmission_turnMove {status : SubmissionStatus} {input : OutcomeInput}
    (h : settleProviderTurnSubmission binding status input = .ok result) : TurnMove binding result := by
  unfold settleProviderTurnSubmission at h
  obtain ⟨current, hcurrent, hrest⟩ := bind_ok h
  clear h
  obtain ⟨rfl, _⟩ := validate_ok hcurrent
  obtain ⟨attemptId, _, run, hrun, hrest⟩ := bind_ok₂ hrest
  obtain ⟨hrun, _⟩ := turnOf_ok hrun
  split_ifs at hrest with hsame hother
  · cases hrest
    exact .same
  · cases status with
    | deferred =>
      obtain ⟨_, _, _, htime, hrest⟩ := bind_ok₂ hrest
      obtain ⟨rfl, hchecked⟩ := validate_ok hrest
      exact .turn _ hrun rfl rfl rfl (ordered_parses htime) hchecked
    | deliveryUnknown => exact markUnknown_turnMove hrest
    | rejected => exact reject_turnMove hrest

theorem settle_turnMove {input : SettleInput} (h : settleProviderTurn binding input = .ok result) :
    TurnMove binding result := by
  unfold settleProviderTurn at h
  obtain ⟨current, hcurrent, hrest⟩ := bind_ok h
  clear h
  obtain ⟨rfl, _⟩ := validate_ok hcurrent
  obtain ⟨nativeTurnId, _, hrest⟩ := bind_ok hrest
  split at hrest
  · cases hrest
  · next run hrun =>
      split_ifs at hrest with hsettles
      unfold settleTurn at hrest
      obtain ⟨settledAt, htime, reason, _, settled, hsettled, hrest⟩ := bind_ok₃ hrest
      cases hrest
      obtain ⟨rfl, hchecked⟩ := validate_ok hsettled
      rcases complete_cases { current with run := _ } _ with hkept | ⟨retry, hretry, hcurrent, hdone⟩
      · rw [hkept]
        exact .turn _ hrun rfl rfl rfl (ordered_parses htime) hchecked
      · rw [hdone]
        exact .recovered _ hrun rfl rfl rfl (ordered_parses htime) hchecked hretry hcurrent

variable {ledger : Ledger}

variable {turn : ProviderTurn}

theorem Accounted.turned (h : Accounted ledger) (next : ProviderTurn)
    (hrun : ledger.binding.run = some turn) (hattempt : next.attemptId = turn.attemptId)
    (hid : next.runId = turn.runId) : Accounted (ledger.moved { ledger.binding with run := some next }) := by
  have hbalanced := h.balanced.kept { ledger.binding with run := some next } rfl rfl []
  rw [List.append_nil] at hbalanced
  refine ⟨hbalanced, ?_⟩
  constructor
  · intro retry hretry hstatus
    obtain ⟨other, hother, hcurrent⟩ := h.placed.inFlight retry hretry hstatus
    rw [hrun] at hother
    cases hother
    exact ⟨next, rfl, hattempt ▸ hcurrent⟩
  · exact h.placed.paid
  · intro retry hretry hstatus
    obtain ⟨other, hother, hfailed⟩ := h.placed.waiting retry hretry hstatus
    rw [hrun] at hother
    cases hother
    exact ⟨next, rfl, hattempt.trans hfailed⟩
  · intro other hother hchain
    cases hother
    rw [hattempt] at hchain
    obtain ⟨retry, hretry, howns⟩ := h.placed.owned turn hrun hchain
    exact ⟨retry, hretry, ⟨hattempt ▸ howns.chainId, hattempt ▸ howns.failed, howns.idle,
      howns.unrecovered, howns.current, hid ▸ howns.run, howns.authority, howns.session⟩⟩
  · exact h.placed.currentUsed
  · intro other hother
    cases hother
    exact hattempt ▸ h.placed.turnUsed turn hrun
  · intro other hother
    cases hother
    exact hattempt ▸ h.placed.turnMade turn hrun

theorem Accounted.turnMove (h : Accounted ledger) (hmove : TurnMove ledger.binding result) :
    Accounted (ledger.moved result) := by
  cases hmove with
  | same => exact h
  | turn next hrun hattempt hid => exact h.turned next hrun hattempt hid
  | @recovered turn retry next hrun hattempt hid hsubmitted hparses hchecked hretry hcurrent =>
    have hbalanced := h.balanced.touched { ledger.binding with
      run := some next
      retry := some { retry with status := .recovered, updatedAt := next.updatedAt } }
      hretry rfl rfl rfl rfl rfl rfl rfl []
    rw [List.append_nil] at hbalanced
    refine ⟨hbalanced, Placed.of_stopped ?_ ?_ ?_ ?_ ?_⟩
    · intro other hother
      cases hother
      simp
    · intro other hother hchain
      cases hother
      have hids : chainIds { ledger.binding with
          run := some next
          retry := some { retry with status := .recovered, updatedAt := next.updatedAt } } =
          chainIds ledger.binding := chainIds_eq rfl (by rw [hretry]; rfl)
      rw [hattempt] at hchain
      obtain ⟨owner, howner, howns⟩ := h.placed.owned turn hrun (hids ▸ hchain)
      rw [hretry] at howner
      cases howner
      rw [howns.current] at hcurrent
      cases hcurrent
    · intro other hother attemptId hattemptId
      cases hother
      exact h.placed.currentUsed retry hretry attemptId hattemptId
    · intro other hother
      cases hother
      exact hattempt ▸ h.placed.turnUsed turn hrun
    · intro other hother
      cases hother
      exact hattempt ▸ h.placed.turnMade turn hrun

/-- A chain that is stopped, or left as it is. -/
inductive Stopped (before : ProviderRuntimeBinding) : ProviderRuntimeBinding → Prop where
  | same (hidle : providerRetryPending before = false) : Stopped before before
  | cancelled {retry : ProviderRetry} (reason updatedAt : String) (hretry : before.retry = some retry)
      (hpending : retry.status = .waiting ∨ retry.status = .inFlight)
      (hparses : (JsHost.dateParse updatedAt).isSome = true) :
      Stopped before { before with retry := some { retry with
        status := .cancelled, reason := some reason, updatedAt := updatedAt } }

variable {time : ℤ}

theorem iso_parses {text : String} (h : iso time = .ok text) : JsHost.dateParse text = some time := by
  unfold iso at h
  split_ifs at h with hrange
  injection h with h
  rw [← h]
  exact RuntimeHost.dateParse_iso time hrange

theorem cancel_stopped {reason : String}
    (h : cancelProviderRetry binding reason time = .ok result) : Stopped binding result := by
  unfold cancelProviderRetry at h
  split_ifs at h with hpending
  · obtain ⟨updatedAt, htime, hok⟩ := bind_ok h
    injection hok with hok
    subst hok
    cases hretry : binding.retry with
    | none => simp [providerRetryPending, hretry] at hpending
    | some retry =>
      rw [Option.map_some]
      apply Stopped.cancelled reason updatedAt hretry
      · simpa [providerRetryPending, hretry] using hpending
      · rw [iso_parses htime]
        rfl
  · injection h with h
    subst h
    exact .same (by simpa using hpending)

theorem not_pending_of_stopped (h : Stopped binding result) :
    ∀ retry ∈ result.retry, retry.status ≠ .inFlight ∧ retry.status ≠ .waiting := by
  cases h with
  | same hidle =>
    intro retry hretry
    rw [Option.mem_def] at hretry
    simp only [providerRetryPending, hretry, Bool.or_eq_false_iff, decide_eq_false_iff_not] at hidle
    exact ⟨hidle.2, hidle.1⟩
  | cancelled reason updatedAt hretry hpending hparses =>
    intro retry hmem
    cases hmem
    simp

theorem Balanced.stopped (h : Balanced ledger) (hstop : Stopped ledger.binding result)
    (run : Option ProviderTurn) (disabled : Option Bool) (more : List String) :
    Balanced ⟨{ result with run := run, retryDisabled := disabled }, ledger.used ++ more, ledger.log⟩ := by
  cases hstop with
  | same hidle =>
    exact h.kept { ledger.binding with run := run, retryDisabled := disabled } rfl rfl more
  | @cancelled retry reason updatedAt hretry hpending hparses =>
    exact h.touched { ledger.binding with
      run := run
      retryDisabled := disabled
      retry := some { retry with
        status := .cancelled, reason := some reason, updatedAt := updatedAt } }
      hretry rfl rfl rfl rfl rfl rfl rfl more

theorem stopped_chainIds (hstop : Stopped binding result) (run : Option ProviderTurn) (disabled : Option Bool) :
    chainIds { result with run := run, retryDisabled := disabled } = chainIds binding := by
  cases hstop with
  | same hidle => rfl
  | cancelled reason updatedAt hretry hpending hparses =>
    exact chainIds_eq rfl (by rw [hretry]; rfl)

theorem stopped_current (hstop : Stopped binding result) : result.retry.bind ProviderRetry.currentAttemptId =
      binding.retry.bind ProviderRetry.currentAttemptId := by
  cases hstop with
  | same hidle => rfl
  | cancelled reason updatedAt hretry hpending hparses => rw [hretry]; rfl

theorem Accounted.stopped (h : Accounted ledger) (hstop : Stopped ledger.binding result)
    (disabled : Option Bool) : Accounted (ledger.moved { result with retryDisabled := disabled }) := by
  have hrun : result.run = ledger.binding.run := by cases hstop <;> rfl
  have hbalanced := h.balanced.stopped hstop result.run disabled []
  rw [List.append_nil] at hbalanced
  refine ⟨hbalanced, Placed.of_stopped ?_ ?_ ?_ ?_ ?_⟩
  · exact fun retry hretry => not_pending_of_stopped hstop retry hretry
  · intro turn hturn hchain
    have hids := stopped_chainIds hstop result.run disabled
    obtain ⟨owner, howner, howns⟩ := h.placed.owned turn (hrun ▸ hturn) (hids ▸ hchain)
    cases hstop with
    | same hidle => exact ⟨owner, howner, ⟨howns.1, howns.2, howns.3, howns.4, howns.5, howns.6,
        howns.7, howns.8⟩⟩
    | cancelled reason updatedAt hretry hpending hparses =>
      rw [hretry] at howner
      cases howner
      have hcancelled := howns.cancelled reason updatedAt
      exact ⟨_, rfl, ⟨hcancelled.1, hcancelled.2, hcancelled.3, hcancelled.4, hcancelled.5,
        hcancelled.6, hcancelled.7, hcancelled.8⟩⟩
  · intro retry hretry attemptId hattemptId
    have hsame := stopped_current hstop
    have hfound : result.retry.bind ProviderRetry.currentAttemptId = some attemptId := by
      rw [show result.retry = some retry from hretry]
      exact hattemptId
    rw [hsame] at hfound
    obtain ⟨before, hbefore, hcurrent⟩ := Option.bind_eq_some_iff.1 hfound
    exact h.placed.currentUsed before hbefore attemptId hcurrent
  · intro turn hturn
    exact h.placed.turnUsed turn (hrun ▸ hturn)
  · intro turn hturn
    exact h.placed.turnMade turn (hrun ▸ hturn)

theorem Accounted.cancel (h : Accounted ledger) {reason : String}
    (hcancel : cancelProviderRetry ledger.binding reason time = .ok result) :
    Accounted (ledger.moved result) := h.stopped (cancel_stopped hcancel) result.retryDisabled

theorem Accounted.control (h : Accounted ledger) {action : RetryAction}
    (hcontrol : controlProviderRetry ledger.binding action time = .ok result) : Accounted (ledger.moved result) := by
  cases action with
  | enable =>
    injection hcontrol with hcontrol
    subst hcontrol
    have hbalanced := h.balanced.kept { ledger.binding with retryDisabled := some false } rfl rfl []
    rw [List.append_nil] at hbalanced
    refine ⟨hbalanced, ⟨h.placed.inFlight, h.placed.paid, h.placed.waiting, ?_, h.placed.currentUsed,
      h.placed.turnUsed, h.placed.turnMade⟩⟩
    intro turn hturn hchain
    obtain ⟨owner, howner, howns⟩ := h.placed.owned turn hturn hchain
    exact ⟨owner, howner, ⟨howns.1, howns.2, howns.3, howns.4, howns.5, howns.6, howns.7, howns.8⟩⟩
  | cancel => exact h.cancel hcontrol
  | disable =>
    obtain ⟨stopped, hstop, hok⟩ := bind_ok hcontrol
    injection hok with hok
    subst hok
    exact h.stopped (cancel_stopped hstop) (some true)

/-- An explicit input that is no replay begins a turn of its own and stops the chain it is no
submission of. -/
inductive Begun (before : ProviderRuntimeBinding) (runId : Option String) (attemptId : String) :
    ProviderRuntimeBinding → Prop where
  | begun {released : ProviderRuntimeBinding} (turn : ProviderTurn)
      (hreleased : (before.retry.bind ProviderRetry.currentAttemptId = some attemptId ∧
        released = before) ∨ (before.retry.bind ProviderRetry.currentAttemptId ≠ some attemptId ∧
        Stopped before released))
      (hidle : providerTurnIsActive before.run = false) (hattempt : turn.attemptId = attemptId)
      (hstatus : turn.status = .submitting) (hid : turn.runId = runId)
      (hparses : (JsHost.dateParse turn.submittedAt).isSome = true)
      (hupdated : turn.updatedAt = turn.submittedAt)
      (hchecked : checkBinding { released with run := some turn } = .ok ()) :
      Begun before runId attemptId { released with run := some turn }

theorem begin_begun {input : BeginInput} (h : beginProviderTurn binding input = .ok result) :
    (IsReplay binding (input.runId.map trim) (trim input.attemptId) input.authorityEpoch ∧ result = binding) ∨
      (¬ IsReplay binding (input.runId.map trim) (trim input.attemptId) input.authorityEpoch ∧
        Begun binding (input.runId.map trim) (trim input.attemptId) result) := by
  unfold beginProviderTurn at h
  obtain ⟨current, hcurrent, hrest⟩ := bind_ok h
  clear h
  obtain ⟨rfl, _⟩ := validate_ok hcurrent
  obtain ⟨attemptId, hattempt, runId, hrunId, hrest⟩ := bind_ok₂ hrest
  rw [identity_trim hattempt, onSome_trim hrunId] at hrest
  split_ifs at hrest with hreplay
  · injection hrest with hrest
    exact .inl ⟨hreplay, hrest.symm⟩
  · refine .inr ⟨hreplay, ?_⟩
    unfold submitTurn at hrest
    obtain ⟨_, _, _, hidle, submittedAt, hsubmitted, released, hreleased, hrest⟩ := bind_ok₄ hrest
    obtain ⟨rfl, hchecked⟩ := validate_ok hrest
    refine .begun _ ?_ (by simpa using refuse_ok hidle) rfl rfl rfl (timestamp_parses hsubmitted) rfl hchecked
    unfold releaseRetry at hreleased
    split_ifs at hreleased with hother
    · split at hreleased
      · cases hreleased
      · exact .inr ⟨hother, cancel_stopped hreleased⟩
    · injection hreleased with hreleased
      exact .inl ⟨not_not.1 hother, hreleased.symm⟩

/-- An explicit input with an attempt id of its own. -/
theorem Accounted.begin (h : Accounted ledger) {input : BeginInput} (hfresh : Fresh ledger (.begin input))
    (hbegin : beginProviderTurn ledger.binding input = .ok result) :
    Accounted { ledger with binding := result, used := ledger.used ++ [trim input.attemptId] } := by
  rcases begin_begun hbegin with ⟨_, rfl⟩ | ⟨hnew, hbegun⟩
  · exact ⟨h.balanced.kept ledger.binding rfl rfl _, h.placed.usedMore _⟩
  · have hattemptId : trim input.attemptId ∉ ledger.used ∧ isRetryId (trim input.attemptId) = false :=
      hfresh.resolve_left hnew
    cases hbegun with
    | @begun released turn hreleased hidle hattempt hstatus hid hparses hupdated hchecked =>
      have hstop : Stopped ledger.binding released := by
        rcases hreleased with ⟨hcurrent, _⟩ | ⟨_, hstop⟩
        · obtain ⟨retry, hretry, hattempt'⟩ := Option.bind_eq_some_iff.1 hcurrent
          exact absurd (h.placed.currentUsed retry hretry _ hattempt').1 hattemptId.1
        · exact hstop
      refine ⟨h.balanced.stopped hstop (some turn) released.retryDisabled _,
        Placed.of_stopped ?_ ?_ ?_ ?_ ?_⟩
      · exact fun retry hretry => not_pending_of_stopped hstop retry hretry
      · intro other hother hchain
        cases hother
        have hids := stopped_chainIds hstop (some turn) released.retryDisabled
        rw [hattempt] at hchain
        exact absurd (h.balanced.known _ (hids ▸ hchain)) hattemptId.1
      · intro retry hretry attemptId hcurrent
        have hfound : released.retry.bind ProviderRetry.currentAttemptId = some attemptId := by
          rw [show released.retry = some retry from hretry]
          exact hcurrent
        rw [stopped_current hstop] at hfound
        obtain ⟨before, hbefore, hcurrent'⟩ := Option.bind_eq_some_iff.1 hfound
        have hboth := h.placed.currentUsed before hbefore attemptId hcurrent'
        exact ⟨List.mem_append_left _ hboth.1, hboth.2⟩
      · intro other hother
        cases hother
        rw [hattempt]
        simp
      · intro other hother
        cases hother
        exact .inl (hattempt ▸ hattemptId.2)

/-- What the record of a failure does: it may only note it, stop a chain, continue the chain in flight
or open a chain. -/
inductive Failed (before : ProviderRuntimeBinding) (input : FailureInput) :
    ProviderRuntimeBinding → List RetryEvent → Prop where
  | same : Failed before input before []
  | noted {turn : ProviderTurn} (hrun : before.run = some turn) :
      Failed before input { before with run := some (ProviderTurn.withFailure turn input) } []
  | stopped {turn : ProviderTurn} {retry : ProviderRetry} (reason updatedAt : String)
      (hrun : before.run = some turn) (hretry : before.retry = some retry)
      (hunrecorded : ¬ (retry.failedAttemptId = turn.attemptId ∧ retry.status ≠ .inFlight))
      (hparses : (JsHost.dateParse updatedAt).isSome = true) :
      Failed before input { before with
        run := some (ProviderTurn.withFailure turn input)
        retry := some (stoppedRetry (ProviderTurn.withFailure turn input) input
          { retry with status := .cancelled, reason := some reason, updatedAt := updatedAt }) } []
  | continued {turn : ProviderTurn} {retry current next : ProviderRetry} (hrun : before.run = some turn)
      (hretry : before.retry = some retry) (hstatus : retry.status = .inFlight)
      (hcurrent : retry.currentAttemptId = some turn.attemptId)
      (hcontinued : continuedRetry { before with run := some (ProviderTurn.withFailure turn input) }
        (ProviderTurn.withFailure turn input) input retry = .ok current)
      (hnext : scheduledRetry (ProviderTurn.withFailure turn input) current input = .ok next) :
      Failed before input { before with
        run := some (ProviderTurn.withFailure turn input), retry := some next }
        (if refund retry input.noProviderWrite = 1 then [.undone retry.chainId] else [])
  | opened {turn : ProviderTurn} {owned : ProviderInput} {current next : ProviderRetry}
      (hrun : before.run = some turn) (howned : turn.input = some owned)
      (hunrecorded : ∀ retry ∈ before.retry,
        ¬ (retry.failedAttemptId = turn.attemptId ∧ retry.status ≠ .inFlight) ∧
        ¬ (retry.status = .inFlight ∧ retry.currentAttemptId = some turn.attemptId))
      (hopened : openedRetry { before with run := some (ProviderTurn.withFailure turn input) }
        (ProviderTurn.withFailure turn input) input owned = .ok current)
      (hnext : scheduledRetry (ProviderTurn.withFailure turn input) current input = .ok next) :
      Failed before input { before with
        run := some (ProviderTurn.withFailure turn input)
        retry := some next
        retryHistory := before.retryHistory ++ before.retry.toList } []

variable {input : FailureInput}

theorem recordProviderFailure_failed (h : recordProviderFailure binding input = .ok result) :
    Failed binding input result (refundOf binding input) := by
  unfold recordProviderFailure at h
  split at h
  · next hrun =>
      injection h with h
      subst h
      have hnone : refundOf binding input = [] := by simp [refundOf, hrun]
      rw [hnone]
      exact .same
  · next turn hrun =>
      split_ifs at h with hfailed
      · have hsame : ∀ other : ProviderRuntimeBinding, other.retry = binding.retry →
            continuingRetry other (ProviderTurn.withFailure turn input) =
              continuingRetry binding turn := by
          intro other hother
          unfold continuingRetry
          rw [hother]
          rfl
        unfold recordTerminal at h
        by_cases hskip : (ProviderTurn.withFailure turn input).status = .deliveryUnknown ∨
            AlreadyRecorded { binding with run := some (ProviderTurn.withFailure turn input) }
              (ProviderTurn.withFailure turn input)
        · rw [if_pos hskip] at h
          injection h with h
          subst h
          rw [refundOf_noted hrun]
          · exact .noted hrun
          · intro hstatus _
            rcases hskip with hunknown | hrecorded
            · have hunknown' : turn.status = .deliveryUnknown := hunknown
              rw [hunknown'] at hstatus
              simp at hstatus
            · rw [← hsame { binding with run := some (ProviderTurn.withFailure turn input) } rfl]
              exact continuingRetry_of_recorded hrecorded
        · rw [if_neg hskip] at h
          rw [not_or] at hskip
          have hunrecorded : ∀ retry ∈ binding.retry,
              ¬ (retry.failedAttemptId = turn.attemptId ∧ retry.status ≠ .inFlight) :=
            fun retry hretry hboth => hskip.2 ⟨retry, hretry, .inr hboth⟩
          split at h
          · next blocker hblocker =>
              have hnone : refundOf binding input = [] := by
                apply refundOf_noted hrun
                intro _ hclear
                rw [hclear] at hblocker
                cases hblocker
              rw [hnone]
              split_ifs at h with hpending
              · obtain ⟨stopped, hstopped, hok⟩ := bind_ok h
                injection hok with hok
                subst hok
                have hstop := cancel_stopped hstopped
                cases hstop with
                | same hidle =>
                  rw [hidle] at hpending
                  cases hpending
                | cancelled reason updatedAt hretry hstatus hparses =>
                  exact .stopped reason updatedAt hrun hretry (hunrecorded _ hretry) hparses
              · injection h with h
                subst h
                exact .noted hrun
          · next hclear =>
              unfold scheduleRetry at h
              have hturn : turn.status = .failed ∨ turn.status = .rejected := by
                have hknown : turn.status ≠ .deliveryUnknown := hskip.1
                unfold isFailedStatus at hfailed
                cases hstatus : turn.status <;> simp_all
              split at h
              · next previous hprevious =>
                  obtain ⟨current, hcurrent, next, hnext, hok⟩ := bind_ok₂ h
                  clear h
                  injection hok with hok
                  subst hok
                  rw [hsame { binding with run := some (ProviderTurn.withFailure turn input) } rfl] at hprevious
                  obtain ⟨hretry, hstatus, hattempt⟩ := continuingRetry_some hprevious
                  have hrefund : refundOf binding input =
                      if refund previous input.noProviderWrite = 1 then
                        [.undone previous.chainId] else [] := by
                    unfold refundOf
                    rw [hrun]
                    simp only [hprevious, hturn, hclear, true_and]
                  rw [hrefund]
                  exact .continued hrun hretry hstatus hattempt hcurrent hnext
              · next hcontinuing =>
                  rw [hsame { binding with run := some (ProviderTurn.withFailure turn input) } rfl] at hcontinuing
                  rw [refundOf_noted hrun fun _ _ => hcontinuing]
                  split at h
                  · injection h with h
                    subst h
                    exact .noted hrun
                  · next owned howned =>
                      obtain ⟨current, hcurrent, next, hnext, hok⟩ := bind_ok₂ h
                      clear h
                      injection hok with hok
                      subst hok
                      exact .opened hrun howned (fun retry hretry => ⟨hunrecorded retry hretry,
                        continuingRetry_none hcontinuing hretry⟩) hcurrent hnext
      · injection h with h
        subst h
        rw [refundOf_noted hrun]
        · exact .same
        · intro hstatus _
          exfalso
          apply hfailed
          rcases hstatus with hstatus | hstatus
          · simp [isFailedStatus, hstatus]
          · simp [isFailedStatus, hstatus]

theorem scheduledRetry_ok {current next : ProviderRetry}
    (h : scheduledRetry turn current input = .ok next) : ∃ nextEligibleAt status reason,
      next = { current with nextEligibleAt := nextEligibleAt, status := status, reason := reason } ∧
        (JsHost.dateParse nextEligibleAt).isSome = true ∧ status ≠ .inFlight ∧ status ≠ .recovered := by
  obtain ⟨_, _, nextEligibleAt, htime, hok⟩ := bind_ok₂ h
  injection hok with hok
  refine ⟨nextEligibleAt, _, _, hok.symm, ?_, ?_, ?_⟩
  · rw [iso_parses htime]
    rfl
  · split_ifs <;> simp
  · split_ifs <;> simp

theorem continuedRetry_ok {retry current : ProviderRetry}
    (h : continuedRetry binding turn input retry = .ok current) :
    current.chainId = retry.chainId ∧ current.startedAt = retry.startedAt ∧
      current.deadline = retry.deadline ∧ current.transportSequence = retry.transportSequence ∧
      current.attempts = retry.attempts - refund retry input.noProviderWrite ∧
      current.failedAttemptId = turn.attemptId ∧ current.currentAttemptId = none := by
  obtain ⟨now, _, hok⟩ := bind_ok h
  injection hok with hok
  subst hok
  exact ⟨rfl, rfl, rfl, rfl, rfl, rfl, rfl⟩

theorem windowDiffers_opened {retry : ProviderRetry} (hstarted : iso time = .ok retry.startedAt)
    (hdeadline : iso (time + retryBudgetMs) = .ok retry.deadline) : windowDiffers retry = false := by
  simp [windowDiffers, iso_parses hstarted, iso_parses hdeadline]

structure Opens (binding : ProviderRuntimeBinding) (turn : ProviderTurn) (retry : ProviderRetry) : Prop where
  owns : Owns binding turn retry
  attempts : retry.attempts = 0
  window : windowDiffers retry = false

theorem openedRetry_opens {owned : ProviderInput} {current next : ProviderRetry}
    (h : openedRetry binding turn input owned = .ok current)
    (hnext : scheduledRetry turn current input = .ok next) : Opens binding turn next := by
  obtain ⟨now, hnow, deadline, hdeadline, hok⟩ := bind_ok₂ h
  clear h
  injection hok with hok
  obtain ⟨nextEligibleAt, status, reason, hscheduled, _, hidle, hunrecovered⟩ := scheduledRetry_ok hnext
  subst hok
  subst hscheduled
  refine ⟨⟨rfl, rfl, hidle, hunrecovered, rfl, rfl, rfl, rfl⟩, rfl, windowDiffers_opened hnow hdeadline⟩

theorem Accounted.opens (h : Accounted ledger) {next : ProviderRetry}
    (after : ProviderRuntimeBinding) (hturn : after.run = some turn)
    (hbefore : ∃ previous, ledger.binding.run = some previous ∧ previous.attemptId = turn.attemptId)
    (hrecords : after.retryHistory = ledger.binding.retryHistory ++ ledger.binding.retry.toList)
    (hretry : after.retry = some next) (hopens : Opens after turn next)
    (hnew : turn.attemptId ∉ chainIds ledger.binding) : Accounted (ledger.moved after) := by
  obtain ⟨previous, hprevious, hattempt⟩ := hbefore
  have hused := h.placed.turnUsed previous hprevious
  have hmade := h.placed.turnMade previous hprevious
  rw [hattempt] at hused hmade
  have hchain := hopens.owns.chainId
  refine ⟨h.balanced.opened (?_ : records after = records ledger.binding ++ [next]) ?_ ?_ ?_
    hopens.attempts hopens.window, ?_⟩
  · rw [records_some hretry, hrecords, records]
  · rw [hchain]
    exact hnew
  · rw [hchain]
    exact hused
  · rw [hchain]
    exact hmade
  · constructor
    · intro retry hmem hstatus
      rw [Ledger.moved, hretry] at hmem
      cases hmem
      exact absurd hstatus hopens.owns.idle
    · intro retry hmem hstatus
      rw [Ledger.moved, hretry] at hmem
      cases hmem
      exact absurd hstatus hopens.owns.idle
    · intro retry hmem _
      rw [Ledger.moved, hretry] at hmem
      cases hmem
      exact ⟨turn, hturn, hopens.owns.failed.symm⟩
    · intro other hother _
      rw [Ledger.moved, hturn] at hother
      cases hother
      exact ⟨next, hretry, hopens.owns⟩
    · intro retry hmem attemptId hcurrent
      rw [Ledger.moved, hretry] at hmem
      cases hmem
      rw [hopens.owns.current] at hcurrent
      cases hcurrent
    · intro other hother
      rw [Ledger.moved, hturn] at hother
      cases hother
      exact hused
    · intro other hother
      rw [Ledger.moved, hturn] at hother
      cases hother
      exact hmade

theorem Accounted.returned (h : Accounted ledger) {retry next : ProviderRetry}
    {events : List RetryEvent} (after : ProviderRuntimeBinding) (hturn : after.run = some turn)
    (hrun : ∃ previous, ledger.binding.run = some previous ∧ previous.attemptId = turn.attemptId)
    (hretry : ledger.binding.retry = some retry) (hstatus : retry.status = .inFlight)
    (hhistory : after.retryHistory = ledger.binding.retryHistory) (hnext : after.retry = some next)
    (hentry : Entry ledger retry next events) (hidle : next.status ≠ .inFlight)
    (hfailed : next.failedAttemptId = turn.attemptId) (hcurrent : next.currentAttemptId = none) :
    Accounted ⟨after, ledger.used, ledger.log ++ events⟩ := by
  obtain ⟨previous, hprevious, hattempt⟩ := hrun
  have hbalanced := h.balanced.entered after hretry hhistory hnext hentry []
  rw [List.append_nil] at hbalanced
  have hids : chainIds after = chainIds ledger.binding :=
    chainIds_eq hhistory (by rw [hnext, hretry, Option.map_some, Option.map_some, hentry.same.chainId])
  refine ⟨hbalanced, ?_⟩
  constructor
  · intro other hmem hflight
    rw [hnext] at hmem
    cases hmem
    exact absurd hflight hidle
  · intro other hmem hflight
    rw [hnext] at hmem
    cases hmem
    exact absurd hflight hidle
  · intro other hmem _
    rw [hnext] at hmem
    cases hmem
    exact ⟨turn, hturn, hfailed.symm⟩
  · intro other hother hchain
    rw [hturn] at hother
    cases hother
    rw [hids, ← hattempt] at hchain
    refine absurd hchain (h.placed.not_chain hprevious hretry ?_)
    exact fun hboth => hboth.2 hstatus
  · intro other hmem attemptId hattemptId
    rw [hnext] at hmem
    cases hmem
    rw [hcurrent] at hattemptId
    cases hattemptId
  · intro other hother
    rw [hturn] at hother
    cases hother
    exact hattempt ▸ h.placed.turnUsed previous hprevious
  · intro other hother
    rw [hturn] at hother
    cases hother
    rcases h.placed.turnMade previous hprevious with hplain | hsubmitted
    · exact .inl (hattempt ▸ hplain)
    · refine .inr ?_
      rw [hattempt] at hsubmitted
      simp only [submittedIds, List.filterMap_append]
      exact List.mem_append_left _ hsubmitted

theorem Accounted.undo (h : Accounted ledger) {retry next : ProviderRetry} {events : List RetryEvent}
    (hretry : ledger.binding.retry = some retry) (hstatus : retry.status = .inFlight)
    (hchain : next.chainId = retry.chainId) (hstarted : next.startedAt = retry.startedAt)
    (hdeadline : next.deadline = retry.deadline) (hsequence : next.transportSequence = retry.transportSequence)
    (hevents : (events = [] ∧ next.attempts = retry.attempts) ∨
      (events = [.undone retry.chainId] ∧ next.attempts = retry.attempts - 1 ∧
        isAutomatic retry = true)) : Entry ledger retry next events := by
  have hmem := mem_records_of_retry hretry
  have hbounded := h.balanced.bounded retry hmem
  rcases hevents with ⟨rfl, hattempts⟩ | ⟨rfl, hattempts, hautomatic⟩
  · refine ⟨⟨hchain, hstarted, hdeadline, hsequence.ge⟩, ?_, ?_, by simp, by simp, ?_⟩
    · rw [hattempts]
      simp [spent]
    · rw [hattempts, hsequence]
      exact hbounded
    · rw [List.append_nil]
      exact h.balanced.distinct
  · have hpaid := h.placed.paid retry hretry hstatus hautomatic
    refine ⟨⟨hchain, hstarted, hdeadline, hsequence.ge⟩, ?_, ?_, ?_, by simp, ?_⟩
    · rw [hattempts, spent_undone]
      omega
    · rw [hattempts, hsequence]
      omega
    · intro event hevent
      rw [List.mem_singleton.1 hevent]
      rfl
    · simp only [submittedIds, List.filterMap_append, List.filterMap_cons, List.filterMap_nil,
        RetryEvent.attemptId?, List.append_nil]
      exact h.balanced.distinct

theorem Accounted.fail (h : Accounted ledger) (hfail : recordProviderFailure ledger.binding input = .ok result) :
    Accounted { ledger with
      binding := result, log := ledger.log ++ refundOf ledger.binding input } := by
  have hfailed := recordProviderFailure_failed hfail
  generalize hevents : refundOf ledger.binding input = events at hfailed
  cases hfailed with
  | same =>
    rw [List.append_nil]
    exact h
  | noted hrun =>
    rw [List.append_nil]
    exact h.turned _ hrun rfl rfl
  | @stopped turn retry reason updatedAt hrun hretry hunrecorded hparses =>
    rw [List.append_nil]
    have hbalanced := h.balanced.touched { ledger.binding with
      run := some (ProviderTurn.withFailure turn input)
      retry := some (stoppedRetry (ProviderTurn.withFailure turn input) input
        { retry with status := .cancelled, reason := some reason, updatedAt := updatedAt }) }
      hretry rfl rfl rfl rfl rfl rfl rfl []
    rw [List.append_nil] at hbalanced
    have hnot := h.placed.not_chain hrun hretry hunrecorded
    refine ⟨hbalanced, Placed.of_stopped ?_ ?_ ?_ ?_ ?_⟩
    · intro other hmem
      cases hmem
      simp [stoppedRetry]
    · intro other hother hchain
      cases hother
      have hids : chainIds { ledger.binding with
          run := some (ProviderTurn.withFailure turn input)
          retry := some (stoppedRetry (ProviderTurn.withFailure turn input) input
            { retry with status := .cancelled, reason := some reason, updatedAt := updatedAt }) } =
          chainIds ledger.binding := chainIds_eq rfl (by rw [hretry]; rfl)
      exact absurd (hids ▸ hchain) hnot
    · intro other hmem attemptId hcurrent
      cases hmem
      exact h.placed.currentUsed retry hretry attemptId hcurrent
    · intro other hother
      cases hother
      exact h.placed.turnUsed turn hrun
    · intro other hother
      cases hother
      exact h.placed.turnMade turn hrun
  | @continued turn retry current next hrun hretry hstatus hcurrent hcontinued hnext =>
    obtain ⟨hchain, hstarted, hdeadline, hsequence, hattempts, hfailedId, hnone⟩ := continuedRetry_ok hcontinued
    obtain ⟨nextEligibleAt, status, reason, hscheduled, _, hidle, _⟩ := scheduledRetry_ok hnext
    subst hscheduled
    refine h.returned _ rfl ⟨turn, hrun, rfl⟩ hretry hstatus rfl rfl
      (h.undo hretry hstatus hchain hstarted hdeadline hsequence ?_) hidle hfailedId hnone
    rcases refund_cases retry input.noProviderWrite with hzero | ⟨hone, hautomatic⟩
    · refine .inl ⟨by simp [hzero], ?_⟩
      rw [show _ = current.attempts from rfl, hattempts, hzero, sub_zero]
    · refine .inr ⟨by simp [hone], ?_, hautomatic⟩
      rw [show _ = current.attempts from rfl, hattempts, hone]
  | @opened turn owned current next hrun howned hunrecorded hopened hnext =>
    rw [List.append_nil]
    have hopens := openedRetry_opens hopened hnext
    refine h.opens _ rfl ⟨turn, hrun, rfl⟩ rfl rfl
      ⟨⟨hopens.owns.1, hopens.owns.2, hopens.owns.3, hopens.owns.4, hopens.owns.5, hopens.owns.6,
        hopens.owns.7, hopens.owns.8⟩, hopens.attempts, hopens.window⟩ ?_
    change turn.attemptId ∉ chainIds ledger.binding
    cases hretry : ledger.binding.retry with
    | some retry => exact h.placed.not_chain hrun hretry (hunrecorded retry hretry).1
    | none =>
      intro hchain
      obtain ⟨owner, howner, _⟩ := h.placed.owned turn hrun hchain
      rw [hretry] at howner
      cases howner

end

end Binding
