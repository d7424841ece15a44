import Yui.WorkMailboxLedger

/-!
# Closure and content retention of mailbox runs

In every run whose signals are well formed and never supply a key of the form `sequence:<n>`, the
sequence keys present in the mailbox stay below the next sequence number. Unkeyed signals are
therefore always accepted, and the mailbox never fails its own validation.
-/

open JsText Checked FallibleRun

namespace WorkMailbox

def Mailbox.allKeys (m : Mailbox) : List String :=
  m.recentDedupeKeys ++ m.pendingKeys ++ m.processingKeys

variable {k : String}

theorem mem_allKeys {m : Mailbox} : k ∈ m.allKeys ↔
    k ∈ m.recentDedupeKeys ∨ k ∈ m.pendingKeys ∨ k ∈ m.processingKeys := by
  simp [Mailbox.allKeys]

theorem mailboxContainsDedupeKey_iff {m : Mailbox} : mailboxContainsDedupeKey m k = true ↔ k ∈ m.allKeys := by
  simp [mailboxContainsDedupeKey, mem_allKeys, or_assoc]

theorem sequenceKey_injective {n k : ℕ} (h : sequenceKey n = sequenceKey k) : n = k := by
  have hl := congrArg String.toList h
  simp only [sequenceKey, String.toList_append, List.append_cancel_left_eq, Nat.toString_eq_repr,
    Nat.toList_repr] at hl
  rw [← @Nat.ofDigitChars_toDigits 10 n (by decide) (by decide), hl]
  exact Nat.ofDigitChars_toDigits (by decide) (by decide)

/-- A text that `requireText` accepts. -/
def PlainText (s : String) : Prop := includesNul s = false ∧ trim s ≠ ""

theorem requireText_of_plain {s : String} (h : PlainText s) (label : String) :
    requireText s label = .ok (trim s) := by
  simp [requireText, requireTextWith, h.1, h.2]

theorem rememberDedupeKeys_subset_allKeys (m : Mailbox) (keys : List String) (h : ∀ k ∈ keys, k ∈ m.allKeys)
    (hk : k ∈ rememberDedupeKeys m.recentDedupeKeys keys) : k ∈ m.allKeys :=
  (mem_rememberDedupeKeys hk).elim (fun hr => mem_allKeys.2 (.inl hr)) (h k)

/-- Every sequence key in the mailbox belongs to a number that was already given out. -/
def SequenceKeysSpent (m : Mailbox) : Prop := ∀ n, sequenceKey n ∈ m.allKeys → n < m.nextSequence

section Host

variable [JsHost]

structure WellFormedSignal (signal : WorkSignal) : Prop where
  reason : PlainText signal.reason
  source : ∀ s ∈ signal.source, PlainText s
  occurredAt : PlainText signal.occurredAt ∧ (JsHost.dateParse (trim signal.occurredAt)).isSome
  refs : ∀ r ∈ signal.refs, ∃ r', copyRef r = .ok r'
  factRevision : ∀ v ∈ signal.factRevision, ∃ n : ℕ, v = .ofNat n
  dedupeKey : ∀ k ∈ signal.dedupeKey, PlainText k
  unreserved : ∀ k ∈ signal.dedupeKey, ∀ n, trim k ≠ sequenceKey n

def WellFormedOperation : Operation → Prop
  | .enqueueSignal signal => WellFormedSignal signal
  | _ => True

variable {op : Operation}

theorem Move.allKeys {m next : Mailbox} {ledger ledger' : Ledger}
    (h : Move m ledger op next ledger') (hm : Coherent m) {k : String} (hk : k ∈ next.allKeys) :
    k ∈ m.allKeys ∨ ∃ signal, op = .enqueueSignal signal ∧ k = signalKey m signal ∧
      next.nextSequence = m.nextSequence + 1 := by
  cases h with
  | ignored signal _ => exact .inl hk
  | accepted signal incoming hn hkeys hfrom hto hholds hfresh =>
    have hkey := (mailboxContainsDedupeKey_false.1 hfresh).2.1
    have hspec := (appendToPending_spec hm hn hkeys hfrom hto hkey).2.1
    rw [mem_allKeys, pendingKeys_some rfl, hspec, List.mem_append, List.mem_singleton] at hk
    rcases hk with hk | (hk | hk) | hk
    · exact .inl (mem_allKeys.2 (.inl hk))
    · exact .inl (mem_allKeys.2 (.inr (.inl hk)))
    · exact .inr ⟨signal, rfl, hk, rfl⟩
    · exact .inl (mem_allKeys.2 (.inr (.inr hk)))
  | claimed options p hp hb =>
    rw [mem_allKeys, processingKeys_some rfl, ← pendingKeys_some hb, pendingKeys_none rfl] at hk
    rw [mem_allKeys]
    simp only [List.not_mem_nil, false_or] at hk
    exact .inl (hk.imp_right .inl)
  | bound batchId ref p q hp hq =>
    rw [mem_allKeys, processingKeys_some rfl, hq, ← processingKeys_some hp] at hk
    exact .inl (mem_allKeys.2 hk)
  | completed batchId p hp =>
    rw [mem_allKeys, processingKeys_none rfl] at hk
    left
    rcases hk with hk | hk | hk
    · simp only at hk
      exact rememberDedupeKeys_subset_allKeys m p.batch.dedupeKeys
        (fun k hk => mem_allKeys.2 (.inr (.inr (by rwa [processingKeys_some hp])))) hk
    · exact mem_allKeys.2 (.inr (.inl hk))
    · cases hk
  | released batchId p hp =>
    have hspec := (prependToPending_spec hm hp).2.1
    rw [mem_allKeys, pendingKeys_some rfl, hspec, processingKeys_none rfl, List.mem_append,
      ← processingKeys_some hp] at hk
    rw [mem_allKeys]
    simp only [List.not_mem_nil, or_false] at hk
    exact .inl (hk.imp_right Or.symm)
  | consumedWhole through b hb =>
    rw [mem_allKeys] at hk
    left
    rcases hk with hk | hk | hk
    · simp only [consumeWhole] at hk
      exact rememberDedupeKeys_subset_allKeys m b.dedupeKeys
        (fun k hk => mem_allKeys.2 (.inr (.inl (by rwa [pendingKeys_some hb])))) hk
    · cases hk
    · exact mem_allKeys.2 (.inr (.inr hk))
  | consumedThrough range b last hb hmatch hfrom hlast =>
    have hsub : ∀ k ∈ b.dedupeKeys, k ∈ m.allKeys := fun k hk =>
      mem_allKeys.2 (.inr (.inl (by rwa [pendingKeys_some hb])))
    rw [mem_allKeys] at hk
    left
    rcases hk with hk | hk | hk
    · simp only [consumeThrough] at hk
      refine rememberDedupeKeys_subset_allKeys m _ (fun k hk => hsub k ?_) hk
      split_ifs at hk
      · exact List.mem_of_mem_take hk
      · cases hk
    · refine hsub k ?_
      change k ∈ (if keysAreSequenceAligned b then _ else _) at hk
      split_ifs at hk
      · exact List.mem_of_mem_drop hk
      · exact hk
    · exact mem_allKeys.2 (.inr (.inr hk))

theorem Move.nextSequence_le {m next : Mailbox} {ledger ledger' : Ledger}
    (h : Move m ledger op next ledger') : m.nextSequence ≤ next.nextSequence := by
  cases h <;> simp [consumeWhole, consumeThrough]

theorem SequenceKeysSpent.step {s t : Mailbox × Ledger}
    (hspent : SequenceKeysSpent s.1) (hs : LedgerInv s) (hop : WellFormedOperation op)
    (h : trackedStep s op = .ok t) : SequenceKeysSpent t.1 := by
  intro n hn
  have hmove := trackedStep_move hs h
  rcases hmove.allKeys hs.coherent hn with hold | ⟨signal, rfl, hkey, hnext⟩
  · exact (hspent n hold).trans_le hmove.nextSequence_le
  · have hfree := hop.unreserved
    cases hk : signal.dedupeKey with
    | none =>
      rw [signalKey, hk] at hkey
      rw [sequenceKey_injective hkey, hnext]
      exact Nat.lt_succ_self _
    | some key =>
      rw [signalKey, hk] at hkey
      exact absurd hkey.symm (hfree key hk n)

variable {signal : WorkSignal}

theorem signalDedupeKey_of_wellFormed (h : WellFormedSignal signal)
    (m : Mailbox) : signalDedupeKey m signal = .ok (signalKey m signal) := by
  unfold signalDedupeKey signalKey
  cases hk : signal.dedupeKey with
  | none => rfl
  | some key => exact requireText_of_plain (h.dedupeKey key hk) _

theorem enqueueSignalDraft_of_wellFormed {m : Mailbox} (hm : Coherent m) (h : WellFormedSignal signal) :
    ∃ built, built.nextSequence = m.nextSequence + 1 ∧ enqueueSignalDraft m signal =
      .ok (if signalKey m signal ∈ m.allKeys then none else some built) := by
  have hsource : PlainText (signal.source.getD "yui") := by
    cases hs : signal.source with
    | none => exact ⟨by decide, by decide⟩
    | some source => exact h.source source hs
  obtain ⟨refs, hrefs⟩ := @mapIndexed_isOk _ _ _ signal.refs (fun ref _ => copyRef ref) (fun r hr _ => h.refs r hr) 0
  obtain ⟨revision, hrevision⟩ := @onSome_isOk _ _ _ signal.factRevision
    (fun revision => requireInteger revision 0 "signal factRevision") (by
      intro v hv
      obtain ⟨n, rfl⟩ := h.factRevision v hv
      exact ⟨n, requireInteger_ofNat (Nat.zero_le n) _⟩)
  have hoccurred : requireTimestamp signal.occurredAt "signal occurredAt" =
      .ok (trim signal.occurredAt) := by
    rw [requireTimestamp, requireText_of_plain h.occurredAt.1, ok_bind, if_pos h.occurredAt.2]
  let incoming := incomingBatch m.nextSequence (trim signal.reason) (trim signal.occurredAt)
    (trim (signal.source.getD "yui")) (signalKey m signal) refs revision
  refine ⟨{ m with nextSequence := m.nextSequence + 1,
                   pending := some (appendToPending m.pending incoming) }, rfl, ?_⟩
  rw [enqueueSignalDraft, validateWorkMailbox_of_normal hm.toNormalMailbox, ok_bind,
    requireText_of_plain h.reason, ok_bind, hoccurred, ok_bind, requireText_of_plain hsource,
    ok_bind, signalDedupeKey_of_wellFormed h, ok_bind, hrefs, ok_bind, hrevision, ok_bind]
  simp only [mailboxContainsDedupeKey_iff]
  split_ifs <;> rfl

/-- What a mailbox grants: its drafts are valid, it accepts or ignores a well-formed signal by the
signal's key alone, its recent keys are bounded, and its batches keep the content of their
signals. -/
structure Retentive (s : Mailbox × Ledger) : Prop where
  closed : ∀ op built, Operation.draft s.1 op = .ok (some built) →
    validateWorkMailbox built = .ok built
  unkeyed : ∀ signal, WellFormedSignal signal → signal.dedupeKey = none →
    ∃ next, enqueueSignal s.1 signal = .ok next ∧ next.nextSequence = s.1.nextSequence + 1
  ignored : ∀ signal key, WellFormedSignal signal → signal.dedupeKey = some key →
    (enqueueSignal s.1 signal = .ok s.1 ↔ trim key ∈ s.1.processingKeys ∨
      trim key ∈ s.1.pendingKeys ∨ trim key ∈ s.1.recentDedupeKeys)
  recentLength : s.1.recentDedupeKeys.length ≤ 256
  recentDistinct : s.1.recentDedupeKeys.Nodup
  recentFresh : ∀ k ∈ s.1.recentDedupeKeys, k ∉ s.1.pendingKeys ∧ k ∉ s.1.processingKeys
  pendingContent : ∀ e ∈ s.2.pending, ∃ b ∈ s.1.pending,
    e.reason ∈ b.reasons ∧ e.source ∈ b.sources ∧ ∀ r ∈ e.refs, r ∈ b.refs
  processingContent : ∀ e ∈ s.2.processing, ∃ p ∈ s.1.processing,
    e.reason ∈ p.batch.reasons ∧ e.source ∈ p.batch.sources ∧ ∀ r ∈ e.refs, r ∈ p.batch.refs

theorem enqueueSignal_of_wellFormed {m : Mailbox} (hm : Coherent m) (h : WellFormedSignal signal) :
    (signalKey m signal ∈ m.allKeys ∧ enqueueSignal m signal = .ok m) ∨
      (signalKey m signal ∉ m.allKeys ∧ ∃ next, enqueueSignal m signal = .ok next ∧
        next.nextSequence = m.nextSequence + 1) := by
  obtain ⟨built, hnext, hdraft⟩ := enqueueSignalDraft_of_wellFormed hm h
  split_ifs at hdraft with hkey
  · exact .inl ⟨hkey, by rw [enqueueSignal, hdraft]; rfl⟩
  · have hdraft' : Operation.draft m (.enqueueSignal signal) = .ok (some built) := hdraft
    exact .inr ⟨hkey, built, (step_ok_iff hm).2 (.inr hdraft'), hnext⟩

theorem LedgerInv.retentive {s : Mailbox × Ledger} (hs : LedgerInv s)
    (hspent : SequenceKeysSpent s.1) : Retentive s where
  closed op built h := validateWorkMailbox_of_normal (draft_coherent hs.coherent h).toNormalMailbox
  unkeyed signal h hk := by
    rcases enqueueSignal_of_wellFormed hs.coherent h with ⟨hmem, _⟩ | ⟨_, hacc⟩
    · rw [signalKey, hk] at hmem
      exact absurd (hspent _ hmem) (lt_irrefl _)
    · exact hacc
  ignored signal key h hk := by
    have hkey : signalKey s.1 signal = trim key := by rw [signalKey, hk]
    have hor : trim key ∈ s.1.processingKeys ∨ trim key ∈ s.1.pendingKeys ∨
        trim key ∈ s.1.recentDedupeKeys ↔ signalKey s.1 signal ∈ s.1.allKeys := by
      rw [hkey, mem_allKeys]
      tauto
    rw [hor]
    rcases enqueueSignal_of_wellFormed hs.coherent h with ⟨hmem, hsame⟩ | ⟨hmem, next, hacc, hnext⟩
    · exact iff_of_true hsame hmem
    · refine iff_of_false (fun hsame => ?_) hmem
      rw [hacc, Except.ok.injEq] at hsame
      rw [hsame] at hnext
      omega
  recentLength := hs.coherent.recentLength
  recentDistinct := hs.coherent.recent.nodup
  recentFresh k hk := ⟨fun h => hs.coherent.pendingFresh k h hk,
    fun h => hs.coherent.processingFresh k h hk⟩
  pendingContent e he := by
    cases hb : s.1.pending with
    | none => simp [hs.pending.empty hb] at he
    | some b => exact ⟨b, rfl, hs.pending.content b hb e he⟩
  processingContent e he := by
    cases hp : s.1.processing with
    | none => simp [hs.processing.empty (by simp [hp])] at he
    | some p => exact ⟨p, rfl, hs.processing.content p.batch (by simp [hp]) e he⟩

theorem retentive_of_wellFormed_run {target : MailboxTarget} {m : Mailbox}
    (h : createWorkMailbox target = .ok m) (ops : List Operation) (hops : ∀ op ∈ ops, WellFormedOperation op) :
    Retentive (run trackedStep (m, Ledger.empty) ops) := by
  have hinv : LedgerInv (run trackedStep (m, Ledger.empty) ops) ∧
      SequenceKeysSpent (run trackedStep (m, Ledger.empty) ops).1 := by
    refine @run_preserves _ _ _ trackedStep (fun s => LedgerInv s ∧ SequenceKeysSpent s.1) _ ops
      ⟨LedgerInv.initial h, ?_⟩ ?_
    · obtain ⟨t, _, h⟩ := bind_ok h
      cases h
      intro n hn
      simp [Mailbox.allKeys, Mailbox.pendingKeys, Mailbox.processingKeys] at hn
    · exact fun op hop s t hs ht => ⟨hs.1.step ht, hs.2.step hs.1 (hops op hop) ht⟩
  exact hinv.1.retentive hinv.2

end Host

def keyedSignal : WorkSignal := { sampleSignal with dedupeKey := some "k" }

theorem retentive_keyed_run : createWorkMailbox .operator = .ok operatorMailbox ∧
    @Retentive sampleHost (run (@trackedStep sampleHost) (operatorMailbox, Ledger.empty)
      [.enqueueSignal keyedSignal, .claimPending sampleClaim, .enqueueSignal keyedSignal]) := by
  let _ := sampleHost
  have hcreate : createWorkMailbox .operator = .ok operatorMailbox := rfl
  refine ⟨hcreate, retentive_of_wellFormed_run hcreate _ ?_⟩
  have hkeyed : WellFormedSignal keyedSignal := {
    reason := ⟨by decide, by decide⟩
    source := by simp [keyedSignal, sampleSignal]
    occurredAt := ⟨⟨by decide, by decide⟩, by decide⟩
    refs := by simp [keyedSignal, sampleSignal]
    factRevision := by simp [keyedSignal, sampleSignal]
    dedupeKey := by
      rintro k ⟨rfl⟩
      exact ⟨by decide, by decide⟩
    unreserved := by
      rintro k ⟨rfl⟩ n h
      have hhead := congrArg (fun s : String => s.toList.head?) h
      simp [sequenceKey] at hhead
      revert hhead
      decide }
  intro op hop
  simp only [List.mem_cons, List.not_mem_nil, or_false] at hop
  rcases hop with rfl | rfl | rfl
  · exact hkeyed
  · trivial
  · exact hkeyed

end WorkMailbox
