import Yui.WorkMailboxNormal

/-!
# What one mailbox operation can do

Each operation is inverted once: a draft names the checked inputs and the mailbox built from them.
From these descriptions every draft of a coherent mailbox is coherent, so the closing validation
returns the draft itself.
-/

open JsText Checked

namespace WorkMailbox

theorem matchedEnd?_bounds {range : SequenceRange} {pending : PendingBatch} {last : ℕ}
    (h : range.matchedEnd? pending = some last) : range.toSequence = some (last : ℤ) ∧ pending.fromSequence ≤ last ∧
      last ≤ pending.toSequence := by
  obtain ⟨first, last'⟩ := range
  cases first with
  | none => cases h
  | some f =>
    cases last' with
    | none => cases h
    | some t =>
      simp only [SequenceRange.matchedEnd?] at h
      split_ifs at h with hb
      obtain rfl := Option.some.inj h
      obtain ⟨hf, hft, ht⟩ := hb
      exact ⟨by simp only [Option.some.injEq]; omega, by omega, by omega⟩

variable [JsHost]

variable {m : Mailbox} {draft : Option Mailbox}

theorem enqueueSignalDraft_ok {signal : WorkSignal}
    (h : enqueueSignalDraft m signal = .ok draft) :
    ∃ reason occurredAt source key,
      requireText signal.reason "signal reason" = .ok reason ∧
      requireTimestamp signal.occurredAt "signal occurredAt" = .ok occurredAt ∧
      requireText (signal.source.getD "yui") "signal source" = .ok source ∧
      signalDedupeKey m signal = .ok key ∧
      ((mailboxContainsDedupeKey m key = true ∧ draft = none) ∨
        (mailboxContainsDedupeKey m key = false ∧
          ∃ refs revision, mapIndexed (fun ref _ => copyRef ref) 0 signal.refs = .ok refs ∧
            draft = some { m with
              nextSequence := m.nextSequence + 1
              pending := some (appendToPending m.pending
                (incomingBatch m.nextSequence reason occurredAt source key refs revision)) })) := by
  obtain ⟨_, _, reason, hreason, occurredAt, hoccurred, source, hsource, h⟩ := bind_ok₄ h
  obtain ⟨key, hkey, h⟩ := bind_ok h
  refine ⟨reason, occurredAt, source, key, hreason, hoccurred, hsource, hkey, ?_⟩
  cases hc : mailboxContainsDedupeKey m key with
  | true =>
    rw [hc, if_pos rfl] at h
    exact .inl ⟨rfl, by cases h; rfl⟩
  | false =>
    rw [hc, if_neg Bool.false_ne_true] at h
    obtain ⟨refs, hrefs, revision, _, h⟩ := bind_ok₂ h
    exact .inr ⟨rfl, refs, revision, hrefs, by cases h; rfl⟩

theorem claimPendingDraft_ok {options : ClaimOptions} (h : claimPendingDraft m options = .ok draft) :
    ∃ pending batchId owner startedAt, m.processing = none ∧ m.pending = some pending ∧
      NormalText batchId ∧ NormalText owner ∧ NormalTimestamp startedAt ∧ draft = some { m with
        processing := some ⟨batchId, pending, owner, startedAt, none⟩
        pending := none } := by
  obtain ⟨_, _, h⟩ := bind_ok h
  split_ifs at h with hproc
  cases hpend : m.pending with
  | none => simp [hpend] at h
  | some pending =>
    rw [hpend] at h
    obtain ⟨batchId, hid, owner, howner, startedAt, hstart, h⟩ := bind_ok₃ h
    refine ⟨pending, batchId, owner, startedAt, by simpa using hproc, rfl,
      requireText_normal hid, requireText_normal howner, requireTimestamp_normal hstart, ?_⟩
    cases h
    rfl

variable {batchId : String}

theorem requireProcessing_ok {processing : ProcessingBatch}
    (h : requireProcessing m batchId = .ok processing) : m.processing = some processing := by
  obtain ⟨_, _, id, hid, h⟩ := bind_ok₂ h
  cases hp : m.processing with
  | none => simp [hp] at h
  | some p =>
    simp only [hp] at h
    split_ifs at h
    cases h
    rfl

theorem bindExecutionDraft_ok {ref : MailboxEntityRef} (h : bindExecutionDraft m batchId ref = .ok draft) :
    ∃ processing ref', m.processing = some processing ∧ NormalRef ref' ∧
      draft = some { m with processing := some { processing with executionRef := some ref' } } := by
  obtain ⟨processing, hp, ref', href, h⟩ := bind_ok₂ h
  exact ⟨processing, ref', requireProcessing_ok hp, copyRef_normal href, by cases h; rfl⟩

theorem completeProcessingDraft_ok (h : completeProcessingDraft m batchId = .ok draft) :
    ∃ processing, m.processing = some processing ∧ draft = some { m with
        processing := none
        recentDedupeKeys :=
          rememberDedupeKeys m.recentDedupeKeys processing.batch.dedupeKeys } := by
  obtain ⟨processing, hp, h⟩ := bind_ok h
  exact ⟨processing, requireProcessing_ok hp, by cases h; rfl⟩

theorem releaseProcessingDraft_ok (h : releaseProcessingDraft m batchId = .ok draft) :
    ∃ processing, m.processing = some processing ∧ draft = some { m with
        processing := none
        pending := some (prependToPending processing.batch m.pending) } := by
  obtain ⟨processing, hp, h⟩ := bind_ok h
  exact ⟨processing, requireProcessing_ok hp, by cases h; rfl⟩

theorem consumePendingBatchDraft_ok {through : Option SequenceRange}
    (h : consumePendingBatchDraft m through = .ok draft) : ∃ pending, m.pending = some pending ∧
      (((through = none ∨ ∃ range, through = some range ∧ range.matchedEnd? pending = some pending.toSequence) ∧
          draft = some (consumeWhole m pending)) ∨
        ∃ range last, through = some range ∧ range.matchedEnd? pending = some last ∧
          last < pending.toSequence ∧ draft = some (consumeThrough m pending last)) := by
  obtain ⟨_, _, h⟩ := bind_ok h
  cases hp : m.pending with
  | none => simp [hp] at h
  | some pending =>
    rw [hp] at h
    refine ⟨pending, rfl, ?_⟩
    cases through with
    | none =>
      cases h
      exact .inl ⟨.inl rfl, rfl⟩
    | some range =>
      cases hm : range.matchedEnd? pending with
      | none => simp [hm] at h
      | some last =>
        simp only [hm] at h
        split_ifs at h with hl
        · cases h
          exact .inr ⟨range, last, rfl, hm, hl, rfl⟩
        · cases h
          have hlast : last = pending.toSequence := Nat.le_antisymm (matchedEnd?_bounds hm).2.2 (Nat.le_of_not_gt hl)
          exact .inl ⟨.inr ⟨range, rfl, by rw [hm, hlast]⟩, rfl⟩

end WorkMailbox
