import Yui.WorkMailboxConservation
import Yui.WorkMailboxRetention

/-!
# Journals of unclaimed mailboxes

A mailbox that is never claimed is a journal of accepted signals with a cursor: the first
`consumed` signals have departed, the others are pending in order, and the recent keys are the
last keys before the cursor. Appending a signal extends the journal, and consuming through a
sequence number moves the cursor to it.
-/

open JsText Checked IncreasingLabels FallibleRun

namespace WorkMailbox

theorem lastEntries_append (limit : ℕ) (old new : List String) :
    lastEntries limit (lastEntries limit old ++ new) = lastEntries limit (old ++ new) := by
  simp only [lastEntries, List.drop_append, List.length_append, List.length_drop, List.drop_drop]
  congr 2 <;> omega

theorem lastEntries_cons {limit : ℕ} {keys : List String} (h : limit ≤ keys.length) (key : String) :
    lastEntries limit (key :: keys) = lastEntries limit keys := by
  rw [lastEntries, lastEntries, List.length_cons, Nat.succ_sub h, List.drop_succ_cons]

theorem getElem_mem_lastEntries {limit : ℕ} {keys : List String} {i : ℕ} (hi : i < keys.length)
    (h : keys.length ≤ i + limit) : keys[i] ∈ lastEntries limit keys := by
  refine List.mem_drop_iff_getElem.2 ⟨i - (keys.length - limit), by omega, ?_⟩
  congr 1
  omega

theorem rememberDedupeKeys_lastEntries {old new : List String} (hnew : new.Nodup)
    (hfresh : ∀ k ∈ new, k ∉ lastEntries recentDedupeKeyLimit old) :
    rememberDedupeKeys (lastEntries recentDedupeKeyLimit old) new =
      lastEntries recentDedupeKeyLimit (old ++ new) := by
  rw [rememberDedupeKeys, appendUnique.eq_append_id hnew hfresh, lastEntries_append]

/-- The ledger of a mailbox without a processing batch. -/
def journalLedger (journal : List LedgerEntry) (consumed : ℕ) : Ledger where
  pending := journal.drop consumed
  processing := []
  departed := journal.take consumed

section Host

variable [JsHost]

structure Journals (m : Mailbox) (journal : List LedgerEntry) (consumed : ℕ) : Prop extends
    Aligned (m, journalLedger journal consumed) where
  idle : m.processing = none
  bounded : consumed ≤ journal.length
  next : m.nextSequence = journal.length + 1
  numbered : journal.map LedgerEntry.sequence = List.range' 1 journal.length
  envelope : ∀ b ∈ m.pending, b.fromSequence = consumed + 1 ∧ b.toSequence = journal.length ∧
    b.requestCount = journal.length - consumed
  recent : m.recentDedupeKeys =
    lastEntries recentDedupeKeyLimit ((journal.take consumed).map LedgerEntry.key)

namespace Journals

theorem initial {m : Mailbox} {target : MailboxTarget} (h : createWorkMailbox target = .ok m) : Journals m [] 0 := by
  refine { Aligned.initial h with
    idle := ?_, bounded := le_rfl, next := ?_, numbered := rfl, envelope := ?_, recent := ?_ }
  all_goals
    obtain ⟨t, _, h⟩ := bind_ok h
    cases h
    simp [lastEntries]

variable {m next : Mailbox} {journal : List LedgerEntry} {consumed : ℕ}

theorem pendingKeys_eq (h : Journals m journal consumed) :
    m.pendingKeys = (journal.drop consumed).map LedgerEntry.key := h.pendingKeys

theorem sequence_eq (h : Journals m journal consumed) {i : ℕ} (hi : i < journal.length) :
    journal[i].sequence = i + 1 := by
  have hget : (journal.map LedgerEntry.sequence)[i]? = (List.range' 1 journal.length)[i]? := by rw [h.numbered]
  rw [List.getElem?_map, List.getElem?_eq_getElem hi, List.getElem?_range' hi] at hget
  simp only [Option.map_some, Option.some.injEq] at hget
  omega

theorem pending_none_iff (h : Journals m journal consumed) : m.pending = none ↔ consumed = journal.length := by
  constructor
  · intro hp
    have hnil := h.toLedgerInv.pending.empty hp
    simp only [journalLedger, List.drop_eq_nil_iff] at hnil
    exact Nat.le_antisymm h.bounded hnil
  · intro hc
    cases hp : m.pending with
    | none => rfl
    | some b =>
      obtain ⟨hfrom, hto, _⟩ := h.envelope b hp
      have := (h.coherent.pending b hp).fromLe
      omega

theorem trackedStep_of_step {s : Mailbox × Ledger} {op : Operation} (h : step s.1 op = .ok next) :
    trackedStep s op = .ok (next, s.2.advance s.1 next op) := by
  rw [trackedStep, h, ok_bind]

theorem mem_allKeys_iff (h : Journals m journal consumed) {k : String} : k ∈ m.allKeys ↔
    k ∈ lastEntries recentDedupeKeyLimit ((journal.map LedgerEntry.key).take consumed) ∨
      k ∈ (journal.map LedgerEntry.key).drop consumed := by
  rw [mem_allKeys, h.recent, h.pendingKeys_eq, processingKeys_none h.idle, List.map_take, List.map_drop]
  simp

theorem enqueued {signal : WorkSignal} (h : Journals m journal consumed) (hstep : enqueueSignal m signal = .ok next) :
    (next = m ∧ signalKey m signal ∈ m.allKeys) ∨ (signalKey m signal ∉ m.allKeys ∧
        Journals next (journal ++ [acceptedEntry m signal]) consumed) := by
  have hstep' : step m (.enqueueSignal signal) = .ok next := hstep
  have htracked := @trackedStep_of_step _ _ (m, journalLedger journal consumed) _ hstep'
  have hfree : PrefixHeld (m, journalLedger journal consumed) (.enqueueSignal signal) := trivial
  have haligned := h.toAligned.step hfree htracked
  have hm : Coherent m := h.coherent
  have hmove := trackedStep_move h.toLedgerInv htracked
  generalize hl : Ledger.advance _ m next (.enqueueSignal signal) = ledger' at hmove haligned
  cases hmove with
  | ignored _ hmem => exact .inl ⟨rfl, mailboxContainsDedupeKey_iff.1 hmem⟩
  | accepted _ incoming hn hkeys hfrom hto hholds hfresh hcount =>
    have hkey : signalKey m signal ∉ m.allKeys := by
      rw [← mailboxContainsDedupeKey_iff, hfresh]
      decide
    have hspec := appendToPending_spec hm hn hkeys hfrom hto (mailboxContainsDedupeKey_false.1 hfresh).2.1
    have hledger : journalLedger (journal ++ [acceptedEntry m signal]) consumed =
        { journalLedger journal consumed with
          pending := (journalLedger journal consumed).pending ++ [acceptedEntry m signal] } := by
      simp [journalLedger, List.drop_append_of_le_length h.bounded, List.take_append_of_le_length h.bounded]
    refine .inr ⟨hkey, { hledger ▸ haligned with
      idle := h.idle, bounded := ?_, next := ?_, numbered := ?_, envelope := ?_, recent := ?_ }⟩
    · exact h.bounded.trans (by simp)
    · simp [h.next]
    · rw [List.map_append, h.numbered, List.length_append, List.length_singleton, List.range'_1_concat]
      simp [acceptedEntry, h.next, Nat.add_comm]
    · rintro b ⟨rfl⟩
      rw [hspec.2.2.1, hspec.2.2.2, List.length_append, List.length_singleton, h.next]
      cases hp : m.pending with
      | none => simp [appendToPending, hcount, h.pending_none_iff.1 hp]
      | some b =>
        obtain ⟨h1, h2, h3⟩ := h.envelope b hp
        have hle := (hm.pending b hp).fromLe
        simp only [Option.map_some, Option.getD_some, appendToPending, mergeBatches, hcount]
        exact ⟨h1, trivial, by omega⟩
    · rw [List.take_append_of_le_length h.bounded]
      exact h.recent

theorem exists_sequence (h : Journals m journal consumed) {n last : ℕ} (hn : consumed + 1 ≤ n)
    (hlast : n ≤ last) (hle : last ≤ journal.length) : ∃ e ∈ journal.drop consumed, e.sequence = n := by
  have hi : n - 1 < journal.length := by omega
  refine ⟨journal[n - 1], List.mem_drop_iff_getElem.2 ⟨n - 1 - consumed, by omega, ?_⟩, ?_⟩
  · congr 1
    omega
  · rw [h.sequence_eq hi]
    omega

variable {b : PendingBatch}

theorem keys_aligned (h : Journals m journal consumed) (hb : m.pending = some b) :
    keysAreSequenceAligned b = true := by
  have hkeys := h.pendingKeys_eq
  rw [pendingKeys_some hb] at hkeys
  rw [keysAreSequenceAligned, hkeys, (h.envelope b hb).2.2]
  simp

variable {last : ℕ}

theorem ledger_consumeThrough (h : Journals m journal consumed)
    (hb : m.pending = some b) (hfirst : consumed < last) (hlast : last ≤ journal.length) :
    (journalLedger journal consumed).consumeThrough last = journalLedger journal last := by
  have hholds := h.toLedgerInv.pending
  have hlow : ∀ e ∈ journal.drop consumed, consumed + 1 ≤ e.sequence := fun e he =>
    (h.envelope b hb).1 ▸ (hholds.within b hb e he).1
  have hfull : ∀ n, consumed + 1 ≤ n → n ≤ last → ∃ e ∈ journal.drop consumed, e.sequence = n :=
    fun n hn hnl => h.exists_sequence hn hnl hlast
  have hcount : last + 1 - (consumed + 1) = last - consumed := by omega
  have hdrop := drop_eq_filter hholds.increasing hlow hfull
  have htake := take_eq_filter hholds.increasing hlow hfull
  simp only [journalLedger, hcount, List.drop_drop] at hdrop htake
  simp only [Ledger.consumeThrough, journalLedger, Int.ofNat_lt, Int.ofNat_le, ← hdrop, ← htake, ← List.take_add]
  congr 2 <;> omega

theorem recent_consumeThrough (h : Journals m journal consumed) (hfirst : consumed < last) :
    rememberDedupeKeys m.recentDedupeKeys (m.pendingKeys.take (last - consumed)) =
      lastEntries recentDedupeKeyLimit ((journal.take last).map LedgerEntry.key) := by
  have hm : Coherent m := h.coherent
  have hsplit : journal.take last =
      journal.take consumed ++ (journal.drop consumed).take (last - consumed) := by
    rw [← List.take_add]
    congr 1
    omega
  have hnodup : m.pendingKeys.Nodup := by
    cases hp : m.pending with
    | none => rw [pendingKeys_none hp]; exact List.nodup_nil
    | some b => rw [pendingKeys_some hp]; exact (hm.pending b hp).dedupeKeys.nodup
  have hfresh : ∀ k ∈ m.pendingKeys.take (last - consumed), k ∉ m.recentDedupeKeys := fun k hk =>
    hm.pendingFresh k (List.mem_of_mem_take hk)
  rw [h.recent] at hfresh ⊢
  rw [rememberDedupeKeys_lastEntries (hnodup.sublist (List.take_sublist _ _)) hfresh, hsplit,
    List.map_append, h.pendingKeys_eq, ← List.map_take]

theorem consumeThrough (h : Journals m journal consumed)
    (hb : m.pending = some b) (hfirst : consumed < last) (hlast : last ≤ journal.length) :
    ∃ next, consumePendingBatch m (some ⟨some b.fromSequence, some last⟩) = .ok next ∧
      Journals next journal last := by
  have hm : Coherent m := h.coherent
  obtain ⟨hfrom, hto, hcount⟩ := h.envelope b hb
  have hmatch : SequenceRange.matchedEnd? ⟨some b.fromSequence, some last⟩ b = some last := by
    simp only [SequenceRange.matchedEnd?, true_and, Int.toNat_natCast]
    rw [if_pos]
    omega
  have hledger := h.ledger_consumeThrough hb hfirst hlast
  have hrecent := h.recent_consumeThrough hfirst
  have hheld : PrefixHeld (m, journalLedger journal consumed)
      (.consumePendingBatch (some ⟨some b.fromSequence, some last⟩)) := by
    intro c hc last' hlast' _
    obtain rfl : b = c := Option.some.inj (hb.symm.trans hc)
    obtain rfl : last = last' := Option.some.inj (hmatch.symm.trans hlast')
    rw [if_pos (h.keys_aligned hb)]
    exact fun n hn hnl => h.exists_sequence (hfrom ▸ hn) hnl hlast
  rcases hlast.lt_or_eq with hlt | rfl
  · have htracked := @trackedStep_consumeThrough _ m (journalLedger journal consumed) b last _ hm hb
      hmatch (hto ▸ hlt)
    rw [hledger] at htracked
    refine ⟨WorkMailbox.consumeThrough m b last, (trackedStep_ok htracked).1,
      { h.toAligned.step hheld htracked with
        idle := h.idle, bounded := hlast, next := h.next, numbered := h.numbered,
        envelope := ?_, recent := ?_ }⟩
    · rintro c ⟨rfl⟩
      exact ⟨rfl, hto, by simp [hto]⟩
    · have hkept : last - b.fromSequence + 1 = last - consumed := by omega
      rw [pendingKeys_some hb] at hrecent
      simpa only [WorkMailbox.consumeThrough, h.keys_aligned hb, if_true, hkept] using hrecent
  · have hdraft : Operation.draft m (.consumePendingBatch
        (some ⟨some b.fromSequence, some journal.length⟩)) = .ok (some (consumeWhole m b)) := by
      simp only [Operation.draft, consumePendingBatchDraft,
        validateWorkMailbox_of_normal hm.toNormalMailbox, ok_bind, hb, hmatch, hto, lt_irrefl,
        if_false]
    have hstep := (step_ok_iff hm).2 (.inr hdraft)
    have htracked := @trackedStep_of_step _ _ (m, journalLedger journal consumed) _ hstep
    simp only [Ledger.advance, Option.bind_some, hledger] at htracked
    refine ⟨consumeWhole m b, hstep, { h.toAligned.step hheld htracked with
        idle := h.idle, bounded := hlast, next := h.next, numbered := h.numbered,
        envelope := ?_, recent := ?_ }⟩
    · rintro c hc
      cases hc
    · have hall : m.pendingKeys.take (journal.length - consumed) = b.dedupeKeys := by
        rw [List.take_of_length_le (by rw [h.pendingKeys_eq]; simp), pendingKeys_some hb]
      rw [hall] at hrecent
      simpa only [consumeWhole] using hrecent

end Journals

end Host

end WorkMailbox
