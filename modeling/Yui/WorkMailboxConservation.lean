import Yui.WorkMailboxLedger

/-!
# Conservation of signals

`Conserved` compares the mailbox with the ledger: the key of a held signal is in exactly one of the
two batches, the one that holds the signal, and the key of a departed signal is in neither unless a
held signal carries it again. The keys of the batches are the keys of the held signals in order
until a prefix consumption cuts a batch at a position that is not the position of its sequence
number. `PrefixHeld` is the condition under which the two positions agree.
-/

open JsText Checked IncreasingLabels FallibleRun

namespace WorkMailbox

def Ledger.held (ledger : Ledger) : List LedgerEntry := ledger.pending ++ ledger.processing

structure Conserved (s : Mailbox × Ledger) : Prop where
  accounted : ((s.2.held ++ s.2.departed).map LedgerEntry.sequence).Perm
    (List.range' 1 (s.1.nextSequence - 1))
  pending : ∀ e ∈ s.2.pending, e.key ∈ s.1.pendingKeys ∧ e.key ∉ s.1.processingKeys
  processing : ∀ e ∈ s.2.processing, e.key ∈ s.1.processingKeys ∧ e.key ∉ s.1.pendingKeys
  departed : ∀ e ∈ s.2.departed, (∀ held ∈ s.2.held, held.key ≠ e.key) →
    e.key ∉ s.1.pendingKeys ∧ e.key ∉ s.1.processingKeys
  envelope : ∀ e ∈ s.2.pending, ∃ b ∈ s.1.pending,
    b.fromSequence ≤ e.sequence ∧ e.sequence ≤ b.toSequence

/-- A prefix consumption through `last` finds a signal for every sequence number it consumes; when
the keys are no longer counted as aligned, it finds no signal to consume. -/
def PrefixHeld (s : Mailbox × Ledger) : Operation → Prop
  | .consumePendingBatch (some range) =>
    ∀ b ∈ s.1.pending, ∀ last ∈ range.matchedEnd? b, last < b.toSequence →
      if keysAreSequenceAligned b then
        ∀ n, b.fromSequence ≤ n → n ≤ last → ∃ e ∈ s.2.pending, e.sequence = n
      else ∀ e ∈ s.2.pending, last < e.sequence
  | _ => True

theorem consumedCount_eq {b : PendingBatch} {last : ℕ} (h : b.fromSequence ≤ last) :
    last - b.fromSequence + 1 = last + 1 - b.fromSequence := by omega

theorem pendingKeys_consumeThrough (m : Mailbox) (b : PendingBatch) (last : ℕ) :
    (consumeThrough m b last).pendingKeys =
      if keysAreSequenceAligned b then b.dedupeKeys.drop (last - b.fromSequence + 1)
      else b.dedupeKeys := rfl

section Host

variable [JsHost]

structure Aligned (s : Mailbox × Ledger) : Prop extends LedgerInv s where
  accounted : ((s.2.held ++ s.2.departed).map LedgerEntry.sequence).Perm
    (List.range' 1 (s.1.nextSequence - 1))
  pendingKeys : s.1.pendingKeys = s.2.pending.map LedgerEntry.key
  processingKeys : s.1.processingKeys = s.2.processing.map LedgerEntry.key

variable {m : Mailbox}

theorem Aligned.initial {target : MailboxTarget}
    (h : createWorkMailbox target = .ok m) : Aligned (m, Ledger.empty) := by
  refine { LedgerInv.initial h with accounted := ?_, pendingKeys := ?_, processingKeys := ?_ }
  all_goals
    obtain ⟨t, _, h⟩ := bind_ok h
    cases h
    rfl

theorem Aligned.conserved {s : Mailbox × Ledger} (h : Aligned s) : Conserved s where
  accounted := h.accounted
  pending e he := by
    have hk : e.key ∈ s.1.pendingKeys := h.pendingKeys ▸ List.mem_map_of_mem he
    exact ⟨hk, h.coherent.keysDisjoint _ hk⟩
  processing e he := by
    have hk : e.key ∈ s.1.processingKeys := h.processingKeys ▸ List.mem_map_of_mem he
    exact ⟨hk, fun hk' => h.coherent.keysDisjoint _ hk' hk⟩
  departed e _ hfree := by
    rw [h.pendingKeys, h.processingKeys]
    simp only [List.mem_map, not_exists, not_and]
    simp only [Ledger.held, List.mem_append] at hfree
    exact ⟨fun held hh => hfree held (.inl hh), fun held hh => hfree held (.inr hh)⟩
  envelope e he := by
    cases hb : s.1.pending with
    | none => simp [h.toLedgerInv.pending.empty hb] at he
    | some b => exact ⟨b, rfl, h.toLedgerInv.pending.within b hb e he⟩

variable {op : Operation}

theorem Move.accounted {m next : Mailbox} {ledger ledger' : Ledger}
    (h : Move m ledger op next ledger') (hs : LedgerInv (m, ledger))
    (hacc : ((ledger.held ++ ledger.departed).map LedgerEntry.sequence).Perm (List.range' 1 (m.nextSequence - 1))) :
    ((ledger'.held ++ ledger'.departed).map LedgerEntry.sequence).Perm (List.range' 1 (next.nextSequence - 1)) := by
  cases h with
  | ignored signal _ | bound batchId ref p q _ _ => exact hacc
  | accepted signal incoming hn hkeys hfrom hto hholds hfresh =>
    have hpos := hs.coherent.nextPos
    obtain ⟨k, hk⟩ : ∃ k, m.nextSequence = k + 1 := ⟨m.nextSequence - 1, by simp only at hpos; omega⟩
    have hrange : List.range' 1 (m.nextSequence + 1 - 1) =
        List.range' 1 (m.nextSequence - 1) ++ [m.nextSequence] := by
      rw [hk, Nat.add_sub_cancel, Nat.add_sub_cancel, List.range'_1_concat, Nat.add_comm 1 k]
    have hperm : (ledger.pending ++ [acceptedEntry m signal] ++ ledger.processing ++
        ledger.departed).Perm (ledger.held ++ ledger.departed ++ [acceptedEntry m signal]) := by
      simp only [Ledger.held, List.append_assoc]
      refine List.Perm.append_left _ ?_
      refine List.perm_append_comm.trans ?_
      simp
    rw [hrange]
    refine (hperm.map _).trans ?_
    rw [List.map_append]
    exact hacc.append_right _
  | claimed options p hp hb =>
    refine List.Perm.trans (List.Perm.map _ ?_) hacc
    have hempty : ledger.processing = [] := hs.processing.empty (by simp [hp])
    simp [Ledger.held, hempty]
  | completed batchId p hp =>
    refine List.Perm.trans (List.Perm.map _ ?_) hacc
    simp only [Ledger.held, List.append_nil, List.append_assoc]
    exact List.Perm.append_left _ List.perm_append_comm
  | released batchId p hp =>
    refine List.Perm.trans (List.Perm.map _ ?_) hacc
    simp only [Ledger.held, List.append_nil]
    exact List.Perm.append_right _ List.perm_append_comm
  | consumedWhole through b hb =>
    refine List.Perm.trans (List.Perm.map _ ?_) hacc
    simp only [Ledger.held, List.perm_iff_count, List.count_append, List.nil_append]
    intro e
    omega
  | consumedThrough range b last hb hmatch hfrom hlast =>
    refine List.Perm.trans (List.Perm.map _ ?_) hacc
    have hsplit := ledger.pending.filter_append_perm (fun e => (last : ℤ) < e.sequence)
    simp only [List.perm_iff_count, List.count_append, ← decide_not, not_lt] at hsplit
    simp only [Ledger.held, Ledger.consumeThrough, List.perm_iff_count, List.count_append]
    intro e
    have := hsplit e
    omega

variable {ledger : Ledger} {b : PendingBatch} {last : ℕ}

theorem Aligned.consumeThrough_keys
    (hs : Aligned (m, ledger)) (hb : m.pending = some b) (hfrom : b.fromSequence ≤ last)
    (hheld : if keysAreSequenceAligned b then
        ∀ n, b.fromSequence ≤ n → n ≤ last → ∃ e ∈ ledger.pending, e.sequence = n
      else ∀ e ∈ ledger.pending, last < e.sequence) : (consumeThrough m b last).pendingKeys =
      (ledger.consumeThrough last).pending.map LedgerEntry.key := by
  have hholds := hs.toLedgerInv.pending
  have hkeys : b.dedupeKeys = ledger.pending.map LedgerEntry.key := (pendingKeys_some hb).symm.trans hs.pendingKeys
  simp only [pendingKeys_consumeThrough, Ledger.consumeThrough, Int.ofNat_lt, hkeys]
  split_ifs at hheld ⊢ with ha
  · rw [consumedCount_eq hfrom, ← List.map_drop, drop_eq_filter hholds.increasing
      (fun e he => (hholds.within b hb e he).1) hheld]
  · rw [List.filter_eq_self.2 (fun e he => by simpa using hheld e he)]

theorem Aligned.step {s t : Mailbox × Ledger} (hs : Aligned s)
    (hheld : PrefixHeld s op) (h : trackedStep s op = .ok t) : Aligned t := by
  obtain ⟨m, ledger⟩ := s
  obtain ⟨next, ledger'⟩ := t
  have hmove := trackedStep_move hs.toLedgerInv h
  have hpend := hs.pendingKeys
  have hproc := hs.processingKeys
  simp only at hpend hproc
  refine { hs.toLedgerInv.step h with
    accounted := hmove.accounted hs.toLedgerInv hs.accounted, pendingKeys := ?_, processingKeys := ?_ }
  · cases hmove with
    | ignored signal _ | bound batchId ref p q _ _ => exact hpend
    | accepted signal incoming hn hkeys hfrom hto hholds hfresh =>
      have hkey := (mailboxContainsDedupeKey_false.1 hfresh).2.1
      have hspec := (appendToPending_spec hs.coherent hn hkeys hfrom hto hkey).2.1
      rw [pendingKeys_some rfl, hspec, hpend, List.map_append]
      rfl
    | claimed options p hp hb | consumedWhole through b hb => rfl
    | completed batchId p hp => exact hpend
    | released batchId p hp =>
      have hspec := (prependToPending_spec hs.coherent hp).2.1
      rw [pendingKeys_some rfl, hspec, List.map_append, ← hpend, ← hproc, processingKeys_some hp]
    | consumedThrough range b last hb hmatch hfrom hlast =>
      exact hs.consumeThrough_keys hb hfrom (hheld b hb last hmatch hlast)
  · cases hmove with
    | ignored signal _ | accepted signal incoming _ _ _ _ _ _ | consumedWhole through b _
    | consumedThrough range b last _ _ _ _ => exact hproc
    | claimed options p hp hb => rw [processingKeys_some rfl, ← pendingKeys_some hb, hpend]
    | bound batchId ref p q hp hq => rw [processingKeys_some rfl, hq, ← processingKeys_some hp, hproc]
    | completed batchId p hp | released batchId p hp => rfl

theorem trackedStep_consumeThrough {range : SequenceRange} (hm : Coherent m) (hb : m.pending = some b)
    (hmatch : range.matchedEnd? b = some last) (hlast : last < b.toSequence) :
    trackedStep (m, ledger) (.consumePendingBatch (some range)) =
      .ok (consumeThrough m b last, ledger.consumeThrough last) := by
  have hdraft : Operation.draft m (.consumePendingBatch (some range)) =
      .ok (some (consumeThrough m b last)) := by
    simp only [Operation.draft, consumePendingBatchDraft,
      validateWorkMailbox_of_normal hm.toNormalMailbox, ok_bind, hb, hmatch, if_pos hlast]
  rw [trackedStep, (step_ok_iff hm).2 (.inr hdraft), ok_bind]
  simp only [Ledger.advance, Option.bind_some, (matchedEnd?_bounds hmatch).1]

theorem Aligned.broken_of_gap {last n : ℕ}
    (hs : Aligned (m, ledger)) (hb : m.pending = some b) (hfrom : b.fromSequence ≤ last)
    (hlast : last < b.toSequence) (ha : keysAreSequenceAligned b = true)
    (hn : b.fromSequence ≤ n) (hnl : n ≤ last) (hgap : ∀ e ∈ ledger.pending, e.sequence ≠ n) :
    ¬ Conserved (consumeThrough m b last, ledger.consumeThrough last) := by
  intro hcons
  have hholds := hs.toLedgerInv.pending
  have hkeys : b.dedupeKeys = ledger.pending.map LedgerEntry.key := (pendingKeys_some hb).symm.trans hs.pendingKeys
  obtain ⟨top, htop, hto⟩ := hholds.reached b hb
  obtain ⟨e, he, hlt⟩ := exists_mem_take_of_gap hholds.increasing
    (fun e he => (hholds.within b hb e he).1) hn hnl hgap ⟨top, htop, hto ▸ hlast⟩
  have hkept : e ∈ (ledger.consumeThrough last).pending :=
    List.mem_filter.2 ⟨List.mem_of_mem_take he, by simpa using hlt⟩
  have hin := (hcons.pending e hkept).1
  simp only [pendingKeys_consumeThrough, ha, if_true, consumedCount_eq hfrom] at hin
  have htaken : e.key ∈ b.dedupeKeys.take (last + 1 - b.fromSequence) := by
    rw [hkeys, ← List.map_take]
    exact List.mem_map_of_mem he
  have hnd := (hs.coherent.pending b hb).dedupeKeys.nodup
  rw [← List.take_append_drop (last + 1 - b.fromSequence) b.dedupeKeys, List.nodup_append] at hnd
  exact hnd.2.2 _ htaken _ hin rfl

theorem Aligned.broken_of_kept {e : LedgerEntry} (hs : Aligned (m, ledger)) (hb : m.pending = some b)
    (ha : keysAreSequenceAligned b = false) (he : e ∈ ledger.pending) (hle : e.sequence ≤ last) :
    ¬ Conserved (consumeThrough m b last, ledger.consumeThrough last) := by
  intro hcons
  have hkeys : b.dedupeKeys = ledger.pending.map LedgerEntry.key := (pendingKeys_some hb).symm.trans hs.pendingKeys
  have hmem : e.key ∈ b.dedupeKeys := hkeys ▸ List.mem_map_of_mem he
  have hdeparted : e ∈ (ledger.consumeThrough last).departed :=
    List.mem_append_right _ (List.mem_filter.2 ⟨he, by simpa using hle⟩)
  have hfree : ∀ held ∈ (ledger.consumeThrough last).held, held.key ≠ e.key := by
    intro held hheld heq
    rcases List.mem_append.1 hheld with hp | hp
    · obtain ⟨hp, hlt⟩ := List.mem_filter.1 hp
      have hnd := (hs.coherent.pending b hb).dedupeKeys.nodup
      rw [hkeys] at hnd
      obtain rfl := List.inj_on_of_nodup_map hnd hp he heq
      simp only [Int.ofNat_lt, decide_eq_true_eq] at hlt
      omega
    · refine hs.coherent.keysDisjoint e.key (pendingKeys_some hb ▸ hmem) ?_
      rw [hs.processingKeys, ← heq]
      exact List.mem_map_of_mem hp
  refine (hcons.departed e hdeparted hfree).1 ?_
  simpa only [pendingKeys_consumeThrough, ha, Bool.false_eq_true, if_false] using hmem

theorem Aligned.broken {s : Mailbox × Ledger} (hs : Aligned s)
    (hheld : ¬ PrefixHeld s op) : ¬ Conserved (attempt trackedStep s op) := by
  obtain ⟨m, ledger⟩ := s
  cases op with
  | enqueueSignal _ | claimPending _ | bindExecution _ _ | completeProcessing _
  | releaseProcessing _ => exact absurd trivial hheld
  | consumePendingBatch through =>
    cases through with
    | none => exact absurd trivial hheld
    | some range =>
      simp only [PrefixHeld, not_forall] at hheld
      obtain ⟨b, hb, last, hmatch, hlast, hheld⟩ := hheld
      rw [attempt_ok (trackedStep_consumeThrough hs.coherent hb hmatch hlast)]
      have hfrom := (matchedEnd?_bounds hmatch).2.1
      cases ha : keysAreSequenceAligned b with
      | true =>
        simp only [ha, if_true, not_forall, not_exists, not_and] at hheld
        obtain ⟨n, hn, hnl, hgap⟩ := hheld
        exact hs.broken_of_gap hb hfrom hlast ha hn hnl hgap
      | false =>
        simp only [ha, Bool.false_eq_true, if_false, not_forall, not_lt] at hheld
        obtain ⟨e, he, hle⟩ := hheld
        exact hs.broken_of_kept hb ha he hle

/-- Signals are conserved throughout a run exactly when every prefix consumption of the run finds
the signals of its range in the pending batch. -/
theorem conserved_throughout_iff {target : MailboxTarget} {m : Mailbox}
    (h : createWorkMailbox target = .ok m) (ops : List Operation) :
    Along trackedStep PrefixHeld (m, Ledger.empty) ops ↔ Throughout trackedStep Conserved (m, Ledger.empty) ops := by
  refine @along_iff_throughout _ _ _ trackedStep Aligned Conserved PrefixHeld
    (fun _ => Aligned.conserved) ?_ (fun _ _ => Aligned.broken) _ (Aligned.initial h) ops
  intro s op hs hheld
  exact attempt_preserves hs (fun t ht => hs.step hheld ht)

end Host

theorem conserved_throughout_release : createWorkMailbox .operator = .ok operatorMailbox ∧
    Throughout (@trackedStep sampleHost) Conserved (operatorMailbox, Ledger.empty)
      [.enqueueSignal sampleSignal, .claimPending sampleClaim, .enqueueSignal sampleSignal,
        .releaseProcessing "b", .consumePendingBatch none] :=
  ⟨rfl, (@conserved_throughout_iff sampleHost .operator operatorMailbox rfl _).1
    ⟨trivial, trivial, trivial, trivial, trivial, trivial⟩⟩

/-- Two signals are claimed, a third is consumed while they are processed, and the release merges
the rest around the missing number. -/
def gapOperations : List Operation :=
  [.enqueueSignal sampleSignal, .enqueueSignal sampleSignal, .claimPending sampleClaim,
    .enqueueSignal sampleSignal, .enqueueSignal sampleSignal,
    .consumePendingBatch (some ⟨some 3, some 3⟩), .releaseProcessing "b",
    .consumePendingBatch (some ⟨some 1, some 3⟩)]

theorem gapOperations_not_conserved : ¬ Throughout (@trackedStep sampleHost) Conserved
    (operatorMailbox, Ledger.empty) gapOperations := by
  intro h
  have hfinal := h.final
  have hlost : ∃ e ∈
      (run (@trackedStep sampleHost) (operatorMailbox, Ledger.empty) gapOperations).2.pending,
      e.key ∉ (run (@trackedStep sampleHost) (operatorMailbox, Ledger.empty)
        gapOperations).1.pendingKeys := by
    decide +kernel
  obtain ⟨e, he, hlost⟩ := hlost
  exact hlost (hfinal.pending e he).1

end WorkMailbox
