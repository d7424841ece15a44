import Yui.WorkMailboxJournal
import Yui.WorkMailboxQueue

/-!
# Exact settlement of Role run dispatches

The journal of one mailbox is followed through every run of the queue. A settled dispatch moves
the cursor of the journal just behind the signal that carries the run's key, and a run can be
settled again only when its key has left the recent keys, that is more than 256 signals later.
-/

open JsText Checked FallibleRun

namespace WorkMailbox

def QueueOperation.signal? : QueueOperation → Option WorkSignal
  | .enqueueWork _ signal => some signal
  | .enqueueRoleRunDispatch input reason occurredAt =>
    some (roleRunDispatchSignal input reason occurredAt)
  | .settleRoleRunDispatch _ _ => none
  | .setTaskStatus _ _ => none

/-- The journal of the target's mailbox after an operation: a signal that raised the next sequence
number was accepted. -/
def followJournal (target : MailboxTarget) (before after : QueueStore) (journal : List LedgerEntry)
    (op : QueueOperation) : List LedgerEntry :=
  match op.signal? with
  | none => journal
  | some signal =>
    if (after.mailboxAt target).nextSequence = (before.mailboxAt target).nextSequence then journal
    else journal ++ [acceptedEntry (before.mailboxAt target) signal]

/-- Two journal entries with one key are more than 256 entries apart. -/
def Spaced (journal : List LedgerEntry) : Prop :=
  ∀ i j (hi : i < journal.length) (hj : j < journal.length), i < j →
    journal[i].key = journal[j].key → i + recentDedupeKeyLimit < j

/-- The number of signals that have left an unclaimed mailbox. -/
def cursor (m : Mailbox) : ℕ := m.nextSequence - 1 - m.pendingKeys.length

def emptyStore (tasks : String → Option String) : QueueStore := ⟨fun _ => none, tasks⟩

theorem mailboxAt_put (store : QueueStore) (m : Mailbox) : (store.put m).mailboxAt m.target = m := by
  simp [QueueStore.mailboxAt, QueueStore.put]

theorem mailboxAt_put_of_ne (store : QueueStore) {m : Mailbox} {target : MailboxTarget}
    (h : target ≠ m.target) : (store.put m).mailboxAt target = store.mailboxAt target := by
  simp [QueueStore.mailboxAt, QueueStore.put, Function.update_of_ne h]

/-- Nothing is ever taken out of the journal and its cursor never moves back. -/
structure Advances (target : MailboxTarget) (s t : QueueStore × List LedgerEntry) : Prop where
  extended : s.2 <+: t.2
  forward : cursor (s.1.mailboxAt target) ≤ cursor (t.1.mailboxAt target)

theorem Advances.refl (target : MailboxTarget) (s : QueueStore × List LedgerEntry) :
    Advances target s s := ⟨List.prefix_rfl, le_rfl⟩

theorem Advances.trans {target : MailboxTarget} {s t u : QueueStore × List LedgerEntry}
    (hst : Advances target s t) (htu : Advances target t u) : Advances target s u :=
  ⟨hst.extended.trans htu.extended, hst.forward.trans htu.forward⟩

section Host

variable [JsHost]

variable {m : Mailbox} {journal : List LedgerEntry} {consumed : ℕ}

theorem Journals.cursor_eq (h : Journals m journal consumed) : cursor m = consumed := by
  have := h.bounded
  rw [cursor, h.next, h.pendingKeys_eq, List.length_map, List.length_drop]
  omega

theorem Journals.mem_allKeys_of_lt (h : Journals m journal consumed) {i : ℕ}
    (hi : i < journal.length) (hlow : consumed < i + 1 + recentDedupeKeyLimit) : journal[i].key ∈ m.allKeys := by
  rw [mem_allKeys]
  by_cases hc : i < consumed
  · refine .inl ?_
    have hlength : ((journal.take consumed).map LedgerEntry.key).length = consumed := by
      rw [List.length_map, List.length_take, min_eq_left h.bounded]
    have hmem := @getElem_mem_lastEntries recentDedupeKeyLimit
      ((journal.take consumed).map LedgerEntry.key) i (by omega) (by omega)
    rwa [← h.recent, List.getElem_map, List.getElem_take] at hmem
  · refine .inr (.inl ?_)
    rw [h.pendingKeys_eq]
    refine List.mem_map_of_mem (List.mem_drop_iff_getElem.2 ⟨i - consumed, by omega, ?_⟩)
    congr 1
    omega

theorem Spaced.concat (hs : Spaced journal) (h : Journals m journal consumed) {e : LedgerEntry}
    (he : e.key ∉ m.allKeys) : Spaced (journal ++ [e]) := by
  intro i j hi hj hij hkey
  rw [List.length_append, List.length_singleton] at hi hj
  have hi' : i < journal.length := by omega
  rw [List.getElem_append_left hi'] at hkey
  by_cases hj' : j < journal.length
  · rw [List.getElem_append_left hj'] at hkey
    exact hs i j hi' hj' hij hkey
  · obtain rfl : j = journal.length := by omega
    rw [List.getElem_concat_length rfl] at hkey
    by_contra hle
    have := h.bounded
    exact he (hkey ▸ h.mem_allKeys_of_lt hi' (by omega))

def journaledStep (target : MailboxTarget) (s : QueueStore × List LedgerEntry)
    (op : QueueOperation) : Except String (QueueStore × List LedgerEntry) := do
  let next ← queueStep s.1 op
  .ok (next, followJournal target s.1 next s.2 op)

structure Followed (target : MailboxTarget) (s : QueueStore × List LedgerEntry) : Prop where
  store : StoreCoherent s.1
  journals : Journals (s.1.mailboxAt target) s.2 (cursor (s.1.mailboxAt target))
  spaced : Spaced s.2

theorem Journals.at_cursor (h : Journals m journal consumed) : Journals m journal (cursor m) := h.cursor_eq.symm ▸ h

variable {target : MailboxTarget}

theorem Followed.initial (ht : NormalTarget target)
    (tasks : String → Option String) : Followed target (emptyStore tasks, []) where
  store := by simp [StoreCoherent, emptyStore]
  journals := (Journals.initial (createWorkMailbox_eq (checkTarget_of_normal ht _ _))).at_cursor
  spaced := by simp [Spaced]

variable {s : QueueStore × List LedgerEntry}

theorem Followed.enqueue {target key : MailboxTarget}
    {signal : WorkSignal} {queued : Mailbox} {op : QueueOperation} (hs : Followed target s)
    (hop : op.signal? = some signal) (hqueued : enqueueSignal (s.1.mailboxAt key) signal = .ok queued)
    (hkey : queued.target = key) (hq : Coherent queued) :
    Followed target (s.1.put queued, followJournal target s.1 (s.1.put queued) s.2 op) ∧
      Advances target s (s.1.put queued, followJournal target s.1 (s.1.put queued) s.2 op) := by
  have hstore := hs.store.put hq
  by_cases ht : target = key
  · subst ht
    have hat : (s.1.put queued).mailboxAt target = queued := hkey ▸ mailboxAt_put s.1 queued
    simp only [followJournal, hop, hat]
    rcases hs.journals.enqueued hqueued with ⟨hsame, _⟩ | ⟨hfresh, hnext⟩
    · rw [hsame] at hat
      rw [hsame, if_pos rfl]
      exact ⟨⟨hsame ▸ hstore, by simpa only [hat] using hs.journals, hs.spaced⟩, ⟨List.prefix_rfl, by rw [hat]⟩⟩
    · have hne : queued.nextSequence ≠ (s.1.mailboxAt target).nextSequence := by
        rw [hnext.next, hs.journals.next]
        simp
      rw [if_neg hne]
      exact ⟨⟨hstore, by simpa only [hat] using hnext.at_cursor,
        hs.spaced.concat hs.journals hfresh⟩, ⟨List.prefix_append _ _, by rw [hat, hnext.cursor_eq]⟩⟩
  · have hat := mailboxAt_put_of_ne s.1 (hkey.symm ▸ ht)
    simp only [followJournal, hop, hat, if_true]
    exact ⟨⟨hstore, by simpa only [hat] using hs.journals, hs.spaced⟩, ⟨List.prefix_rfl, by rw [hat]⟩⟩

variable {input : RoleRunDispatchIdentity}

theorem Journals.capture {token : RoleRunDispatchToken}
    (h : Journals m journal consumed) (hcap : captureRoleRunDispatch (some m) input = some token) :
    ∃ n e, journal[n]? = some e ∧ e.key = roleRunDispatchDedupeKey input ∧ consumed ≤ n ∧
      token = .pending (consumed + 1) (n + 1) := by
  have hproc : processingTokenFor? m input = none := by simp [processingTokenFor?, h.idle]
  simp only [captureRoleRunDispatch, hproc] at hcap
  split_ifs at hcap
  unfold pendingTokenFor? at hcap
  cases hp : m.pending with
  | none => simp [hp] at hcap
  | some b =>
    simp only [hp] at hcap
    split_ifs at hcap
    cases hi : b.dedupeKeys.idxOf? (roleRunDispatchDedupeKey input) with
    | none => simp [hi] at hcap
    | some i =>
      simp only [hi] at hcap
      split_ifs at hcap
      obtain ⟨hfrom, _, _⟩ := h.envelope b hp
      have hkeys : b.dedupeKeys = (journal.drop consumed).map LedgerEntry.key :=
        (pendingKeys_some hp).symm.trans h.pendingKeys_eq
      obtain ⟨hlt, hkey, _⟩ := List.idxOf?_eq_some_iff.1 hi
      have hget : ((journal.drop consumed).map LedgerEntry.key)[i]? =
          some (roleRunDispatchDedupeKey input) := by
        rw [← hkeys, List.getElem?_eq_getElem hlt, hkey]
      rw [List.getElem?_map, List.getElem?_drop, Option.map_eq_some_iff] at hget
      obtain ⟨e, he, hkey⟩ := hget
      refine ⟨consumed + i, e, he, hkey, Nat.le_add_right _ _, ?_⟩
      rw [← Option.some.inj hcap, hfrom]
      congr 1
      omega

theorem Journals.capture_of_key {n : ℕ} {e : LedgerEntry}
    (h : Journals m journal consumed) (htarget : m.target = roleRunTarget input)
    (hrole : input.roleName ≠ "leader") (he : journal[n]? = some e)
    (hkey : e.key = roleRunDispatchDedupeKey input) (hn : consumed ≤ n) :
    captureRoleRunDispatch (some m) input = some (.pending (consumed + 1) (n + 1)) := by
  have hproc : processingTokenFor? m input = none := by simp [processingTokenFor?, h.idle]
  have hm : Coherent m := h.coherent
  obtain ⟨hlt, _⟩ := List.getElem?_eq_some_iff.1 he
  cases hp : m.pending with
  | none =>
    have := h.pending_none_iff.1 hp
    omega
  | some b =>
    obtain ⟨hfrom, hto, hcount⟩ := h.envelope b hp
    have hkeys : b.dedupeKeys = (journal.drop consumed).map LedgerEntry.key :=
      (pendingKeys_some hp).symm.trans h.pendingKeys_eq
    have hget : b.dedupeKeys[n - consumed]? = some (roleRunDispatchDedupeKey input) := by
      rw [hkeys, List.getElem?_map, List.getElem?_drop, Nat.add_sub_cancel' hn, he, Option.map_some, hkey]
    obtain ⟨hi, hat⟩ := List.getElem?_eq_some_iff.1 hget
    have hnodup := (hm.pending b hp).dedupeKeys.nodup
    have hindex : b.dedupeKeys.idxOf? (roleRunDispatchDedupeKey input) = some (n - consumed) := by
      refine List.idxOf?_eq_some_iff.2 ⟨hi, hat, fun j hj hsame => ?_⟩
      have := (List.Nodup.getElem_inj_iff hnodup).1 (hsame.trans hat.symm)
      omega
    have hfresh : roleRunDispatchDedupeKey input ∉ m.recentDedupeKeys :=
      hm.pendingFresh _ (pendingKeys_some hp ▸ List.mem_of_getElem? hget)
    have hlength : b.dedupeKeys.length = b.requestCount := by rw [hkeys, hcount]; simp
    simp only [captureRoleRunDispatch, htarget, hproc, hrole, pendingTokenFor?, hp, hindex,
      hlength, ne_eq, not_true_eq_false, if_false, true_and, List.contains_eq_mem, hfresh,
      decide_false, Bool.false_eq_true]
    rw [if_pos (by omega), hfrom]
    congr 2
    omega

theorem Journals.settleToken {store next : QueueStore}
    {token : RoleRunDispatchToken} (h : Journals m journal consumed)
    (hcap : captureRoleRunDispatch (some m) input = some token)
    (hset : settleToken store m token = .ok (.settled, next)) :
    ∃ n e settled, journal[n]? = some e ∧ e.key = roleRunDispatchDedupeKey input ∧ consumed ≤ n ∧
      token = .pending (consumed + 1) (n + 1) ∧ Journals settled journal (n + 1) ∧
      settled.target = m.target ∧ next = store.put settled := by
  obtain ⟨n, e, he, hkey, hn, rfl⟩ := h.capture hcap
  obtain ⟨hlt, _⟩ := List.getElem?_eq_some_iff.1 he
  have hm : Coherent m := h.coherent
  rcases settleToken_ok hm hset with ⟨hne, _⟩ | ⟨_, op, settled, hstep, rfl, rfl⟩
  · exact absurd rfl hne
  refine ⟨n, e, settled, he, hkey, hn, rfl, ?_, step_target hm hstep, rfl⟩
  cases hp : m.pending with
  | none =>
    have := h.pending_none_iff.1 hp
    omega
  | some b =>
    obtain ⟨settled', hconsume, hnext⟩ := h.consumeThrough hp (Nat.lt_succ_of_le hn) hlt
    rw [(h.envelope b hp).1] at hconsume
    have hsame : step m (.consumePendingBatch (some ⟨.ofNat (consumed + 1), .ofNat (n + 1)⟩)) =
        .ok settled' := hconsume
    rw [hstep, Except.ok.injEq] at hsame
    exact hsame ▸ hnext

theorem Followed.settle {next : QueueStore}
    {expected : Option (Option RoleRunDispatchToken)} {outcome : RoleRunDispatchSettlement} (hs : Followed target s)
    (h : settleRoleRunDispatch s.1 input expected = .ok (outcome, next)) :
    Followed target (next, s.2) ∧ Advances target s (next, s.2) := by
  rcases settleRoleRunDispatch_ok hs.store h with ⟨_, rfl⟩ | ⟨rfl, m, token, hm, hcap, _, hset⟩
  · exact ⟨hs, Advances.refl target s⟩
  obtain ⟨htarget, hcoherent⟩ := hs.store _ m hm
  by_cases ht : target = roleRunTarget input
  · subst ht
    have hat : s.1.mailboxAt (roleRunTarget input) = m := by simp [QueueStore.mailboxAt, hm]
    have hj := hs.journals
    rw [hat] at hj
    obtain ⟨n, e, settled, _, _, hn, _, hnext, hsame, rfl⟩ := hj.settleToken hcap hset
    have hput : (s.1.put settled).mailboxAt (roleRunTarget input) = settled := by
      rw [← htarget, ← hsame, mailboxAt_put]
    refine ⟨⟨hs.store.put hnext.coherent, ?_, hs.spaced⟩, ⟨List.prefix_rfl, ?_⟩⟩
    · simpa only [hput] using hnext.at_cursor
    · rw [hput, hnext.cursor_eq, hat]
      omega
  · rcases settleToken_ok hcoherent hset with ⟨hne, _⟩ | ⟨_, op, settled, hstep, rfl, _⟩
    · exact absurd rfl hne
    have hother : target ≠ settled.target := by rwa [step_target hcoherent hstep, htarget]
    have hat := mailboxAt_put_of_ne s.1 hother
    exact ⟨⟨hs.store.put (step_coherent hcoherent hstep), by simpa only [hat] using hs.journals,
      hs.spaced⟩, ⟨List.prefix_rfl, by rw [hat]⟩⟩

theorem Followed.step {s t : QueueStore × List LedgerEntry}
    {op : QueueOperation} (hs : Followed target s) (h : journaledStep target s op = .ok t) :
    Followed target t ∧ Advances target s t := by
  obtain ⟨next, hnext, h⟩ := bind_ok h
  cases h
  have hwork : ∀ key signal queued saved, op.signal? = some signal →
      enqueueWork s.1 key signal = .ok (queued, saved) →
      Followed target (saved, followJournal target s.1 saved s.2 op) ∧
        Advances target s (saved, followJournal target s.1 saved s.2 op) := by
    intro key signal queued saved hop hwork
    rcases enqueueWork_ok hs.store hwork with rfl | ⟨key', _, _, hqueued, hkey, hq, rfl⟩
    · simp only [followJournal, hop, if_true]
      exact ⟨hs, Advances.refl target s⟩
    · exact hs.enqueue hop hqueued hkey hq
  cases op with
  | enqueueWork key signal =>
    obtain ⟨⟨queued, saved⟩, hq, h⟩ := bind_ok hnext
    cases h
    exact hwork key signal queued next rfl hq
  | enqueueRoleRunDispatch input reason occurredAt =>
    obtain ⟨⟨queued, saved⟩, hq, h⟩ := bind_ok hnext
    cases h
    unfold enqueueRoleRunDispatch at hq
    split_ifs at hq
    · cases hq
      simp only [followJournal, QueueOperation.signal?, if_true]
      exact ⟨hs, Advances.refl target s⟩
    · obtain ⟨⟨queued', saved'⟩, hq, h⟩ := bind_ok hq
      cases h
      exact hwork _ _ queued' next rfl hq
  | settleRoleRunDispatch input expected =>
    obtain ⟨⟨outcome, saved⟩, hsettle, h⟩ := bind_ok hnext
    cases h
    exact hs.settle hsettle
  | setTaskStatus taskId status =>
    cases hnext
    exact ⟨⟨hs.store, hs.journals, hs.spaced⟩, ⟨List.prefix_rfl, le_rfl⟩⟩

theorem Followed.run (hs : Followed target s) (ops : List QueueOperation) :
    Followed target (run (journaledStep target) s ops) ∧ Advances target s (run (journaledStep target) s ops) := by
  refine @run_preserves _ _ _ (journaledStep target)
    (fun t => Followed target t ∧ Advances target s t) s ops ⟨hs, Advances.refl target s⟩ ?_
  intro op _ t u ht hu
  obtain ⟨hfollowed, hadv⟩ := ht.1.step hu
  exact ⟨hfollowed, ht.2.trans hadv⟩

end Host

end WorkMailbox
