import Yui.RoleRunSettlement

/-!
# Progress of the queue

A well-formed signal with a fresh key is accepted, and a dispatch whose key is pending is settled.
Since the recent keys are bounded, the key of a settled run becomes fresh again once 257 later
signals are consumed, and the run is then settled a second time.
-/

open JsText Checked FallibleRun

namespace WorkMailbox

theorem roleRunDispatchDedupeKey_ne (input : RoleRunDispatchIdentity) (n : ℕ) :
    roleRunDispatchDedupeKey input ≠ sequenceKey n := by
  intro h
  have hhead : (roleRunDispatchDedupeKey input).toList.head? = (sequenceKey n).toList.head? := by rw [h]
  unfold roleRunDispatchDedupeKey sequenceKey at hhead
  simp only [String.toList_append] at hhead
  rw [show "role-turn:".toList = 'r' :: "ole-turn:".toList by rfl,
    show "sequence:".toList = 's' :: "equence:".toList by rfl] at hhead
  cases hhead

section Host

variable [JsHost] {input : RoleRunDispatchIdentity}

variable {s : QueueStore × List LedgerEntry} {target : MailboxTarget}

theorem Followed.stored (hs : Followed target s) (h : s.2 ≠ []) :
    s.1.mailboxes target = some (s.1.mailboxAt target) := by
  cases hm : s.1.mailboxes target with
  | none =>
    have hnext := hs.journals.next
    simp only [QueueStore.mailboxAt, hm, Option.getD_none, freshMailbox] at hnext
    exact absurd (List.length_eq_zero_iff.1 (by omega)) h
  | some m => simp [QueueStore.mailboxAt, hm]

theorem Followed.settle_of_key {n : ℕ} {e : LedgerEntry}
    (hs : Followed (roleRunTarget input) s) (hrole : input.roleName ≠ "leader")
    (he : s.2[n]? = some e) (hkey : e.key = roleRunDispatchDedupeKey input)
    (hn : cursor (s.1.mailboxAt (roleRunTarget input)) ≤ n) :
    ∃ next, settleRoleRunDispatch s.1 input none = .ok (.settled, next) ∧
      next.taskStatus = s.1.taskStatus ∧
      cursor (next.mailboxAt (roleRunTarget input)) = n + 1 := by
  have hne : s.2 ≠ [] := by
    rintro hnil
    simp [hnil] at he
  have hstored := hs.stored hne
  obtain ⟨htarget, hcoherent⟩ := hs.store _ _ hstored
  obtain ⟨hlt, _⟩ := List.getElem?_eq_some_iff.1 he
  have hcap := hs.journals.capture_of_key htarget hrole he hkey hn
  cases hp : (s.1.mailboxAt (roleRunTarget input)).pending with
  | none =>
    have := hs.journals.pending_none_iff.1 hp
    omega
  | some b =>
    obtain ⟨hfrom, hto, _⟩ := hs.journals.envelope b hp
    obtain ⟨settled, hconsume, hnext⟩ := hs.journals.consumeThrough hp (Nat.lt_succ_of_le hn) hlt
    rw [hfrom] at hconsume
    have hstep : WorkMailbox.step (s.1.mailboxAt (roleRunTarget input)) (.consumePendingBatch (some
        ⟨.ofNat (cursor (s.1.mailboxAt (roleRunTarget input)) + 1), .ofNat (n + 1)⟩)) =
        .ok settled := hconsume
    have hsettled : settled.target = roleRunTarget input := (step_target hcoherent hstep).trans htarget
    have hget : s.1.getWorkMailbox (roleRunTarget input) =
        .ok (some (s.1.mailboxAt (roleRunTarget input))) := by
      rw [QueueStore.getWorkMailbox, copyTarget, checkTarget_of_normal (htarget ▸ hcoherent.target), ok_bind, hstored]
      exact onSome_of_fixed (fun m hm =>
        Option.mem_some_iff.1 hm ▸ validateWorkMailbox_of_normal hcoherent.toNormalMailbox)
    refine ⟨s.1.put settled, ?_, rfl, ?_⟩
    · rw [settleRoleRunDispatch, if_neg (by simp), hget, ok_bind, hcap]
      simp only [Option.join_none, WorkMailbox.settleToken, hp, hfrom, hto]
      rw [if_neg (by omega)]
      exact (congrArg (· >>= _) hconsume).trans (by
        rw [ok_bind, saveWorkMailbox_eq hnext.coherent, ok_bind])
    · rw [← hsettled, mailboxAt_put, hnext.cursor_eq]

theorem Followed.enqueue_of_fresh
    {signal : WorkSignal} {op : QueueOperation} (hs : Followed target s) (ht : NormalTarget target)
    (hopen : s.1.admissionClosed target = false) (hwf : WellFormedSignal signal)
    (hfresh : signalKey (s.1.mailboxAt target) signal ∉ (s.1.mailboxAt target).allKeys)
    (hop : op.signal? = some signal)
    (hstep : queueStep s.1 op = (enqueueWork s.1 target signal >>= fun r => .ok r.2)) :
    ∃ next, attempt (journaledStep target) s op = (next, s.2 ++ [acceptedEntry (s.1.mailboxAt target) signal]) ∧
      next.taskStatus = s.1.taskStatus ∧ cursor (next.mailboxAt target) = cursor (s.1.mailboxAt target) := by
  obtain ⟨hcoherent, htarget⟩ := hs.store.mailboxAt ht
  have hcopy : copyTarget target = .ok target := checkTarget_of_normal ht _ _
  rcases enqueueSignal_of_wellFormed hcoherent hwf with ⟨hmem, _⟩ | ⟨_, queued, hqueued, hnext⟩
  · exact absurd hmem hfresh
  rcases hs.journals.enqueued hqueued with ⟨_, hmem⟩ | ⟨_, hj⟩
  · exact absurd hmem hfresh
  have hqueuedStep : WorkMailbox.step (s.1.mailboxAt target) (.enqueueSignal signal) = .ok queued := hqueued
  have hqt : queued.target = target := (step_target hcoherent hqueuedStep).trans htarget
  have hget : s.1.getWorkMailbox target = .ok (s.1.mailboxes target) := by
    rw [QueueStore.getWorkMailbox, hcopy, ok_bind]
    exact onSome_of_fixed (fun m hm => validateWorkMailbox_of_normal (hs.store _ m hm).2.toNormalMailbox)
  have hcreate : mailboxOrCreate target (s.1.mailboxes target) = .ok (s.1.mailboxAt target) := by
    cases hm : s.1.mailboxes target with
    | none => simp [mailboxOrCreate, createWorkMailbox_eq hcopy, QueueStore.mailboxAt, hm]
    | some m => simp [mailboxOrCreate, QueueStore.mailboxAt, hm]
  have hwork : enqueueWork s.1 target signal = .ok (queued, s.1.put queued) := by
    rw [enqueueWork, hget, ok_bind, hcreate, ok_bind, hopen, if_neg Bool.false_ne_true, hqueued,
      ok_bind, saveWorkMailbox_eq hj.coherent, ok_bind]
  have hat : (s.1.put queued).mailboxAt target = queued := hqt ▸ mailboxAt_put s.1 queued
  refine ⟨s.1.put queued, attempt_ok ?_, rfl, by rw [hat, hj.cursor_eq]⟩
  rw [journaledStep, hstep, hwork, ok_bind, ok_bind]
  have hne : queued.nextSequence ≠ (s.1.mailboxAt target).nextSequence := by omega
  simp only [followJournal, hop, hat, if_neg hne]

/-- A followed mailbox by the keys of its journal and its cursor, with no archived Task. -/
structure Scenario (target : MailboxTarget) (s : QueueStore × List LedgerEntry)
    (keys : List String) (consumed : ℕ) : Prop where
  followed : Followed target s
  active : s.1.taskStatus = fun _ => none
  keys : s.2.map LedgerEntry.key = keys
  cursor : cursor (s.1.mailboxAt target) = consumed

variable {keys : List String}

theorem Scenario.enqueue {consumed : ℕ} {key : String} {signal : WorkSignal} {op : QueueOperation}
    (h : Scenario target s keys consumed) (ht : NormalTarget target) (hwf : WellFormedSignal signal)
    (hkey : ∀ m : Mailbox, m.nextSequence = keys.length + 1 → signalKey m signal = key)
    (hrecent : key ∉ lastEntries recentDedupeKeyLimit (keys.take consumed))
    (hpending : key ∉ keys.drop consumed) (hop : op.signal? = some signal)
    (hstep : queueStep s.1 op = (enqueueWork s.1 target signal >>= fun r => .ok r.2)) :
    Scenario target (attempt (journaledStep target) s op) (keys ++ [key]) consumed := by
  have hlength : s.2.length = keys.length := by rw [← h.keys, List.length_map]
  have hsignal := hkey (s.1.mailboxAt target) (by rw [h.followed.journals.next, hlength])
  have hfresh : signalKey (s.1.mailboxAt target) signal ∉ (s.1.mailboxAt target).allKeys := by
    rw [h.followed.journals.mem_allKeys_iff, h.keys, h.cursor, hsignal]
    exact not_or.2 ⟨hrecent, hpending⟩
  have hopen : s.1.admissionClosed target = false := by
    cases target <;> simp [QueueStore.admissionClosed, h.active]
  obtain ⟨next, hnext, htasks, hcursor⟩ := h.followed.enqueue_of_fresh ht hopen hwf hfresh hop hstep
  have hfollowed := (h.followed.run [op]).1
  rw [run_cons, run_nil, hnext] at hfollowed
  rw [hnext]
  refine ⟨hfollowed, htasks.trans h.active, ?_, hcursor.trans h.cursor⟩
  rw [List.map_append, h.keys]
  simp [acceptedEntry, hsignal]

theorem attempt_settle {next : QueueStore} {outcome : RoleRunDispatchSettlement}
    {expected : Option (Option RoleRunDispatchToken)}
    (h : settleRoleRunDispatch s.1 input expected = .ok (outcome, next)) :
    attempt (journaledStep target) s (.settleRoleRunDispatch input expected) = (next, s.2) := by
  refine attempt_ok ?_
  rw [journaledStep, queueStep, h, ok_bind, ok_bind]
  rfl

theorem Scenario.dispatch {consumed : ℕ}
    {reason occurredAt : String} (h : Scenario (roleRunTarget input) s keys consumed)
    (ht : NormalTarget (roleRunTarget input)) (hrole : input.roleName ≠ "leader")
    (hwf : WellFormedSignal (roleRunDispatchSignal input reason occurredAt))
    (htrim : trim (roleRunDispatchDedupeKey input) = roleRunDispatchDedupeKey input)
    (hrecent : roleRunDispatchDedupeKey input ∉
      lastEntries recentDedupeKeyLimit (keys.take consumed))
    (hpending : roleRunDispatchDedupeKey input ∉ keys.drop consumed) :
    Scenario (roleRunTarget input) (attempt (journaledStep (roleRunTarget input)) s
        (.enqueueRoleRunDispatch input reason occurredAt))
      (keys ++ [roleRunDispatchDedupeKey input]) consumed := by
  refine h.enqueue ht hwf (fun _ _ => htrim) hrecent hpending rfl ?_
  rw [queueStep, enqueueRoleRunDispatch, if_neg hrole]
  cases enqueueWork s.1 (roleRunTarget input) (roleRunDispatchSignal input reason occurredAt) <;> rfl

theorem Scenario.settle {consumed n : ℕ}
    (h : Scenario (roleRunTarget input) s keys consumed) (hrole : input.roleName ≠ "leader")
    (hkey : keys[n]? = some (roleRunDispatchDedupeKey input)) (hn : consumed ≤ n) :
    ∃ next, settleRoleRunDispatch s.1 input none = .ok (.settled, next) ∧
      Scenario (roleRunTarget input) (next, s.2) keys (n + 1) := by
  rw [← h.keys, List.getElem?_map, Option.map_eq_some_iff] at hkey
  obtain ⟨e, he, hkey⟩ := hkey
  obtain ⟨next, hnext, htasks, hcursor⟩ := h.followed.settle_of_key hrole he hkey (h.cursor.le.trans hn)
  exact ⟨next, hnext, (h.followed.settle hnext).1, htasks.trans h.active, h.keys, hcursor⟩

end Host

def firstRun : RoleRunDispatchIdentity := ⟨"t", "r", "run-1"⟩

def secondRun : RoleRunDispatchIdentity := ⟨"t", "r", "run-2"⟩

def firstDispatch : QueueOperation := .enqueueRoleRunDispatch firstRun "w" "2026"

/-- 256 unkeyed signals and another dispatch, which is settled, before the first run is dispatched
again. -/
def laterOperations : List QueueOperation :=
  List.replicate 256 (QueueOperation.enqueueWork (roleRunTarget firstRun) sampleSignal) ++
    [.enqueueRoleRunDispatch secondRun "w" "2026", .settleRoleRunDispatch secondRun none,
      firstDispatch]

theorem sampleSignal_wellFormed : @WellFormedSignal sampleHost sampleSignal :=
  let _ := sampleHost
  { reason := ⟨by decide, by decide⟩
    source := by simp [sampleSignal]
    occurredAt := ⟨⟨by decide, by decide⟩, by decide⟩
    refs := by simp [sampleSignal]
    factRevision := by simp [sampleSignal]
    dedupeKey := by simp [sampleSignal]
    unreserved := by simp [sampleSignal] }

theorem dispatchSignal_wellFormed {input : RoleRunDispatchIdentity} {ref : MailboxEntityRef}
    (href : copyRef (roleRunRef input) = .ok ref)
    (hkey : NormalText (roleRunDispatchDedupeKey input)) :
    @WellFormedSignal sampleHost (roleRunDispatchSignal input "w" "2026") :=
  let _ := sampleHost
  { reason := ⟨by simp [roleRunDispatchSignal]; decide, by simp [roleRunDispatchSignal]; decide⟩
    source := by
      rintro s ⟨rfl⟩
      exact ⟨by decide, by decide⟩
    occurredAt := ⟨⟨by simp [roleRunDispatchSignal]; decide, by simp [roleRunDispatchSignal]; decide⟩,
      by simp [roleRunDispatchSignal]; decide⟩
    refs := by
      intro r hr
      obtain rfl := List.mem_singleton.1 hr
      exact ⟨ref, href⟩
    factRevision := by simp [roleRunDispatchSignal]
    dedupeKey := by
      rintro k ⟨rfl⟩
      exact ⟨hkey.noNul, hkey.trimmed.symm ▸ hkey.nonempty⟩
    unreserved := by
      rintro k ⟨rfl⟩ n
      rw [hkey.trimmed]
      exact roleRunDispatchDedupeKey_ne input n }

theorem sampleTarget_normal : NormalTarget (roleRunTarget firstRun) := ⟨by decide, by decide⟩

theorem scenario_replicate {s : QueueStore × List LedgerEntry}
    (h : @Scenario sampleHost (roleRunTarget firstRun) s [roleRunDispatchDedupeKey firstRun] 1) (k : ℕ) :
    @Scenario sampleHost (roleRunTarget firstRun) (run (@journaledStep sampleHost (roleRunTarget firstRun)) s
        (List.replicate k (QueueOperation.enqueueWork (roleRunTarget firstRun) sampleSignal)))
      (roleRunDispatchDedupeKey firstRun :: (List.range' 2 k).map sequenceKey) 1 := by
  let _ := sampleHost
  induction k with
  | zero => exact h
  | succ k ih =>
    rw [List.replicate_succ', run_snoc, List.range'_concat, List.map_append, ← List.cons_append]
    refine ih.enqueue sampleTarget_normal sampleSignal_wellFormed (fun m hm => ?_) ?_ ?_ rfl ?_
    · simp only [List.length_cons, List.length_map, List.length_range'] at hm
      simp only [signalKey, sampleSignal, hm]
      congr 1
      omega
    · intro hmem
      have := (lastEntries_sublist _ _).subset hmem
      simp only [List.take_succ_cons, List.take_zero, List.mem_singleton] at this
      exact roleRunDispatchDedupeKey_ne firstRun _ this.symm
    · simp only [List.drop_succ_cons, List.drop_zero, List.mem_map, not_exists, not_and]
      intro n hn heq
      have := sequenceKey_injective heq
      rw [List.mem_range'] at hn
      omega
    · rfl

theorem key_evicted {first second : String} (hfirst : ∀ n, first ≠ sequenceKey n) (hsecond : first ≠ second) :
    first ∉ lastEntries recentDedupeKeyLimit
      (List.take (257 + 1) (first :: (List.range' 2 256).map sequenceKey ++ [second])) := by
  have hlength : recentDedupeKeyLimit ≤
      ((List.range' 2 256).map sequenceKey ++ [second]).length := by
    simp [recentDedupeKeyLimit]
  rw [List.take_of_length_le (by simp), List.cons_append, lastEntries_cons hlength]
  intro hmem
  have hin := (lastEntries_sublist _ _).subset hmem
  simp only [List.mem_append, List.mem_map, List.mem_singleton] at hin
  rcases hin with ⟨n, _, hn⟩ | heq
  · exact hfirst n hn.symm
  · exact hsecond heq

theorem settled_twice :
    let _ := sampleHost
    let settlement := QueueOperation.settleRoleRunDispatch firstRun none
    ∃ next next', settleRoleRunDispatch (reached (fun _ => none) firstRun [firstDispatch]).1 firstRun none =
        .ok (.settled, next) ∧ settleRoleRunDispatch
        (reached (fun _ => none) firstRun ([firstDispatch] ++ [settlement] ++ laterOperations)).1
        firstRun none = .ok (.settled, next') := by
  intro _ settlement
  have hfirst : NormalText (roleRunDispatchDedupeKey firstRun) := by decide
  have hsecond : NormalText (roleRunDispatchDedupeKey secondRun) := by decide
  have hdistinct : roleRunDispatchDedupeKey firstRun ≠ roleRunDispatchDedupeKey secondRun := by decide
  have hwf := @dispatchSignal_wellFormed firstRun (roleRunRef firstRun) (by decide) hfirst
  have hwf' := @dispatchSignal_wellFormed secondRun (roleRunRef secondRun) (by decide) hsecond
  have h0 : Scenario (roleRunTarget firstRun) (emptyStore (fun _ => none), []) [] 0 :=
    ⟨Followed.initial sampleTarget_normal _, rfl, rfl, rfl⟩
  have h1 : Scenario (roleRunTarget firstRun) (reached (fun _ => none) firstRun [firstDispatch])
      [roleRunDispatchDedupeKey firstRun] 0 :=
    h0.dispatch sampleTarget_normal (by decide) hwf hfirst.trimmed (by simp [lastEntries]) (by simp)
  obtain ⟨next, hnext, h2⟩ := h1.settle (by decide) rfl le_rfl
  have h3 := scenario_replicate h2 256
  have h4 := @Scenario.dispatch _ secondRun _ _ _ _ _ h3 sampleTarget_normal (by decide) hwf'
    hsecond.trimmed (fun hmem => ?_) (fun hmem => ?_)
  rotate_left
  · have := (lastEntries_sublist _ _).subset hmem
    simp only [List.take_succ_cons, List.take_zero, List.mem_singleton] at this
    exact hdistinct this.symm
  · simp only [List.drop_succ_cons, List.drop_zero, List.mem_map] at hmem
    obtain ⟨n, _, hn⟩ := hmem
    exact roleRunDispatchDedupeKey_ne secondRun n hn.symm
  obtain ⟨middle, hmiddle, h5⟩ := @Scenario.settle _ secondRun _ _ _ 257 h4 (by decide) (by simp) (by decide)
  have htarget : roleRunTarget secondRun = roleRunTarget firstRun := rfl
  rw [htarget] at hmiddle h5
  have hevicted := key_evicted (roleRunDispatchDedupeKey_ne firstRun) hdistinct
  have h6 := @Scenario.dispatch _ firstRun _ _ _ _ _ h5 sampleTarget_normal (by decide) hwf
    hfirst.trimmed hevicted (by rw [List.drop_of_length_le (by simp)]; exact List.not_mem_nil)
  obtain ⟨last, hlast, _⟩ := @Scenario.settle _ firstRun _ _ _ 258 h6 (by decide) (by simp) (by decide)
  refine ⟨next, last, hnext, ?_⟩
  rw [reached_append, reached_settle hnext, laterOperations, run_append, run_cons, run_cons,
    run_cons, run_nil, attempt_settle hmiddle]
  exact hlast

end WorkMailbox
