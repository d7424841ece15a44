import Yui.FallibleRun
import Yui.IncreasingLabels
import Yui.WorkMailboxClosure

/-!
# The ledger of accepted signals

The ledger records what the mailbox operations are for: an accepted signal waits in the pending
part, moves to the processing part when the batch is claimed and back when it is released, and
departs when the processing batch is completed or when a consumed range covers its sequence
number. It is advanced next to the mailbox and never read by it.

In every run the signals held by a part of the ledger lie in the envelope of the matching batch,
and the batch still carries their reason, source and references.
-/

open JsText Checked IncreasingLabels

namespace WorkMailbox

structure LedgerEntry where
  sequence : ℕ
  key : String
  reason : String
  source : String
  refs : List MailboxEntityRef
  deriving DecidableEq

structure Ledger where
  pending : List LedgerEntry
  processing : List LedgerEntry
  departed : List LedgerEntry

def Ledger.empty : Ledger := ⟨[], [], []⟩

def signalKey (m : Mailbox) (signal : WorkSignal) : String :=
  match signal.dedupeKey with
  | none => sequenceKey m.nextSequence
  | some key => trim key

/-- The accepted signal with its texts and references as the mailbox normalizes them. -/
def acceptedEntry (m : Mailbox) (signal : WorkSignal) : LedgerEntry where
  sequence := m.nextSequence
  key := signalKey m signal
  reason := trim signal.reason
  source := trim (signal.source.getD "yui")
  refs := signal.refs.filterMap (fun ref => (copyRef ref).toOption)

def Ledger.consumeThrough (ledger : Ledger) (last : ℤ) : Ledger where
  pending := ledger.pending.filter (fun e => last < e.sequence)
  processing := ledger.processing
  departed := ledger.departed ++ ledger.pending.filter (fun e => e.sequence ≤ last)

/-- How a completed operation moves the signals; `before` and `after` tell whether an enqueued
signal was accepted. -/
def Ledger.advance (ledger : Ledger) (before after : Mailbox) : Operation → Ledger
  | .enqueueSignal signal =>
    if after.nextSequence = before.nextSequence then ledger
    else { ledger with pending := ledger.pending ++ [acceptedEntry before signal] }
  | .claimPending _ => { ledger with pending := [], processing := ledger.pending }
  | .bindExecution _ _ => ledger
  | .completeProcessing _ =>
    { ledger with processing := [], departed := ledger.departed ++ ledger.processing }
  | .releaseProcessing _ =>
    { ledger with pending := ledger.processing ++ ledger.pending, processing := [] }
  | .consumePendingBatch through =>
    match through.bind SequenceRange.toSequence with
    | none => { ledger with pending := [], departed := ledger.departed ++ ledger.pending }
    | some last => ledger.consumeThrough last

theorem nul_not_mem_text {s : String} (h : NormalText s) : nul ∉ s.toList := by
  simpa [includesNul] using h.noNul

theorem append_nul_inj {a b c d : List Char} (ha : nul ∉ a) (hc : nul ∉ c)
    (h : a ++ nul :: b = c ++ nul :: d) : a = c ∧ b = d := by
  induction a generalizing c with
  | nil =>
    cases c with
    | nil => simpa using h
    | cons x c => simp only [List.nil_append, List.cons_append, List.cons.injEq] at h; simp [h.1] at hc
  | cons y a ih =>
    cases c with
    | nil => simp only [List.nil_append, List.cons_append, List.cons.injEq] at h; simp [h.1] at ha
    | cons x c =>
      simp only [List.cons_append, List.cons.injEq] at h
      simp only [List.mem_cons, not_or] at ha hc
      obtain ⟨rfl, rfl⟩ := ih ha.2 hc.2 h.2
      exact ⟨by rw [h.1], rfl⟩

theorem toList_globalKey (type : GlobalEntityType) (id : String) :
    (mailboxEntityRefKey (.global type id)).toList = type.text.toList ++ nul :: id.toList := by
  simp [mailboxEntityRefKey, nulText]

theorem toList_taskKey (type : TaskEntityType) (taskId id : String) :
    (mailboxEntityRefKey (.ofTask type taskId id)).toList =
      type.text.toList ++ nul :: (taskId.toList ++ nul :: id.toList) := by
  simp [mailboxEntityRefKey, nulText]

theorem mailboxEntityRefKey_inj {r s : MailboxEntityRef} (hr : NormalRef r) (hs : NormalRef s)
    (h : mailboxEntityRefKey r = mailboxEntityRefKey s) : r = s := by
  have hg : ∀ t : GlobalEntityType, nul ∉ t.text.toList := by rintro (_ | _ | _) <;> decide
  have ht : ∀ t : TaskEntityType, nul ∉ t.text.toList := by rintro (_ | _ | _ | _ | _) <;> decide
  have hl := congrArg String.toList h
  cases r with
  | global type id =>
    cases s with
    | global type' id' =>
      rw [toList_globalKey, toList_globalKey] at hl
      obtain ⟨h1, h2⟩ := append_nul_inj (hg _) (hg _) hl
      have htype : type = type' := by
        revert h1
        cases type <;> cases type' <;> decide
      rw [htype, String.toList_inj.1 h2]
    | ofTask type' taskId' id' =>
      rw [toList_globalKey, toList_taskKey] at hl
      obtain ⟨_, h2⟩ := append_nul_inj (hg _) (ht _) hl
      exact absurd (h2 ▸ by simp) (nul_not_mem_text hr)
  | ofTask type taskId id =>
    cases s with
    | global type' id' =>
      rw [toList_globalKey, toList_taskKey] at hl
      obtain ⟨_, h2⟩ := append_nul_inj (ht _) (hg _) hl
      exact absurd (h2 ▸ by simp) (nul_not_mem_text hs)
    | ofTask type' taskId' id' =>
      rw [toList_taskKey, toList_taskKey] at hl
      obtain ⟨h1, h2⟩ := append_nul_inj (ht _) (ht _) hl
      have hrt : nul ∉ taskId.toList := nul_not_mem_text hr.task.text
      have hst : nul ∉ taskId'.toList := nul_not_mem_text hs.task.text
      obtain ⟨h3, h4⟩ := append_nul_inj hrt hst h2
      have htype : type = type' := by
        revert h1
        cases type <;> cases type' <;> decide
      rw [htype, String.toList_inj.1 h3, String.toList_inj.1 h4]

theorem mem_appendUnique_refs {left right : List MailboxEntityRef} (hl : ∀ r ∈ left, NormalRef r)
    (hr : ∀ r ∈ right, NormalRef r) {r : MailboxEntityRef} (h : r ∈ right) :
    r ∈ appendUnique mailboxEntityRefKey left right := by
  have hkey := (appendUnique.mem_map_key left right (mailboxEntityRefKey r)).2 (.inr (List.mem_map_of_mem h))
  obtain ⟨s, hs, he⟩ := List.mem_map.1 hkey
  have hn : NormalRef s := (appendUnique.mem_or_mem hs).elim (hl s) (hr s)
  rwa [← mailboxEntityRefKey_inj hn (hr r h) he]

theorem mapIndexed_copyRef {refs result : List MailboxEntityRef} {i : ℕ}
    (h : mapIndexed (fun ref _ => copyRef ref) i refs = .ok result) :
    refs.filterMap (fun ref => (copyRef ref).toOption) = result := by
  have hall := mapIndexed_ok h
  clear h
  induction hall with
  | nil => rfl
  | cons hxy _ ih =>
    obtain ⟨_, hxy⟩ := hxy
    rw [List.filterMap_cons, hxy, ← ih]
    rfl

/-- The signals of one part of the ledger against the batch that should hold them. -/
structure Holds (entries : List LedgerEntry) (batch : Option PendingBatch) : Prop where
  empty : batch = none → entries = []
  increasing : Increasing LedgerEntry.sequence entries
  within : ∀ b ∈ batch, ∀ e ∈ entries, b.fromSequence ≤ e.sequence ∧ e.sequence ≤ b.toSequence
  reached : ∀ b ∈ batch, ∃ e ∈ entries, e.sequence = b.toSequence
  content : ∀ b ∈ batch, ∀ e ∈ entries, e.reason ∈ b.reasons ∧ e.source ∈ b.sources ∧
    ∀ r ∈ e.refs, r ∈ b.refs

theorem Holds.nil_none : Holds [] none where
  empty _ := rfl
  increasing := List.Pairwise.nil
  within := by simp
  reached := by simp
  content := by simp

theorem Holds.filter {l : List LedgerEntry} {b rest : PendingBatch} {last : ℕ}
    (hl : Holds l (some b)) (hlast : last < b.toSequence) (hfrom : rest.fromSequence = last + 1)
    (hto : rest.toSequence = b.toSequence) (hreasons : rest.reasons = b.reasons)
    (hsources : rest.sources = b.sources) (hrefs : rest.refs = b.refs) :
    Holds (l.filter (fun e => last < e.sequence)) (some rest) where
  empty := by simp
  increasing := hl.increasing.filter _
  within := by
    rintro c ⟨rfl⟩ e he
    obtain ⟨he, hlt⟩ := List.mem_filter.1 he
    have := (hl.within b rfl e he).2
    simp only [decide_eq_true_eq] at hlt
    omega
  reached := by
    rintro c ⟨rfl⟩
    obtain ⟨e, he, hseq⟩ := hl.reached b rfl
    refine ⟨e, List.mem_filter.2 ⟨he, ?_⟩, by omega⟩
    simp only [decide_eq_true_eq]
    omega
  content := by
    rintro c ⟨rfl⟩ e he
    rw [hreasons, hsources, hrefs]
    exact hl.content b rfl e (List.mem_filter.1 he).1

theorem consumeThrough_all {m : Mailbox} {ledger : Ledger} {b : PendingBatch}
    (h : Holds ledger.pending m.pending) (hb : m.pending = some b) : ledger.consumeThrough b.toSequence =
      { ledger with pending := [], departed := ledger.departed ++ ledger.pending } := by
  have hle : ∀ e ∈ ledger.pending, e.sequence ≤ b.toSequence := fun e he => (h.within b hb e he).2
  have hall : ledger.pending.filter (fun e => (e.sequence : ℤ) ≤ (b.toSequence : ℤ)) =
      ledger.pending := List.filter_eq_self.2 (fun e he => by simpa using hle e he)
  have hnone : ledger.pending.filter (fun e => (b.toSequence : ℤ) < (e.sequence : ℤ)) = [] :=
    List.filter_eq_nil_iff.2 (fun e he => by simpa using hle e he)
  rw [Ledger.consumeThrough, hall, hnone]

theorem signalDedupeKey_eq {m : Mailbox} {signal : WorkSignal} {key : String}
    (h : signalDedupeKey m signal = .ok key) : key = signalKey m signal := by
  unfold signalDedupeKey at h
  unfold signalKey
  cases hk : signal.dedupeKey with
  | none =>
    rw [hk] at h
    cases h
    rfl
  | some k =>
    rw [hk] at h
    exact (requireTextWith_normal h).2

section Host

variable [JsHost]

structure LedgerInv (s : Mailbox × Ledger) : Prop where
  coherent : Coherent s.1
  pending : Holds s.2.pending s.1.pending
  processing : Holds s.2.processing (s.1.processing.map ProcessingBatch.batch)

theorem Holds.merge {l r : List LedgerEntry} {left right : PendingBatch} (hl : Holds l (some left))
    (hr : Holds r (some right)) (hln : NormalBatch left) (hrn : NormalBatch right)
    (hlt : left.toSequence < right.fromSequence) : Holds (l ++ r) (some (mergeBatches left right)) where
  empty := by simp
  increasing := by
    refine IncreasingLabels.append hl.increasing hr.increasing (fun x hx y hy => ?_)
    have h1 := (hl.within left rfl x hx).2
    have h2 := (hr.within right rfl y hy).1
    omega
  within := by
    rintro b ⟨rfl⟩ e he
    have h1 := hln.fromLe
    have h2 := hrn.fromLe
    simp only [mergeBatches]
    rcases List.mem_append.1 he with he | he
    · have h3 := hl.within left rfl e he
      omega
    · have h3 := hr.within right rfl e he
      omega
  reached := by
    rintro b ⟨rfl⟩
    obtain ⟨e, he, hto⟩ := hr.reached right rfl
    have h1 := hrn.fromLe
    refine ⟨e, List.mem_append_right _ he, ?_⟩
    simp only [mergeBatches]
    omega
  content := by
    rintro b ⟨rfl⟩ e he
    simp only [mergeBatches, appendUnique.mem_id]
    rcases List.mem_append.1 he with he | he
    · obtain ⟨h1, h2, h3⟩ := hl.content left rfl e he
      exact ⟨.inl h1, .inl h2, fun ref hr => appendUnique.mem_of_mem_left (h3 ref hr) _⟩
    · obtain ⟨h1, h2, h3⟩ := hr.content right rfl e he
      exact ⟨.inr h1, .inr h2, fun ref href =>
        mem_appendUnique_refs hln.refs hrn.refs (h3 ref href)⟩

variable {m : Mailbox}

theorem Holds.appendToPending (hm : Coherent m) {l : List LedgerEntry}
    {e : LedgerEntry} {incoming : PendingBatch} (hl : Holds l m.pending)
    (hi : Holds [e] (some incoming)) (hn : NormalBatch incoming) (hfrom : incoming.fromSequence = m.nextSequence) :
    Holds (l ++ [e]) (some (appendToPending m.pending incoming)) := by
  cases hp : m.pending with
  | none =>
    rw [hp] at hl
    rw [hl.empty rfl]
    exact hi
  | some b =>
    rw [hp] at hl
    exact hl.merge hi (hm.pending b hp) hn (hfrom ▸ hm.pendingBelow b hp)

theorem Holds.prependToPending (hm : Coherent m) {l r : List LedgerEntry}
    {p : ProcessingBatch} (hp : m.processing = some p) (hl : Holds l (some p.batch))
    (hr : Holds r m.pending) : Holds (l ++ r) (some (prependToPending p.batch m.pending)) := by
  cases hb : m.pending with
  | none =>
    rw [hb] at hr
    rw [hr.empty rfl, List.append_nil]
    exact hl
  | some b =>
    rw [hb] at hr
    exact hl.merge hr (hm.processing p hp).batch (hm.pending b hb) (hm.ordered p hp b hb)

def trackedStep (s : Mailbox × Ledger) (op : Operation) : Except String (Mailbox × Ledger) := do
  let next ← step s.1 op
  .ok (next, s.2.advance s.1 next op)

variable {op : Operation}

theorem trackedStep_ok {s t : Mailbox × Ledger} (h : trackedStep s op = .ok t) :
    step s.1 op = .ok t.1 ∧ t.2 = s.2.advance s.1 t.1 op := by
  obtain ⟨next, hnext, h⟩ := bind_ok h
  cases h
  exact ⟨hnext, rfl⟩

theorem LedgerInv.initial {target : MailboxTarget}
    (h : createWorkMailbox target = .ok m) : LedgerInv (m, Ledger.empty) := by
  refine ⟨createWorkMailbox_coherent h, ?_, ?_⟩
  all_goals
    obtain ⟨t, _, h⟩ := bind_ok h
    cases h
    exact Holds.nil_none

inductive Move (m : Mailbox) (ledger : Ledger) : Operation → Mailbox → Ledger → Prop where
  | ignored (signal : WorkSignal) (h : mailboxContainsDedupeKey m (signalKey m signal) = true) :
      Move m ledger (.enqueueSignal signal) m ledger
  | accepted (signal : WorkSignal) (incoming : PendingBatch) (hn : NormalBatch incoming)
      (hkeys : incoming.dedupeKeys = [signalKey m signal])
      (hfrom : incoming.fromSequence = m.nextSequence)
      (hto : incoming.toSequence = m.nextSequence)
      (hholds : Holds [acceptedEntry m signal] (some incoming))
      (hfresh : mailboxContainsDedupeKey m (signalKey m signal) = false)
      (hcount : incoming.requestCount = 1) :
      Move m ledger (.enqueueSignal signal)
        { m with nextSequence := m.nextSequence + 1,
                 pending := some (appendToPending m.pending incoming) }
        { ledger with pending := ledger.pending ++ [acceptedEntry m signal] }
  | claimed (options : ClaimOptions) (p : ProcessingBatch) (hp : m.processing = none)
      (hb : m.pending = some p.batch) :
      Move m ledger (.claimPending options) { m with processing := some p, pending := none }
        { ledger with pending := [], processing := ledger.pending }
  | bound (batchId : String) (ref : MailboxEntityRef) (p q : ProcessingBatch)
      (hp : m.processing = some p) (hq : q.batch = p.batch) :
      Move m ledger (.bindExecution batchId ref) { m with processing := some q } ledger
  | completed (batchId : String) (p : ProcessingBatch) (hp : m.processing = some p) :
      Move m ledger (.completeProcessing batchId)
        { m with processing := none,
                 recentDedupeKeys := rememberDedupeKeys m.recentDedupeKeys p.batch.dedupeKeys }
        { ledger with processing := [], departed := ledger.departed ++ ledger.processing }
  | released (batchId : String) (p : ProcessingBatch) (hp : m.processing = some p) :
      Move m ledger (.releaseProcessing batchId)
        { m with processing := none, pending := some (prependToPending p.batch m.pending) }
        { ledger with pending := ledger.processing ++ ledger.pending, processing := [] }
  | consumedWhole (through : Option SequenceRange) (b : PendingBatch) (hb : m.pending = some b) :
      Move m ledger (.consumePendingBatch through) (consumeWhole m b)
        { ledger with pending := [], departed := ledger.departed ++ ledger.pending }
  | consumedThrough (range : SequenceRange) (b : PendingBatch) (last : ℕ)
      (hb : m.pending = some b) (hmatch : range.matchedEnd? b = some last)
      (hfrom : b.fromSequence ≤ last) (hlast : last < b.toSequence) :
      Move m ledger (.consumePendingBatch (some range)) (consumeThrough m b last)
        (ledger.consumeThrough last)

theorem enqueueSignalDraft_move {m built : Mailbox} {signal : WorkSignal} (ledger : Ledger)
    (hm : Coherent m) (h : enqueueSignalDraft m signal = .ok (some built)) :
    built.nextSequence = m.nextSequence + 1 ∧ Move m ledger (.enqueueSignal signal) built
      { ledger with pending := ledger.pending ++ [acceptedEntry m signal] } := by
  obtain ⟨reason, occurredAt, source, key, hreason, hoccurred, hsource, hkey, hc⟩ := enqueueSignalDraft_ok h
  obtain ⟨_, hnone⟩ | ⟨hfresh, refs, revision, hrefs, hbuilt⟩ := hc
  · cases hnone
  have hrefsNormal : ∀ r ∈ refs, NormalRef r := fun r hr => by
    obtain ⟨x, _, _, hx⟩ := mapIndexed_mem hrefs hr
    exact copyRef_normal hx
  have hn : NormalBatch (incomingBatch m.nextSequence reason occurredAt source key refs revision) :=
    incomingBatch_normal hm.nextPos (requireText_normal hreason) (requireTimestamp_normal hoccurred)
      (requireText_normal hsource) (signalDedupeKey_normal hkey) hrefsNormal _
  have hholds : Holds [acceptedEntry m signal]
      (some (incomingBatch m.nextSequence reason occurredAt source key refs revision)) := {
    empty := by simp
    increasing := List.pairwise_singleton _ _
    within := by simp [acceptedEntry, incomingBatch]
    reached := by simp [acceptedEntry, incomingBatch]
    content := by
      rintro b ⟨rfl⟩ e he
      obtain rfl := List.mem_singleton.1 he
      refine ⟨?_, ?_, fun r hr => ?_⟩
      · simp [acceptedEntry, incomingBatch, (requireTextWith_normal hreason).2]
      · simp [acceptedEntry, incomingBatch, (requireTextWith_normal hsource).2]
      · simp only [acceptedEntry, mapIndexed_copyRef hrefs] at hr
        exact mem_appendUnique_refs (by simp) hrefsNormal hr }
  obtain rfl := Option.some.inj hbuilt
  have hk := signalDedupeKey_eq hkey
  exact ⟨rfl, .accepted signal _ hn (by rw [← hk]; rfl) rfl rfl hholds (hk ▸ hfresh) rfl⟩

theorem trackedStep_move {m next : Mailbox} {ledger ledger' : Ledger}
    (hs : LedgerInv (m, ledger)) (h : trackedStep (m, ledger) op = .ok (next, ledger')) :
    Move m ledger op next ledger' := by
  obtain ⟨hstep, hledger⟩ := trackedStep_ok h
  simp only at hstep hledger
  have hdraft := (step_ok_iff hs.coherent).1 hstep
  subst hledger
  cases op with
  | enqueueSignal signal =>
    obtain ⟨hdraft, rfl⟩ | hdraft := hdraft
    · obtain ⟨_, _, _, key, _, _, _, hkey, hc⟩ := enqueueSignalDraft_ok hdraft
      obtain ⟨hmem, _⟩ | ⟨_, _, _, _, hsome⟩ := hc
      · simp only [Ledger.advance, if_true]
        exact .ignored signal (signalDedupeKey_eq hkey ▸ hmem)
      · cases hsome
    · obtain ⟨hnext, hmove⟩ := enqueueSignalDraft_move ledger hs.coherent hdraft
      have hne : next.nextSequence ≠ m.nextSequence := hnext ▸ Nat.succ_ne_self _
      simpa only [Ledger.advance, if_neg hne] using hmove
  | claimPending options =>
    obtain ⟨hdraft, rfl⟩ | hdraft := hdraft
    · obtain ⟨_, _, _, _, _, _, _, _, _, h⟩ := claimPendingDraft_ok hdraft
      cases h
    · obtain ⟨_, _, _, _, hp, hb, _, _, _, h⟩ := claimPendingDraft_ok hdraft
      cases h
      exact .claimed options _ hp hb
  | bindExecution batchId ref =>
    obtain ⟨hdraft, rfl⟩ | hdraft := hdraft
    · obtain ⟨_, _, _, _, h⟩ := bindExecutionDraft_ok hdraft
      cases h
    · obtain ⟨p, _, hp, _, h⟩ := bindExecutionDraft_ok hdraft
      cases h
      exact .bound batchId ref p _ hp rfl
  | completeProcessing batchId =>
    obtain ⟨hdraft, rfl⟩ | hdraft := hdraft
    · obtain ⟨_, _, h⟩ := completeProcessingDraft_ok hdraft
      cases h
    · obtain ⟨p, hp, h⟩ := completeProcessingDraft_ok hdraft
      cases h
      exact .completed batchId p hp
  | releaseProcessing batchId =>
    obtain ⟨hdraft, rfl⟩ | hdraft := hdraft
    · obtain ⟨_, _, h⟩ := releaseProcessingDraft_ok hdraft
      cases h
    · obtain ⟨p, hp, h⟩ := releaseProcessingDraft_ok hdraft
      cases h
      exact .released batchId p hp
  | consumePendingBatch through =>
    obtain ⟨hdraft, rfl⟩ | hdraft := hdraft
    · obtain ⟨_, _, ⟨_, h⟩ | ⟨_, _, _, _, _, h⟩⟩ := consumePendingBatchDraft_ok hdraft <;> cases h
    · obtain ⟨b, hb, ⟨hthrough, h⟩ | ⟨range, last, rfl, hmatch, hlast, h⟩⟩ :=
        consumePendingBatchDraft_ok hdraft
      · cases h
        obtain rfl | ⟨range, rfl, hmatch⟩ := hthrough
        · exact .consumedWhole none b hb
        · simp only [Ledger.advance, Option.bind_some, (matchedEnd?_bounds hmatch).1,
            consumeThrough_all hs.pending hb]
          exact .consumedWhole (some range) b hb
      · cases h
        simp only [Ledger.advance, Option.bind_some, (matchedEnd?_bounds hmatch).1]
        exact .consumedThrough range b last hb hmatch (matchedEnd?_bounds hmatch).2.1 hlast

theorem LedgerInv.step {s t : Mailbox × Ledger} (hs : LedgerInv s) (h : trackedStep s op = .ok t) : LedgerInv t := by
  obtain ⟨m, ledger⟩ := s
  obtain ⟨next, ledger'⟩ := t
  have hm := hs.coherent
  have hpend := hs.pending
  have hproc := hs.processing
  have hnext := step_coherent hm (trackedStep_ok h).1
  simp only at hm hpend hproc
  cases trackedStep_move hs h with
  | ignored signal _ => exact hs
  | accepted signal incoming hn hkeys hfrom hto hholds hfresh =>
    exact ⟨hnext, hpend.appendToPending hm hholds hn hfrom, hproc⟩
  | claimed options p hp hb => exact ⟨hnext, Holds.nil_none, by simpa only [hb, Option.map_some] using hpend⟩
  | bound batchId ref p q hp hq =>
    exact ⟨hnext, hpend, by simpa only [hp, Option.map_some, hq] using hproc⟩
  | completed batchId p hp => exact ⟨hnext, hpend, Holds.nil_none⟩
  | released batchId p hp =>
    simp only [hp, Option.map_some] at hproc
    exact ⟨hnext, hproc.prependToPending hm hp hpend, Holds.nil_none⟩
  | consumedWhole through b hb => exact ⟨hnext, Holds.nil_none, hproc⟩
  | consumedThrough range b last hb hmatch hfrom hlast =>
    simp only [hb] at hpend
    refine ⟨hnext, ?_, hproc⟩
    simp only [Ledger.consumeThrough, Int.ofNat_lt]
    exact hpend.filter hlast rfl rfl rfl rfl rfl

end Host

/-- A host that reads one timestamp. -/
@[reducible] def sampleHost : JsHost where
  dateParse s := if s = "2026" then some 1767225600000 else none

def sampleSignal : WorkSignal where
  reason := "w"
  refs := []
  occurredAt := "2026"
  source := none
  dedupeKey := none
  factRevision := none

def sampleClaim : ClaimOptions := ⟨"b", "c", "2026"⟩

def operatorMailbox : Mailbox := ⟨1, .operator, 1, none, none, []⟩

end WorkMailbox
