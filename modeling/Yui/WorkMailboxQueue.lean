import Mathlib.Logic.Function.Basic
import Yui.WorkMailboxClosure

/-!
# The mailbox queue

The queue of `coordination/workMailboxQueue.ts` over the stored mailboxes: signals are enqueued for
a target, and the dispatch of one exact Role run is captured as a token and settled later. The
store keys its mailboxes by the normalized target and validates what it reads and writes.
-/

open JsText Checked

namespace WorkMailbox

/-- What the queue reads and writes of the store: the mailboxes and the status of each Task. -/
structure QueueStore where
  mailboxes : MailboxTarget → Option Mailbox
  taskStatus : String → Option String

structure RoleRunDispatchIdentity where
  taskId : String
  roleName : String
  runId : String

inductive RoleRunDispatchToken where
  | pending (fromSequence toSequence : ℕ)
  | processing (batchId : String)
  deriving DecidableEq

inductive RoleRunDispatchSettlement where
  | settled | absent | stateChanged
  deriving DecidableEq

def roleRunTarget (input : RoleRunDispatchIdentity) : MailboxTarget :=
  .role input.taskId input.roleName

def roleRunRef (input : RoleRunDispatchIdentity) : MailboxEntityRef :=
  .ofTask .run input.taskId input.runId

def roleRunDispatchDedupeKey (input : RoleRunDispatchIdentity) : String :=
  "role-turn:" ++ input.taskId ++ ":" ++ input.roleName ++ ":" ++ input.runId

def sameRoleRunDispatchToken : RoleRunDispatchToken → RoleRunDispatchToken → Bool
  | .pending leftFrom leftTo, .pending rightFrom rightTo => leftFrom == rightFrom && leftTo == rightTo
  | .processing leftId, .processing rightId => leftId == rightId
  | _, _ => false

theorem sameRoleRunDispatchToken_iff {left right : RoleRunDispatchToken} :
    sameRoleRunDispatchToken left right = true ↔ left = right := by
  cases left <;> cases right <;> simp [sameRoleRunDispatchToken]

def roleRunDispatchSignal (input : RoleRunDispatchIdentity) (reason occurredAt : String) : WorkSignal where
  reason := reason
  refs := [roleRunRef input]
  occurredAt := occurredAt
  source := some "turn-dispatch"
  dedupeKey := some (roleRunDispatchDedupeKey input)
  factRevision := none

def processingTokenFor? (mailbox : Mailbox) (input : RoleRunDispatchIdentity) : Option RoleRunDispatchToken :=
  match mailbox.processing with
  | none => none
  | some processing =>
    match processing.executionRef with
    | none => none
    | some executionRef =>
      if mailboxEntityRefKey executionRef = mailboxEntityRefKey (roleRunRef input) then
        some (.processing processing.batchId)
      else none

def pendingTokenFor? (mailbox : Mailbox) (input : RoleRunDispatchIdentity) : Option RoleRunDispatchToken :=
  match mailbox.pending with
  | none => none
  | some pending =>
    if mailbox.recentDedupeKeys.contains (roleRunDispatchDedupeKey input) then none
    else match pending.dedupeKeys.idxOf? (roleRunDispatchDedupeKey input) with
      | none => none
      | some keyIndex =>
        if pending.dedupeKeys.length = pending.requestCount ∧
            pending.fromSequence + keyIndex ≤ pending.toSequence then
          some (.pending pending.fromSequence (pending.fromSequence + keyIndex))
        else none

/-- Captures only the mailbox prefix that contains one exact Role run dispatch. A Leader dispatch
is never inferred from pending notifications. -/
def captureRoleRunDispatch (mailbox : Option Mailbox) (input : RoleRunDispatchIdentity) :
    Option RoleRunDispatchToken :=
  match mailbox with
  | none => none
  | some mailbox =>
    if mailbox.target ≠ roleRunTarget input then none
    else match processingTokenFor? mailbox input with
      | some token => some token
      | none => if input.roleName = "leader" then none else pendingTokenFor? mailbox input

/-- Archive is an admission boundary for Task and Role mailboxes. -/
def QueueStore.admissionClosed (store : QueueStore) : MailboxTarget → Bool
  | .task taskId => store.taskStatus taskId == some "archived"
  | .role taskId _ => store.taskStatus taskId == some "archived"
  | _ => false

def freshMailbox (target : MailboxTarget) : Mailbox := ⟨1, target, 1, none, none, []⟩

theorem createWorkMailbox_eq {target key : MailboxTarget} (h : copyTarget target = .ok key) :
    createWorkMailbox target = .ok (freshMailbox key) := by
  rw [createWorkMailbox, h]
  rfl

/-- The stored mailbox, or the one that the first signal for the target would create. -/
def QueueStore.mailboxAt (store : QueueStore) (target : MailboxTarget) : Mailbox :=
  (store.mailboxes target).getD (freshMailbox target)

section Host

variable [JsHost]

def QueueStore.getWorkMailbox (store : QueueStore) (target : MailboxTarget) :
    Except String (Option Mailbox) := do
  let key ← copyTarget target
  onSome validateWorkMailbox (store.mailboxes key)

def QueueStore.saveWorkMailbox (store : QueueStore) (mailbox : Mailbox) :
    Except String QueueStore := do
  let validated ← validateWorkMailbox mailbox
  let key ← copyTarget validated.target
  .ok { store with mailboxes := Function.update store.mailboxes key (some validated) }

/-- `existing ?? createWorkMailbox(target)`. -/
def mailboxOrCreate (target : MailboxTarget) : Option Mailbox → Except String Mailbox
  | some mailbox => .ok mailbox
  | none => createWorkMailbox target

def enqueueWork (store : QueueStore) (target : MailboxTarget) (signal : WorkSignal) :
    Except String (Mailbox × QueueStore) := do
  let existing ← store.getWorkMailbox target
  let mailbox ← mailboxOrCreate target existing
  if store.admissionClosed target then .ok (mailbox, store)
  else do
    let queued ← enqueueSignal mailbox signal
    let saved ← store.saveWorkMailbox queued
    .ok (queued, saved)

def enqueueRoleRunDispatch (store : QueueStore) (input : RoleRunDispatchIdentity)
    (reason occurredAt : String) : Except String (Option Mailbox × QueueStore) :=
  if input.roleName = "leader" then .ok (none, store)
  else do
    let (queued, saved) ←
      enqueueWork store (roleRunTarget input) (roleRunDispatchSignal input reason occurredAt)
    .ok (some queued, saved)

/-- The settlement of a token that matches the current one. -/
def settleToken (store : QueueStore) (mailbox : Mailbox) :
    RoleRunDispatchToken → Except String (RoleRunDispatchSettlement × QueueStore)
  | .processing batchId =>
    if mailbox.processing.map ProcessingBatch.batchId ≠ some batchId then
      .ok (.stateChanged, store)
    else do
      let completed ← completeProcessing mailbox batchId
      let saved ← store.saveWorkMailbox completed
      .ok (.settled, saved)
  | .pending fromSequence toSequence =>
    match mailbox.pending with
    | none => .ok (.stateChanged, store)
    | some pending =>
      if pending.fromSequence ≠ fromSequence ∨ pending.toSequence < toSequence then
        .ok (.stateChanged, store)
      else do
        let consumed ← consumePendingBatch mailbox
          (some ⟨.ofNat fromSequence, .ofNat toSequence⟩)
        let saved ← store.saveWorkMailbox consumed
        .ok (.settled, saved)

/-- Settles one exact Role run dispatch. The expected token is `none` when it is omitted and
`some none` when it is null. -/
def settleRoleRunDispatch (store : QueueStore) (input : RoleRunDispatchIdentity)
    (expected : Option (Option RoleRunDispatchToken)) : Except String (RoleRunDispatchSettlement × QueueStore) :=
  if expected = some none then .ok (.absent, store)
  else do
    let mailbox ← store.getWorkMailbox (roleRunTarget input)
    match mailbox, captureRoleRunDispatch mailbox input with
    | some mailbox, some current =>
      match expected.join with
      | some token =>
        if sameRoleRunDispatchToken current token then settleToken store mailbox token
        else .ok (.stateChanged, store)
      | none => settleToken store mailbox current
    | _, _ => .ok (.absent, store)

inductive QueueOperation where
  | enqueueWork (target : MailboxTarget) (signal : WorkSignal)
  | enqueueRoleRunDispatch (input : RoleRunDispatchIdentity) (reason occurredAt : String)
  | settleRoleRunDispatch (input : RoleRunDispatchIdentity)
      (expected : Option (Option RoleRunDispatchToken))
  | setTaskStatus (taskId : String) (status : Option String)

def queueStep (store : QueueStore) : QueueOperation → Except String QueueStore
  | .enqueueWork target signal => do
    let (_, next) ← enqueueWork store target signal
    .ok next
  | .enqueueRoleRunDispatch input reason occurredAt => do
    let (_, next) ← enqueueRoleRunDispatch store input reason occurredAt
    .ok next
  | .settleRoleRunDispatch input expected => do
    let (_, next) ← settleRoleRunDispatch store input expected
    .ok next
  | .setTaskStatus taskId status =>
    .ok { store with taskStatus := Function.update store.taskStatus taskId status }

/-- The stored mailboxes are coherent and kept under their own target. -/
def StoreCoherent (store : QueueStore) : Prop :=
  ∀ target mailbox, store.mailboxes target = some mailbox →
    mailbox.target = target ∧ Coherent mailbox

def QueueStore.put (store : QueueStore) (mailbox : Mailbox) : QueueStore :=
  { store with mailboxes := Function.update store.mailboxes mailbox.target (some mailbox) }

variable {target : MailboxTarget}

theorem getWorkMailbox_ok {store : QueueStore} {mailbox : Option Mailbox}
    (hs : StoreCoherent store) (h : store.getWorkMailbox target = .ok mailbox) :
    ∃ key, copyTarget target = .ok key ∧ mailbox = store.mailboxes key := by
  obtain ⟨key, hkey, h⟩ := bind_ok h
  refine ⟨key, hkey, ?_⟩
  rw [onSome_of_fixed (fun m hm => validateWorkMailbox_of_normal (hs key m hm).2.toNormalMailbox)] at h
  cases h
  rfl

variable {mailbox : Mailbox}

theorem saveWorkMailbox_eq (hm : Coherent mailbox) (store : QueueStore) :
    store.saveWorkMailbox mailbox = .ok (store.put mailbox) := by
  rw [QueueStore.saveWorkMailbox, validateWorkMailbox_of_normal hm.toNormalMailbox, ok_bind,
    copyTarget, checkTarget_of_normal hm.target, ok_bind]
  rfl

theorem StoreCoherent.put {store : QueueStore} (hs : StoreCoherent store)
    (hm : Coherent mailbox) : StoreCoherent (store.put mailbox) := by
  intro target m h
  by_cases ht : target = mailbox.target
  · subst ht
    simp only [QueueStore.put, Function.update_self, Option.some.injEq] at h
    exact h ▸ ⟨rfl, hm⟩
  · simp only [QueueStore.put, Function.update_of_ne ht] at h
    exact hs target m h

theorem draft_target {m built : Mailbox} {op : Operation} (h : op.draft m = .ok (some built)) :
    built.target = m.target := by
  cases op with
  | enqueueSignal signal =>
    obtain ⟨_, _, _, _, _, _, _, _, ⟨_, h⟩ | ⟨_, _, _, _, h⟩⟩ := enqueueSignalDraft_ok h <;> cases h
    rfl
  | claimPending options =>
    obtain ⟨_, _, _, _, _, _, _, _, _, h⟩ := claimPendingDraft_ok h
    cases h
    rfl
  | bindExecution batchId ref =>
    obtain ⟨_, _, _, _, h⟩ := bindExecutionDraft_ok h
    cases h
    rfl
  | completeProcessing batchId =>
    obtain ⟨_, _, h⟩ := completeProcessingDraft_ok h
    cases h
    rfl
  | releaseProcessing batchId =>
    obtain ⟨_, _, h⟩ := releaseProcessingDraft_ok h
    cases h
    rfl
  | consumePendingBatch through =>
    obtain ⟨_, _, ⟨_, h⟩ | ⟨_, _, _, _, _, h⟩⟩ := consumePendingBatchDraft_ok h <;> cases h <;> rfl

theorem step_target {m next : Mailbox} {op : Operation} (hm : Coherent m)
    (h : step m op = .ok next) : next.target = m.target := by
  rcases (step_ok_iff hm).1 h with ⟨_, rfl⟩ | h
  · rfl
  · exact draft_target h

theorem StoreCoherent.mailboxAt {store : QueueStore} (hs : StoreCoherent store) (ht : NormalTarget target) :
    Coherent (store.mailboxAt target) ∧ (store.mailboxAt target).target = target := by
  cases hm : store.mailboxes target with
  | none =>
    simp only [QueueStore.mailboxAt, hm, Option.getD_none]
    have hcopy : copyTarget target = .ok target := checkTarget_of_normal ht _ _
    exact ⟨createWorkMailbox_coherent (createWorkMailbox_eq hcopy), rfl⟩
  | some m =>
    simp only [QueueStore.mailboxAt, hm, Option.getD_some]
    exact (hs target m hm).symm

variable {store next : QueueStore}

theorem enqueueWork_ok {signal : WorkSignal} {queued : Mailbox} (hs : StoreCoherent store)
    (h : enqueueWork store target signal = .ok (queued, next)) :
    next = store ∨ ∃ key, NormalTarget key ∧ copyTarget target = .ok key ∧
      enqueueSignal (store.mailboxAt key) signal = .ok queued ∧ queued.target = key ∧
      Coherent queued ∧ next = store.put queued := by
  obtain ⟨existing, hget, mailbox, hmailbox, hadmit⟩ := bind_ok₂ h
  obtain ⟨key, hkey, rfl⟩ := getWorkMailbox_ok hs hget
  have hnormal : NormalTarget key := checkTarget_normal hkey
  have hat : mailbox = store.mailboxAt key := by
    unfold QueueStore.mailboxAt
    cases hm : store.mailboxes key with
    | none =>
      rw [hm, mailboxOrCreate, createWorkMailbox_eq hkey] at hmailbox
      exact (Except.ok.inj hmailbox).symm
    | some m =>
      rw [hm] at hmailbox
      exact (Except.ok.inj hmailbox).symm
  split_ifs at hadmit
  · cases hadmit
    exact .inl rfl
  · obtain ⟨queued', hqueued, saved, hsaved, hadmit⟩ := bind_ok₂ hadmit
    cases hadmit
    rw [hat] at hqueued
    have hstep : step (store.mailboxAt key) (.enqueueSignal signal) = .ok queued := hqueued
    obtain ⟨hcoherent, htarget⟩ := hs.mailboxAt hnormal
    have hq := step_coherent hcoherent hstep
    rw [saveWorkMailbox_eq hq] at hsaved
    exact .inr ⟨key, hnormal, hkey, hqueued, (step_target hcoherent hstep).trans htarget, hq,
      (Except.ok.inj hsaved).symm⟩

theorem settleToken_ok {token : RoleRunDispatchToken} {outcome : RoleRunDispatchSettlement} (hm : Coherent mailbox)
    (h : settleToken store mailbox token = .ok (outcome, next)) : (outcome ≠ .settled ∧ next = store) ∨
      (outcome = .settled ∧ ∃ op settled, step mailbox op = .ok settled ∧ next = store.put settled ∧
        op = match token with
          | .processing batchId => .completeProcessing batchId
          | .pending fromSequence toSequence =>
            .consumePendingBatch (some ⟨.ofNat fromSequence, .ofNat toSequence⟩)) := by
  cases token with
  | processing batchId =>
    simp only [settleToken] at h
    split_ifs at h
    · cases h
      exact .inl ⟨by decide, rfl⟩
    · obtain ⟨settled, hsettled, saved, hsaved, h⟩ := bind_ok₂ h
      cases h
      have hstep : step mailbox (.completeProcessing batchId) = .ok settled := hsettled
      rw [saveWorkMailbox_eq (step_coherent hm hstep)] at hsaved
      exact .inr ⟨rfl, _, settled, hstep, (Except.ok.inj hsaved).symm, rfl⟩
  | pending fromSequence toSequence =>
    simp only [settleToken] at h
    cases hp : mailbox.pending with
    | none =>
      rw [hp] at h
      cases h
      exact .inl ⟨by decide, rfl⟩
    | some b =>
      simp only [hp] at h
      split_ifs at h
      · cases h
        exact .inl ⟨by decide, rfl⟩
      · obtain ⟨settled, hsettled, saved, hsaved, h⟩ := bind_ok₂ h
        cases h
        have hstep : step mailbox (.consumePendingBatch
          (some ⟨.ofNat fromSequence, .ofNat toSequence⟩)) = .ok settled := hsettled
        rw [saveWorkMailbox_eq (step_coherent hm hstep)] at hsaved
        exact .inr ⟨rfl, _, settled, hstep, (Except.ok.inj hsaved).symm, rfl⟩

theorem settleRoleRunDispatch_ok {input : RoleRunDispatchIdentity}
    {expected : Option (Option RoleRunDispatchToken)} {outcome : RoleRunDispatchSettlement} (hs : StoreCoherent store)
    (h : settleRoleRunDispatch store input expected = .ok (outcome, next)) : (outcome ≠ .settled ∧ next = store) ∨
      (outcome = .settled ∧ ∃ m token, store.mailboxes (roleRunTarget input) = some m ∧
        captureRoleRunDispatch (some m) input = some token ∧ (∀ t, expected = some (some t) → t = token) ∧
        settleToken store m token = .ok (.settled, next)) := by
  unfold settleRoleRunDispatch at h
  split_ifs at h with hnull
  · cases h
    exact .inl ⟨by decide, rfl⟩
  obtain ⟨mailbox, hget, h⟩ := bind_ok h
  obtain ⟨key, hkey, rfl⟩ := getWorkMailbox_ok hs hget
  cases hm : store.mailboxes key with
  | none =>
    rw [hm] at h
    cases h
    exact .inl ⟨by decide, rfl⟩
  | some m =>
    obtain ⟨htarget, hcoherent⟩ := hs key m hm
    cases hcap : captureRoleRunDispatch (some m) input with
    | none =>
      simp only [hm, hcap] at h
      cases h
      exact .inl ⟨by decide, rfl⟩
    | some current =>
      have hrole : m.target = roleRunTarget input := by
        by_contra hne
        simp [captureRoleRunDispatch, hne] at hcap
      have hat : store.mailboxes (roleRunTarget input) = some m := by rw [← hrole, htarget, hm]
      simp only [hm, hcap] at h
      have hdone : ∀ token, token = current → (∀ t, expected = some (some t) → t = token) →
          settleToken store m token = .ok (outcome, next) →
          (outcome ≠ .settled ∧ next = store) ∨ (outcome = .settled ∧ ∃ m token,
            store.mailboxes (roleRunTarget input) = some m ∧
            captureRoleRunDispatch (some m) input = some token ∧
            (∀ t, expected = some (some t) → t = token) ∧
            settleToken store m token = .ok (.settled, next)) := by
        rintro token rfl hexp hset
        rcases settleToken_ok hcoherent hset with hsame | ⟨rfl, _⟩
        · exact .inl hsame
        · exact .inr ⟨rfl, m, token, hat, hcap, hexp, hset⟩
      cases hexp : expected.join with
      | none =>
        rw [hexp] at h
        refine hdone current rfl (fun t ht => ?_) h
        simp [ht] at hexp
      | some token =>
        simp only [hexp] at h
        split_ifs at h with hsame
        · refine hdone token (sameRoleRunDispatchToken_iff.1 hsame).symm (fun t ht => ?_) h
          simpa [ht] using hexp
        · cases h
          exact .inl ⟨by decide, rfl⟩

theorem StoreCoherent.step {op : QueueOperation}
    (hs : StoreCoherent store) (h : queueStep store op = .ok next) : StoreCoherent next := by
  cases op with
  | enqueueWork target signal =>
    obtain ⟨⟨m, saved⟩, hwork, h⟩ := bind_ok h
    cases h
    rcases enqueueWork_ok hs hwork with rfl | ⟨_, _, _, _, _, hq, rfl⟩
    · exact hs
    · exact hs.put hq
  | enqueueRoleRunDispatch input reason occurredAt =>
    obtain ⟨⟨m, saved⟩, hdispatch, h⟩ := bind_ok h
    cases h
    unfold enqueueRoleRunDispatch at hdispatch
    split_ifs at hdispatch
    · cases hdispatch
      exact hs
    · obtain ⟨⟨m', saved'⟩, hwork, hd⟩ := bind_ok hdispatch
      cases hd
      rcases enqueueWork_ok hs hwork with rfl | ⟨_, _, _, _, _, hq, rfl⟩
      · exact hs
      · exact hs.put hq
  | settleRoleRunDispatch input expected =>
    obtain ⟨⟨outcome, saved⟩, hsettle, h⟩ := bind_ok h
    cases h
    rcases settleRoleRunDispatch_ok hs hsettle with ⟨_, rfl⟩ | ⟨rfl, m, token, hm, _, _, hset⟩
    · exact hs
    · have hcoherent := (hs _ m hm).2
      rcases settleToken_ok hcoherent hset with ⟨hne, _⟩ | ⟨_, op, settled, hstep, rfl, _⟩
      · exact absurd rfl hne
      · exact hs.put (step_coherent hcoherent hstep)
  | setTaskStatus taskId status =>
    cases h
    exact hs

end Host

end WorkMailbox
