import Yui.WorkMailbox

/-!
# Normal mailboxes are exactly what validation returns

`NormalMailbox` lists what `validateWorkMailbox` establishes: trimmed texts, unique keys, sequence
envelopes below the next sequence number, at most 256 remembered keys, and no key shared by two of
the three key lists. Validation returns only normal mailboxes and returns a normal mailbox
unchanged.
-/

open JsText Checked

namespace WorkMailbox

structure NormalStrings (values : List String) : Prop where
  normal : ∀ s ∈ values, NormalText s
  nodup : values.Nodup

theorem requireText_normal {value label s : String} (h : requireText value label = .ok s) :
    NormalText s := (requireTextWith_normal h).1

theorem requireText_of_normal {s : String} (h : NormalText s) (label : String) :
    requireText s label = .ok s := requireTextWith_of_normal h _ _

theorem requireInteger_ofNat {n minimum : ℕ} (h : minimum ≤ n) (label : String) :
    requireInteger (.ofNat n) minimum label = .ok n := by
  have hz : (minimum : ℤ) ≤ (n : ℤ) := by exact_mod_cast h
  simp [requireInteger, JsNumber.ofNat, hz]

theorem requireStringArray_of_normal {values : List String} (h : NormalStrings values)
    (label : String) : requireStringArray values label = .ok values := by
  rw [requireStringArray, mapIndexed_of_fixed (fun s hs i => requireText_of_normal (h.normal s hs) _),
    ok_bind, if_pos h.nodup]

def NormalTarget : MailboxTarget → Prop
  | .operator => True
  | .task taskId => NormalText taskId
  | .role taskId roleName => NormalText taskId ∧ NormalText roleName
  | .roleRuntime taskId roleName => NormalText taskId ∧ NormalText roleName
  | .globalRoleRuntime roleName => NormalText roleName

theorem checkTarget_normal {taskLabel roleLabel : String} {target result : MailboxTarget}
    (h : checkTarget taskLabel roleLabel target = .ok result) : NormalTarget result := by
  cases target with
  | operator => cases h; trivial
  | task taskId =>
    obtain ⟨t, ht, h⟩ := bind_ok h
    cases h
    exact requireText_normal ht
  | role taskId roleName | roleRuntime taskId roleName =>
    obtain ⟨t, ht, r, hr, h⟩ := bind_ok₂ h
    cases h
    exact ⟨requireText_normal ht, requireText_normal hr⟩
  | globalRoleRuntime roleName =>
    obtain ⟨r, hr, h⟩ := bind_ok h
    cases h
    exact requireText_normal hr

theorem checkTarget_of_normal {target : MailboxTarget} (h : NormalTarget target)
    (taskLabel roleLabel : String) : checkTarget taskLabel roleLabel target = .ok target := by
  cases target with
  | operator => rfl
  | task taskId => simp only [checkTarget, requireText_of_normal h, ok_bind]
  | role taskId roleName | roleRuntime taskId roleName =>
    simp only [checkTarget, requireText_of_normal h.1, requireText_of_normal h.2, ok_bind]
  | globalRoleRuntime roleName => simp only [checkTarget, requireText_of_normal h, ok_bind]

def NormalRef : MailboxEntityRef → Prop
  | .global _ id => NormalText id
  | .ofTask type taskId id => NormalReference (mailboxTaskRecordKind type) ⟨taskId, id⟩

theorem copyRef_normal {ref result : MailboxEntityRef} (h : copyRef ref = .ok result) : NormalRef result := by
  cases ref with
  | global type id =>
    obtain ⟨i, hi, h⟩ := bind_ok h
    cases h
    exact requireText_normal hi
  | ofTask type taskId id =>
    obtain ⟨r, hr, h⟩ := bind_ok h
    cases h
    exact validateTaskRecordReference_normal hr

theorem copyRef_of_normal {ref : MailboxEntityRef} (h : NormalRef ref) : copyRef ref = .ok ref := by
  cases ref with
  | global type id => simp only [copyRef, requireText_of_normal h, ok_bind]
  | ofTask type taskId id =>
    simp only [copyRef, validateTaskRecordReference_of_normal h, ok_bind]

theorem parseRef_of_normal {ref : MailboxEntityRef} (h : NormalRef ref) (label : String) :
    parseRef ref label = .ok ref := by
  cases ref with
  | global type id => simp only [parseRef, requireText_of_normal h, ok_bind]
  | ofTask type taskId id =>
    simp only [parseRef, requireText_of_normal h.task.text, requireText_of_normal h.local'.text,
      ok_bind, copyRef_of_normal h]

theorem claimActiveKeys_ok_iff {recent active keys result : List String} :
    claimActiveKeys recent active keys = .ok result ↔
      result = active ++ keys ∧ keys.Nodup ∧ ∀ k ∈ keys, k ∉ active ∧ k ∉ recent := by
  induction keys generalizing active with
  | nil => simp [claimActiveKeys, eq_comm]
  | cons key keys ih =>
    rw [claimActiveKeys]
    split_ifs with hc
    · simp only [Bool.or_eq_true, List.contains_iff_mem] at hc
      simp only [false_iff, not_and, List.mem_cons, forall_eq_or_imp]
      rintro _ _ ⟨ha, hr⟩
      exact absurd (hc.resolve_left ha) hr
    · simp only [Bool.or_eq_true, List.contains_iff_mem, not_or] at hc
      rw [ih]
      simp only [List.append_assoc, List.singleton_append, List.nodup_cons, List.mem_cons,
        forall_eq_or_imp, List.mem_append, List.not_mem_nil, or_false]
      constructor
      · rintro ⟨he, hn, hk⟩
        exact ⟨he, ⟨fun hm => (hk key hm).1 (.inr rfl), hn⟩, hc,
          fun k hm => ⟨fun ha => (hk k hm).1 (.inl ha), (hk k hm).2⟩⟩
      · rintro ⟨he, ⟨hnm, hn⟩, _, hk⟩
        refine ⟨he, hn, fun k hm => ⟨?_, (hk k hm).2⟩⟩
        rintro (ha | rfl)
        · exact (hk k hm).1 ha
        · exact hnm hm

theorem claimBatchKeys_ok_iff {next : ℕ} {recent active result : List String} {batch : Option PendingBatch} :
    claimBatchKeys next recent active batch = .ok result ↔
      result = active ++ (batch.map PendingBatch.dedupeKeys).getD [] ∧
        ∀ b ∈ batch, b.toSequence < next ∧ b.dedupeKeys.Nodup ∧ ∀ k ∈ b.dedupeKeys, k ∉ active ∧ k ∉ recent := by
  cases batch with
  | none => simp [claimBatchKeys, eq_comm]
  | some b =>
    by_cases hb : b.toSequence ≥ next
    · simp only [claimBatchKeys, if_pos hb, reduceCtorEq, false_iff, not_and]
      intro _ hall
      exact absurd (hall b rfl).1 (Nat.not_lt.2 hb)
    · simp only [claimBatchKeys, if_neg hb, claimActiveKeys_ok_iff, Option.map_some,
        Option.getD_some, Option.mem_def, Option.some.injEq, forall_eq', Nat.lt_of_not_ge hb,
        true_and]

variable {m : Mailbox}

theorem pendingKeys_some {b : PendingBatch} (h : m.pending = some b) :
    m.pendingKeys = b.dedupeKeys := by simp [Mailbox.pendingKeys, h]

theorem pendingKeys_none (h : m.pending = none) : m.pendingKeys = [] := by
  simp [Mailbox.pendingKeys, h]

theorem processingKeys_some {p : ProcessingBatch} (h : m.processing = some p) :
    m.processingKeys = p.batch.dedupeKeys := by simp [Mailbox.processingKeys, h]

theorem processingKeys_none (h : m.processing = none) : m.processingKeys = [] := by
  simp [Mailbox.processingKeys, h]

section Host

variable [JsHost]

structure NormalTimestamp (value : String) : Prop where
  text : NormalText value
  parses : (JsHost.dateParse value).isSome

theorem requireTimestamp_normal {value label s : String}
    (h : requireTimestamp value label = .ok s) : NormalTimestamp s := by
  obtain ⟨t, ht, h⟩ := bind_ok h
  split_ifs at h with hp
  cases h
  exact ⟨requireText_normal ht, hp⟩

theorem requireTimestamp_of_normal {s : String} (h : NormalTimestamp s) (label : String) :
    requireTimestamp s label = .ok s := by
  rw [requireTimestamp, requireText_of_normal h.text, ok_bind, if_pos h.parses]

structure NormalBatch (b : PendingBatch) : Prop where
  fromPos : 1 ≤ b.fromSequence
  fromLe : b.fromSequence ≤ b.toSequence
  countPos : 1 ≤ b.requestCount
  countLe : b.requestCount ≤ b.toSequence - b.fromSequence + 1
  reasons : NormalStrings b.reasons
  reasonsNonempty : b.reasons ≠ []
  refs : ∀ r ∈ b.refs, NormalRef r
  refsNodup : (b.refs.map mailboxEntityRefKey).Nodup
  firstQueuedAt : NormalTimestamp b.firstQueuedAt
  lastQueuedAt : NormalTimestamp b.lastQueuedAt
  sources : NormalStrings b.sources
  dedupeKeys : NormalStrings b.dedupeKeys

theorem parseBatch_of_normal {b : PendingBatch} (h : NormalBatch b) (label : String) :
    parseBatch b label = .ok b := by
  have hrefs (i : ℕ) : mapIndexed
      (fun ref index => parseRef ref (label ++ " refs[" ++ toString index ++ "]")) i b.refs =
        .ok b.refs :=
    mapIndexed_of_fixed (fun r hr i => parseRef_of_normal (h.refs r hr) _) i
  have hcount : ¬ b.requestCount > b.toSequence - b.fromSequence + 1 := Nat.not_lt.2 h.countLe
  have hrev : onSome (fun revision =>
      requireInteger (.ofNat revision) 0 (label ++ " highestFactRevision")) b.highestFactRevision =
        .ok b.highestFactRevision :=
    onSome_of_fixed (fun n _ => requireInteger_ofNat (Nat.zero_le n) _)
  simp only [parseBatch, requireInteger_ofNat h.fromPos, requireInteger_ofNat h.fromLe,
    requireInteger_ofNat h.countPos, ok_bind, refuse_of_not hcount,
    requireStringArray_of_normal h.reasons, refuse_of_not h.reasonsNonempty, hrefs,
    refuse_of_not (not_not.2 h.refsNodup), requireTimestamp_of_normal h.firstQueuedAt,
    requireTimestamp_of_normal h.lastQueuedAt, requireStringArray_of_normal h.sources,
    requireStringArray_of_normal h.dedupeKeys, hrev]

structure NormalProcessing (p : ProcessingBatch) : Prop where
  batchId : NormalText p.batchId
  batch : NormalBatch p.batch
  owner : NormalText p.owner
  startedAt : NormalTimestamp p.startedAt
  executionRef : ∀ r ∈ p.executionRef, NormalRef r

theorem parseProcessing_of_normal {p : ProcessingBatch} (h : NormalProcessing p) : parseProcessing p = .ok p := by
  have href : onSome (fun ref => parseRef ref "WorkMailbox processing executionRef")
      p.executionRef = .ok p.executionRef :=
    onSome_of_fixed (fun r hr => parseRef_of_normal (h.executionRef r hr) _)
  simp only [parseProcessing, requireText_of_normal h.batchId, parseBatch_of_normal h.batch,
    requireText_of_normal h.owner, requireTimestamp_of_normal h.startedAt, ok_bind, href]

structure NormalMailbox (m : Mailbox) : Prop where
  schemaVersion : m.schemaVersion = 1
  target : NormalTarget m.target
  nextPos : 1 ≤ m.nextSequence
  processing : ∀ p ∈ m.processing, NormalProcessing p
  pending : ∀ b ∈ m.pending, NormalBatch b
  recent : NormalStrings m.recentDedupeKeys
  recentLength : m.recentDedupeKeys.length ≤ recentDedupeKeyLimit
  processingBelow : ∀ p ∈ m.processing, p.batch.toSequence < m.nextSequence
  pendingBelow : ∀ b ∈ m.pending, b.toSequence < m.nextSequence
  keysDisjoint : ∀ k ∈ m.pendingKeys, k ∉ m.processingKeys
  processingFresh : ∀ k ∈ m.processingKeys, k ∉ m.recentDedupeKeys
  pendingFresh : ∀ k ∈ m.pendingKeys, k ∉ m.recentDedupeKeys

theorem validateWorkMailbox_of_normal {m : Mailbox} (h : NormalMailbox m) : validateWorkMailbox m = .ok m := by
  have hproc : onSome parseProcessing m.processing = .ok m.processing :=
    onSome_of_fixed (fun p hp => parseProcessing_of_normal (h.processing p hp))
  have hpend : onSome (fun batch => parseBatch batch "WorkMailbox pending") m.pending =
      .ok m.pending :=
    onSome_of_fixed (fun b hb => parseBatch_of_normal (h.pending b hb) _)
  have hactive : claimBatchKeys m.nextSequence m.recentDedupeKeys []
      (m.processing.map ProcessingBatch.batch) = .ok m.processingKeys := by
    refine claimBatchKeys_ok_iff.2 ⟨by simp [Mailbox.processingKeys, Function.comp_def], ?_⟩
    intro b hb
    obtain ⟨p, hp, rfl⟩ := Option.map_eq_some_iff.1 (Option.mem_def.1 hb)
    refine ⟨h.processingBelow p hp, (h.processing p hp).batch.dedupeKeys.nodup, fun k hk => ?_⟩
    exact ⟨List.not_mem_nil, h.processingFresh k (by simpa [Mailbox.processingKeys, hp] using hk)⟩
  have hall : claimBatchKeys m.nextSequence m.recentDedupeKeys m.processingKeys m.pending =
      .ok (m.processingKeys ++ m.pendingKeys) := by
    refine claimBatchKeys_ok_iff.2 ⟨rfl, fun b hb => ?_⟩
    refine ⟨h.pendingBelow b hb, (h.pending b hb).dedupeKeys.nodup, fun k hk => ?_⟩
    have hk' : k ∈ m.pendingKeys := by simpa [Mailbox.pendingKeys, Option.mem_def.1 hb] using hk
    exact ⟨h.keysDisjoint k hk', h.pendingFresh k hk'⟩
  have hlength : ¬ m.recentDedupeKeys.length > recentDedupeKeyLimit := Nat.not_lt.2 h.recentLength
  simp only [validateWorkMailbox, refuse_of_not (not_not.2 h.schemaVersion), ok_bind,
    parseTarget, checkTarget_of_normal h.target, requireInteger_ofNat h.nextPos, hproc, hpend,
    requireStringArray_of_normal h.recent, refuse_of_not hlength, hactive, hall]
  rw [← h.schemaVersion]

theorem createWorkMailbox_normal {target : MailboxTarget} {m : Mailbox}
    (h : createWorkMailbox target = .ok m) : NormalMailbox m := by
  obtain ⟨t, ht, h⟩ := bind_ok h
  cases h
  exact {
    schemaVersion := rfl
    target := checkTarget_normal ht
    nextPos := le_rfl
    processing := by simp
    pending := by simp
    recent := ⟨by simp, List.nodup_nil⟩
    recentLength := Nat.zero_le _
    processingBelow := by simp
    pendingBelow := by simp
    keysDisjoint := by simp [Mailbox.pendingKeys]
    processingFresh := by simp [Mailbox.processingKeys]
    pendingFresh := by simp [Mailbox.pendingKeys] }

end Host

end WorkMailbox
