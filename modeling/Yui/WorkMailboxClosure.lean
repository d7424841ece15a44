import Yui.WorkMailboxSteps

/-!
# Mailbox operations keep mailboxes coherent

A coherent mailbox is normal and keeps its processing envelope below its pending envelope. Every
draft of a coherent mailbox is coherent, whatever the arguments: the closing validation of an
operation therefore never raises and returns the draft unchanged.
-/

open JsText Checked

namespace WorkMailbox

theorem NormalStrings.appendUnique {left right : List String} (hl : NormalStrings left)
    (hr : NormalStrings right) : NormalStrings (appendUnique id left right) where
  normal s hs := (appendUnique.mem_id.1 hs).elim (hl.normal s) (hr.normal s)
  nodup := appendUnique.nodup_id hl.nodup right

theorem NormalStrings.sublist {values shorter : List String} (h : NormalStrings values)
    (hs : shorter.Sublist values) : NormalStrings shorter where
  normal s hm := h.normal s (hs.subset hm)
  nodup := hs.nodup h.nodup

theorem sequenceKey_normal (n : ℕ) : NormalText (sequenceKey n) := by
  have htoList : (sequenceKey n).toList = "sequence:".toList ++ Nat.toDigits 10 n := by
    rw [sequenceKey, String.toList_append, Nat.toString_eq_repr, Nat.toList_repr]
  have hdigit : ∀ c ∈ Nat.toDigits 10 n, c.isDigit = true := fun c hc =>
    Nat.isDigit_of_mem_toDigits (by omega) le_rfl hc
  refine ⟨?_, trim_eq_self ?_ ?_, ?_⟩
  · simp only [includesNul, htoList, List.contains_eq_mem, decide_eq_false_iff_not, List.mem_append, not_or]
    exact ⟨by decide, fun hc => absurd (hdigit _ hc) (by decide)⟩
  · rw [htoList]
    intro c hc
    obtain rfl : 's' = c := by simpa using hc
    decide
  · rw [htoList, List.getLast?_append]
    intro c hc
    rw [List.getLast?_eq_some_getLast (Nat.toDigits_ne_nil), Option.some_or, Option.mem_some_iff] at hc
    exact isWhitespace_of_isDigit (hdigit c (hc ▸ List.getLast_mem _))
  · intro hempty
    rw [hempty] at htoList
    simp at htoList

variable {m : Mailbox} {key : String}

theorem signalDedupeKey_normal {signal : WorkSignal} (h : signalDedupeKey m signal = .ok key) : NormalText key := by
  unfold signalDedupeKey at h
  split at h
  · cases h
    exact sequenceKey_normal _
  · exact requireText_normal h

theorem mailboxContainsDedupeKey_false : mailboxContainsDedupeKey m key = false ↔
      key ∉ m.recentDedupeKeys ∧ key ∉ m.pendingKeys ∧ key ∉ m.processingKeys := by
  simp [mailboxContainsDedupeKey, and_assoc]

theorem lastEntries_sublist (limit : ℕ) (keys : List String) :
    (lastEntries limit keys).Sublist keys := List.drop_sublist _ _

theorem length_lastEntries_le (limit : ℕ) (keys : List String) : (lastEntries limit keys).length ≤ limit := by
  simp only [lastEntries, List.length_drop]
  omega

theorem rememberDedupeKeys_normal {existing keys : List String} (he : NormalStrings existing)
    (hk : NormalStrings keys) : NormalStrings (rememberDedupeKeys existing keys) :=
  (he.appendUnique hk).sublist (lastEntries_sublist _ _)

theorem mem_rememberDedupeKeys {existing keys : List String} {k : String}
    (h : k ∈ rememberDedupeKeys existing keys) : k ∈ existing ∨ k ∈ keys :=
  appendUnique.mem_id.1 ((lastEntries_sublist _ _).subset h)

variable [JsHost]

/-- A normal mailbox whose processing envelope lies below its pending envelope. -/
structure Coherent (m : Mailbox) : Prop extends NormalMailbox m where
  ordered : ∀ p ∈ m.processing, ∀ b ∈ m.pending, p.batch.toSequence < b.fromSequence

theorem createWorkMailbox_coherent {target : MailboxTarget} (h : createWorkMailbox target = .ok m) : Coherent m := by
  refine ⟨createWorkMailbox_normal h, ?_⟩
  obtain ⟨t, _, h⟩ := bind_ok h
  cases h
  simp

theorem mergeBatches_normal {left right : PendingBatch} (hl : NormalBatch left)
    (hr : NormalBatch right) (hlt : left.toSequence < right.fromSequence) :
    NormalBatch (mergeBatches left right) := by
  have h1 := hl.fromLe
  have h2 := hr.fromLe
  have h3 := hl.countLe
  have h4 := hr.countLe
  have hfrom : min left.fromSequence right.fromSequence = left.fromSequence := by omega
  have hto : max left.toSequence right.toSequence = right.toSequence := by omega
  exact {
    fromPos := by simpa only [mergeBatches, hfrom] using hl.fromPos
    fromLe := by simp only [mergeBatches, hfrom, hto]; omega
    countPos := by
      have := hl.countPos
      simp only [mergeBatches]
      omega
    countLe := by simp only [mergeBatches, hfrom, hto]; omega
    reasons := hl.reasons.appendUnique hr.reasons
    reasonsNonempty := fun hnil => hl.reasonsNonempty
      (List.prefix_nil.1 (hnil ▸ appendUnique.isPrefix left.reasons right.reasons))
    refs := fun r hm => (appendUnique.mem_or_mem hm).elim (hl.refs r) (hr.refs r)
    refsNodup := appendUnique.nodup_map_key hl.refsNodup _
    firstQueuedAt := by
      simp only [mergeBatches]
      split_ifs
      exacts [hl.firstQueuedAt, hr.firstQueuedAt]
    lastQueuedAt := by
      simp only [mergeBatches]
      split_ifs
      exacts [hl.lastQueuedAt, hr.lastQueuedAt]
    sources := hl.sources.appendUnique hr.sources
    dedupeKeys := hl.dedupeKeys.appendUnique hr.dedupeKeys }

theorem incomingBatch_normal {sequence : ℕ} {reason occurredAt source key : String}
    {refs : List MailboxEntityRef} (hseq : 1 ≤ sequence) (hreason : NormalText reason)
    (hoccurred : NormalTimestamp occurredAt) (hsource : NormalText source) (hkey : NormalText key)
    (hrefs : ∀ r ∈ refs, NormalRef r) (revision : Option ℕ) :
    NormalBatch (incomingBatch sequence reason occurredAt source key refs revision) where
  fromPos := hseq
  fromLe := le_rfl
  countPos := le_rfl
  countLe := by simp [incomingBatch]
  reasons := ⟨by simpa [incomingBatch] using hreason, List.nodup_singleton _⟩
  reasonsNonempty := by simp [incomingBatch]
  refs r hr := hrefs r ((appendUnique.mem_or_mem hr).resolve_left List.not_mem_nil)
  refsNodup := appendUnique.nodup_map_key (by simp) _
  firstQueuedAt := hoccurred
  lastQueuedAt := hoccurred
  sources := ⟨by simpa [incomingBatch] using hsource, List.nodup_singleton _⟩
  dedupeKeys := ⟨by simpa [incomingBatch] using hkey, List.nodup_singleton _⟩

theorem Coherent.rebuild (hm : Coherent m) {next : ℕ}
    {processing : Option ProcessingBatch} {pending : Option PendingBatch} {recent : List String} (hnext : 1 ≤ next)
    (hprocessing : ∀ p ∈ processing, NormalProcessing p ∧ p.batch.toSequence < next)
    (hpending : ∀ b ∈ pending, NormalBatch b ∧ b.toSequence < next)
    (hrecent : NormalStrings recent) (hlength : recent.length ≤ recentDedupeKeyLimit)
    (hordered : ∀ p ∈ processing, ∀ b ∈ pending, p.batch.toSequence < b.fromSequence ∧
      ∀ k ∈ b.dedupeKeys, k ∉ p.batch.dedupeKeys) (hpf : ∀ p ∈ processing, ∀ k ∈ p.batch.dedupeKeys, k ∉ recent)
    (hbf : ∀ b ∈ pending, ∀ k ∈ b.dedupeKeys, k ∉ recent) :
    Coherent { m with nextSequence := next, processing, pending, recentDedupeKeys := recent } where
  schemaVersion := hm.schemaVersion
  target := hm.target
  nextPos := hnext
  processing p hp := (hprocessing p hp).1
  pending b hb := (hpending b hb).1
  recent := hrecent
  recentLength := hlength
  processingBelow p hp := (hprocessing p hp).2
  pendingBelow b hb := (hpending b hb).2
  keysDisjoint k hk hk' := by
    cases pending with
    | none => simp [Mailbox.pendingKeys] at hk
    | some b =>
      cases processing with
      | none => simp [Mailbox.processingKeys] at hk'
      | some p =>
        exact (hordered p rfl b rfl).2 k (by simpa [Mailbox.pendingKeys] using hk)
          (by simpa [Mailbox.processingKeys] using hk')
  processingFresh k hk := by
    cases processing with
    | none => simp [Mailbox.processingKeys] at hk
    | some p => exact hpf p rfl k (by simpa [Mailbox.processingKeys] using hk)
  pendingFresh k hk := by
    cases pending with
    | none => simp [Mailbox.pendingKeys] at hk
    | some b => exact hbf b rfl k (by simpa [Mailbox.pendingKeys] using hk)
  ordered p hp b hb := (hordered p hp b hb).1

theorem appendToPending_spec (hm : Coherent m) {incoming : PendingBatch}
    (hi : NormalBatch incoming) (hkeys : incoming.dedupeKeys = [key])
    (hfrom : incoming.fromSequence = m.nextSequence) (hto : incoming.toSequence = m.nextSequence)
    (hkey : key ∉ m.pendingKeys) : NormalBatch (appendToPending m.pending incoming) ∧
      (appendToPending m.pending incoming).dedupeKeys = m.pendingKeys ++ [key] ∧
      (appendToPending m.pending incoming).toSequence = m.nextSequence ∧
      (appendToPending m.pending incoming).fromSequence =
        (m.pending.map PendingBatch.fromSequence).getD m.nextSequence := by
  cases hp : m.pending with
  | none => exact ⟨hi, by simp [appendToPending, pendingKeys_none hp, hkeys], hto, hfrom⟩
  | some b =>
    have hb := hm.pending b hp
    have hbelow := hm.pendingBelow b hp
    have hle := hb.fromLe
    rw [pendingKeys_some hp] at hkey ⊢
    refine ⟨mergeBatches_normal hb hi (by omega), ?_, ?_, ?_⟩
    · simp only [appendToPending, mergeBatches, hkeys]
      exact appendUnique.eq_append_id (List.nodup_singleton _) (by simpa using hkey)
    · simp only [appendToPending, mergeBatches, hto]
      omega
    · simp only [appendToPending, mergeBatches, hfrom, Option.map_some, Option.getD_some]
      omega

theorem prependToPending_spec (hm : Coherent m) {p : ProcessingBatch} (hp : m.processing = some p) :
    NormalBatch (prependToPending p.batch m.pending) ∧
      (prependToPending p.batch m.pending).dedupeKeys = p.batch.dedupeKeys ++ m.pendingKeys ∧
      (prependToPending p.batch m.pending).fromSequence = p.batch.fromSequence ∧
      (prependToPending p.batch m.pending).toSequence =
        (m.pending.map PendingBatch.toSequence).getD p.batch.toSequence := by
  have hn := (hm.processing p hp).batch
  cases hb : m.pending with
  | none => exact ⟨hn, by simp [prependToPending, pendingKeys_none hb], rfl, rfl⟩
  | some b =>
    have hbn := hm.pending b hb
    have hlt := hm.ordered p hp b hb
    have h1 := hn.fromLe
    have h2 := hbn.fromLe
    have hd := hm.keysDisjoint
    rw [pendingKeys_some hb, processingKeys_some hp] at hd
    rw [pendingKeys_some hb]
    refine ⟨mergeBatches_normal hn hbn hlt, ?_, ?_, ?_⟩
    · exact appendUnique.eq_append_id hbn.dedupeKeys.nodup hd
    · simp only [prependToPending, mergeBatches]
      omega
    · simp only [prependToPending, mergeBatches, Option.map_some, Option.getD_some]
      omega

theorem enqueueSignalDraft_coherent {m built : Mailbox} {signal : WorkSignal} (hm : Coherent m)
    (h : enqueueSignalDraft m signal = .ok (some built)) : Coherent built := by
  obtain ⟨reason, occurredAt, source, key, hreason, hoccurred, hsource, hkey, hc⟩ := enqueueSignalDraft_ok h
  obtain ⟨_, hnone⟩ | ⟨hfresh, refs, revision, hrefs, hbuilt⟩ := hc
  · cases hnone
  obtain rfl := Option.some.inj hbuilt
  obtain ⟨hrecent, hpendKey, hprocKey⟩ := mailboxContainsDedupeKey_false.1 hfresh
  have hincoming : NormalBatch
      (incomingBatch m.nextSequence reason occurredAt source key refs revision) :=
    incomingBatch_normal hm.nextPos (requireText_normal hreason) (requireTimestamp_normal hoccurred)
      (requireText_normal hsource) (signalDedupeKey_normal hkey)
      (fun r hr => by obtain ⟨x, _, _, hx⟩ := mapIndexed_mem hrefs hr; exact copyRef_normal hx) _
  obtain ⟨hn, hkeys, hto, hfrom⟩ := appendToPending_spec hm hincoming rfl rfl rfl hpendKey
  refine hm.rebuild (Nat.le_add_left _ _) ?_ ?_ hm.recent hm.recentLength ?_ ?_ ?_
  · exact fun p hp => ⟨hm.processing p hp, (hm.processingBelow p hp).trans (Nat.lt_succ_self _)⟩
  · rintro b ⟨rfl⟩
    exact ⟨hn, by omega⟩
  · rintro p hp b ⟨rfl⟩
    rw [hkeys, ← processingKeys_some hp]
    constructor
    · rw [hfrom]
      cases hb : m.pending with
      | none => exact hm.processingBelow p hp
      | some b => exact hm.ordered p hp b hb
    · intro k hk
      rcases List.mem_append.1 hk with hk | hk
      · exact hm.keysDisjoint k hk
      · exact (List.mem_singleton.1 hk) ▸ hprocKey
  · exact fun p hp k hk => hm.processingFresh k (processingKeys_some hp ▸ hk)
  · rintro b ⟨rfl⟩ k hk
    rw [hkeys] at hk
    rcases List.mem_append.1 hk with hk | hk
    · exact hm.pendingFresh k hk
    · exact (List.mem_singleton.1 hk) ▸ hrecent

theorem claimPendingDraft_coherent {m built : Mailbox} {options : ClaimOptions} (hm : Coherent m)
    (h : claimPendingDraft m options = .ok (some built)) : Coherent built := by
  obtain ⟨pending, batchId, owner, startedAt, _, hb, hid, howner, hstart, hbuilt⟩ := claimPendingDraft_ok h
  obtain rfl := Option.some.inj hbuilt
  refine hm.rebuild hm.nextPos ?_ (by simp) hm.recent hm.recentLength (by simp) ?_ (by simp)
  · rintro p ⟨rfl⟩
    exact ⟨⟨hid, hm.pending pending hb, howner, hstart, by simp⟩, hm.pendingBelow pending hb⟩
  · rintro p ⟨rfl⟩ k hk
    exact hm.pendingFresh k (pendingKeys_some hb ▸ hk)

variable {batchId : String}

theorem bindExecutionDraft_coherent {m built : Mailbox} {ref : MailboxEntityRef} (hm : Coherent m)
    (h : bindExecutionDraft m batchId ref = .ok (some built)) : Coherent built := by
  obtain ⟨p, ref', hp, href, hbuilt⟩ := bindExecutionDraft_ok h
  obtain rfl := Option.some.inj hbuilt
  have hn := hm.processing p hp
  have hd := hm.keysDisjoint
  rw [processingKeys_some hp] at hd
  refine hm.rebuild hm.nextPos ?_ (fun b hb => ⟨hm.pending b hb, hm.pendingBelow b hb⟩) hm.recent
    hm.recentLength ?_ ?_ (fun b hb k hk => hm.pendingFresh k (pendingKeys_some hb ▸ hk))
  · rintro q ⟨rfl⟩
    refine ⟨⟨hn.batchId, hn.batch, hn.owner, hn.startedAt, ?_⟩, hm.processingBelow p hp⟩
    rintro r ⟨rfl⟩
    exact href
  · rintro q ⟨rfl⟩ b hb
    exact ⟨hm.ordered p hp b hb, fun k hk => hd k (pendingKeys_some hb ▸ hk)⟩
  · rintro q ⟨rfl⟩ k hk
    exact hm.processingFresh k (processingKeys_some hp ▸ hk)

theorem completeProcessingDraft_coherent {m built : Mailbox} (hm : Coherent m)
    (h : completeProcessingDraft m batchId = .ok (some built)) : Coherent built := by
  obtain ⟨p, hp, hbuilt⟩ := completeProcessingDraft_ok h
  obtain rfl := Option.some.inj hbuilt
  refine hm.rebuild hm.nextPos (by simp) (fun b hb => ⟨hm.pending b hb, hm.pendingBelow b hb⟩)
    (rememberDedupeKeys_normal hm.recent (hm.processing p hp).batch.dedupeKeys)
    (length_lastEntries_le _ _) (by simp) (by simp) ?_
  intro b hb k hk hrem
  rw [← pendingKeys_some hb] at hk
  rcases mem_rememberDedupeKeys hrem with hr | hr
  · exact hm.pendingFresh k hk hr
  · exact hm.keysDisjoint k hk (processingKeys_some hp ▸ hr)

theorem releaseProcessingDraft_coherent {m built : Mailbox} (hm : Coherent m)
    (h : releaseProcessingDraft m batchId = .ok (some built)) : Coherent built := by
  obtain ⟨p, hp, hbuilt⟩ := releaseProcessingDraft_ok h
  obtain rfl := Option.some.inj hbuilt
  obtain ⟨hn, hkeys, _, hto⟩ := prependToPending_spec hm hp
  refine hm.rebuild hm.nextPos (by simp) ?_ hm.recent hm.recentLength (by simp) (by simp) ?_
  · rintro b ⟨rfl⟩
    refine ⟨hn, ?_⟩
    rw [hto]
    cases hb : m.pending with
    | none => exact hm.processingBelow p hp
    | some b => exact hm.pendingBelow b hb
  · rintro b ⟨rfl⟩ k hk
    rw [hkeys] at hk
    rcases List.mem_append.1 hk with hk | hk
    · exact hm.processingFresh k (processingKeys_some hp ▸ hk)
    · exact hm.pendingFresh k hk

theorem consumeWhole_coherent {b : PendingBatch} (hm : Coherent m)
    (hb : m.pending = some b) : Coherent (consumeWhole m b) := by
  refine hm.rebuild hm.nextPos (fun p hp => ⟨hm.processing p hp, hm.processingBelow p hp⟩) (by simp)
    (rememberDedupeKeys_normal hm.recent (hm.pending b hb).dedupeKeys) (length_lastEntries_le _ _)
    (by simp) ?_ (by simp)
  intro p hp k hk hrem
  rw [← processingKeys_some hp] at hk
  rcases mem_rememberDedupeKeys hrem with hr | hr
  · exact hm.processingFresh k hk hr
  · exact hm.keysDisjoint k (pendingKeys_some hb ▸ hr) hk

theorem consumeThrough_coherent {b : PendingBatch} {last : ℕ} (hm : Coherent m)
    (hb : m.pending = some b) (hfrom : b.fromSequence ≤ last) (hlast : last < b.toSequence) :
    Coherent (consumeThrough m b last) := by
  have hn := hm.pending b hb
  have hbelow := hm.pendingBelow b hb
  generalize hcount : last - b.fromSequence + 1 = count
  have hsplit : ∀ k, k ∈ b.dedupeKeys.take count → k ∉ b.dedupeKeys.drop count := by
    have hnd := hn.dedupeKeys.nodup
    rw [← List.take_append_drop count b.dedupeKeys, List.nodup_append] at hnd
    exact fun k hk hk' => hnd.2.2 k hk k hk' rfl
  have hrest : ∀ {a : Bool}, ((if a then b.dedupeKeys.drop count else b.dedupeKeys) :
      List String).Sublist b.dedupeKeys := by
    intro a
    cases a
    · exact List.Sublist.refl _
    · exact List.drop_sublist _ _
  have hgone : ∀ {a : Bool}, ((if a then b.dedupeKeys.take count else []) :
      List String).Sublist b.dedupeKeys := by
    intro a
    cases a
    · exact List.nil_sublist _
    · exact List.take_sublist _ _
  have hmem : ∀ k ∈ b.dedupeKeys, k ∈ m.pendingKeys := fun k hk => pendingKeys_some hb ▸ hk
  subst hcount
  refine hm.rebuild hm.nextPos (fun p hp => ⟨hm.processing p hp, hm.processingBelow p hp⟩) ?_
    (rememberDedupeKeys_normal hm.recent (hn.dedupeKeys.sublist hgone)) (length_lastEntries_le _ _)
    ?_ ?_ ?_
  · rintro c ⟨rfl⟩
    have h1 := hn.fromPos
    exact ⟨{ hn with
      fromPos := Nat.succ_pos _
      fromLe := hlast
      countPos := Nat.sub_pos_of_lt hlast
      countLe := by simp only; omega
      dedupeKeys := hn.dedupeKeys.sublist hrest }, hbelow⟩
  · rintro p hp c ⟨rfl⟩
    have hlt := hm.ordered p hp b hb
    refine ⟨by simp only; omega, fun k hk => ?_⟩
    rw [← processingKeys_some hp]
    exact hm.keysDisjoint k (hmem k (hrest.subset hk))
  · intro p hp k hk hrem
    rw [← processingKeys_some hp] at hk
    rcases mem_rememberDedupeKeys hrem with hr | hr
    · exact hm.processingFresh k hk hr
    · exact hm.keysDisjoint k (hmem k (hgone.subset hr)) hk
  · rintro c ⟨rfl⟩ k hk hrem
    rcases mem_rememberDedupeKeys hrem with hr | hr
    · exact hm.pendingFresh k (hmem k (hrest.subset hk)) hr
    · cases ha : keysAreSequenceAligned b with
      | true =>
        simp only [ha, if_true] at hk hr
        exact hsplit k hr hk
      | false => simp [ha] at hr

theorem consumePendingBatchDraft_coherent {m built : Mailbox} {through : Option SequenceRange}
    (hm : Coherent m) (h : consumePendingBatchDraft m through = .ok (some built)) : Coherent built := by
  obtain ⟨b, hb, ⟨_, hbuilt⟩ | ⟨range, last, _, hmatch, hlast, hbuilt⟩⟩ :=
    consumePendingBatchDraft_ok h
  · obtain rfl := Option.some.inj hbuilt
    exact consumeWhole_coherent hm hb
  · obtain rfl := Option.some.inj hbuilt
    exact consumeThrough_coherent hm hb (matchedEnd?_bounds hmatch).2.1 hlast

variable {op : Operation}

theorem draft_coherent {m built : Mailbox} (hm : Coherent m)
    (h : op.draft m = .ok (some built)) : Coherent built := by
  cases op with
  | enqueueSignal signal => exact enqueueSignalDraft_coherent hm h
  | claimPending options => exact claimPendingDraft_coherent hm h
  | bindExecution batchId ref => exact bindExecutionDraft_coherent hm h
  | completeProcessing batchId => exact completeProcessingDraft_coherent hm h
  | releaseProcessing batchId => exact releaseProcessingDraft_coherent hm h
  | consumePendingBatch through => exact consumePendingBatchDraft_coherent hm h

theorem step_ok_iff {m next : Mailbox} (hm : Coherent m) : step m op = .ok next ↔
      (op.draft m = .ok none ∧ next = m) ∨ op.draft m = .ok (some next) := by
  rw [step_eq_sealDraft]
  constructor
  · intro h
    rcases sealDraft_ok h with h | ⟨built, hbuilt, hvalid⟩
    · exact .inl h
    · rw [validateWorkMailbox_of_normal (draft_coherent hm hbuilt).toNormalMailbox] at hvalid
      cases hvalid
      exact .inr hbuilt
  · rintro (⟨h, rfl⟩ | h)
    · rw [h]
      rfl
    · rw [h]
      exact validateWorkMailbox_of_normal (draft_coherent hm h).toNormalMailbox

theorem step_coherent {m next : Mailbox} (hm : Coherent m) (h : step m op = .ok next) : Coherent next := by
  rcases (step_ok_iff hm).1 h with ⟨_, rfl⟩ | h
  · exact hm
  · exact draft_coherent hm h

end WorkMailbox
