import Yui.RunContextFreeze

/-!
# Reading a frozen context back

A Run can read its context back pointer by pointer, and its delta patches the parent Snapshot, exactly when every
offered id can be selected, trimming brings no two offered entries together, and no reference that is gone has the
delta identity of one that is there.
-/

open JsText Checked

namespace RunContext

section Reading

variable [JobHost] {store : ContextStore} {run : ContextRun} {snapshot : ContextSnapshot}
  {offered : List MaterializedRef}

/-- A Run whose input names the Snapshot, and the Snapshot as it is stored. -/
structure Reads (store : ContextStore) (run : ContextRun) (snapshot : ContextSnapshot) : Prop where
  task : run.taskId = snapshot.taskId
  found : store.getRun run.taskId run.id = some run
  stored : store.getContextSnapshot snapshot.taskId snapshot.id = some snapshot
  input : run.input.contextSnapshotRef = some snapshot.toContextSnapshotRef

theorem digest_hex (value : Json) : isHexDigest (contextContentDigest value) = true := JobHost.sha256_hex _

omit [JobHost] in
theorem requireExactRun_reads (h : Reads store run snapshot) : requireExactRun store run.taskId run.id = .ok run := by
  simp only [requireExactRun, h.found]

theorem readRunContextSnapshot_reads (hfrozen : Frozen offered snapshot) (h : Reads store run snapshot) :
    readRunContextSnapshot store run = .ok snapshot := by
  obtain ⟨entries, -, hcreated⟩ := hfrozen.entries
  have hhex : isHexDigest snapshot.digest = true := hcreated.digest ▸ digest_hex _
  have href : validateContextSnapshotRef snapshot.toContextSnapshotRef = .ok snapshot.toContextSnapshotRef := by
    simp only [validateContextSnapshotRef, hcreated.identity, ok_bind, requireDigest, hhex, Bool.true_eq_false, if_false]
  simp only [readRunContextSnapshot, requireRunContextSnapshotRef, h.input, href, ok_bind, h.task, h.stored, ne_eq,
    not_true_eq_false, or_self, if_false, hfrozen.valid]

theorem buildRunContextPack_reads (hfrozen : Frozen offered snapshot) (h : Reads store run snapshot) :
    buildRunContextPack store run.taskId run.id =
      .ok ⟨snapshot.toContextSnapshotRef, snapshot.refs, contextContentDigest (packBody run snapshot)⟩ := by
  simp only [buildRunContextPack, requireExactRun_reads h, ok_bind, readRunContextSnapshot_reads hfrozen h,
    contextSnapshotRef, hfrozen.valid]

end Reading

section Pairs

/-- The store and id of an offered entry as a Snapshot keeps them. -/
def keptPair (entry : MaterializedRef) : String × String := (trim entry.ref.store, trim entry.ref.refId)

/-- An id that a batch may select. -/
def Selectable (refId : String) : Prop := ∃ id, Validation.requireIdentity refId "Context ref id" = .ok id

theorem includesNul_trim (text : String) : includesNul (trim text) = includesNul text := by
  rw [Bool.eq_iff_iff]
  simp only [includesNul, List.contains_eq_mem, decide_eq_true_eq]
  exact ⟨mem_of_mem_trim, fun h => mem_trim h (by decide)⟩

theorem selectable_trim {refId : String} : Selectable (trim refId) ↔ Selectable refId := by
  unfold Selectable Validation.requireIdentity Validation.requireText requireTextWith
  rw [includesNul_trim, trim_trim]

theorem selectable_slash {refId : String} (h : Selectable refId) : '/' ∉ refId.toList := by
  obtain ⟨id, hid⟩ := h
  exact requireIdentity_slash hid

theorem keptPair_congr {entry other : MaterializedRef} (h : refPair entry.ref = refPair other.ref) :
    keptPair entry = keptPair other := by
  simp only [refPair, Prod.mk.injEq] at h
  rw [keptPair, keptPair, h.1, h.2]

theorem entryKey_congr {entry other : MaterializedRef} (h : refPair entry.ref = refPair other.ref) :
    entryKey entry = entryKey other := by
  simp only [refPair, Prod.mk.injEq] at h
  rw [entryKey, entryKey, h.1, h.2]

variable [JobHost] {snapshot : ContextSnapshot} {offered entries : List MaterializedRef}

theorem pairs_perm (h : Created (entries.map ContextSnapshotResource.ref) snapshot) :
    (snapshot.refs.map refPair).Perm (entries.map keptPair) := by
  have hpairs := h.normalized.pairs
  rwa [List.map_map] at hpairs

theorem kept_pair (hmerges : Merges offered entries) (h : Created (entries.map ContextSnapshotResource.ref) snapshot)
    (hselectable : ∀ entry ∈ entries, Selectable entry.ref.refId) {entry : MaterializedRef} (hentry : entry ∈ offered) :
    ∃ kept ∈ entries, refPair kept.ref = refPair entry.ref := by
  obtain ⟨kept, hkept, hkey⟩ := hmerges.keys entry hentry
  obtain ⟨ref, -, hchecks⟩ := h.normalized.kept kept.ref (List.mem_map_of_mem hkept)
  exact ⟨kept, hkept, (pair_of_entryKey hchecks.slash (selectable_slash (hselectable kept hkept)) hkey.symm).symm⟩

theorem offered_pairs (hmerges : Merges offered entries)
    (h : Created (entries.map ContextSnapshotResource.ref) snapshot)
    (hselectable : ∀ entry ∈ entries, Selectable entry.ref.refId) (pair : String × String) :
    pair ∈ offered.map keptPair ↔ pair ∈ snapshot.refs.map refPair := by
  rw [(pairs_perm h).mem_iff]
  constructor
  · intro hmem
    obtain ⟨entry, hentry, rfl⟩ := List.mem_map.1 hmem
    obtain ⟨kept, hkept, hpair⟩ := kept_pair hmerges h hselectable hentry
    exact List.mem_map.2 ⟨kept, hkept, keptPair_congr hpair⟩
  · intro hmem
    obtain ⟨entry, hentry, rfl⟩ := List.mem_map.1 hmem
    exact List.mem_map_of_mem (hmerges.mem entry hentry)

end Pairs

section Expand

variable [JobHost] {store : ContextStore} {run : ContextRun} {snapshot : ContextSnapshot}
  {offered : List MaterializedRef}

/-- The value that was frozen under a pointer. -/
structure Expands (store : ContextStore) (run : ContextRun) (snapshot : ContextSnapshot) (pointer : ContextRef)
    (expanded : ExpandedRef) : Prop where
  answer : expandRunContextRefs store run.taskId run.id [pointer.selector] = .ok [expanded]
  ref : expanded.ref = pointer
  frozen : ⟨pointer, expanded.value⟩ ∈ snapshot.resources
  digest : contextContentDigest expanded.value = pointer.digest

variable {pointer : ContextRef}

theorem Expands.selectable {expanded : ExpandedRef}
    (h : Expands store run snapshot pointer expanded) : Selectable pointer.refId := by
  obtain ⟨_, -, h⟩ := bind_ok h.answer
  obtain ⟨_, hcheck, -⟩ := bind_ok h
  rw [List.foldlM_cons] at hcheck
  obtain ⟨_, hselector, -⟩ := bind_ok hcheck
  obtain ⟨_, -, hselector⟩ := bind_ok hselector
  obtain ⟨id, hid, -⟩ := bind_ok hselector
  exact ⟨id, hid⟩

theorem expandSnapshotRef_pointer (hcovers : Covers snapshot.resources snapshot.refs)
    (hdistinct : (snapshot.refs.map refPair).Nodup) (hchecked : ∀ ref ∈ snapshot.refs, CheckedRef ref)
    (hpointer : pointer ∈ snapshot.refs) :
    ∃ expanded, expandSnapshotRef snapshot pointer.refId pointer.store = .ok expanded ∧ expanded.ref = pointer ∧
      ⟨pointer, expanded.value⟩ ∈ snapshot.resources ∧ contextContentDigest expanded.value = pointer.digest := by
  have hsame : ∀ ref ∈ snapshot.refs, refPair ref = refPair pointer → ref = pointer := fun ref hmem hpair =>
    List.inj_on_of_nodup_map hdistinct hmem hpointer hpair
  have hfilter : snapshot.refs.filter (fun ref => ref.refId = pointer.refId && ref.store = pointer.store) =
      [pointer] := by
    have hcongr : snapshot.refs.filter (fun ref => ref.refId = pointer.refId && ref.store = pointer.store) =
        snapshot.refs.filter fun ref => ref = pointer := by
      refine List.filter_congr fun ref hmem => ?_
      rw [Bool.eq_iff_iff]
      simp only [Bool.and_eq_true, decide_eq_true_eq]
      constructor
      · rintro ⟨hid, hstore⟩
        exact hsame ref hmem (Prod.ext hstore hid)
      · rintro rfl
        exact ⟨rfl, rfl⟩
    rw [hcongr, List.filter_eq, List.count_eq_one_of_mem (hdistinct.of_map) hpointer]
    rfl
  obtain ⟨resource, hresource, href⟩ := hcovers.covered pointer hpointer
  have hfound : ∃ found, snapshot.resources.find? (fun resource =>
      contextRefIdentity resource.ref = contextRefIdentity pointer) = some found := by
    rw [← Option.isSome_iff_exists, List.find?_isSome]
    exact ⟨resource, hresource, by simp [href]⟩
  obtain ⟨found, hfound⟩ := hfound
  have hmem := List.mem_of_find?_eq_some hfound
  have hidentity : contextRefIdentity found.ref = contextRefIdentity pointer := by simpa using List.find?_some hfound
  have hclean := hchecked pointer hpointer
  have hpair := pair_of_identity (nul_notMem hclean.store.text) (nul_notMem hclean.refId) (nul_notMem hclean.revision)
    hidentity
  obtain ⟨hrefs, hdigest⟩ := hcovers.exact found hmem
  have hpointed : found.ref = pointer := hsame found.ref hrefs hpair
  refine ⟨⟨found.ref, found.value, contextContentDigest found.json⟩, ?_, hpointed, hpointed ▸ hmem, hpointed ▸ hdigest⟩
  simp only [expandSnapshotRef, hfilter, hfound, hpointed, ne_eq, not_true_eq_false, if_false]

theorem expands_pointer (hfrozen : Frozen offered snapshot) (hreads : Reads store run snapshot)
    (hdistinct : (snapshot.refs.map refPair).Nodup) (hpointer : pointer ∈ snapshot.refs)
    (hselectable : Selectable pointer.refId) : ∃ expanded, Expands store run snapshot pointer expanded := by
  obtain ⟨entries, -, hcreated⟩ := hfrozen.entries
  have hchecked : ∀ ref ∈ snapshot.refs, CheckedRef ref := by
    intro ref hmem
    obtain ⟨value, -, hchecks⟩ := hcreated.normalized.checks ref hmem
    exact hchecks.checked
  obtain ⟨expanded, hexpand, href, hfrozenValue, hdigest⟩ :=
    expandSnapshotRef_pointer hcreated.covers hdistinct hchecked hpointer
  refine ⟨expanded, ?_, href, hfrozenValue, hdigest⟩
  obtain ⟨id, hid⟩ := hselectable
  have hclean := hchecked pointer hpointer
  have hcheck : checkSelector [] pointer.selector = .ok [(pointer.store, pointer.refId)] := by
    simp [checkSelector, ContextRef.selector, Validation.requireIdentity_of_normal hclean.store, hid, hclean.digest]
  have hselector : expandSelector snapshot pointer.selector = .ok expanded := by
    simp [expandSelector, ContextRef.selector, hexpand, href]
  simp only [expandRunContextRefs, List.length_singleton, List.foldlM_cons, hcheck, ok_bind, List.foldlM_nil,
    requireExactRun_reads hreads, readRunContextSnapshot_reads hfrozen hreads, mapIndexed, hselector]
  rfl

end Expand

section Delta

variable [JobHost] {store : ContextStore} {run : ContextRun} {snapshot : ContextSnapshot}
  {offered : List MaterializedRef}

/-- The references before a delta, those that were removed taken out, and the others overwritten. -/
def patched (before : List ContextRef) (delta : RunContextDelta) (pair : String × String) : Option ContextRef :=
  match KeyedMap.lastOf refPair delta.refs pair with
  | some ref => some ref
  | none => if delta.removedRefs.contains pair then none else KeyedMap.lastOf refPair before pair

/-- The values whose digests are compared when the context is read. -/
inductive Digested (store : ContextStore) (run : ContextRun) (snapshot : ContextSnapshot) : Json → Prop where
  | content : Digested store run snapshot
      (snapshotContent snapshot.toContextSnapshotIdentity snapshot.toContextSnapshotContent)
  | pack : Digested store run snapshot (packBody run snapshot)
  | ref (ref : ContextRef) (h : ref ∈ snapshot.refs) : Digested store run snapshot ref.json
  | parentRef (parent : ContextSnapshot) (h : readParent store run.taskId snapshot.parentRef = .ok (some parent))
      (ref : ContextRef) (href : ref ∈ parent.refs) : Digested store run snapshot ref.json
  | parent (parent : ContextSnapshot) (h : readParent store run.taskId snapshot.parentRef = .ok (some parent))
      (content : ContextSnapshotIdentity × ContextSnapshotContent) (hcontent : normalizedContent parent = .ok content) :
      Digested store run snapshot (snapshotContent content.1 content.2)

/-- SHA-256 tells the JSON texts apart whose digests are compared. -/
def Injective (store : ContextStore) (run : ContextRun) (snapshot : ContextSnapshot) : Prop :=
  Set.InjOn contextContentDigest {value | Digested store run snapshot value}

def cursorBefore (snapshot : ContextSnapshot) : String := snapshot.parentRef.elim "none" fun parent => parent.digest

def refsBefore (parent : Option ContextSnapshot) : List ContextRef := parent.elim [] fun parent => parent.refs

omit [JobHost] in
theorem deltaIdentity_congr {ref other : ContextRef} (h : refPair ref = refPair other) :
    deltaIdentity ref = deltaIdentity other := by
  simp only [refPair, Prod.mk.injEq] at h
  rw [deltaIdentity, deltaIdentity, h.1, h.2]

variable {pack : AgentRunContextPack} {after : String}

theorem mem_delta {before : List ContextRef} {ref : ContextRef} :
    ref ∈ (deltaOf pack after before).refs ↔ ref ∈ pack.pointers ∧
      ∀ earlier, KeyedMap.lastOf deltaIdentity before (deltaIdentity ref) = some earlier →
        contextContentDigest earlier.json ≠ contextContentDigest ref.json := by
  simp only [deltaOf, List.mem_filter, Option.all_eq_true, decide_eq_true_eq]

theorem mem_removed {before : List ContextRef} {pair : String × String} :
    pair ∈ (deltaOf pack after before).removedRefs ↔
      ∃ ref ∈ before, deltaIdentity ref ∉ pack.pointers.map deltaIdentity ∧ refPair ref = pair := by
  simp only [deltaOf, List.mem_map, List.mem_filter, decide_eq_true_eq, and_assoc]

theorem patched_delta {before : List ContextRef} (hdistinct : (pack.pointers.map refPair).Nodup)
    (hdigest : ∀ ref ∈ pack.pointers, ∀ earlier ∈ before,
      contextContentDigest earlier.json = contextContentDigest ref.json → earlier = ref)
    (hgone : ∀ ref ∈ before, refPair ref ∉ pack.pointers.map refPair →
      deltaIdentity ref ∉ pack.pointers.map deltaIdentity) (pair : String × String) :
    patched before (deltaOf pack after before) pair = KeyedMap.lastOf refPair pack.pointers pair := by
  have hsub : ∀ ref ∈ (deltaOf pack after before).refs, ref ∈ pack.pointers := fun ref hmem => (mem_delta.1 hmem).1
  by_cases hpair : pair ∈ pack.pointers.map refPair
  · obtain ⟨ref, href, rfl⟩ := List.mem_map.1 hpair
    rw [KeyedMap.lastOf_of_nodup hdistinct href]
    unfold patched
    cases hlast : KeyedMap.lastOf refPair (deltaOf pack after before).refs (refPair ref) with
    | some changed =>
      obtain ⟨hchanged, hsame⟩ := KeyedMap.lastOf_some hlast
      rw [List.inj_on_of_nodup_map hdistinct (hsub changed hchanged) href hsame]
    | none =>
      have hkept : ref ∉ (deltaOf pack after before).refs := fun hmem =>
        KeyedMap.lastOf_none hlast (List.mem_map_of_mem hmem)
      -- The reference was not sent, so the parent has it as the last one of its delta identity.
      have hearlier : KeyedMap.lastOf deltaIdentity before (deltaIdentity ref) = some ref := by
        by_contra hnot
        refine hkept (mem_delta.2 ⟨href, fun earlier hfound heq => hnot ?_⟩)
        rw [hfound, hdigest ref href earlier (KeyedMap.lastOf_some hfound).1 heq]
      have hremoved : refPair ref ∉ (deltaOf pack after before).removedRefs := by
        intro hmem
        obtain ⟨earlier, -, habsent, hsame⟩ := mem_removed.1 hmem
        exact habsent (deltaIdentity_congr hsame ▸ List.mem_map_of_mem href)
      dsimp only
      rw [if_neg (mt List.contains_iff_mem.1 hremoved)]
      exact KeyedMap.lastOf_of_coarser (fun other _ hsame => deltaIdentity_congr hsame) hearlier
  · have hnone : KeyedMap.lastOf refPair pack.pointers pair = none := by
      cases hlast : KeyedMap.lastOf refPair pack.pointers pair with
      | none => rfl
      | some ref =>
        obtain ⟨href, rfl⟩ := KeyedMap.lastOf_some hlast
        exact absurd (List.mem_map_of_mem href) hpair
    rw [hnone]
    unfold patched
    cases hlast : KeyedMap.lastOf refPair (deltaOf pack after before).refs pair with
    | some changed =>
      obtain ⟨hchanged, rfl⟩ := KeyedMap.lastOf_some hlast
      exact absurd (List.mem_map_of_mem (hsub changed hchanged)) hpair
    | none =>
      dsimp only
      split_ifs with hremoved
      · rfl
      · cases hbefore : KeyedMap.lastOf refPair before pair with
        | none => rfl
        | some ref =>
          obtain ⟨href, rfl⟩ := KeyedMap.lastOf_some hbefore
          exact absurd (List.contains_iff_mem.2 (mem_removed.2 ⟨ref, href, hgone ref href hpair, rfl⟩)) hremoved

theorem gone_of_patched {before : List ContextRef}
    (h : ∀ pair, patched before (deltaOf pack after before) pair = KeyedMap.lastOf refPair pack.pointers pair)
    {ref : ContextRef} (href : ref ∈ before) (hpair : refPair ref ∉ pack.pointers.map refPair) :
    deltaIdentity ref ∉ pack.pointers.map deltaIdentity := by
  intro hpresent
  obtain ⟨last, hlast⟩ := KeyedMap.lastOf_isSome (List.mem_map_of_mem (f := refPair) href)
  have hpatched := h (refPair ref)
  have hnone : KeyedMap.lastOf refPair pack.pointers (refPair ref) = none := by
    cases hfound : KeyedMap.lastOf refPair pack.pointers (refPair ref) with
    | none => rfl
    | some found =>
      obtain ⟨hmem, hsame⟩ := KeyedMap.lastOf_some hfound
      exact absurd (hsame ▸ List.mem_map_of_mem hmem) hpair
  have hremoved : refPair ref ∉ (deltaOf pack after before).removedRefs := by
    intro hmem
    obtain ⟨earlier, -, habsent, hsame⟩ := mem_removed.1 hmem
    exact habsent (deltaIdentity_congr hsame ▸ hpresent)
  rw [hnone] at hpatched
  unfold patched at hpatched
  split at hpatched
  · cases hpatched
  · rw [if_neg (mt List.contains_iff_mem.1 hremoved), hlast] at hpatched
    cases hpatched

omit [JobHost] in
theorem snapshotContent_sequence (identity : ContextSnapshotIdentity) (content : ContextSnapshotContent) :
    (snapshotContent identity content).member? "sequence" = some (.num (Nat.repr identity.sequence)) := by
  cases hscope : identity.scopeRef <;> simp [snapshotContent, Json.present, Json.member?, hscope]

omit [JobHost] in
theorem snapshotContent_task (identity : ContextSnapshotIdentity) (content : ContextSnapshotContent) :
    (snapshotContent identity content).member? "taskId" = some (.str identity.taskId) := by
  simp [snapshotContent, Json.present, Json.member?]

omit [JobHost] in
theorem packBody_task : (packBody run snapshot).member? "taskId" = none := by
  simp [packBody, Json.present, Json.member?]

theorem normalizedContent_sequence {content : ContextSnapshotIdentity × ContextSnapshotContent}
    (h : normalizedContent snapshot = .ok content) : content.1.sequence = snapshot.sequence := by
  obtain ⟨identity, hidentity, h⟩ := bind_ok h
  iterate 10 obtain ⟨_, -, h⟩ := bind_ok h
  cases h
  obtain ⟨_, -, h⟩ := bind_ok hidentity
  iterate 4 obtain ⟨_, -, h⟩ := bind_ok h
  obtain ⟨sequence, hsequence, h⟩ := bind_ok h
  cases h
  unfold requirePositiveInteger at hsequence
  split_ifs at hsequence
  cases hsequence
  rfl

variable {parent : Option ContextSnapshot}

theorem readParent_some {parentRef : ContextSnapshotRef} {taskId : String}
    (h : readParent store taskId (some parentRef) = .ok parent) :
    ∃ found content, parent = some found ∧ found.sequence = parentRef.sequence ∧
      normalizedContent found = .ok content ∧
      parentRef.digest = contextContentDigest (snapshotContent content.1 content.2) := by
  unfold readParent at h
  cases hstored : store.getContextSnapshot taskId parentRef.id with
  | none =>
    simp only [hstored] at h
    cases h
  | some found =>
    simp only [hstored] at h
    split_ifs at h with hdrift
    obtain ⟨valid, hvalid, h⟩ := bind_ok h
    cases h
    obtain rfl := validateContextSnapshot_same hvalid
    obtain ⟨hdigest, hsequence⟩ := not_or.1 hdrift
    obtain ⟨content, hcontent, digest, hhex, hvalid⟩ := bind_ok₂ hvalid
    obtain ⟨_, hsame, -⟩ := bind_ok hvalid
    obtain ⟨rfl, -⟩ := requireDigest_ok hhex
    exact ⟨_, content, rfl, not_not.1 hsequence, hcontent,
      (not_not.1 hdigest).symm.trans (not_not.1 (refuse_ok hsame))⟩

theorem cursorBefore_differs (hfrozen : Frozen offered snapshot) (hsha : Injective store run snapshot)
    (hparent : readParent store run.taskId snapshot.parentRef = .ok parent) :
    cursorBefore snapshot ≠ contextContentDigest (packBody run snapshot) ∧ cursorBefore snapshot ≠ snapshot.digest := by
  obtain ⟨entries, -, hcreated⟩ := hfrozen.entries
  rw [hcreated.digest]
  unfold cursorBefore
  cases hparentRef : snapshot.parentRef with
  | none =>
    have hnone : ∀ value, ("none" : String) ≠ contextContentDigest value := by
      intro value heq
      have hhex := digest_hex value
      rw [← heq] at hhex
      exact absurd hhex (by decide)
    exact ⟨hnone _, hnone _⟩
  | some parentRef =>
    have hread := hparent
    rw [hparentRef] at hread
    obtain ⟨found, content, rfl, hsequence, hcontent, hdigest⟩ := readParent_some hread
    have hdigested : Digested store run snapshot (snapshotContent content.1 content.2) :=
      .parent found hparent content hcontent
    dsimp only [Option.elim]
    rw [hdigest]
    constructor
    · intro heq
      have hsame := congrArg (Json.member? "taskId") (hsha hdigested .pack heq)
      rw [snapshotContent_task, packBody_task] at hsame
      cases hsame
    · intro heq
      have hsame := congrArg (Json.member? "sequence") (hsha hdigested .content heq)
      simp only [snapshotContent_sequence, Option.some.injEq, Json.num.injEq] at hsame
      have hlt := (hcreated.parent parentRef hparentRef).1
      rw [← hsequence, ← normalizedContent_sequence hcontent, Nat.repr_injective hsame] at hlt
      exact absurd hlt (lt_irrefl _)

theorem buildRunContextDelta_reads (hfrozen : Frozen offered snapshot) (hreads : Reads store run snapshot)
    (hsha : Injective store run snapshot) (hparent : readParent store run.taskId snapshot.parentRef = .ok parent) :
    buildRunContextDelta store run.taskId run.id (cursorBefore snapshot) =
      .ok (deltaOf ⟨snapshot.toContextSnapshotRef, snapshot.refs, contextContentDigest (packBody run snapshot)⟩
        (cursorBefore snapshot) (refsBefore parent)) := by
  obtain ⟨hpack, hself⟩ := cursorBefore_differs hfrozen hsha hparent
  have hlineage : ¬ cursorBefore snapshot ≠ snapshot.parentRef.elim "none" fun parent => parent.digest :=
    not_not.2 rfl
  simp only [buildRunContextDelta, buildRunContextPack_reads hfrozen hreads, ok_bind, hpack, hself, or_self, if_false,
    requireExactRun_reads hreads, readRunContextSnapshot_reads hfrozen hreads, refuse_of_not hlineage, hparent]
  rfl

end Delta

section ReadBack

variable [JobHost] {store before saved : ContextStore} {run : ContextRun} {snapshot : ContextSnapshot}
  {request : FreezeRequest} {offered : List MaterializedRef}

structure ReadsBack (store : ContextStore) (run : ContextRun) (snapshot : ContextSnapshot) : Prop where
  distinct : (snapshot.refs.map refPair).Nodup
  expands : ∃ pack, buildRunContextPack store run.taskId run.id = .ok pack ∧
    ∀ pointer ∈ pack.pointers, ∃ expanded, Expands store run snapshot pointer expanded
  patches : ∀ parent, readParent store run.taskId snapshot.parentRef = .ok parent →
    ∃ delta, buildRunContextDelta store run.taskId run.id (cursorBefore snapshot) = .ok delta ∧
      ∀ pair, patched (refsBefore parent) delta pair = KeyedMap.lastOf refPair snapshot.refs pair

/-- The offered entries can be selected and told apart, and a reference of the parent that is gone has the delta
identity of none of them. -/
structure Separated (store : ContextStore) (run : ContextRun) (snapshot : ContextSnapshot)
    (offered : List MaterializedRef) : Prop where
  selectable : ∀ entry ∈ offered, Selectable entry.ref.refId
  apart : ∀ entry ∈ offered, ∀ other ∈ offered, keptPair entry = keptPair other →
    refPair entry.ref = refPair other.ref
  gone : ∀ parent, readParent store run.taskId snapshot.parentRef = .ok parent → ∀ ref ∈ refsBefore parent,
    refPair ref ∉ offered.map keptPair → ∀ entry ∈ offered,
      deltaIdentity ref ≠ s!"{(keptPair entry).1}:{(keptPair entry).2}"

theorem ReadsBack.selectable {entries : List MaterializedRef} (hfrozen : Frozen offered snapshot)
    (hreads : Reads store run snapshot) (hcreated : Created (entries.map ContextSnapshotResource.ref) snapshot)
    (h : ReadsBack store run snapshot) : ∀ entry ∈ entries, Selectable entry.ref.refId := by
  intro entry hentry
  obtain ⟨ref, href, hchecks⟩ := hcreated.normalized.kept entry.ref (List.mem_map_of_mem hentry)
  obtain ⟨pack, hpack, hexpands⟩ := h.expands
  rw [buildRunContextPack_reads hfrozen hreads] at hpack
  cases hpack
  obtain ⟨expanded, hexpanded⟩ := hexpands ref href
  have hselectable := hexpanded.selectable
  rwa [hchecks.refId, selectable_trim] at hselectable

theorem deltaIdentity_offered {entries : List MaterializedRef} (hmerges : Merges offered entries)
    (hcreated : Created (entries.map ContextSnapshotResource.ref) snapshot)
    (hselectable : ∀ entry ∈ entries, Selectable entry.ref.refId) (ref : ContextRef) :
    deltaIdentity ref ∈ snapshot.refs.map deltaIdentity ↔
      ∃ entry ∈ offered, deltaIdentity ref = s!"{(keptPair entry).1}:{(keptPair entry).2}" := by
  constructor
  · intro hmem
    obtain ⟨present, hpresent, hsame⟩ := List.mem_map.1 hmem
    obtain ⟨entry, hentry, hpair⟩ := List.mem_map.1
      ((offered_pairs hmerges hcreated hselectable _).2 (List.mem_map_of_mem (f := refPair) hpresent))
    exact ⟨entry, hentry, by rw [← hsame, hpair]; rfl⟩
  · rintro ⟨entry, hentry, hsame⟩
    obtain ⟨present, hpresent, hpair⟩ := List.mem_map.1
      ((offered_pairs hmerges hcreated hselectable _).1 (List.mem_map_of_mem (f := keptPair) hentry))
    refine List.mem_map.2 ⟨present, hpresent, ?_⟩
    rw [hsame, ← hpair]
    rfl

theorem ReadsBack.separated (hfrozen : Frozen offered snapshot) (hreads : Reads store run snapshot)
    (hsha : Injective store run snapshot) (h : ReadsBack store run snapshot) :
    Separated store run snapshot offered := by
  obtain ⟨entries, hmerges, hcreated⟩ := hfrozen.entries
  have hselectable := h.selectable hfrozen hreads hcreated
  refine ⟨fun entry hentry => ?_, fun entry hentry other hother hkept => ?_, fun parent hparent ref href hgone => ?_⟩
  · obtain ⟨kept, hkept, hpair⟩ := kept_pair hmerges hcreated hselectable hentry
    have hid : kept.ref.refId = entry.ref.refId := congrArg Prod.snd hpair
    exact hid ▸ hselectable kept hkept
  · obtain ⟨first, hfirst, hfirstPair⟩ := kept_pair hmerges hcreated hselectable hentry
    obtain ⟨second, hsecond, hsecondPair⟩ := kept_pair hmerges hcreated hselectable hother
    have hsame : keptPair first = keptPair second :=
      (keptPair_congr hfirstPair).trans (hkept.trans (keptPair_congr hsecondPair).symm)
    have hnodup : (entries.map keptPair).Nodup := (pairs_perm hcreated).nodup_iff.1 h.distinct
    rw [← hfirstPair, ← hsecondPair, List.inj_on_of_nodup_map hnodup hfirst hsecond hsame]
  · obtain ⟨delta, hdelta, hpatched⟩ := h.patches parent hparent
    rw [buildRunContextDelta_reads hfrozen hreads hsha hparent] at hdelta
    cases hdelta
    have habsent := gone_of_patched hpatched href fun hmem =>
      hgone ((offered_pairs hmerges hcreated hselectable _).2 hmem)
    intro entry hentry hsame
    exact habsent ((deltaIdentity_offered hmerges hcreated hselectable ref).2 ⟨entry, hentry, hsame⟩)

theorem Separated.readsBack (hfrozen : Frozen offered snapshot) (hreads : Reads store run snapshot)
    (hsha : Injective store run snapshot) (h : Separated store run snapshot offered) :
    ReadsBack store run snapshot := by
  obtain ⟨entries, hmerges, hcreated⟩ := hfrozen.entries
  have hselectable : ∀ entry ∈ entries, Selectable entry.ref.refId := fun entry hentry =>
    h.selectable entry (hmerges.mem entry hentry)
  have hdistinct : (snapshot.refs.map refPair).Nodup := by
    refine (pairs_perm hcreated).nodup_iff.2 (hmerges.nodup.of_map.map_on fun entry hentry other hother hkept => ?_)
    have hpair := h.apart entry (hmerges.mem entry hentry) other (hmerges.mem other hother) hkept
    exact List.inj_on_of_nodup_map hmerges.nodup hentry hother (entryKey_congr hpair)
  refine ⟨hdistinct, ⟨_, buildRunContextPack_reads hfrozen hreads, fun pointer hpointer => ?_⟩,
    fun parent hparent => ⟨_, buildRunContextDelta_reads hfrozen hreads hsha hparent, ?_⟩⟩
  · obtain ⟨value, hvalue, hchecks⟩ := hcreated.normalized.checks pointer hpointer
    obtain ⟨entry, hentry, rfl⟩ := List.mem_map.1 hvalue
    refine expands_pointer hfrozen hreads hdistinct hpointer ?_
    rw [hchecks.refId, selectable_trim]
    exact hselectable entry hentry
  · refine patched_delta hdistinct (fun ref href earlier hearlier heq => ?_) fun ref href hgone hpresent => ?_
    · cases parent with
      | none => cases hearlier
      | some parent =>
        exact ContextRef.json_injective (hsha (.parentRef parent hparent earlier hearlier) (.ref ref href) heq)
    · obtain ⟨entry, hentry, hsame⟩ := (deltaIdentity_offered hmerges hcreated hselectable ref).1 hpresent
      exact h.gone parent hparent ref href
        (fun hmem => hgone ((offered_pairs hmerges hcreated hselectable _).1 hmem)) entry hentry hsame

/-- A frozen context can be read back, and patched from its parent, exactly when what was offered is separated. -/
theorem reads_back_iff (hfreeze : freezeRunContextSnapshot before request = .ok (snapshot, saved))
    (hoffered : Offered before request offered) (hreads : Reads store run snapshot)
    (hsha : Injective store run snapshot) : ReadsBack store run snapshot ↔ Separated store run snapshot offered := by
  obtain ⟨found, hfound, hfrozen⟩ := freeze_frozen hfreeze
  obtain rfl := hfound.unique hoffered
  exact ⟨fun h => h.separated hfrozen hreads hsha, fun h => h.readsBack hfrozen hreads hsha⟩

end ReadBack

section Samples

def sampleHex (digit : Char) : String := String.ofList (List.replicate 63 '0' ++ [digit])

/-- The third character tells contents, packs and references apart, and the twelfth one the layers. -/
def sampleDigit (text : List Char) : Char :=
  match text[2]?, text[11]? with
  | some 't', _ => 'a'
  | some 's', _ => 'b'
  | some 'l', some '1' => '1'
  | some 'l', some '2' => '2'
  | some 'l', some '3' => '3'
  | some 'l', some '4' => '4'
  | _, _ => 'c'

theorem sampleDigit_hex (text : List Char) : isHexDigest (sampleHex (sampleDigit text)) = true := by
  have hdigit : isHexChar (sampleDigit text) = true := by
    unfold sampleDigit
    split <;> decide
  have hzero : isHexChar '0' = true := by decide
  simp [isHexDigest, sampleHex, hdigit, hzero]

instance sampleHost : JobHost where
  dateParse _ := some 0
  localeCompare left right := if left < right then -1 else if right < left then 1 else 0
  sha256 text := sampleHex (sampleDigit text.toList)
  sha256_hex text := sampleDigit_hex text.toList
  numberText _ := "0"

def sampleEntry (layer : ContextRefLayer) (store refId : String) : MaterializedRef :=
  ⟨⟨layer, store, refId, "2026-01-01", contextContentDigest (.obj [("id", .str refId)]), none, none⟩,
    .obj [("id", .str refId)]⟩

/-- What a Worker may select. -/
def selectableEntries : List MaterializedRef := [sampleEntry .l1 "role-profile" "worker", sampleEntry .l2 "task" "task-1"]

/-- The workspace of a Worker has a slash in its id. -/
def workerEntries : List MaterializedRef :=
  [sampleEntry .l1 "role-profile" "worker", sampleEntry .l2 "task" "task-1",
    sampleEntry .l3 "managed-workspace" "task-1/worker"]

theorem sampleEntry_valid (layer : ContextRefLayer) {store refId : String} (hstore : Validation.NormalIdentity store)
    (hrefId : NormalText refId) :
    validateContextRef (sampleEntry layer store refId).ref = .ok (sampleEntry layer store refId).ref :=
  validateContextRef_of_checked ⟨hstore, hrefId, (by decide : NormalText "2026-01-01"), digest_hex _⟩
    (by simp [sampleEntry]) (by simp [sampleEntry])

theorem workerEntries_ready {entry : MaterializedRef} (hmem : entry ∈ workerEntries) :
    validateContextRef entry.ref = .ok entry.ref ∧ contextContentDigest entry.value = entry.ref.digest := by
  simp only [workerEntries, List.mem_cons, List.not_mem_nil, or_false] at hmem
  obtain rfl | rfl | rfl := hmem
  · exact ⟨sampleEntry_valid _ ⟨by decide, by decide, by decide⟩ (by decide), rfl⟩
  · exact ⟨sampleEntry_valid _ ⟨by decide, by decide, by decide⟩ (by decide), rfl⟩
  · exact ⟨sampleEntry_valid _ ⟨by decide, by decide, by decide⟩ (by decide), rfl⟩

theorem workerEntries_canonical : Canonical workerEntries where
  valid _ hmem := (workerEntries_ready hmem).1
  sorted := by decide +kernel
  keys := by decide +kernel
  digest _ hmem := (workerEntries_ready hmem).2
  bytes := by decide +kernel
  sourceRuns := by decide +kernel
  ordinary := by decide +kernel
  ordinaryBytes := by decide +kernel
  sourceRunBytes := by decide +kernel

theorem selectableEntries_canonical : Canonical selectableEntries where
  valid _ hmem :=
    (workerEntries_ready (List.mem_append_left [sampleEntry .l3 "managed-workspace" "task-1/worker"] hmem)).1
  sorted := workerEntries_canonical.sorted.sublist (List.sublist_append_left selectableEntries _)
  keys := workerEntries_canonical.keys.sublist ((List.sublist_append_left selectableEntries _).map _)
  digest _ hmem :=
    (workerEntries_ready (List.mem_append_left [sampleEntry .l3 "managed-workspace" "task-1/worker"] hmem)).2
  bytes _ hmem := workerEntries_canonical.bytes _ (List.mem_append_left _ hmem)
  sourceRuns := by decide +kernel
  ordinary := by decide +kernel
  ordinaryBytes := by decide +kernel
  sourceRunBytes := by decide +kernel

def sampleIdentity : ContextSnapshotIdentity := ⟨"context-snapshot-1", "task-1", .workitem, some "work-item-1", 1⟩

variable (entries : List MaterializedRef)

def sampleContent : ContextSnapshotContent :=
  ⟨entries.map ContextSnapshotResource.ref, entries, none, ["work-item:work-item-1:acceptance"], none, "2026-01-01",
    .controller⟩

def sampleSnapshot : ContextSnapshot :=
  ⟨⟨sampleIdentity, contextContentDigest (snapshotContent sampleIdentity (sampleContent entries))⟩,
    sampleContent entries⟩

def sampleRequest : FreezeRequest where
  taskId := "task-1"
  workItemId := some "work-item-1"
  reviewRoundId := none
  snapshotId := "context-snapshot-1"
  frozenAt := "2026-01-01"
  frozenBy := .controller
  baselineRef := none
  authorized := .ok entries
  overlays := .ok []
  requiredResources := []
  requiredPolicy := .current

def sampleRun : ContextRun where
  taskId := "task-1"
  id := "run-1"
  roleName := "worker"
  purpose := .execution
  agentId := "agent-1"
  adapterId := "adapter"
  workspace := "/work"
  planning := false
  writeProjectIds := []
  skillPackages := none
  input := ⟨.null, some (sampleSnapshot entries).toContextSnapshotRef, []⟩

def laterStore : ContextStore :=
  ⟨["task-1"], [sampleRun entries], [sampleSnapshot entries]⟩

theorem sampleIdentity_fixed : snapshotIdentity sampleIdentity = .ok sampleIdentity := by
  have hid : Validation.NormalIdentity "context-snapshot-1" := ⟨by decide, by decide, by decide⟩
  have htask : Validation.NormalIdentity "task-1" := ⟨by decide, by decide, by decide⟩
  have hscope : optionalText (some "work-item-1") "Context Snapshot scope ref" = .ok (some "work-item-1") :=
    onSome_of_fixed fun text hmem => by
      cases hmem
      exact requireTextWith_of_normal (by decide) _ _
  simp [snapshotIdentity, sampleIdentity, Validation.requireIdentity_of_normal hid,
    Validation.requireIdentity_of_normal htask, hscope, requirePositiveInteger, maxSafeInteger]

theorem acceptRefs_fixed :
    normalizeAcceptRefs ["work-item:work-item-1:acceptance"] = .ok ["work-item:work-item-1:acceptance"] := by
  have htext : Validation.requireText "work-item:work-item-1:acceptance" "Context Snapshot acceptance reference" =
      .ok "work-item:work-item-1:acceptance" := requireTextWith_of_normal (by decide) _ _
  simp [normalizeAcceptRefs, normalizedUniqueText, mapIndexed, htext, sortBy]

theorem sample_created {entries : List MaterializedRef} (h : Canonical entries) :
    createContextSnapshot sampleIdentity (sampleContent entries) = .ok (sampleSnapshot entries) := by
  simp [createContextSnapshot, sampleIdentity_fixed, sampleContent, normalizeContextRefs_canonical h,
    normalizeSnapshotResources_canonical h, acceptRefs_fixed, optionalText, onSome, requireTimestamp, JsHost.dateParse,
    sampleSnapshot]

theorem sample_valid {entries : List MaterializedRef} (h : Canonical entries) :
    validateContextSnapshot (sampleSnapshot entries) = .ok (sampleSnapshot entries) := by
  have hcontent : normalizedContent (sampleSnapshot entries) = .ok (sampleIdentity, sampleContent entries) := by
    simp [normalizedContent, sampleSnapshot, sampleContent, sampleIdentity_fixed, normalizeContextRefs_canonical h,
      normalizeSnapshotResources_canonical h, acceptRefs_fixed, optionalText, onSome, requireTimestamp,
      JsHost.dateParse]
  simp only [validateContextSnapshot, hcontent, ok_bind]
  simp [requireDigest, sampleSnapshot, digest_hex]

theorem sample_freezes {entries : List MaterializedRef} (h : Canonical entries) (hkeys : (entries.map entryKey).Nodup) :
    freezeRunContextSnapshot ⟨["task-1"], [], []⟩ (sampleRequest entries) =
      .ok (sampleSnapshot entries, ⟨["task-1"], [], [sampleSnapshot entries]⟩) := by
  have hmerged : mergeRequiredContext entries [] .current = .ok entries := by
    simp [mergeRequiredContext, KeyedMap.ofList_of_nodup hkeys, pure, Except.pure]
  have hsaved : ContextStore.saveContextSnapshot ⟨["task-1"], [], []⟩ (sampleSnapshot entries) =
      .ok ⟨["task-1"], [], [sampleSnapshot entries]⟩ := by
    simp only [ContextStore.saveContextSnapshot, sample_valid h, ok_bind]
    rfl
  have hcontent : freezeContent ⟨["task-1"], [], []⟩ sampleIdentity (sampleContent entries) =
      .ok (sampleSnapshot entries, ⟨["task-1"], [], [sampleSnapshot entries]⟩) := by
    simp only [freezeContent, sample_created h, ok_bind, hsaved]
  simp only [freezeRunContextSnapshot, freezeAuthorized, sampleRequest, hmerged, ok_bind]
  exact hcontent

theorem sample_offered :
    Offered ⟨["task-1"], [], []⟩ (sampleRequest entries) entries :=
  ⟨entries, rfl, (List.append_nil entries).symm⟩

theorem sample_reads :
    Reads (laterStore entries) (sampleRun entries) (sampleSnapshot entries) where
  task := rfl
  found := by simp [laterStore, ContextStore.getRun, sampleRun]
  stored := by simp [laterStore, ContextStore.getContextSnapshot, sampleSnapshot, sampleIdentity]
  input := rfl

theorem sampleDigest_obj (key : String) (value : Json) (members : List (String × Json)) :
    contextContentDigest (.obj ((key, value) :: members)) =
      sampleHex (sampleDigit (Json.render (.obj ((key, value) :: members)))) := by
  simp [contextContentDigest, JobHost.sha256, Json.stringify]

theorem sampleDigest_content (identity : ContextSnapshotIdentity) (content : ContextSnapshotContent) :
    contextContentDigest (snapshotContent identity content) = sampleHex 'a' := by
  simp only [snapshotContent, Json.present, List.filterMap_cons, Option.map_some]
  rw [sampleDigest_obj]
  rfl

theorem sampleDigest_pack (run : ContextRun) (snapshot : ContextSnapshot) :
    contextContentDigest (packBody run snapshot) = sampleHex 'b' := by
  simp only [packBody, Json.present, List.filterMap_cons, Option.map_some]
  rw [sampleDigest_obj]
  rfl

def layerDigit : ContextRefLayer → Char
  | .l1 => '1'
  | .l2 => '2'
  | .l3 => '3'
  | .l4 => '4'

theorem sampleDigest_ref (ref : ContextRef) : contextContentDigest ref.json = sampleHex (layerDigit ref.layer) := by
  simp only [ContextRef.json, Json.present, List.filterMap_cons, Option.map_some]
  rw [sampleDigest_obj]
  cases ref.layer <;> rfl

theorem sampleHex_injective {c d : Char} (h : sampleHex c = sampleHex d) : c = d := by
  have htext := congrArg String.toList h
  simpa [sampleHex] using htext

theorem layerDigit_injective {layer other : ContextRefLayer} (h : layerDigit layer = layerDigit other) :
    layer = other := by
  cases layer <;> cases other <;> first | rfl | exact absurd h (by decide)

theorem layerDigit_ne (layer : ContextRefLayer) : layerDigit layer ≠ 'a' ∧ layerDigit layer ≠ 'b' := by
  cases layer <;> decide

theorem sample_injective {entries : List MaterializedRef} (hlayers : (entries.map fun entry => entry.ref.layer).Nodup) :
    Injective (laterStore entries) (sampleRun entries) (sampleSnapshot entries) := by
  have hrefs : ∀ ref ∈ (sampleSnapshot entries).refs, ∀ other ∈ (sampleSnapshot entries).refs,
      ref.layer = other.layer → ref = other := by
    intro ref href other hother hlayer
    obtain ⟨entry, hentry, rfl⟩ := List.mem_map.1 href
    obtain ⟨second, hsecond, rfl⟩ := List.mem_map.1 hother
    rw [List.inj_on_of_nodup_map hlayers hentry hsecond hlayer]
  intro value hvalue other hother heq
  cases hvalue with
  | content =>
    rw [sampleDigest_content] at heq
    cases hother with
    | content => rfl
    | pack => exact absurd (sampleHex_injective (heq.trans (sampleDigest_pack _ _))) (by decide)
    | ref ref href => exact absurd (sampleHex_injective (heq.trans (sampleDigest_ref ref))).symm (layerDigit_ne _).1
    | parentRef parent hparent => cases hparent
    | parent parent hparent => cases hparent
  | pack =>
    rw [sampleDigest_pack] at heq
    cases hother with
    | content => exact absurd (sampleHex_injective (heq.trans (sampleDigest_content _ _))) (by decide)
    | pack => rfl
    | ref ref href => exact absurd (sampleHex_injective (heq.trans (sampleDigest_ref ref))).symm (layerDigit_ne _).2
    | parentRef parent hparent => cases hparent
    | parent parent hparent => cases hparent
  | ref ref href =>
    rw [sampleDigest_ref] at heq
    cases hother with
    | content => exact absurd (sampleHex_injective (heq.trans (sampleDigest_content _ _))) (layerDigit_ne _).1
    | pack => exact absurd (sampleHex_injective (heq.trans (sampleDigest_pack _ _))) (layerDigit_ne _).2
    | ref second hsecond =>
      have hlayer := layerDigit_injective (sampleHex_injective (heq.trans (sampleDigest_ref second)))
      rw [hrefs ref href second hsecond hlayer]
    | parentRef parent hparent => cases hparent
    | parent parent hparent => cases hparent
  | parentRef parent hparent => cases hparent
  | parent parent hparent => cases hparent

theorem selectableEntries_separated :
    Separated (laterStore selectableEntries) (sampleRun selectableEntries) (sampleSnapshot selectableEntries)
      selectableEntries where
  selectable entry hmem := by
    have hworker : Validation.NormalIdentity "worker" := ⟨by decide, by decide, by decide⟩
    have htask : Validation.NormalIdentity "task-1" := ⟨by decide, by decide, by decide⟩
    simp only [selectableEntries, List.mem_cons, List.not_mem_nil, or_false] at hmem
    obtain rfl | rfl := hmem
    · exact ⟨_, Validation.requireIdentity_of_normal hworker _⟩
    · exact ⟨_, Validation.requireIdentity_of_normal htask _⟩
  apart entry hmem other hother hkept := by
    simp only [selectableEntries, List.mem_cons, List.not_mem_nil, or_false] at hmem hother
    obtain rfl | rfl := hmem <;> obtain rfl | rfl := hother
    · rfl
    · exact absurd hkept (by decide)
    · exact absurd hkept (by decide)
    · rfl
  gone parent hparent ref href := by
    cases hparent
    cases href

theorem reads_back_iff_selectable :
    ReadsBack (laterStore selectableEntries) (sampleRun selectableEntries) (sampleSnapshot selectableEntries) ∧
      (sampleSnapshot selectableEntries).refs.length = 2 :=
  ⟨(reads_back_iff (sample_freezes selectableEntries_canonical (by decide)) (sample_offered _) (sample_reads _)
    (sample_injective (by decide))).2 selectableEntries_separated, rfl⟩

/-- The workspace pointer of a Worker cannot be expanded in a batch. -/
theorem workspace_not_expanded : ¬ ∀ (before saved store : ContextStore) (request : FreezeRequest)
    (snapshot : ContextSnapshot) (run : ContextRun),
    freezeRunContextSnapshot before request = .ok (snapshot, saved) → Reads store run snapshot →
      Injective store run snapshot → ReadsBack store run snapshot := by
  intro hall
  have hfreeze := sample_freezes workerEntries_canonical (by decide)
  have hreads := sample_reads workerEntries
  have hsha : Injective (laterStore workerEntries) (sampleRun workerEntries) (sampleSnapshot workerEntries) :=
    sample_injective (by decide)
  have hback := hall _ _ _ _ _ _ hfreeze hreads hsha
  obtain ⟨offered, hoffered, hfrozen⟩ := freeze_frozen hfreeze
  obtain rfl := hoffered.unique (sample_offered workerEntries)
  have hselectable := (hback.separated hfrozen hreads hsha).selectable
    (sampleEntry .l3 "managed-workspace" "task-1/worker") (by simp [workerEntries])
  exact absurd (selectable_slash hselectable) (by decide)

end Samples

end RunContext
