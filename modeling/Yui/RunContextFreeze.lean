import Yui.ContextSnapshotFacts
import Yui.RunContextPack

/-!
# What a freeze stores

The Snapshot of a successful freeze is made of entries that were offered to it: the collected ones, with the resources
of a baseline, and the required ones. Of the entries with one store and id it keeps one.
-/

open JsText Checked

namespace RunContext

section Create

variable [JobHost]

omit [JobHost] in
theorem onSome_text_fixed {value result : Option String} {label : String} (h : optionalText value label = .ok result) :
    optionalText result label = .ok result := by
  refine onSome_of_fixed fun text htext => ?_
  obtain ⟨before, -, hbefore⟩ := (onSome_ok h).1 text htext
  exact requireTextWith_of_normal (requireTextWith_normal hbefore).1 _ _

omit [JobHost] in
theorem snapshotIdentity_fixed {input identity : ContextSnapshotIdentity} (h : snapshotIdentity input = .ok identity) :
    snapshotIdentity identity = .ok identity := by
  obtain ⟨id, hid, taskId, htask, scopeRef, hscope, _, hcarry, h⟩ := bind_ok₄ h
  obtain ⟨_, hrequire, sequence, hsequence, h⟩ := bind_ok₂ h
  cases h
  have hpositive : requirePositiveInteger sequence "Context Snapshot sequence" = .ok sequence := by
    unfold requirePositiveInteger at hsequence ⊢
    split_ifs at hsequence with hbounds
    cases hsequence
    rw [if_neg hbounds]
  unfold snapshotIdentity
  simp only [Validation.requireIdentity_of_normal (Validation.requireIdentity_normal hid),
    Validation.requireIdentity_of_normal (Validation.requireIdentity_normal htask), onSome_text_fixed hscope, ok_bind,
    hcarry, hrequire, hpositive]

structure Created (values : List ContextRef) (snapshot : ContextSnapshot) : Prop where
  normalized : Normalized values snapshot.refs
  covers : Covers snapshot.resources snapshot.refs
  identity : snapshotIdentity snapshot.toContextSnapshotIdentity = .ok snapshot.toContextSnapshotIdentity
  digest : snapshot.digest =
    contextContentDigest (snapshotContent snapshot.toContextSnapshotIdentity snapshot.toContextSnapshotContent)
  parent : ∀ ref ∈ snapshot.parentRef, ref.sequence < snapshot.sequence ∧ isHexDigest ref.digest = true

omit [JobHost] in
theorem validateContextSnapshotRef_hex {value ref : ContextSnapshotRef} (h : validateContextSnapshotRef value = .ok ref) :
    isHexDigest ref.digest = true := by
  obtain ⟨identity, -, digest, hdigest, h⟩ := bind_ok₂ h
  cases h
  obtain ⟨rfl, hhex⟩ := requireDigest_ok hdigest
  exact hhex

theorem createContextSnapshot_created {input : ContextSnapshotIdentity} {content : ContextSnapshotContent}
    {snapshot : ContextSnapshot} (h : createContextSnapshot input content = .ok snapshot) :
    Created content.refs snapshot := by
  obtain ⟨identity, hidentity, refs, hrefs, resources, hresources, acceptRefs, -, h⟩ := bind_ok₄ h
  obtain ⟨repoCommit, -, parentRef, hparent, _, -, _, hsequence, h⟩ := bind_ok₄ h
  obtain ⟨frozenAt, -, h⟩ := bind_ok h
  cases h
  have hnormalized := normalizeContextRefs_normalized hrefs
  refine ⟨hnormalized, ?_, snapshotIdentity_fixed hidentity, rfl, fun ref hmem => ⟨?_, ?_⟩⟩
  · refine normalizeSnapshotResources_covers (fun ref hmem => ?_) hnormalized.keys hresources
    obtain ⟨value, -, hchecks⟩ := hnormalized.checks ref hmem
    exact hchecks.checked
  · have hprecedes := refuse_ok hsequence
    obtain rfl : parentRef = some ref := hmem
    simpa using hprecedes
  · obtain ⟨value, -, hvalid⟩ := (onSome_ok hparent).1 ref hmem
    exact validateContextSnapshotRef_hex hvalid

theorem validateContextSnapshot_same {snapshot stored : ContextSnapshot}
    (h : validateContextSnapshot snapshot = .ok stored) : stored = snapshot := by
  iterate 3 obtain ⟨_, -, h⟩ := bind_ok h
  cases h
  rfl

end Create

section Merge

theorem mergeRequired_collects {policy : RequiredPolicy} {values entries required merged : List MaterializedRef}
    (hentries : KeyedMap.Collects entryKey values entries)
    (h : required.foldlM (mergeRequired policy) entries = .ok merged) :
    KeyedMap.Collects entryKey (values ++ required) merged := by
  induction required generalizing values entries with
  | nil =>
    cases h
    simpa using hentries
  | cons entry required ih =>
    rw [List.foldlM_cons] at h
    obtain ⟨next, hnext, h⟩ := bind_ok h
    dsimp only [mergeRequired] at hnext
    split_ifs at hnext
    cases hnext
    simpa using ih (hentries.snoc entry) h

theorem mergeRequiredContext_collects {policy : RequiredPolicy} {automatic required merged : List MaterializedRef}
    (h : mergeRequiredContext automatic required policy = .ok merged) :
    KeyedMap.Collects entryKey (automatic ++ required) merged :=
  mergeRequired_collects (KeyedMap.collects_ofList automatic) h

theorem entryKey_toList (entry : MaterializedRef) :
    (entryKey entry).toList = entry.ref.store.toList ++ '/' :: entry.ref.refId.toList := by
  simp [entryKey, toString]

theorem pair_of_entryKey {entry other : MaterializedRef} (hstore : '/' ∉ entry.ref.store.toList)
    (hrefId : '/' ∉ entry.ref.refId.toList) (h : entryKey other = entryKey entry) :
    refPair other.ref = refPair entry.ref := by
  have hkey := congrArg String.toList h
  rw [entryKey_toList, entryKey_toList] at hkey
  obtain ⟨hsame, hid⟩ := split_of_clean hstore hrefId hkey
  exact Prod.ext (String.toList_inj.1 hsame) (String.toList_inj.1 hid)

theorem contextRefIdentity_toList (ref : ContextRef) : (contextRefIdentity ref).toList =
    ref.store.toList ++ nul :: (ref.refId.toList ++ nul :: ref.revision.toList) := by
  simp [contextRefIdentity, separator]

theorem pair_of_identity {ref other : ContextRef} (hstore : nul ∉ ref.store.toList) (hrefId : nul ∉ ref.refId.toList)
    (hrevision : nul ∉ ref.revision.toList) (h : contextRefIdentity other = contextRefIdentity ref) :
    refPair other = refPair ref := by
  have hkey := congrArg String.toList h
  rw [contextRefIdentity_toList, contextRefIdentity_toList] at hkey
  have hcount := congrArg (List.count nul) hkey
  simp only [List.count_append, List.count_cons_self, List.count_eq_zero.2 hstore, List.count_eq_zero.2 hrefId,
    List.count_eq_zero.2 hrevision] at hcount
  have hother : nul ∉ other.store.toList := List.count_eq_zero.1 (by omega)
  have hotherId : nul ∉ other.refId.toList := List.count_eq_zero.1 (by omega)
  obtain ⟨hsame, htail⟩ := split_unique hother hstore hkey
  obtain ⟨hid, -⟩ := split_unique hotherId hrefId htail
  exact Prod.ext (String.toList_inj.1 hsame) (String.toList_inj.1 hid)

/-- The entries that become the references of a Snapshot. -/
structure Merges (offered entries : List MaterializedRef) : Prop where
  mem : ∀ entry ∈ entries, entry ∈ offered
  nodup : (entries.map entryKey).Nodup
  keys : ∀ entry ∈ offered, ∃ kept ∈ entries, entryKey kept = entryKey entry

theorem Merges.of_collects {offered entries : List MaterializedRef} (h : KeyedMap.Collects entryKey offered entries) :
    Merges offered entries :=
  ⟨h.mem, h.nodup, fun entry hmem => List.mem_map.1 (h.keys entry hmem)⟩

theorem Merges.deduplicated {offered merged entries : List MaterializedRef} (h : Merges offered merged)
    (hentries : KeyedMap.Collects (fun entry : MaterializedRef => contextRefIdentity entry.ref) merged entries)
    (hclean : ∀ entry ∈ entries, nul ∉ entry.ref.store.toList ∧ nul ∉ entry.ref.refId.toList ∧
      nul ∉ entry.ref.revision.toList) : Merges offered entries where
  mem entry hmem := h.mem entry (hentries.mem entry hmem)
  nodup := by
    have hplain : entries.Nodup := hentries.nodup.of_map
    exact hplain.map_on fun a ha b hb heq =>
      List.inj_on_of_nodup_map h.nodup (hentries.mem a ha) (hentries.mem b hb) heq
  keys entry hmem := by
    obtain ⟨middle, hmiddle, hkey⟩ := h.keys entry hmem
    obtain ⟨kept, hkept, hidentity⟩ := List.mem_map.1 (hentries.keys middle hmiddle)
    obtain ⟨hstore, hrefId, hrevision⟩ := hclean kept hkept
    have hpair := pair_of_identity hstore hrefId hrevision hidentity.symm
    refine ⟨kept, hkept, (?_ : entryKey kept = entryKey middle).trans hkey⟩
    simp only [refPair, Prod.mk.injEq] at hpair
    rw [entryKey, entryKey, hpair.1, hpair.2]

theorem Merges.perm {offered entries sorted : List MaterializedRef} (h : Merges offered entries)
    (hperm : sorted.Perm entries) : Merges offered sorted where
  mem entry hmem := h.mem entry (hperm.mem_iff.1 hmem)
  nodup := (hperm.map entryKey).nodup_iff.2 h.nodup
  keys entry hmem := by
    obtain ⟨kept, hkept, hkey⟩ := h.keys entry hmem
    exact ⟨kept, hperm.mem_iff.2 hkept, hkey⟩

end Merge

section Freeze

variable [JobHost] {store saved : ContextStore} {request : FreezeRequest} {snapshot : ContextSnapshot}

/-- What was offered to a freeze: the resources of its baseline and what was found, and what is required. -/
def Offered (store : ContextStore) (request : FreezeRequest) (offered : List MaterializedRef) : Prop :=
  match request.baselineRef with
  | none => ∃ authorized, request.authorized = .ok authorized ∧ offered = authorized ++ request.requiredResources
  | some baselineRef => ∃ baseline overlays, store.getContextSnapshot request.taskId baselineRef.id = some baseline ∧
      request.overlays = .ok overlays ∧ offered = baseline.resources ++ overlays ++ request.requiredResources

/-- A Snapshot that was created of merged entries, and stored. -/
structure Frozen (offered : List MaterializedRef) (snapshot : ContextSnapshot) : Prop where
  entries : ∃ entries, Merges offered entries ∧ Created (entries.map ContextSnapshotResource.ref) snapshot
  valid : validateContextSnapshot snapshot = .ok snapshot

theorem saveContextSnapshot_valid (h : store.saveContextSnapshot snapshot = .ok saved) :
    validateContextSnapshot snapshot = .ok snapshot := by
  obtain ⟨stored, hstored, -⟩ := bind_ok h
  obtain rfl := validateContextSnapshot_same hstored
  exact hstored

theorem freezeContent_created {identity : ContextSnapshotIdentity} {content : ContextSnapshotContent}
    (h : freezeContent store identity content = .ok (snapshot, saved)) :
    Created content.refs snapshot ∧ validateContextSnapshot snapshot = .ok snapshot := by
  obtain ⟨created, hcreated, stored, hstored, h⟩ := bind_ok₂ h
  cases h
  exact ⟨createContextSnapshot_created hcreated, saveContextSnapshot_valid hstored⟩

theorem readBaseline_stored {taskId : String} {baselineRef : ContextSnapshotRef} {baseline : ContextSnapshot}
    (h : readBaseline store taskId baselineRef = .ok baseline) :
    store.getContextSnapshot taskId baselineRef.id = some baseline := by
  unfold readBaseline at h
  cases hstored : store.getContextSnapshot taskId baselineRef.id with
  | none =>
    rw [hstored] at h
    cases h
  | some found =>
    rw [hstored] at h
    dsimp only at h
    split_ifs at h
    rw [validateContextSnapshot_same h]

theorem freezeAuthorized_frozen (hbaseline : request.baselineRef = none)
    (h : freezeAuthorized store request = .ok (snapshot, saved)) :
    ∃ offered, Offered store request offered ∧ Frozen offered snapshot := by
  obtain ⟨authorized, hauthorized, merged, hmerged, parentRef, -, h⟩ := bind_ok₃ h
  obtain ⟨hcreated, hvalid⟩ := freezeContent_created h
  refine ⟨_, ?_, ⟨merged, .of_collects (mergeRequiredContext_collects hmerged), hcreated⟩, hvalid⟩
  unfold Offered
  rw [hbaseline]
  exact ⟨authorized, hauthorized, rfl⟩

theorem freezeOverBaseline_frozen {baselineRef : ContextSnapshotRef} (hbaseline : request.baselineRef = some baselineRef)
    (h : freezeOverBaseline store request baselineRef = .ok (snapshot, saved)) :
    ∃ offered, Offered store request offered ∧ Frozen offered snapshot := by
  obtain ⟨baseline, hread, overlays, hoverlays, merged, hmerged, parentRef, -, h⟩ := bind_ok₄ h
  obtain ⟨hcreated, hvalid⟩ := freezeContent_created h
  dsimp only at hcreated
  have hperm := sortBy_perm (fun entry : MaterializedRef => contextRefIdentity entry.ref)
    (KeyedMap.ofList (fun entry => contextRefIdentity entry.ref) merged)
  refine ⟨_, ?_, ⟨_, Merges.perm (.deduplicated (.of_collects (mergeRequiredContext_collects hmerged))
    (KeyedMap.collects_ofList merged) fun entry hmem => ?_) hperm, hcreated⟩, hvalid⟩
  · unfold Offered
    rw [hbaseline]
    exact ⟨baseline, overlays, readBaseline_stored hread, hoverlays, rfl⟩
  · obtain ⟨ref, -, hchecks⟩ := hcreated.normalized.kept entry.ref (List.mem_map_of_mem (hperm.mem_iff.2 hmem))
    exact ⟨hchecks.storeNul, hchecks.refIdNul, hchecks.revisionNul⟩

theorem freeze_frozen (h : freezeRunContextSnapshot store request = .ok (snapshot, saved)) :
    ∃ offered, Offered store request offered ∧ Frozen offered snapshot := by
  unfold freezeRunContextSnapshot at h
  cases hbaseline : request.baselineRef with
  | none =>
    rw [hbaseline] at h
    exact freezeAuthorized_frozen hbaseline h
  | some baselineRef =>
    rw [hbaseline] at h
    exact freezeOverBaseline_frozen hbaseline h

omit [JobHost] in
theorem Offered.unique {offered other : List MaterializedRef} (h : Offered store request offered)
    (hother : Offered store request other) : offered = other := by
  unfold Offered at h hother
  split at h
  · rename_i hbaseline
    simp only [hbaseline] at hother
    obtain ⟨authorized, hauthorized, rfl⟩ := h
    obtain ⟨authorized', hauthorized', rfl⟩ := hother
    rw [hauthorized] at hauthorized'
    cases hauthorized'
    rfl
  · rename_i baselineRef hbaseline
    simp only [hbaseline] at hother
    obtain ⟨baseline, overlays, hstored, hoverlays, rfl⟩ := h
    obtain ⟨baseline', overlays', hstored', hoverlays', rfl⟩ := hother
    rw [hstored] at hstored'
    rw [hoverlays] at hoverlays'
    cases hstored'
    cases hoverlays'
    rfl

end Freeze

end RunContext
