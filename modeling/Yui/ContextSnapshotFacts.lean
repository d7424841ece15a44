import Mathlib.Data.List.Dedup
import Yui.ContextSnapshot

/-!
# What a Context Snapshot that was created is like

Its references are the checked ones, in another order, and are told apart by their keys. Its resources carry exactly
these references, each with a value of its digest.
-/

open JsText Checked Validation

namespace RunContext

section Texts

variable {c : Char}

theorem mem_dropWhile {chars : List Char} {p : Char → Bool} (h : c ∈ chars) (hc : p c = false) :
    c ∈ chars.dropWhile p := by
  induction chars with
  | nil => cases h
  | cons x xs ih =>
    rw [List.dropWhile_cons]
    split
    · rename_i hx
      obtain rfl | hmem := List.mem_cons.1 h
      · rw [hc] at hx
        cases hx
      · exact ih hmem
    · exact h

theorem mem_trim {text : String} (h : c ∈ text.toList) (hc : isWhitespace c = false) : c ∈ (trim text).toList := by
  have hfront := mem_dropWhile h hc
  simp only [trim, String.toList_ofList, List.rdropWhile, List.mem_reverse]
  exact mem_dropWhile (List.mem_reverse.2 hfront) hc

theorem nul_notMem {text : String} (h : NormalText text) : nul ∉ text.toList := by
  have hnul := h.noNul
  simpa only [includesNul, List.contains_eq_mem, decide_eq_false_iff_not] using hnul

variable {value label text : String}

theorem requireText_trim (h : requireText value label = .ok text) :
    NormalText text ∧ text = trim value ∧ nul ∉ value.toList := by
  refine ⟨(requireTextWith_normal h).1, (requireTextWith_normal h).2, ?_⟩
  unfold requireText requireTextWith at h
  split_ifs at h with hnul
  simpa only [includesNul, List.contains_eq_mem, decide_eq_true_eq] using hnul

theorem requireIdentity_trim (h : requireIdentity value label = .ok text) :
    NormalIdentity text ∧ text = trim value ∧ nul ∉ value.toList := by
  refine ⟨requireIdentity_normal h, ?_⟩
  obtain ⟨normalized, hnormal, h⟩ := bind_ok h
  split_ifs at h
  cases h
  exact (requireText_trim hnormal).2

theorem requireIdentity_slash (h : requireIdentity value label = .ok text) : '/' ∉ value.toList := by
  obtain ⟨hidentity, rfl, -⟩ := requireIdentity_trim h
  intro hmem
  have hplain := hidentity.plain
  rw [List.any_eq_false] at hplain
  exact hplain '/' (mem_trim hmem (by decide)) (by decide)

theorem split_unique {a b a' b' : List Char} (ha : c ∉ a) (ha' : c ∉ a')
    (h : a ++ c :: b = a' ++ c :: b') : a = a' ∧ b = b' := by
  induction a generalizing a' with
  | nil =>
    cases a' with
    | nil => exact ⟨rfl, (List.cons.inj h).2⟩
    | cons x xs =>
      obtain ⟨rfl, -⟩ := List.cons.inj h
      simp at ha'
  | cons x xs ih =>
    cases a' with
    | nil =>
      obtain ⟨rfl, -⟩ := List.cons.inj h
      simp at ha
    | cons y ys =>
      obtain ⟨rfl, htail⟩ := List.cons.inj h
      obtain ⟨rfl, rfl⟩ := ih (List.not_mem_of_not_mem_cons ha) (List.not_mem_of_not_mem_cons ha') htail
      exact ⟨rfl, rfl⟩

/-- One separator on one side is one on the other. -/
theorem split_of_clean {a b a' b' : List Char} (ha' : c ∉ a') (hb' : c ∉ b')
    (h : a ++ c :: b = a' ++ c :: b') : a = a' ∧ b = b' := by
  have hcount := congrArg (List.count c) h
  simp only [List.count_append, List.count_cons_self, List.count_eq_zero.2 ha', List.count_eq_zero.2 hb'] at hcount
  have ha : List.count c a = 0 := by omega
  exact split_unique (List.count_eq_zero.1 ha) ha' h

end Texts

section References

/-- A reference as a Snapshot keeps it. -/
structure CheckedRef (ref : ContextRef) : Prop where
  store : NormalIdentity ref.store
  refId : NormalText ref.refId
  revision : NormalText ref.revision
  digest : isHexDigest ref.digest = true

/-- A reference that was checked: its texts are trimmed. -/
structure Checks (value ref : ContextRef) : Prop where
  checked : CheckedRef ref
  store : ref.store = trim value.store
  refId : ref.refId = trim value.refId
  digest : ref.digest = value.digest
  slash : '/' ∉ value.store.toList
  storeNul : nul ∉ value.store.toList
  refIdNul : nul ∉ value.refId.toList
  revisionNul : nul ∉ value.revision.toList

theorem requireDigest_ok {value label digest : String} (h : requireDigest value label = .ok digest) :
    digest = value ∧ isHexDigest value = true := by
  unfold requireDigest at h
  split_ifs at h with hhex
  cases h
  exact ⟨rfl, by simpa using hhex⟩

theorem validateContextRef_checks {value ref : ContextRef} (h : validateContextRef value = .ok ref) :
    Checks value ref := by
  obtain ⟨store, hstore, refId, hrefId, revision, hrevision, digest, hdigest, h⟩ := bind_ok₄ h
  obtain ⟨summary, -, evidenceOf, -, h⟩ := bind_ok₂ h
  cases h
  have hstored := requireIdentity_trim hstore
  have hnamed := requireText_trim hrefId
  have hrevised := requireText_trim hrevision
  have hdigested := requireDigest_ok hdigest
  exact {
    checked := ⟨hstored.1, hnamed.1, hrevised.1, by rw [hdigested.1]; exact hdigested.2⟩
    store := hstored.2.1
    refId := hnamed.2.1
    digest := hdigested.1
    slash := requireIdentity_slash hstore
    storeNul := hstored.2.2
    refIdNul := hnamed.2.2
    revisionNul := hrevised.2.2 }

theorem layer_nul (layer : ContextRefLayer) : nul ∉ layer.text.toList := by
  cases layer <;> decide

theorem mem_forall₂ {α β : Type} {R : α → β → Prop} {values : List α} {results : List β}
    (h : List.Forall₂ R values results) {value : α} (hmem : value ∈ values) : ∃ result ∈ results, R value result := by
  induction h with
  | nil => cases hmem
  | cons hfirst _ ih =>
    obtain rfl | hmem := List.mem_cons.1 hmem
    · exact ⟨_, List.mem_cons_self, hfirst⟩
    · obtain ⟨result, hresult, hrel⟩ := ih hmem
      exact ⟨result, List.mem_cons_of_mem _ hresult, hrel⟩

theorem contextRefKey_injective {a b : ContextRef} (ha : CheckedRef a) (hb : CheckedRef b)
    (h : contextRefKey a = contextRefKey b) : a.store = b.store ∧ a.refId = b.refId ∧ a.digest = b.digest := by
  have hkey := congrArg String.toList h
  simp only [contextRefKey, separator, String.toList_append, String.toList_singleton, List.append_assoc,
    List.cons_append, List.nil_append] at hkey
  obtain ⟨-, hkey⟩ := split_unique (layer_nul _) (layer_nul _) hkey
  obtain ⟨hstore, hkey⟩ := split_unique (nul_notMem ha.store.text) (nul_notMem hb.store.text) hkey
  obtain ⟨hrefId, hkey⟩ := split_unique (nul_notMem ha.refId) (nul_notMem hb.refId) hkey
  obtain ⟨-, hdigest⟩ := split_unique (nul_notMem ha.revision) (nul_notMem hb.revision) hkey
  exact ⟨String.toList_inj.1 hstore, String.toList_inj.1 hrefId, String.toList_inj.1 hdigest⟩

variable [JobHost]

theorem sortBy_perm {α : Type} (key : α → String) (values : List α) : (sortBy key values).Perm values :=
  List.perm_insertionSort _ _

/-- References that were checked and sorted. -/
structure Normalized (values refs : List ContextRef) : Prop where
  checks : ∀ ref ∈ refs, ∃ value ∈ values, Checks value ref
  kept : ∀ value ∈ values, ∃ ref ∈ refs, Checks value ref
  pairs : (refs.map fun ref => (ref.store, ref.refId)).Perm
    (values.map fun value => (trim value.store, trim value.refId))
  keys : (refs.map contextRefKey).Nodup

omit [JobHost] in
theorem pairs_of_checks {values refs : List ContextRef} (h : List.Forall₂ Checks values refs) :
    refs.map (fun ref => (ref.store, ref.refId)) = values.map fun value => (trim value.store, trim value.refId) := by
  induction h with
  | nil => rfl
  | cons hfirst _ ih => rw [List.map_cons, List.map_cons, ih, hfirst.store, hfirst.refId]

theorem normalizeContextRefs_normalized {values refs : List ContextRef} (h : normalizeContextRefs values = .ok refs) :
    Normalized values refs := by
  obtain ⟨checked, hchecked, _, hunique, h⟩ := bind_ok₂ h
  cases h
  have hall : List.Forall₂ Checks values checked :=
    (mapIndexed_ok hchecked).imp fun _ _ ⟨_, hvalid⟩ => validateContextRef_checks hvalid
  have hperm := sortBy_perm contextRefKey checked
  refine ⟨fun ref hmem => ?_, fun value hmem => ?_, ?_, not_not.1 (refuse_ok hunique)⟩
  · obtain ⟨value, hvalue, i, hvalid⟩ := mapIndexed_mem hchecked (hperm.mem_iff.1 hmem)
    exact ⟨value, hvalue, validateContextRef_checks hvalid⟩
  · obtain ⟨ref, href, hchecks⟩ := mem_forall₂ hall hmem
    exact ⟨ref, hperm.mem_iff.2 href, hchecks⟩
  · exact (hperm.map _).trans (List.Perm.of_eq (pairs_of_checks hall))

/-- The resources of a Snapshot carry its references, each one and each with a value of its digest. -/
structure Covers (resources : List ContextSnapshotResource) (refs : List ContextRef) : Prop where
  exact : ∀ resource ∈ resources, resource.ref ∈ refs ∧ contextContentDigest resource.value = resource.ref.digest
  covered : ∀ ref ∈ refs, ∃ resource ∈ resources, resource.ref = ref

theorem normalizeSnapshotResource_exact {refs : List ContextRef} {value resource : ContextSnapshotResource}
    (hrefs : ∀ ref ∈ refs, CheckedRef ref) (h : normalizeSnapshotResource refs value = .ok resource) :
    resource.ref ∈ refs ∧ contextContentDigest resource.value = resource.ref.digest := by
  obtain ⟨ref, href, h⟩ := bind_ok h
  cases hfound : KeyedMap.lastOf contextRefKey refs (contextRefKey ref) with
  | none =>
    rw [hfound] at h
    cases h
  | some exact =>
    rw [hfound] at h
    dsimp only at h
    obtain ⟨hmem, hkey⟩ := KeyedMap.lastOf_some hfound
    split_ifs at h with hdigest
    cases h
    have hsame := contextRefKey_injective (hrefs exact hmem) (validateContextRef_checks href).checked hkey
    exact ⟨hmem, (not_not.1 hdigest).trans hsame.2.2.symm⟩

theorem normalizeSnapshotResources_covers {values resources : List ContextSnapshotResource} {refs : List ContextRef}
    (hrefs : ∀ ref ∈ refs, CheckedRef ref) (hkeys : (refs.map contextRefKey).Nodup)
    (h : normalizeSnapshotResources values refs = .ok resources) : Covers resources refs := by
  obtain ⟨_, -, _, -, checked, hchecked, _, hcheck, h⟩ := bind_ok₄ h
  cases h
  have hexact : ∀ resource ∈ sortBy (fun resource => contextRefKey resource.ref) checked,
      resource.ref ∈ refs ∧ contextContentDigest resource.value = resource.ref.digest := by
    intro resource hmem
    obtain ⟨value, -, _, hvalid⟩ := mapIndexed_mem hchecked ((sortBy_perm _ checked).mem_iff.1 hmem)
    exact normalizeSnapshotResource_exact hrefs hvalid
  refine ⟨hexact, fun ref hmem => ?_⟩
  obtain ⟨_, hlengths, -⟩ := bind_ok hcheck
  obtain ⟨hlength, hdistinct⟩ := not_or.1 (refuse_ok hlengths)
  set keys := (sortBy (fun resource => contextRefKey resource.ref) checked).map fun resource =>
    contextRefKey resource.ref with hdef
  have hsub : keys.dedup ⊆ refs.map contextRefKey := by
    intro key hkey
    obtain ⟨resource, hresource, rfl⟩ := List.mem_map.1 (List.mem_dedup.1 hkey)
    exact List.mem_map_of_mem (hexact resource hresource).1
  have hperm : keys.dedup.Perm (refs.map contextRefKey) :=
    ((List.nodup_dedup keys).subperm hsub).perm_of_length_le (by rw [List.length_map]; exact (not_not.1 hdistinct).ge)
  obtain ⟨resource, hresource, hkey⟩ :=
    List.mem_map.1 (List.mem_dedup.1 (hperm.mem_iff.2 (List.mem_map_of_mem (f := contextRefKey) hmem)))
  exact ⟨resource, hresource, List.inj_on_of_nodup_map hkeys (hexact resource hresource).1 hmem hkey⟩

end References

section Canonical

theorem validateContextRef_of_checked {ref : ContextRef} (h : CheckedRef ref)
    (hsummary : ∀ text ∈ ref.summary, NormalText text) (hevidence : ∀ text ∈ ref.evidenceOf, NormalText text) :
    validateContextRef ref = .ok ref := by
  have htext : ∀ {text : String} (label : String), NormalText text → requireText text label = .ok text :=
    fun _ hnormal => requireTextWith_of_normal hnormal _ _
  have hoptional : ∀ {value : Option String} (label : String), (∀ text ∈ value, NormalText text) →
      optionalText value label = .ok value :=
    fun label hnormal => onSome_of_fixed fun text hmem => htext label (hnormal text hmem)
  simp only [validateContextRef, requireIdentity_of_normal h.store, htext _ h.refId, htext _ h.revision, requireDigest,
    h.digest, Bool.true_eq_false, if_false, hoptional _ hsummary, hoptional _ hevidence, ok_bind]

variable [JobHost]

/-- Resources that are kept as they are: their references are checked, sorted and told apart, and the sizes are in
their bounds. -/
structure Canonical (resources : List ContextSnapshotResource) : Prop where
  valid : ∀ resource ∈ resources, validateContextRef resource.ref = .ok resource.ref
  sorted : resources.Pairwise fun left right =>
    JobHost.localeCompare (contextRefKey left.ref) (contextRefKey right.ref) ≤ 0
  keys : (resources.map fun resource => contextRefKey resource.ref).Nodup
  digest : ∀ resource ∈ resources, contextContentDigest resource.value = resource.ref.digest
  bytes : ∀ resource ∈ resources, resource.value.byteLength ≤ 4 * 1024 * 1024
  sourceRuns : resources.countP isSourceRun ≤ 64
  ordinary : resources.length - resources.countP isSourceRun ≤ 256
  ordinaryBytes : resourceBytes (resources.filter fun resource => !isSourceRun resource) ≤ 8 * 1024 * 1024
  sourceRunBytes : resourceBytes (resources.filter isSourceRun) ≤ 9 * (512 * 1024 + 16 * 1024)

variable {resources : List ContextSnapshotResource}

theorem normalizeContextRefs_canonical (h : Canonical resources) :
    normalizeContextRefs (resources.map ContextSnapshotResource.ref) =
      .ok (resources.map ContextSnapshotResource.ref) := by
  have hvalid : mapIndexed (fun value _ => validateContextRef value) 0 (resources.map ContextSnapshotResource.ref) =
      .ok (resources.map ContextSnapshotResource.ref) := by
    refine mapIndexed_of_fixed (fun ref hmem _ => ?_) 0
    obtain ⟨resource, hresource, rfl⟩ := List.mem_map.1 hmem
    exact h.valid resource hresource
  have hsorted : sortBy contextRefKey (resources.map ContextSnapshotResource.ref) =
      resources.map ContextSnapshotResource.ref :=
    (List.pairwise_map.2 h.sorted).insertionSort_eq
  have hkeys : ((resources.map ContextSnapshotResource.ref).map contextRefKey).Nodup := by
    rw [List.map_map]
    exact h.keys
  simp only [normalizeContextRefs, hvalid, ok_bind, hsorted, refuse_of_not (not_not.2 hkeys)]

theorem normalizeSnapshotResources_canonical (h : Canonical resources) :
    normalizeSnapshotResources resources (resources.map ContextSnapshotResource.ref) = .ok resources := by
  have hkeys : ((resources.map ContextSnapshotResource.ref).map contextRefKey).Nodup := by
    rw [List.map_map]
    exact h.keys
  have hvalid : mapIndexed (fun value _ => normalizeSnapshotResource (resources.map ContextSnapshotResource.ref) value)
      0 resources = .ok resources := by
    refine mapIndexed_of_fixed (fun resource hmem _ => ?_) 0
    simp only [normalizeSnapshotResource, h.valid resource hmem, ok_bind,
      KeyedMap.lastOf_of_nodup hkeys (List.mem_map_of_mem hmem), h.digest resource hmem, ne_eq, not_true_eq_false,
      if_false, Nat.not_lt.2 (h.bytes resource hmem)]
  have hsorted : sortBy (fun resource => contextRefKey resource.ref) resources = resources := h.sorted.insertionSort_eq
  have hcheck : checkSnapshotResources resources (resources.map ContextSnapshotResource.ref) = .ok () := by
    have hlengths : ¬ (resources.length ≠ (resources.map ContextSnapshotResource.ref).length ∨
        (resources.map fun resource => contextRefKey resource.ref).dedup.length ≠
          (resources.map ContextSnapshotResource.ref).length) := by
      rw [h.keys.dedup]
      simp
    simp only [checkSnapshotResources, refuse_of_not hlengths, refuse_of_not (Nat.not_lt.2 h.ordinaryBytes),
      refuse_of_not (Nat.not_lt.2 h.sourceRunBytes), ok_bind]
  simp only [normalizeSnapshotResources, refuse_of_not (Nat.not_lt.2 h.sourceRuns),
    refuse_of_not (Nat.not_lt.2 h.ordinary), hvalid, ok_bind, hsorted, hcheck]

end Canonical

end RunContext
