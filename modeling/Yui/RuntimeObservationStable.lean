import Yui.RuntimeObservation

/-!
# Normalizing an observation twice

Every check of `createRuntimeObservation` accepts what it returned and leaves it alone, so a normalized
observation is normalized to itself.
-/

open JsText Checked Runtime

namespace Runtime

theorem optionalIdentity_stable (label : String) : Stable fun value => optionalIdentity value label :=
  (requireIdentity_stable label).onSome

theorem optionalText_stable (label : String) : Stable fun value => optionalText value label :=
  (requireText_stable label).onSome

theorem normalizeFence_stable : Stable normalizeFence := by
  intro input result h
  unfold normalizeFence at h
  obtain ⟨taskId, h1, roleName, h2, runId, h3, agentId, h4, h⟩ := bind_ok₄ h
  obtain ⟨driverId, h5, nativeSessionId, h6, nativeTurnId, h7, receiptId, h8, h⟩ := bind_ok₄ h
  obtain ⟨conversationId, h9, continuationId, h10, parentContinuationId, h11, h⟩ := bind_ok₃ h
  cases h
  have s1 := optionalIdentity_stable _ _ _ h1
  have s2 := requireIdentity_stable _ _ _ h2
  have s3 := optionalIdentity_stable _ _ _ h3
  have s4 := requireIdentity_stable _ _ _ h4
  have s5 := requireDriverId_stable _ _ h5
  have s6 := optionalIdentity_stable _ _ _ h6
  have s7 := optionalIdentity_stable _ _ _ h7
  have s8 := optionalIdentity_stable _ _ _ h8
  have s9 := optionalIdentity_stable _ _ _ h9
  have s10 := optionalIdentity_stable _ _ _ h10
  have s11 := optionalIdentity_stable _ _ _ h11
  dsimp only at s1 s2 s3 s4 s6 s7 s8 s9 s10 s11
  simp only [normalizeFence, s1, s2, s3, s4, s5, s6, s7, s8, s9, s10, s11, ok_bind]

theorem costText_stable (label : String) (limit : ℕ) : Stable fun value => costText value label limit := by
  intro value result h
  obtain ⟨text, htext, h⟩ := bind_ok h
  split_ifs at h with hlimit
  cases h
  have hstable : requireText result label = .ok result := requireText_stable label value _ htext
  simp only [costText, hstable, ok_bind, hlimit, if_false]

theorem mapIndexed_stable {α : Type} {check : α → ℕ → Except String α}
    (h : ∀ i j value result, check value i = .ok result → check result j = .ok result) (index : ℕ) :
    Stable (mapIndexed check index) := by
  intro values results hresults
  apply mapIndexed_of_fixed
  intro result hresult i
  obtain ⟨value, -, j, hvalue⟩ := mapIndexed_mem hresults hresult
  exact h j i value result hvalue

theorem normalizeCostBasis_stable : Stable normalizeCostBasis := by
  intro basis result h
  unfold normalizeCostBasis at h
  obtain ⟨model, h1, source, h2, version, h3, scope, h4, h⟩ := bind_ok₄ h
  obtain ⟨excluded, h5, h⟩ := bind_ok h
  cases h
  have s1 := costText_stable _ _ _ _ h1
  have s2 := costText_stable _ _ _ _ h2
  have s3 := costText_stable _ _ _ _ h3
  have s4 := costText_stable _ _ _ _ h4
  have s5 := mapIndexed_stable (fun _ _ value result hvalue =>
    costText_stable "Excluded cost" 128 value result hvalue) 0 _ _ h5
  dsimp only at s1 s2 s3 s4
  simp only [normalizeCostBasis, s1, s2, s3, s4, s5, ok_bind]

theorem excluded_length {basis result : RuntimeCostBasis} (h : normalizeCostBasis basis = .ok result) :
    result.excluded.length = basis.excluded.length := by
  unfold normalizeCostBasis at h
  obtain ⟨model, -, source, -, version, -, scope, -, h⟩ := bind_ok₄ h
  obtain ⟨excluded, hexcluded, h⟩ := bind_ok h
  cases h
  exact (mapIndexed_ok hexcluded).length_eq.symm

theorem normalizeCost_stable : Stable normalizeCost := by
  intro input result h
  unfold normalizeCost at h
  obtain ⟨_, h1, _, h2, _, h3, _, h4, h⟩ := bind_ok₄ h
  obtain ⟨source, h5, basis, h6, h⟩ := bind_ok₂ h
  cases h
  have s3 : ¬(input.kind = .estimated ∧ basis = none) := by
    rw [onSome_none_iff h6]
    exact refuse_ok h3
  have s4 : ¬∃ known ∈ basis, 16 < known.excluded.length := by
    rintro ⟨known, hknown, hlong⟩
    obtain ⟨before, hbefore, hnormal⟩ := (onSome_ok h6).1 known hknown
    rw [excluded_length hnormal] at hlong
    exact refuse_ok h4 ⟨before, hbefore, hlong⟩
  have s5 := costText_stable _ _ _ _ h5
  have s6 := normalizeCostBasis_stable.onSome _ _ h6
  dsimp only at s5
  simp only [normalizeCost, refuse_of_not (refuse_ok h1), refuse_of_not (refuse_ok h2),
    refuse_of_not s3, refuse_of_not s4, s5, s6, ok_bind]

theorem normalizeObserverSource_stable : Stable normalizeObserverSource := by
  intro input result h
  obtain ⟨sourceId, h1, locator, h2, h⟩ := bind_ok₂ h
  cases h
  have s1 := requireIdentity_stable _ _ _ h1
  have s2 := requireText_stable _ _ _ h2
  dsimp only at s1 s2
  simp only [normalizeObserverSource, s1, s2, ok_bind]

theorem normalizeFailure_stable : Stable normalizeFailure := by
  intro input result h
  obtain ⟨_, h1, lastOutput, h2, h⟩ := bind_ok₂ h
  cases h
  have s2 := optionalText_stable _ _ _ h2
  dsimp only at s2
  simp only [normalizeFailure, refuse_of_not (refuse_ok h1), s2, ok_bind]

/-! ## Checks of a normalized payload -/

theorem given_iff {p : Prop} [Decidable p] {check : Except String Unit} :
    given p check = .ok () ↔ (p → check = .ok ()) := by
  unfold given
  split_ifs with hp
  · exact ⟨fun h _ => h, fun h => h hp⟩
  · exact ⟨fun _ h => absurd h hp, fun _ => rfl⟩

theorem checkIdentityOf_ne_none {value : Option String} {label : String}
    (h : checkIdentityOf value label = .ok ()) : value ≠ none := by
  rintro rfl
  cases h

theorem checkIdentityOf_normal {value result : Option String} {label : String}
    (h : optionalIdentity value label = .ok result) (hcheck : checkIdentityOf value label = .ok ()) :
    checkIdentityOf result label = .ok () := by
  have hfixed := optionalIdentity_stable label value result h
  cases result with
  | none => exact absurd ((onSome_none_iff h).1 rfl) (checkIdentityOf_ne_none hcheck)
  | some identity =>
    obtain ⟨again, hagain, -⟩ := bind_ok hfixed
    simp only [checkIdentityOf, hagain, ok_bind]

section Payload

variable {kind : RuntimeObservationKind} {input result : RuntimeObservationPayload}

theorem checkActivity_normal (h : checkActivity kind input = .ok ())
    (halive : result.alive = input.alive) (hreason : result.reason = input.reason)
    (hoperation : result.operation = input.operation) (hactivity : result.activity = input.activity)
    (hstatus : result.observerStatus = input.observerStatus)
    (husage : result.usage = input.usage.map withSemantics)
    (hwait : optionalIdentity input.waitId "Runtime wait id" = .ok result.waitId)
    (hoperationId : optionalIdentity input.operationId "Runtime operation id" = .ok result.operationId)
    (hsourceId : optionalIdentity input.sourceId "Runtime observer source id" =
      .ok result.sourceId) : checkActivity kind result = .ok () := by
  unfold checkActivity at h
  obtain ⟨_, h1, _, h2, _, h3, _, h4, h⟩ := bind_ok₄ h
  obtain ⟨_, h5, _, h6, _, h7, _, h8, h9⟩ := bind_ok₄ h
  have s3 : given (kind = .turnWaiting) (checkIdentityOf result.waitId "Runtime wait id") = .ok () :=
    given_iff.2 fun hkind => checkIdentityOf_normal hwait (given_iff.1 h3 hkind)
  have s4 : given (kind.isOperation = true)
      (checkIdentityOf result.operationId "Runtime operation id") = .ok () :=
    given_iff.2 fun hkind => checkIdentityOf_normal hoperationId (given_iff.1 h4 hkind)
  have s7 : given (kind = .activityObserved) (whenPresent result.usage validateUsage) = .ok () := by
    apply given_iff.2
    intro hkind
    have hbefore := given_iff.1 h7 hkind
    rw [husage]
    cases hinput : input.usage with
    | none => rfl
    | some usage =>
      rw [hinput] at hbefore
      exact hbefore
  have s8 : given (kind = .observerHealth)
      (checkIdentityOf result.sourceId "Runtime observer source id") = .ok () :=
    given_iff.2 fun hkind => checkIdentityOf_normal hsourceId (given_iff.1 h8 hkind)
  simp only [checkActivity, halive, hreason, hoperation, hactivity, hstatus, h1, h2, s3, s4, h5, h6,
    s7, s8, h9, ok_bind]

theorem checkGoal_normal [JsHost] (h : checkGoal input = .ok ())
    (hstatus : result.goalStatus = input.goalStatus)
    (hobjective : optionalText input.goalObjective "Provider Goal objective" =
      .ok result.goalObjective)
    (hupdated : onSome (fun value => requireTimestamp value "Provider Goal updatedAt")
      input.goalUpdatedAt = .ok result.goalUpdatedAt)
    (hbudget : result.goalTokenBudget = input.goalTokenBudget) : checkGoal result = .ok () := by
  unfold checkGoal at h
  obtain ⟨_, h1, _, h2, _, h3, _, h4, h5⟩ := bind_ok₄ h
  have s2 : ¬(result.goalObjective = none ∨ result.goalUpdatedAt = none) := by
    rw [onSome_none_iff hobjective, onSome_none_iff hupdated]
    exact refuse_ok h2
  have s3 : whenPresent result.goalObjective (fun value => do
      let _ ← requireText value "Provider Goal objective"
      .ok ()) = .ok () := by
    have hfixed := optionalText_stable _ _ _ hobjective
    cases hresult : result.goalObjective with
    | none => rfl
    | some text =>
      dsimp only at hfixed
      rw [hresult] at hfixed
      obtain ⟨again, hagain, -⟩ := bind_ok hfixed
      simp only [whenPresent, hagain, ok_bind]
  have s4 : whenPresent result.goalUpdatedAt (fun value => do
      let _ ← requireTimestamp value "Provider Goal updatedAt"
      .ok ()) = .ok () := by
    have hfixed := (requireTimestamp_stable "Provider Goal updatedAt").onSome _ _ hupdated
    cases hresult : result.goalUpdatedAt with
    | none => rfl
    | some text =>
      rw [hresult] at hfixed
      obtain ⟨again, hagain, -⟩ := bind_ok hfixed
      simp only [whenPresent, hagain, ok_bind]
  simp only [checkGoal, hstatus, hbudget, h1, refuse_of_not s2, s3, s4, h5, ok_bind]

theorem checkContinuation_normal (h : checkContinuation kind input = .ok ())
    (hexecution : result.execution = input.execution) (houtcome : result.outcome = input.outcome)
    (hattachment : result.attachment = input.attachment)
    (hquality : result.observationQuality = input.observationQuality)
    (hwrite : result.mayWriteWorkspace = input.mayWriteWorkspace)
    (hreport : optionalIdentity input.reportId "Provider report id" = .ok result.reportId) :
    checkContinuation kind result = .ok () := by
  unfold checkContinuation at h
  obtain ⟨_, h1, _, h2, _, h3, _, h4, h⟩ := bind_ok₄ h
  obtain ⟨_, h5, _, h6, h7⟩ := bind_ok₂ h
  have s6 : given (kind = .continuationReported)
      (checkIdentityOf result.reportId "Provider report id") = .ok () :=
    given_iff.2 fun hkind => checkIdentityOf_normal hreport (given_iff.1 h6 hkind)
  simp only [checkContinuation, hexecution, houtcome, hattachment, hquality, hwrite, h1, h2, h3, h4,
    h5, s6, h7, ok_bind]

/-- What the checks of the evidence read of a payload, before and after it is normalized. -/
structure Normal [JsHost] (input result : RuntimeObservationPayload) : Prop where
  activityId : result.activityId = none ↔ input.activityId = none
  failure : result.failure = none ↔ input.failure = none
  diagnostic : result.resultTransportDiagnostic = none ↔ input.resultTransportDiagnostic = none
  output : result.output = none ↔ input.output = none
  recoverability : result.recoverability = input.recoverability
  snapshot : result.snapshotComplete = input.snapshotComplete
  quality : result.observationQuality = input.observationQuality
  goal : checkGoal input = .ok () → checkGoal result = .ok ()
  continuation : ∀ kind, checkContinuation kind input = .ok () → checkContinuation kind result = .ok ()

theorem checkEvidence_normal [JsHost] {cost : Option RuntimeCostSnapshot}
    (h : checkEvidence kind input cost = .ok ()) (hnormal : Normal input result) :
    checkEvidence kind result cost = .ok () := by
  unfold checkEvidence at h
  obtain ⟨_, h1, _, h2, _, h3, _, h4, h⟩ := bind_ok₄ h
  obtain ⟨_, h5, _, h6, _, h7, _, h8, h9⟩ := bind_ok₄ h
  have s1 : ¬∃ known ∈ cost, kind ≠ .activityObserved ∨
      known.semantics = .request ∧ result.activityId = none := by
    rw [hnormal.activityId]
    exact refuse_ok h1
  have s2 : ¬(kind = .turnFailed ∧ result.failure = none) := by
    rw [hnormal.failure]
    exact refuse_ok h2
  have s3 : ¬(result.resultTransportDiagnostic ≠ none ∧ kind ≠ .turnCompleted) := by
    rw [ne_eq, hnormal.diagnostic]
    exact refuse_ok h3
  have s4 : ¬(result.output ≠ none ∧ result.resultTransportDiagnostic ≠ none) := by
    rw [ne_eq, ne_eq, hnormal.output, hnormal.diagnostic]
    exact refuse_ok h4
  have s6 : given (kind = .goalUpdated) (checkGoal result) = .ok () :=
    given_iff.2 fun hkind => hnormal.goal (given_iff.1 h6 hkind)
  have s9 : given (kind.isContinuation = true) (checkContinuation kind result) = .ok () :=
    given_iff.2 fun hkind => hnormal.continuation kind (given_iff.1 h9 hkind)
  simp only [checkEvidence, refuse_of_not s1, refuse_of_not s2, refuse_of_not s3, refuse_of_not s4,
    hnormal.recoverability, hnormal.snapshot, hnormal.quality, h5, s6, h7, h8, s9, ok_bind]

theorem normalizePayload_stable [JsHost] (kind : RuntimeObservationKind) : Stable (normalizePayload kind) := by
  intro input result h
  unfold normalizePayload at h
  obtain ⟨_, hactivity, observerSource, h1, cost, h2, _, hevidence, h⟩ := bind_ok₄ h
  obtain ⟨failure, h3, waitId, h4, operationId, h5, activityId, h6, h⟩ := bind_ok₄ h
  obtain ⟨sourceId, h7, observerDetail, h8, visible, h9, output, h10, h⟩ := bind_ok₄ h
  obtain ⟨diagnostic, h11, summary, h12, resultRef, h13, reportId, h14, h⟩ := bind_ok₄ h
  obtain ⟨providerDeliveryRef, h15, goalObjective, h16, goalUpdatedAt, h17, h⟩ := bind_ok₃ h
  obtain ⟨goalNativeTurnId, h18, h⟩ := bind_ok h
  have hresult := Except.ok.inj h
  have s1 : onSome normalizeObserverSource result.observerSource = .ok result.observerSource := by
    rw [← hresult]
    exact normalizeObserverSource_stable.onSome _ _ h1
  have s2 : onSome normalizeCost result.cost = .ok result.cost := by
    rw [← hresult]
    exact normalizeCost_stable.onSome _ _ h2
  have s3 : onSome normalizeFailure result.failure = .ok result.failure := by
    rw [← hresult]
    exact normalizeFailure_stable.onSome _ _ h3
  have s4 : optionalIdentity result.waitId "Runtime wait id" = .ok result.waitId := by
    rw [← hresult]
    exact optionalIdentity_stable _ _ _ h4
  have s5 : optionalIdentity result.operationId "Runtime operation id" =
      .ok result.operationId := by
    rw [← hresult]
    exact optionalIdentity_stable _ _ _ h5
  have s6 : optionalIdentity result.activityId "Runtime activity id" = .ok result.activityId := by
    rw [← hresult]
    exact optionalIdentity_stable _ _ _ h6
  have s7 : optionalIdentity result.sourceId "Runtime observer source id" =
      .ok result.sourceId := by
    rw [← hresult]
    exact optionalIdentity_stable _ _ _ h7
  have s8 : optionalText result.observerDetail "Runtime observer detail" =
      .ok result.observerDetail := by
    rw [← hresult]
    exact optionalText_stable _ _ _ h8
  have s9 : optionalText result.input "Provider-visible input" = .ok result.input := by
    rw [← hresult]
    exact optionalText_stable _ _ _ h9
  have s10 : onSome (fun value => requireResultText value "Runtime AgentRun output") result.output =
      .ok result.output := by
    rw [← hresult]
    exact (requireResultText_stable "Runtime AgentRun output").onSome _ _ h10
  have s11 : optionalText result.resultTransportDiagnostic "Runtime AgentRun result diagnostic" =
      .ok result.resultTransportDiagnostic := by
    rw [← hresult]
    exact optionalText_stable _ _ _ h11
  have s12 : optionalText result.summary "Runtime summary" = .ok result.summary := by
    rw [← hresult]
    exact optionalText_stable _ _ _ h12
  have s13 : optionalIdentity result.resultRef "Provider result ref" = .ok result.resultRef := by
    rw [← hresult]
    exact optionalIdentity_stable _ _ _ h13
  have s14 : optionalIdentity result.reportId "Provider report id" = .ok result.reportId := by
    rw [← hresult]
    exact optionalIdentity_stable _ _ _ h14
  have s15 : optionalIdentity result.providerDeliveryRef "Provider delivery ref" =
      .ok result.providerDeliveryRef := by
    rw [← hresult]
    exact optionalIdentity_stable _ _ _ h15
  have s16 : optionalText result.goalObjective "Provider Goal objective" =
      .ok result.goalObjective := by
    rw [← hresult]
    exact optionalText_stable _ _ _ h16
  have s17 : onSome (fun value => requireTimestamp value "Provider Goal updatedAt") result.goalUpdatedAt =
      .ok result.goalUpdatedAt := by
    rw [← hresult]
    exact (requireTimestamp_stable "Provider Goal updatedAt").onSome _ _ h17
  have s18 : optionalIdentity result.goalNativeTurnId "Provider Goal native Turn id" =
      .ok result.goalNativeTurnId := by
    rw [← hresult]
    exact optionalIdentity_stable _ _ _ h18
  have susage : result.usage.map withSemantics = result.usage := by
    rw [← hresult]
    cases input.usage with
    | none => rfl
    | some usage => rfl
  have sactivity : checkActivity kind result = .ok () := by
    rw [← hresult]
    exact checkActivity_normal hactivity rfl rfl rfl rfl rfl rfl h4 h5 h7
  have sevidence : checkEvidence kind result result.cost = .ok () := by
    rw [← hresult]
    apply checkEvidence_normal hevidence
    exact ⟨onSome_none_iff h6, onSome_none_iff h3, onSome_none_iff h11, onSome_none_iff h10, rfl, rfl,
      rfl, fun hgoal => checkGoal_normal hgoal rfl h16 h17 rfl,
      fun _ hcontinuation => checkContinuation_normal hcontinuation rfl rfl rfl rfl rfl h14⟩
  simp only [normalizePayload, sactivity, s1, s2, sevidence, s3, s4, s5, s6, s7, s8, s9, s10, s11, s12,
    s13, s14, s15, s16, s17, s18, susage, ok_bind]

end Payload

theorem receiptId_none_iff {input result : RuntimeObservationFence}
    (h : normalizeFence input = .ok result) : result.receiptId = none ↔ input.receiptId = none := by
  unfold normalizeFence at h
  iterate 7 obtain ⟨_, -, h⟩ := bind_ok h
  obtain ⟨receiptId, hreceipt, h⟩ := bind_ok h
  iterate 3 obtain ⟨_, -, h⟩ := bind_ok h
  cases h
  exact onSome_none_iff hreceipt

theorem checkAuthority_normal {input result : RuntimeObservation} (h : checkAuthority input = .ok ())
    (hversion : result.schemaVersion = input.schemaVersion) (hkind : result.kind = input.kind)
    (hauthority : result.authority = input.authority)
    (hfence : normalizeFence input.fence = .ok result.fence) : checkAuthority result = .ok () := by
  unfold checkAuthority at h ⊢
  rw [hversion, hkind, hauthority]
  simp only [ne_eq, receiptId_none_iff hfence] at h ⊢
  exact h

theorem createRuntimeObservation_stable [JsHost] : Stable createRuntimeObservation := by
  intro input result h
  unfold createRuntimeObservation at h
  obtain ⟨_, hauthority, fence, hfence, _, hscope, payload, hpayload, h⟩ := bind_ok₄ h
  obtain ⟨_, hsequence, _, hordinal, eventId, h1, semanticKey, h2, h⟩ := bind_ok₄ h
  obtain ⟨receivedAt, h3, observedAt, h4, h⟩ := bind_ok₂ h
  have hresult := Except.ok.inj h
  have sfence : normalizeFence result.fence = .ok result.fence := by
    rw [← hresult]
    exact normalizeFence_stable _ _ hfence
  have spayload : normalizePayload result.kind result.payload = .ok result.payload := by
    rw [← hresult]
    exact normalizePayload_stable _ _ _ hpayload
  have sscope : checkScope result.kind result.fence = .ok () := by
    rw [← hresult]
    exact hscope
  have sauthority : checkAuthority result = .ok () := by
    rw [← hresult]
    exact checkAuthority_normal hauthority rfl rfl rfl hfence
  have ssequence : refuse (result.sequence.all (JsNumeric.isSafeFrom 0) = false)
      "Runtime observation sequence must be a non-negative safe integer." = .ok () := by
    rw [← hresult]
    exact hsequence
  have sordinal : refuse (result.ordinal.all (JsNumeric.isSafeFrom 0) = false)
      "Runtime observation ordinal must be a non-negative safe integer." = .ok () := by
    rw [← hresult]
    exact hordinal
  have s1 : requireIdentity result.eventId "Runtime observation event id" = .ok result.eventId := by
    rw [← hresult]
    exact requireIdentity_stable _ _ _ h1
  have s2 : requireIdentity result.semanticKey "Runtime observation semantic key" =
      .ok result.semanticKey := by
    rw [← hresult]
    exact requireIdentity_stable _ _ _ h2
  have s3 : requireTimestamp result.receivedAt "Runtime observation receivedAt" =
      .ok result.receivedAt := by
    rw [← hresult]
    exact requireTimestamp_stable _ _ _ h3
  have s4 : onSome (fun value => requireTimestamp value "Runtime observation observedAt")
      result.observedAt = .ok result.observedAt := by
    rw [← hresult]
    exact (requireTimestamp_stable "Runtime observation observedAt").onSome _ _ h4
  simp only [createRuntimeObservation, sauthority, sfence, sscope, spayload, ssequence, sordinal, s1, s2,
    s3, s4, ok_bind]

end Runtime
