import Yui.CompletionReadiness

/-!
# Next action and completion

The next action is to complete the Task exactly when no branch before has anything to say. What the branches pass
over and completion does not are blocked Integration attempts and Task-final Rounds that are not the last one.
-/

open GitIntegration

namespace TaskProtocol

section First

variable {branches : List Branch} {last : Except String NextAction} {action : NextAction}

theorem firstAction_silent (h : ∀ branch ∈ branches, branch = .ok none) : firstAction branches last = last := by
  induction branches with
  | nil => rfl
  | cons branch later ih =>
    rw [h branch List.mem_cons_self]
    exact ih fun other hother => h other (List.mem_cons_of_mem _ hother)

theorem silent_of_complete (hkind : ∀ branch ∈ branches, ∀ other, branch = .ok (some other) → other.kind ≠ .completeTask)
    (h : firstAction branches last = .ok action) (hcomplete : action.kind = .completeTask) :
    ∀ branch ∈ branches, branch = .ok none := by
  induction branches with
  | nil => simp
  | cons branch later ih =>
    have hfirst := hkind branch List.mem_cons_self
    have hlater := fun other hother => hkind other (List.mem_cons_of_mem _ hother)
    match branch with
    | .error failure => cases h
    | .ok (some other) =>
      cases h
      exact absurd hcomplete (hfirst action rfl)
    | .ok none =>
      intro other hother
      obtain rfl | hother := List.mem_cons.1 hother
      · rfl
      · exact ih hlater h other hother

end First

variable {facts : NextActionFacts}

section Kinds

/-- The branch never says that the Task is to be completed. -/
def Defers (branch : Branch) : Prop := ∀ action, branch = .ok (some action) → action.kind ≠ .completeTask

theorem defers_map {α : Type} {found : Option α} {act : α → NextAction} (h : ∀ a, (act a).kind ≠ .completeTask) :
    Defers (.ok (found.map act)) := by
  intro action heq
  obtain ⟨a, -, rfl⟩ := Option.map_eq_some_iff.1 (Except.ok.inj heq)
  exact h a

theorem idleRoundAction_kind (texts : RoundTexts) (round : ReviewRound) :
    (idleRoundAction facts texts round).kind ≠ .completeTask := by
  unfold idleRoundAction
  split
  · simp [synthesisSelectionAction]
  · split <;> simp [roundRepair]

theorem activeRoundAction_kind {texts : RoundTexts} (h : ∀ run, (texts.waiting run).kind ≠ .completeTask)
    (round : ReviewRound) : (activeRoundAction facts texts round).kind ≠ .completeTask := by
  unfold activeRoundAction
  split
  · unfold runningRoundAction
    split
    · simp [roundRepair]
    · split
      · exact idleRoundAction_kind texts round
      · exact h _
  · unfold pendingRoundAction
    split <;> simp [roundRepair]

theorem candidateBranch_defers : Defers (candidateBranch facts) := by
  intro action h
  unfold candidateBranch at h
  split at h
  · cases h
  · rename_i item hfound
    obtain ⟨found, hitem, heq⟩ : ∃ found, candidateAction facts item = .ok found ∧ found = action := by
      cases hitem : candidateAction facts item with
      | error failure =>
        rw [hitem] at h
        cases h
      | ok found =>
        rw [hitem] at h
        cases h
        exact ⟨action, rfl, rfl⟩
    subst heq
    simp only [candidateAction] at hitem
    split at hitem
    · cases hitem
      exact activeRoundAction_kind (fun run => by simp [candidateRoundTexts]) _
    · cases hdeliveries : governingWorkItemDeliveries [item] with
      | error failure => simp [hdeliveries, bind, Except.bind] at hitem
      | ok deliveries =>
        simp only [hdeliveries, bind, Except.bind] at hitem
        split at hitem <;> cases hitem <;> simp [integrateAction, dispositionAction]

theorem openWorkBranch_defers : Defers (openWorkBranch facts) := by
  intro action h
  unfold openWorkBranch at h
  split at h
  · cases h
  · cases h
    unfold blockedAction
    split <;> simp [dependencyRepair]
  · cases h
    unfold readyAction
    split
    · simp [implementAction]
    · split <;> simp [synthesisSelectionAction, implementAction]

theorem draftBranch_defers : Defers (draftBranch facts) := by
  intro action h
  unfold draftBranch at h
  split at h
  · cases h
    unfold draftAction
    split <;> simp [dependencyRepair]
  · cases h

theorem checkingBranch_defers : Defers (checkingBranch facts) := by
  intro action h
  obtain ⟨attempt, -, hattempt⟩ := List.exists_of_findSome?_eq_some (Except.ok.inj h)
  split at hattempt
  · obtain ⟨jobId, -, rfl⟩ := Option.map_eq_some_iff.1 hattempt
    simp only [checkingAction]
    split
    · simp
    · split <;> simp
  · cases hattempt

theorem advanceBranch_defers : Defers (advanceBranch facts) := by
  intro action h
  unfold advanceBranch at h
  split at h
  · cases hcontract : taskFinalReviewContract facts with
    | error failure => simp [hcontract, bind, Except.bind] at h
    | ok contract =>
      simp only [hcontract, bind, Except.bind] at h
      split at h
      · cases h
        simp [advanceAction]
      · cases h
  · cases h

theorem unintegratedBranch_defers : Defers (unintegratedBranch facts) := by
  intro action h
  unfold unintegratedBranch at h
  cases hdeliveries : governingWorkItemDeliveries facts.workItems with
  | error failure => simp [hdeliveries, bind, Except.bind] at h
  | ok deliveries =>
    simp only [hdeliveries, bind, Except.bind] at h
    exact defers_map (fun delivery => by simp [integrateAction]) action h

theorem defers_final {branch : Option TaskFinalReviewContract × Option ReviewRound → Branch}
    (h : ∀ found, Defers (branch found)) : Defers (finalReview facts >>= branch) := by
  intro action heq
  cases hfinal : finalReview facts with
  | error failure =>
    rw [hfinal] at heq
    cases heq
  | ok found =>
    rw [hfinal] at heq
    exact h found action heq

theorem failedFinalBranch_defers : Defers (failedFinalBranch facts) := by
  refine defers_final ?_
  rintro ⟨contract, final⟩ action h
  cases final with
  | none => cases h
  | some round =>
    dsimp only at h
    split at h
    · cases h
      simp [failedFinalAction]
    · cases h

theorem unprovenFinalBranch_defers : Defers (unprovenFinalBranch facts) := by
  refine defers_final ?_
  rintro ⟨contract, final⟩ action h
  cases final with
  | none => cases h
  | some round =>
    dsimp only at h
    split at h
    · cases h
      simp [roundRepair]
    · cases h

theorem activeFinalBranch_defers : Defers (activeFinalBranch facts) := by
  refine defers_final ?_
  rintro ⟨contract, final⟩ action h
  cases final with
  | none => cases h
  | some round =>
    dsimp only at h
    split at h
    · cases h
      exact activeRoundAction_kind (fun run => by simp [finalRoundTexts]) round
    · cases h

theorem requestFinalBranch_defers : Defers (requestFinalBranch facts) := by
  refine defers_final ?_
  rintro ⟨contract, final⟩ action h
  dsimp only at h
  split at h
  · cases h
    unfold requestFinalAction
    split <;> simp
  · cases h

theorem branches_defer : ∀ branch ∈ branches facts, Defers branch := by
  simp only [branches, List.forall_mem_cons, List.not_mem_nil, false_implies, implies_true, and_true]
  refine ⟨?_, defers_map (by simp), defers_map (by simp), defers_map (by simp), defers_map (by simp),
    draftBranch_defers, defers_map (by simp), checkingBranch_defers, defers_map (by simp), candidateBranch_defers,
    ?_, openWorkBranch_defers, advanceBranch_defers, unintegratedBranch_defers, failedFinalBranch_defers,
    unprovenFinalBranch_defers, activeFinalBranch_defers, requestFinalBranch_defers⟩
  · intro action h
    unfold stoppedBranch at h
    split at h <;> cases h
    simp
  · intro action h
    unfold delegatedBranch at h
    split at h <;> cases h
    simp

end Kinds

section Silent

/-- The Task-final Round that decides leaves nothing to do. -/
structure FinalSettled (facts : NextActionFacts) (contract : Option TaskFinalReviewContract)
    (final : Option ReviewRound) : Prop where
  round : ∀ round, final = some round → round.status.unfinished = false ∧
    (contract.isSome = true → round.status ≠ .failed ∧
      (round.status = .completed → isCompletedTaskReviewEvidenceFromRuns round facts.reviewOutcomeRuns = true))
  valid : facts.task.projectBindings ≠ [] → contract.isSome = true → hasValidFinalReview facts final = true

/-- The records hold nothing that is reported before completion. -/
structure NothingFirst (facts : NextActionFacts) : Prop where
  input : facts.openInputRequests = []
  consistent : detectProtocolInconsistency facts = none
  lanes : laneRetries facts.executionGroups = []
  leader : ∀ run ∈ facts.activeRuns, run.roleName ≠ "leader"
  conflicted : ∀ attempt ∈ facts.integrations, attempt.status ≠ .conflicted
  unfinished : ∀ attempt ∈ facts.integrations, ¬ (attempt.status = .running ∨ attempt.status = .validating)
  delegated : delegatedRuns facts = []
  work : ∀ item ∈ facts.workItems, item.status ≠ .open
  advanced : deliveryWorkItems facts = [] → ∀ contract, taskFinalReviewContract facts = .ok contract →
    contract.isSome = true ∨ facts.reviewRounds.any unfinishedTaskRound = true
  integrated : ∃ deliveries, governingWorkItemDeliveries facts.workItems = .ok deliveries ∧
    ∀ delivery ∈ deliveries, workItemDeliverySettled delivery facts.integrations = true
  final : ∀ contract, taskFinalReviewContract facts = .ok contract →
    FinalSettled facts contract (latestTaskFinalReview facts.reviewRounds contract)

theorem NothingFirst.contract (h : NothingFirst facts) : ∃ contract, taskFinalReviewContract facts = .ok contract := by
  have hconsistent := h.consistent
  unfold detectProtocolInconsistency at hconsistent
  split at hconsistent
  · cases hconsistent
  · rename_i contract hcontract
    exact ⟨contract, hcontract⟩

theorem followBlocked_ne_none (workItems : List WorkItem) (visited : List String) (current : WorkItem)
    (hmem : current ∈ workItems) : followBlocked workItems visited current hmem ≠ .none := by
  fun_induction followBlocked workItems visited current hmem with
  | case1 => simp
  | case2 => simp
  | case3 => simp
  | case4 _ _ _ _ _ _ _ _ _ ih => exact ih
  | case5 => simp

theorem selectOpenWorkItem_none_iff (workItems : List WorkItem) :
    selectOpenWorkItem workItems = .none ↔ ∀ item ∈ workItems, item.status ≠ .open := by
  have hfilter : (workItems.filter fun item => item.status = .open) = [] ↔
      ∀ item ∈ workItems, item.status ≠ .open := by simp [List.filter_eq_nil_iff]
  rw [← hfilter]
  unfold selectOpenWorkItem
  split
  · rename_i hopen
    simp [hopen]
  · rename_i first others hopen
    refine iff_of_false ?_ (by simp [hopen])
    split
    · simp
    · exact followBlocked_ne_none _ _ _ _

theorem openWorkBranch_silent_iff :
    openWorkBranch facts = .ok none ↔ ∀ item ∈ facts.workItems, item.status ≠ .open := by
  rw [← selectOpenWorkItem_none_iff]
  unfold openWorkBranch
  split <;> simp_all

theorem candidateBranch_silent (h : ∀ item ∈ facts.workItems, item.status ≠ .open) :
    candidateBranch facts = .ok none := by
  have hnone : (facts.workItems.find? fun item =>
      decide (item.status = .open) && item.currentCandidateId.isSome) = none := by
    rw [List.find?_eq_none]
    intro item hitem
    simp [h item hitem]
  unfold candidateBranch
  rw [hnone]

theorem checkingBranch_silent
    (h : ∀ attempt ∈ facts.integrations, ¬ (attempt.status = .running ∨ attempt.status = .validating)) :
    checkingBranch facts = .ok none := by
  unfold checkingBranch
  rw [List.findSome?_eq_none_iff.2]
  intro attempt hattempt
  rw [if_neg fun hrunning => h attempt hattempt (.inl hrunning)]

theorem advanceBranch_silent_iff {contract : Option TaskFinalReviewContract}
    (hcontract : taskFinalReviewContract facts = .ok contract) : advanceBranch facts = .ok none ↔
      (deliveryWorkItems facts = [] → contract.isSome = true ∨ facts.reviewRounds.any unfinishedTaskRound = true) := by
  unfold advanceBranch
  split
  · rename_i hempty
    simp only [hcontract, bind, Except.bind, hempty, true_imp_iff]
    cases contract <;> cases facts.reviewRounds.any unfinishedTaskRound <;> simp [pure, Except.pure]
  · rename_i hsome
    simp [hsome]

theorem unintegratedBranch_silent_iff :
    unintegratedBranch facts = .ok none ↔ ∃ deliveries, governingWorkItemDeliveries facts.workItems = .ok deliveries ∧
      ∀ delivery ∈ deliveries, workItemDeliverySettled delivery facts.integrations = true := by
  unfold unintegratedBranch
  cases governingWorkItemDeliveries facts.workItems with
  | error failure => simp [bind, Except.bind]
  | ok deliveries => simp [bind, Except.bind, pure, Except.pure, firstUnintegrated, List.find?_eq_none]

theorem silent_ite_iff {p : Prop} [Decidable p] {action : NextAction} :
    (if p then pure (some action) else pure none : Branch) = .ok none ↔ ¬ p := by
  split
  · rename_i hp
    simp [pure, Except.pure, hp]
  · rename_i hp
    simp [pure, Except.pure, hp]

theorem finalBranches_silent_iff {contract : Option TaskFinalReviewContract}
    (hcontract : taskFinalReviewContract facts = .ok contract) :
    (failedFinalBranch facts = .ok none ∧ unprovenFinalBranch facts = .ok none ∧ activeFinalBranch facts = .ok none ∧
      requestFinalBranch facts = .ok none) ↔
    FinalSettled facts contract (latestTaskFinalReview facts.reviewRounds contract) := by
  have hfinal : finalReview facts = .ok (contract, latestTaskFinalReview facts.reviewRounds contract) := by
    simp [finalReview, hcontract, bind, Except.bind, pure, Except.pure]
  simp only [failedFinalBranch, unprovenFinalBranch, activeFinalBranch, requestFinalBranch, hfinal, bind, Except.bind]
  generalize latestTaskFinalReview facts.reviewRounds contract = final
  cases final with
  | none =>
    simp only [silent_ite_iff]
    constructor
    · rintro ⟨-, -, -, hrequest⟩
      refine ⟨by simp, fun hbound hsome => ?_⟩
      simpa using fun hvalid => hrequest ⟨hbound, hsome, hvalid⟩
    · intro h
      refine ⟨rfl, rfl, rfl, ?_⟩
      rintro ⟨hbound, hsome, hvalid⟩
      exact absurd (h.valid hbound hsome) (by simp [hvalid])
  | some round =>
    simp only [silent_ite_iff]
    constructor
    · rintro ⟨hfailed, hunproven, hactive, hrequest⟩
      refine ⟨?_, fun hbound hsome => ?_⟩
      · intro found heq
        cases heq
        refine ⟨by simpa using hactive, fun hsome => ⟨?_, ?_⟩⟩
        · simpa [hsome] using hfailed
        · intro hcompleted
          simpa [hsome, hcompleted] using hunproven
      · simpa using fun hvalid => hrequest ⟨hbound, hsome, hvalid⟩
    · intro h
      obtain ⟨hactive, hsettled⟩ := h.round round rfl
      refine ⟨?_, ?_, by simp [hactive], ?_⟩
      · cases hsome : contract.isSome
        · simp
        · simpa using (hsettled hsome).1
      · cases hsome : contract.isSome
        · simp
        · intro hunproven
          simp only [Bool.and_eq_true, Bool.not_eq_true', decide_eq_true_eq, true_and] at hunproven
          exact absurd ((hsettled hsome).2 hunproven.1) (by simp [hunproven.2])
      · rintro ⟨hbound, hsome, hvalid⟩
        exact absurd (h.valid hbound hsome) (by simp [hvalid])

theorem branches_silent_iff (hactive : facts.task.status = .active) (hrunning : facts.task.stopped = false) :
    (∀ branch ∈ branches facts, branch = .ok none) ↔ NothingFirst facts := by
  have hstopped : stoppedBranch facts = .ok none := by simp [stoppedBranch, hrunning]
  have hdraft : draftBranch facts = .ok none := by simp [draftBranch, hactive]
  have hinput : inputBranch facts = .ok none ↔ facts.openInputRequests = [] := by simp [inputBranch]
  have hconsistent : inconsistencyBranch facts = .ok none ↔ detectProtocolInconsistency facts = none := by
    simp [inconsistencyBranch]
  have hlanes : laneRecoveryBranch facts = .ok none ↔ laneRetries facts.executionGroups = [] := by
    simp [laneRecoveryBranch]
  have hleader : leaderBranch facts = .ok none ↔ ∀ run ∈ facts.activeRuns, run.roleName ≠ "leader" := by
    simp [leaderBranch, List.find?_eq_none]
  have hconflicted : conflictedBranch facts = .ok none ↔
      ∀ attempt ∈ facts.integrations, attempt.status ≠ .conflicted := by
    simp [conflictedBranch, List.find?_eq_none]
  have hunfinished : unfinishedBranch facts = .ok none ↔
      ∀ attempt ∈ facts.integrations, ¬ (attempt.status = .running ∨ attempt.status = .validating) := by
    simp [unfinishedBranch, List.find?_eq_none]
  have hdelegated : delegatedBranch facts = .ok none ↔ delegatedRuns facts = [] := by simp [delegatedBranch]
  simp only [branches, List.forall_mem_cons, List.not_mem_nil, false_implies, implies_true, and_true, hstopped,
    hdraft, hinput, hconsistent, hlanes, hleader, hconflicted, hunfinished, hdelegated, openWorkBranch_silent_iff,
    unintegratedBranch_silent_iff, true_and]
  constructor
  · rintro ⟨hin, hcon, hlan, hlead, hconf, -, hunf, -, hdel, hwork, hadv, hint, hfin⟩
    obtain ⟨contract, hcontract⟩ : ∃ contract, taskFinalReviewContract facts = .ok contract := by
      unfold detectProtocolInconsistency at hcon
      split at hcon
      · cases hcon
      · rename_i contract hcontract
        exact ⟨contract, hcontract⟩
    refine ⟨hin, hcon, hlan, hlead, hconf, hunf, hdel, hwork, ?_, hint, ?_⟩
    · intro hempty found hfound
      obtain rfl : contract = found := Except.ok.inj (hcontract.symm.trans hfound)
      exact (advanceBranch_silent_iff hcontract).1 hadv hempty
    · intro found hfound
      obtain rfl : contract = found := Except.ok.inj (hcontract.symm.trans hfound)
      exact (finalBranches_silent_iff hcontract).1 hfin
  · intro h
    obtain ⟨contract, hcontract⟩ := h.contract
    exact ⟨h.input, h.consistent, h.lanes, h.leader, h.conflicted, checkingBranch_silent h.unfinished, h.unfinished,
      candidateBranch_silent h.work, h.delegated, h.work,
      (advanceBranch_silent_iff hcontract).2 fun hempty => h.advanced hempty contract hcontract, h.integrated,
      (finalBranches_silent_iff hcontract).2 (h.final contract hcontract)⟩

end Silent

/-- What next action and completion both read. -/
def sharedCodes : List CompletionBlockerCode :=
  [.openInputRequest, .incompleteWorkItem, .activeTaskReview, .integrationEvidenceMissing, .unresolvedIntegration]

/-- The Leader is not told to complete a Task that the shared records refuse. -/
def Agrees [Collator] (facts : CompletionReadinessFacts) : Prop :=
  ∀ action, projectNextAction facts.toNextActionFacts = .ok action → action.kind = .completeTask →
    ∃ readiness, projectCompletionReadiness facts = .ok readiness ∧
      ∀ blocker ∈ readiness.blockers, blocker.code ∉ sharedCodes

section Shared

variable {facts : CompletionReadinessFacts}

theorem complete_iff (hactive : facts.task.status = .active) (hrunning : facts.task.stopped = false) :
    (∃ action, projectNextAction facts.toNextActionFacts = .ok action ∧ action.kind = .completeTask) ↔
      NothingFirst facts.toNextActionFacts := by
  have hproject : projectNextAction facts.toNextActionFacts =
      firstAction (branches facts.toNextActionFacts) (completion facts.toNextActionFacts) := by
    simp [projectNextAction, hactive]
  rw [← branches_silent_iff hactive hrunning, hproject]
  constructor
  · rintro ⟨action, haction, hcomplete⟩
    exact silent_of_complete branches_defer haction hcomplete
  · intro h
    obtain ⟨contract, hcontract⟩ := ((branches_silent_iff hactive hrunning).1 h).contract
    rw [firstAction_silent h]
    refine ⟨completeAction facts.toNextActionFacts contract (latestTaskFinalReview facts.reviewRounds contract), ?_, rfl⟩
    simp [completion, finalReview, hcontract, bind, Except.bind, pure, Except.pure]

theorem shared_map_iff {α : Type} {found : List α} {block : α → CompletionBlocker} {code : CompletionBlockerCode}
    (hcode : ∀ a, (block a).code = code) (hshared : code ∈ sharedCodes) :
    (∀ blocker ∈ found.map block, blocker.code ∉ sharedCodes) ↔ found.map block = [] := by
  rw [List.forall_mem_map, List.map_eq_nil_iff, List.eq_nil_iff_forall_not_mem]
  refine forall₂_congr fun a _ => ?_
  simp [hcode a, hshared]

theorem workspaceBlockers_not_shared : ∀ blocker ∈ workspaceBlockers facts, blocker.code ∉ sharedCodes := by
  intro blocker hblocker
  obtain ⟨owner, -, howner⟩ := List.mem_filterMap.1 hblocker
  obtain ⟨disposition, hdisposition, hleft⟩ := Option.bind_eq_some_iff.1 howner
  obtain rfl := Sum.getLeft?_eq_some_iff.1 hleft
  cases owner <;> simp only [workspaceCompletionDisposition, dispose] at hdisposition
  case task => cases hdisposition
  all_goals
    repeat' split at hdisposition
    all_goals cases hdisposition
    all_goals simp [sharedCodes]

theorem shared_blockers_iff [Collator] {deliveries : List WorkItemProjectDelivery}
    (hdeliveries : governingWorkItemDeliveries facts.workItems = .ok deliveries) :
    (∃ readiness, projectCompletionReadiness facts = .ok readiness ∧
      ∀ blocker ∈ readiness.blockers, blocker.code ∉ sharedCodes) ↔
    reviewBlockers facts = [] ∧ inputBlockers facts = [] ∧ workItemBlockers facts = [] ∧
      deliveryBlockers facts deliveries = [] ∧ integrationBlockers facts = [] := by
  have hmessages : ∀ blocker ∈ messageBlockers facts, blocker.code ∉ sharedCodes := by
    simp [messageBlockers, sharedCodes]
  have hjobs : ∀ blocker ∈ jobBlockers facts, blocker.code ∉ sharedCodes := by
    simp only [jobBlockers, List.forall_mem_append, List.forall_mem_map]
    simp [sharedCodes]
  have hreviews : (∀ blocker ∈ reviewBlockers facts, blocker.code ∉ sharedCodes) ↔ reviewBlockers facts = [] :=
    shared_map_iff (fun _ => rfl) (by simp [sharedCodes])
  have hinputs : (∀ blocker ∈ inputBlockers facts, blocker.code ∉ sharedCodes) ↔ inputBlockers facts = [] :=
    shared_map_iff (fun _ => rfl) (by simp [sharedCodes])
  have hitems : (∀ blocker ∈ workItemBlockers facts, blocker.code ∉ sharedCodes) ↔ workItemBlockers facts = [] :=
    shared_map_iff (fun _ => rfl) (by simp [sharedCodes])
  have hmissing : (∀ blocker ∈ deliveryBlockers facts deliveries, blocker.code ∉ sharedCodes) ↔
      deliveryBlockers facts deliveries = [] := shared_map_iff (fun _ => rfl) (by simp [sharedCodes])
  have hattempts : (∀ blocker ∈ integrationBlockers facts, blocker.code ∉ sharedCodes) ↔
      integrationBlockers facts = [] := shared_map_iff (fun _ => rfl) (by simp [sharedCodes])
  have hworkspaces : ∀ blocker ∈ workspaceBlockers facts, blocker.code ∉ sharedCodes := workspaceBlockers_not_shared
  simp only [projectCompletionReadiness, hdeliveries, bind, Except.bind, pure, Except.pure, Except.ok.injEq,
    exists_eq_left', sortBlockers, List.mem_mergeSort, List.forall_mem_append, hreviews, hinputs, hitems, hmissing,
    hattempts, iff_true_intro hmessages, iff_true_intro hjobs, iff_true_intro hworkspaces, true_and, and_true,
    and_assoc]

end Shared

/-- Next action and completion agree exactly when records without anything to report first hold neither a blocked
Integration attempt nor an unfinished Task-final Round. -/
theorem next_action_agrees_iff [Collator] (facts : CompletionReadinessFacts) (hactive : facts.task.status = .active)
    (hrunning : facts.task.stopped = false) : Agrees facts ↔ (NothingFirst facts.toNextActionFacts →
      (∀ attempt ∈ facts.integrations, attempt.status ≠ .blocked) ∧
      ∀ round ∈ facts.reviewRounds, unfinishedTaskRound round = false) := by
  have hagrees : Agrees facts ↔ (NothingFirst facts.toNextActionFacts →
      ∃ readiness, projectCompletionReadiness facts = .ok readiness ∧
        ∀ blocker ∈ readiness.blockers, blocker.code ∉ sharedCodes) := by
    rw [← complete_iff hactive hrunning]
    exact ⟨fun h ⟨action, haction, hcomplete⟩ => h action haction hcomplete,
      fun h action haction hcomplete => h ⟨action, haction, hcomplete⟩⟩
  rw [hagrees]
  refine forall_congr' fun hfirst => ?_
  obtain ⟨deliveries, hdeliveries, hsettled⟩ := hfirst.integrated
  have hinput : inputBlockers facts = [] := by simp [inputBlockers, hfirst.input]
  have hwork : workItemBlockers facts = [] := by
    simp only [workItemBlockers, List.map_eq_nil_iff, List.filter_eq_nil_iff]
    intro item hitem
    have hclosed := hfirst.work item hitem
    cases hstatus : item.status <;> simp_all
  have hdelivered : deliveryBlockers facts deliveries = [] := by
    simp only [deliveryBlockers, List.map_eq_nil_iff, List.filter_eq_nil_iff]
    intro delivery hdelivery
    simp [hsettled delivery hdelivery]
  have hreviews : reviewBlockers facts = [] ↔ ∀ round ∈ facts.reviewRounds, unfinishedTaskRound round = false := by
    simp [reviewBlockers, List.filter_eq_nil_iff]
  have hattempts : integrationBlockers facts = [] ↔ ∀ attempt ∈ facts.integrations, attempt.status ≠ .blocked := by
    simp only [integrationBlockers, List.map_eq_nil_iff, List.filter_eq_nil_iff]
    refine forall₂_congr fun attempt hattempt => ?_
    have hconflicted := hfirst.conflicted attempt hattempt
    have hunfinished := hfirst.unfinished attempt hattempt
    cases hstatus : attempt.status <;> simp_all [integrationAttemptRequiresSettlement]
  rw [shared_blockers_iff hdeliveries, hreviews, hattempts]
  simp only [hinput, hwork, hdelivered, true_and]
  exact and_comm

section Samples

@[reducible] def codeOrder : Collator := ⟨compare, compare⟩

def acceptedItem : WorkItem where
  id := "work-1"
  dependsOn := []
  writeProjectIds := ["project-1"]
  executionGroups := []
  currentExecutionGroupId := none
  assignee := none
  status := .accepted
  candidates := [⟨"candidate-1", none, none, some [⟨"project-1", true, "c0"⟩], some [⟨"project-1", "c1"⟩]⟩]
  acceptedCandidateId := some "candidate-1"
  currentCandidateId := none

def sampleAttempt (id resultCommit : String) (status : AttemptStatus) : IntegrationAttempt where
  id := id
  taskId := "task-1"
  projectId := "project-1"
  targetRef := "refs/heads/main"
  source := .workItem "work-1" "c0" resultCommit .cherryPick
  beforeCommit := "c0"
  afterCommit := none
  summary := none
  checkCommands := []
  rerunChecks := false
  candidateCommit := none
  sourceProgress := none
  checkInputDigest := none
  gatePlanDigest := none
  gateToolchainDigest := none
  jobId := none
  status := status
  conflict := none
  resolution := none
  checks := none

/-- The result of the only WorkItem is delivered. -/
def deliveredFacts (others : List IntegrationAttempt) : CompletionReadinessFacts where
  task := ⟨"task-1", .active, false, ["project-1"]⟩
  workItems := [acceptedItem]
  integrations := sampleAttempt "integration-1" "c1" .committed :: others
  integrationJobs := []
  reviewRounds := []
  reviewConfig := none
  openInputRequests := []
  activeRuns := []
  reviewOutcomeRuns := []
  executionGroups := []
  pendingUserMessages := []
  managedWorkspaces := []
  durableJobs := []
  agentJobs := []

theorem deliveredFacts_complete :
    ∃ action, projectNextAction (deliveredFacts []).toNextActionFacts = .ok action ∧ action.kind = .completeTask :=
  ⟨_, rfl, rfl⟩

theorem next_action_agrees_iff_delivered : @Agrees codeOrder (deliveredFacts []) ∧
    ∃ action, projectNextAction (deliveredFacts []).toNextActionFacts = .ok action ∧ action.kind = .completeTask :=
  ⟨(@next_action_agrees_iff codeOrder (deliveredFacts []) rfl rfl).2 fun _ => ⟨by decide, by simp [deliveredFacts]⟩,
    deliveredFacts_complete⟩

/-- An attempt of another commit of the same item is blocked, and the Leader is told to complete the Task. -/
theorem blocked_integration_overlooked :
    ¬ ∀ (collator : Collator) (facts : CompletionReadinessFacts), facts.task.status = .active →
      facts.task.stopped = false → @Agrees collator facts := by
  intro hall
  have hagrees := hall codeOrder (deliveredFacts [sampleAttempt "integration-2" "c2" .blocked]) rfl rfl
  have hblockers := (@shared_blockers_iff _ codeOrder _ rfl).1 (hagrees _ rfl rfl)
  exact absurd hblockers.2.2.2.2 (by simp [integrationBlockers, deliveredFacts, sampleAttempt,
    integrationAttemptRequiresSettlement])

end Samples

end TaskProtocol
