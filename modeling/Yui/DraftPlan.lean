import Yui.WorkItemSelection

/-!
# Validation of draft plans

The dependencies of the WorkItems of a draft that are not retired must be such WorkItems too, and must not
form a cycle. The depth-first search shares what it has finished across its roots: a WorkItem is finished
after its dependencies, so what is finished lies on no cycle.
-/

open Relation Checked

namespace TaskProtocol

variable {items workItems later : List WorkItem} {all : List String} {id : String} {issue : DependencyIssue}

theorem Finished.acc (h : Finished items all)
    (hpresent : ∀ id dependencyId, Depends items id dependencyId → (byId items dependencyId).isSome = true)
    (hid : id ∈ all) : Acc (flip (Depends items)) id := by
  induction all generalizing id with
  | nil => cases hid
  | cons head earlier ih =>
    obtain rfl | hid := List.mem_cons.1 hid
    · refine Acc.intro id fun dependencyId hdepends => ?_
      have hfound := hpresent id dependencyId hdepends
      obtain ⟨item, hitem, hmem⟩ := hdepends
      exact ih h.2 (h.1 item hitem dependencyId hmem hfound)
    · exact ih h.2 hid

theorem no_cycle_of_acc (h : Acc (flip (Depends items)) id) : ¬ TransGen (Depends items) id id := by
  induction h with
  | intro id _ ih =>
    intro hcycle
    obtain ⟨dependencyId, hdepends, hback⟩ := TransGen.head'_iff.1 hcycle
    exact ih dependencyId hdepends (TransGen.tail' hback hdepends)

/-- Every dependency of a current WorkItem is a current WorkItem. -/
def Resolved (workItems : List WorkItem) : Prop :=
  ∀ item ∈ notRetired workItems, ∀ dependencyId ∈ item.dependsOn,
    ∃ dependency ∈ notRetired workItems, dependency.id = dependencyId

def Acyclic (workItems : List WorkItem) : Prop := ∀ id, ¬ TransGen (Depends (notRetired workItems)) id id

theorem missingDependency_none_iff {item : WorkItem} : missingDependency items item = none ↔
      ∀ dependencyId ∈ item.dependsOn, ∃ dependency ∈ items, dependency.id = dependencyId := by
  simp only [← List.mem_map, ← byId_isSome_iff]
  refine ⟨missingDependency_none, fun h => ?_⟩
  rw [missingDependency, Option.map_eq_none_iff, List.find?_eq_none]
  intro dependencyId hmem
  simpa [Option.isSome_iff_ne_none] using h dependencyId hmem

theorem wellFormed_of_no_issue (hids : (workItems.map WorkItem.id).Nodup)
    (h : draftWorkItemDependencyIssue workItems = none) : Resolved workItems ∧ Acyclic workItems := by
  have hcurrent : ∀ item ∈ notRetired workItems, byId (notRetired workItems) item.id = some item :=
    fun item hitem => byId_of_mem (notRetired_nodup hids) hitem
  obtain ⟨hpresent, hvisit⟩ := Option.or_eq_none_iff.1 h
  have hresolved : Resolved workItems := fun item hitem =>
    missingDependency_none_iff.1 (List.findSome?_eq_none_iff.1 hpresent item hitem)
  refine ⟨hresolved, fun id hcycle => ?_⟩
  obtain ⟨all, hfinished, _, hall⟩ := visitItems_none hvisit trivial hcurrent
  have hfound : ∀ id dependencyId, Depends (notRetired workItems) id dependencyId →
      (byId (notRetired workItems) dependencyId).isSome = true := by
    rintro id dependencyId ⟨item, hitem, hmem⟩
    exact byId_isSome_iff.2 (List.mem_map.2 (hresolved item (byId_mem hitem).1 dependencyId hmem))
  obtain ⟨dependencyId, hdepends, _⟩ := TransGen.head'_iff.1 hcycle
  obtain ⟨item, hitem, _⟩ := hdepends
  obtain ⟨hmem, rfl⟩ := byId_mem hitem
  exact no_cycle_of_acc (hfinished.acc hfound (hall item hmem)) hcycle

/-- What an issue says of its kind: a dependency that is no current WorkItem, or an edge of a cycle. -/
structure Reported (workItems : List WorkItem) (issue : DependencyIssue) : Prop where
  edge : ∃ item ∈ notRetired workItems, item.id = issue.workItemId ∧ issue.dependencyId ∈ item.dependsOn
  missing : issue.kind = .missingOrRetired → ∀ item ∈ notRetired workItems, item.id ≠ issue.dependencyId
  cycle : issue.kind = .cycle → Depends (notRetired workItems) issue.workItemId issue.dependencyId ∧
    ReflTransGen (Depends (notRetired workItems)) issue.dependencyId issue.workItemId

theorem reported_of_issue (hids : (workItems.map WorkItem.id).Nodup)
    (h : draftWorkItemDependencyIssue workItems = some issue) : Reported workItems issue := by
  have hcurrent : ∀ item ∈ notRetired workItems, byId (notRetired workItems) item.id = some item :=
    fun item hitem => byId_of_mem (notRetired_nodup hids) hitem
  obtain hmissing | ⟨_, hvisit⟩ := Option.or_eq_some_iff.1 h
  · obtain ⟨item, hitem, hmissing⟩ := List.exists_of_findSome?_eq_some hmissing
    obtain ⟨hid, hdependency, habsent⟩ := missingDependency_some hmissing
    have hkind : issue.kind = .missingOrRetired := by
      obtain ⟨_, _, rfl⟩ := Option.map_eq_some_iff.1 hmissing
      rfl
    refine ⟨⟨item, hitem, hid.symm, hdependency⟩, fun _ other hother heq => ?_, fun hcycle => ?_⟩
    · exact habsent (List.mem_map.2 ⟨other, hother, heq⟩)
    · rw [hkind] at hcycle
      cases hcycle
  · have hcycle := visitItems_some hvisit hcurrent
    obtain ⟨item, hitem, hdependency⟩ := hcycle.edge
    obtain ⟨hmem, hid⟩ := byId_mem hitem
    refine ⟨⟨item, hmem, hid, hdependency⟩, fun hmissing => ?_, fun _ => ⟨hcycle.edge, hcycle.back⟩⟩
    rw [hcycle.kind] at hmissing
    cases hmissing

/-- A plan has no issue exactly when its current WorkItems depend on current ones and on no cycle, and an
issue names an edge that is wrong in the way that it says. -/
theorem draft_dependency_validation_exact (workItems : List WorkItem) (hids : (workItems.map WorkItem.id).Nodup) :
    (draftWorkItemDependencyIssue workItems = none ↔ Resolved workItems ∧ Acyclic workItems) ∧
      ∀ issue, draftWorkItemDependencyIssue workItems = some issue → Reported workItems issue := by
  refine ⟨⟨wellFormed_of_no_issue hids, fun ⟨hresolved, hacyclic⟩ => ?_⟩, fun issue => reported_of_issue hids⟩
  cases hissue : draftWorkItemDependencyIssue workItems with
  | none => rfl
  | some issue =>
    have hreported := reported_of_issue hids hissue
    cases hkind : issue.kind with
    | missingOrRetired =>
      obtain ⟨item, hitem, _, hdependency⟩ := hreported.edge
      obtain ⟨dependency, hmem, hid⟩ := hresolved item hitem issue.dependencyId hdependency
      exact absurd hid (hreported.missing hkind dependency hmem)
    | cycle =>
      obtain ⟨hdepends, hback⟩ := hreported.cycle hkind
      exact absurd (TransGen.head' hdepends hback) (hacyclic issue.workItemId)

/-- The retired WorkItem of the plan is out of it, and the two open ones depend on each other. -/
theorem draft_dependency_validation_entangled :
    ∃ issue, draftWorkItemDependencyIssue entangledFacts.workItems = some issue ∧
      Reported entangledFacts.workItems issue := by
  obtain ⟨hiff, hreported⟩ := draft_dependency_validation_exact entangledFacts.workItems (by decide)
  have hfirst : Depends (notRetired entangledFacts.workItems) "work-2" "work-3" :=
    ⟨dependentItem "work-2" ["work-3"] .open, by decide, by decide⟩
  have hback : Depends (notRetired entangledFacts.workItems) "work-3" "work-2" :=
    ⟨dependentItem "work-3" ["work-2"] .open, by decide, by decide⟩
  cases hissue : draftWorkItemDependencyIssue entangledFacts.workItems with
  | none => exact absurd ((TransGen.single hfirst).tail hback) ((hiff.1 hissue).2 "work-2")
  | some issue => exact ⟨issue, rfl, hreported issue hissue⟩

/-- The gate of a dispatch names the dependencies that are not accepted. -/
def assertWorkItemDependenciesCompleted (workItems : List WorkItem) (item : WorkItem) : Except String Unit :=
  let unmet := (item.dependsOn.filter fun id => !accepted workItems id).map fun id =>
    id ++ " (" ++ ((byId workItems id).elim "missing" fun dependency => dependency.status.text) ++ ")"
  refuse (unmet ≠ []) ("Work Item dependencies are not completed: " ++ ", ".intercalate unmet ++ ".")

/-- The same WorkItems are current, with the same dependencies. -/
structure SamePlan (workItems later : List WorkItem) : Prop where
  ids : ∀ id, id ∈ (notRetired later).map WorkItem.id ↔ id ∈ (notRetired workItems).map WorkItem.id
  edges : ∀ id dependencyId, Depends (notRetired later) id dependencyId ↔
    Depends (notRetired workItems) id dependencyId

theorem SamePlan.wellFormed (h : SamePlan workItems later) (hlater : (later.map WorkItem.id).Nodup)
    (hplan : Resolved workItems ∧ Acyclic workItems) : Resolved later ∧ Acyclic later := by
  refine ⟨fun item hitem dependencyId hmem => ?_, fun id hcycle => ?_⟩
  · obtain ⟨before, hbefore, hdependency⟩ :=
      (h.edges _ _).1 ⟨item, byId_of_mem (notRetired_nodup hlater) hitem, hmem⟩
    have hcurrent := List.mem_map.2 (hplan.1 before (byId_mem hbefore).1 dependencyId hdependency)
    exact List.mem_map.1 ((h.ids dependencyId).2 hcurrent)
  · exact hplan.2 id (TransGen.mono (fun _ _ => (h.edges _ _).1) _ _ hcycle)

/-- A validated plan that keeps its current WorkItems and edges never blocks the Task: while one is open, one
is selected that the gate lets through. -/
theorem validated_plan_never_blocks (hids : (workItems.map WorkItem.id).Nodup)
    (hissue : draftWorkItemDependencyIssue workItems = none) (hlater : (later.map WorkItem.id).Nodup)
    (hsame : SamePlan workItems later) : (∀ itemId blockedBy, selectOpenWorkItem later ≠ .blocked itemId blockedBy) ∧
      ((∃ item ∈ later, item.status = .open) → ∃ item ∈ later, selectOpenWorkItem later = .ready item ∧
        assertWorkItemDependenciesCompleted later item = .ok ()) := by
  obtain ⟨hresolved, hacyclic⟩ := hsame.wellFormed hlater (wellFormed_of_no_issue hids hissue)
  have hblocked : ∀ itemId blockedBy, selectOpenWorkItem later ≠ .blocked itemId blockedBy := by
    intro itemId blockedBy hselect
    obtain ⟨issue, hissue⟩ := issue_of_blocked hlater hselect
    have hreported := reported_of_issue hlater hissue
    cases hkind : issue.kind with
    | missingOrRetired =>
      obtain ⟨item, hitem, _, hmem⟩ := hreported.edge
      obtain ⟨dependency, hdependency, hid⟩ := hresolved item hitem _ hmem
      exact hreported.missing hkind dependency hdependency hid
    | cycle =>
      obtain ⟨hdepends, hback⟩ := hreported.cycle hkind
      exact hacyclic _ (TransGen.head' hdepends hback)
  refine ⟨hblocked, fun ⟨item, hitem, hopen⟩ => ?_⟩
  cases hselect : selectOpenWorkItem later with
  | none => exact absurd hopen ((selectOpenWorkItem_none_iff later).1 hselect item hitem)
  | blocked itemId blockedBy => exact absurd hselect (hblocked itemId blockedBy)
  | ready item =>
    obtain ⟨hmem, _, haccepted⟩ := eligible_of_ready hselect
    exact ⟨item, hmem, rfl, refuse_of_not (by simpa using haccepted) _⟩

/-- `work-2` waits for `work-1`. -/
def chainedPlan (status : WorkItemStatus) : List WorkItem :=
  [dependentItem "work-1" [] status, dependentItem "work-2" ["work-1"] .open]

/-- The first WorkItem of a chain is accepted after the plan was validated, and the second one is let through. -/
theorem validated_plan_never_blocks_chained :
    (∀ itemId blockedBy, selectOpenWorkItem (chainedPlan .accepted) ≠ .blocked itemId blockedBy) ∧
      ∃ item ∈ chainedPlan .accepted, selectOpenWorkItem (chainedPlan .accepted) = .ready item ∧
        assertWorkItemDependenciesCompleted (chainedPlan .accepted) item = .ok () := by
  have hissue : draftWorkItemDependencyIssue (chainedPlan .open) = none := by
    simp [draftWorkItemDependencyIssue, visitItems, visitDependencies, missingDependency, chainedPlan,
      dependentItem, byId]
  have hedges : ∀ status : WorkItemStatus, status ≠ .retired → ∀ id dependencyId,
      Depends (notRetired (chainedPlan status)) id dependencyId ↔ id = "work-2" ∧ dependencyId = "work-1" := by
    intro status hstatus id dependencyId
    have hcurrent : notRetired (chainedPlan status) = chainedPlan status := by
      simp [notRetired, chainedPlan, dependentItem, hstatus]
    rw [hcurrent]
    constructor
    · rintro ⟨item, hitem, hmem⟩
      obtain ⟨hplan, rfl⟩ := byId_mem hitem
      obtain rfl | rfl : item = dependentItem "work-1" [] status ∨ item = dependentItem "work-2" ["work-1"] .open := by
        simpa [chainedPlan] using hplan
      · cases hmem
      · exact ⟨rfl, List.mem_singleton.1 hmem⟩
    · rintro ⟨rfl, rfl⟩
      exact ⟨_, rfl, List.mem_cons_self⟩
  have hsame : SamePlan (chainedPlan .open) (chainedPlan .accepted) :=
    ⟨fun _ => Iff.rfl, fun _ _ => by rw [hedges _ (by decide), hedges _ (by decide)]⟩
  obtain ⟨hblocked, hready⟩ := validated_plan_never_blocks (by decide) hissue (by decide) hsame
  exact ⟨hblocked, hready ⟨_, List.mem_cons_of_mem _ List.mem_cons_self, rfl⟩⟩

end TaskProtocol
