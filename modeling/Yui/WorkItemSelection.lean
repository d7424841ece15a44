import Mathlib.Logic.Relation
import Yui.CompletionAgreement

/-!
# The selection of open WorkItems

Among the open WorkItems one with accepted dependencies is ready, and without one the Task is blocked.
What is reported of a blocked Task is the first invalid edge of the dependency graph: a search that
leaves no issue has finished every WorkItem after its dependencies, and the first open one that it
finished is ready.
-/

open Relation

namespace TaskProtocol

section Graph

/-- The dependencies of the WorkItem of this id. -/
def Depends (items : List WorkItem) (id dependencyId : String) : Prop :=
  ∃ item, byId items id = some item ∧ dependencyId ∈ item.dependsOn

/-- An open WorkItem whose dependencies are all accepted. -/
def Eligible (workItems : List WorkItem) (item : WorkItem) : Prop :=
  item ∈ workItems ∧ item.status = .open ∧ ∀ id ∈ item.dependsOn, accepted workItems id = true

def notRetired (workItems : List WorkItem) : List WorkItem :=
  workItems.filter fun item => item.status ≠ .retired

variable {items workItems : List WorkItem} {item : WorkItem} {id : String}

theorem byId_of_mem (hids : (items.map WorkItem.id).Nodup) (hitem : item ∈ items) :
    byId items item.id = some item := by
  unfold byId
  cases hfind : items.reverse.find? fun other => other.id = item.id with
  | none =>
    have hnone := List.find?_eq_none.1 hfind item (List.mem_reverse.2 hitem)
    simp at hnone
  | some other =>
    have hmem := List.mem_reverse.1 (List.mem_of_find?_eq_some hfind)
    have hid : other.id = item.id := by simpa using List.find?_some hfind
    rw [List.inj_on_of_nodup_map hids hmem hitem hid]

theorem byId_isSome_iff : (byId items id).isSome = true ↔ id ∈ items.map WorkItem.id := by
  unfold byId
  rw [List.find?_isSome, List.mem_map]
  constructor
  · rintro ⟨other, hother, heq⟩
    exact ⟨other, List.mem_reverse.1 hother, by simpa using heq⟩
  · rintro ⟨other, hother, heq⟩
    exact ⟨other, List.mem_reverse.2 hother, by simpa using heq⟩

theorem missingDependency_none (h : missingDependency items item = none) :
    ∀ id ∈ item.dependsOn, (byId items id).isSome = true := by
  rw [missingDependency, Option.map_eq_none_iff, List.find?_eq_none] at h
  intro id hid
  simpa [Option.isSome_iff_ne_none] using h id hid

theorem missingDependency_some {issue : DependencyIssue} (h : missingDependency items item = some issue) :
    issue.workItemId = item.id ∧ issue.dependencyId ∈ item.dependsOn ∧
      issue.dependencyId ∉ items.map WorkItem.id := by
  obtain ⟨id, hfind, rfl⟩ := Option.map_eq_some_iff.1 h
  refine ⟨rfl, List.mem_of_find?_eq_some hfind, fun hmem => ?_⟩
  have hnone : byId items id = none := by simpa using List.find?_some hfind
  rw [← byId_isSome_iff, hnone] at hmem
  cases hmem

theorem notRetired_nodup (hids : (workItems.map WorkItem.id).Nodup) :
    ((notRetired workItems).map WorkItem.id).Nodup :=
  hids.sublist (List.filter_sublist.map _)

theorem accepted_of_byId (hids : (workItems.map WorkItem.id).Nodup)
    (hitem : byId (notRetired workItems) id = some item) (hclosed : item.status ≠ .open) :
    accepted workItems id = true := by
  obtain ⟨hmem, rfl⟩ := byId_mem hitem
  obtain ⟨hmem, hretired⟩ := List.mem_filter.1 hmem
  have hstatus : item.status = .accepted := by
    cases hstatus : item.status with
    | «open» => exact absurd hstatus hclosed
    | accepted => rfl
    | retired => simp [hstatus] at hretired
  unfold accepted
  rw [byId_of_mem hids hmem]
  simp [hstatus]

end Graph

section Search

variable {items : List WorkItem} {owner : String} {path visited visited' dependencies : List String}
  {issue : DependencyIssue}

/-- Every finished WorkItem was finished after those of its dependencies that there are. -/
def Finished (items : List WorkItem) : List String → Prop
  | [] => True
  | id :: earlier =>
    (∀ item, byId items id = some item → ∀ dependencyId ∈ item.dependsOn,
      (byId items dependencyId).isSome = true → dependencyId ∈ earlier) ∧ Finished items earlier

structure ClosesCycle (items : List WorkItem) (issue : DependencyIssue) : Prop where
  kind : issue.kind = .cycle
  edge : Depends items issue.workItemId issue.dependencyId
  back : ReflTransGen (Depends items) issue.dependencyId issue.workItemId

theorem visitDependencies_ok (h : visitDependencies items owner path visited dependencies = .ok visited')
    (hvisited : Finished items visited) : Finished items visited' ∧ visited ⊆ visited' ∧
      ∀ id ∈ dependencies, (byId items id).isSome = true → id ∈ visited' := by
  fun_induction visitDependencies items owner path visited dependencies generalizing visited' with
  | case1 => cases h; exact ⟨hvisited, List.Subset.refl _, by simp⟩
  | case2 => cases h
  | case3 owner path visited id later hpath hmem ih =>
    obtain ⟨hfinished, hsubset, hlater⟩ := ih h hvisited
    refine ⟨hfinished, hsubset, fun other hother hsome => ?_⟩
    obtain rfl | hother := List.mem_cons.1 hother
    · exact hsubset hmem
    · exact hlater other hother hsome
  | case4 owner path visited id later hpath hmem hnone ih =>
    obtain ⟨hfinished, hsubset, hlater⟩ := ih h hvisited
    refine ⟨hfinished, hsubset, fun other hother hsome => ?_⟩
    obtain rfl | hother := List.mem_cons.1 hother
    · simp [hnone] at hsome
    · exact hlater other hother hsome
  | case5 => cases h
  | case6 owner path visited id later hpath hmem dependency hfound inner hinner ihinner ih =>
    obtain ⟨hfinished, hsubset, hdependencies⟩ := ihinner hinner hvisited
    have hnext : Finished items (id :: inner) := by
      refine ⟨fun item hitem => ?_, hfinished⟩
      rw [hfound, Option.some.injEq] at hitem
      rw [← hitem]
      exact hdependencies
    obtain ⟨hall, hkept, hlater⟩ := ih h hnext
    refine ⟨hall, fun other hother => hkept (List.mem_cons_of_mem _ (hsubset hother)), fun other hother hsome => ?_⟩
    obtain rfl | hother := List.mem_cons.1 hother
    · exact hkept List.mem_cons_self
    · exact hlater other hother hsome

theorem visitDependencies_error (h : visitDependencies items owner path visited dependencies = .error issue)
    (hpath : ∀ id ∈ path, ReflTransGen (Depends items) id owner)
    (howner : ∀ id ∈ dependencies, Depends items owner id) : ClosesCycle items issue := by
  fun_induction visitDependencies items owner path visited dependencies with
  | case1 => cases h
  | case2 owner path visited id later hmem =>
    cases h
    exact ⟨rfl, howner id List.mem_cons_self, hpath id hmem⟩
  | case3 owner path visited id later hnot hmem ih =>
    exact ih h hpath fun other hother => howner other (List.mem_cons_of_mem _ hother)
  | case4 owner path visited id later hnot hmem hnone ih =>
    exact ih h hpath fun other hother => howner other (List.mem_cons_of_mem _ hother)
  | case5 owner path visited id later hnot hmem dependency hfound inner hinner ih =>
    cases h
    refine ih hinner (fun other hother => ?_) fun other hother => ⟨dependency, hfound, hother⟩
    obtain rfl | hother := List.mem_cons.1 hother
    · exact .refl
    · exact (hpath other hother).tail (howner id List.mem_cons_self)
  | case6 owner path visited id later hnot hmem dependency hfound inner hinner ihinner ih =>
    exact ih h hpath fun other hother => howner other (List.mem_cons_of_mem _ hother)

variable {later : List WorkItem}

theorem visitItems_none (h : visitItems items visited later = none) (hvisited : Finished items visited)
    (hlater : ∀ item ∈ later, byId items item.id = some item) :
    ∃ all, Finished items all ∧ visited ⊆ all ∧ ∀ item ∈ later, item.id ∈ all := by
  fun_induction visitItems items visited later with
  | case1 visited => exact ⟨visited, hvisited, List.Subset.refl _, by simp⟩
  | case2 visited item later hmem ih =>
    obtain ⟨all, hall, hsubset, hitems⟩ := ih h hvisited fun other hother => hlater other (by simp [hother])
    refine ⟨all, hall, hsubset, fun other hother => ?_⟩
    obtain rfl | hother := List.mem_cons.1 hother
    · exact hsubset hmem
    · exact hitems other hother
  | case3 => cases h
  | case4 visited item later hnot inner hinner ih =>
    obtain ⟨hfinished, hkept, hdependencies⟩ := visitDependencies_ok hinner hvisited
    have hnext : Finished items (item.id :: inner) := by
      refine ⟨fun other hother => ?_, hfinished⟩
      rw [hlater item List.mem_cons_self, Option.some.injEq] at hother
      rw [← hother]
      exact hdependencies
    obtain ⟨all, hall, hsubset, hitems⟩ := ih h hnext fun other hother => hlater other (by simp [hother])
    refine ⟨all, hall, fun id hid => hsubset (List.mem_cons_of_mem _ (hkept hid)), fun other hother => ?_⟩
    obtain rfl | hother := List.mem_cons.1 hother
    · exact hsubset List.mem_cons_self
    · exact hitems other hother

theorem visitItems_some (h : visitItems items visited later = some issue)
    (hlater : ∀ item ∈ later, byId items item.id = some item) : ClosesCycle items issue := by
  fun_induction visitItems items visited later with
  | case1 => cases h
  | case2 visited item later hmem ih => exact ih h fun other hother => hlater other (by simp [hother])
  | case3 visited item later hnot inner hinner =>
    cases h
    refine visitDependencies_error hinner (fun id hid => ?_) fun id hid =>
      ⟨item, hlater item List.mem_cons_self, hid⟩
    rw [List.mem_singleton.1 hid]
  | case4 visited item later hnot inner hinner ih =>
    exact ih h fun other hother => hlater other (by simp [hother])

theorem Finished.exists_open {all : List String} (h : Finished items all)
    (hopen : ∃ id ∈ all, ∃ item, byId items id = some item ∧ item.status = .open) :
    ∃ id item, byId items id = some item ∧ item.status = .open ∧
      ∀ dependencyId ∈ item.dependsOn, ∀ dependency, byId items dependencyId = some dependency →
        dependency.status ≠ .open := by
  induction all with
  | nil => simp at hopen
  | cons head earlier ih =>
    by_cases hearlier : ∃ id ∈ earlier, ∃ item, byId items id = some item ∧ item.status = .open
    · exact ih h.2 hearlier
    · obtain ⟨id, hid, item, hitem, hstatus⟩ := hopen
      obtain rfl | hid := List.mem_cons.1 hid
      · refine ⟨id, item, hitem, hstatus, fun dependencyId hmem dependency hfound hdependency => ?_⟩
        have hfinished := h.1 item hitem dependencyId hmem (by simp [hfound])
        exact hearlier ⟨dependencyId, hfinished, dependency, hfound, hdependency⟩
      · exact absurd ⟨id, hid, item, hitem, hstatus⟩ hearlier

end Search

section Selection

variable {workItems : List WorkItem} {item : WorkItem} {itemId blockedBy : String}

theorem eligible_iff : Eligible workItems item ↔ item ∈ (workItems.filter fun item => item.status = .open) ∧
      item.dependsOn.all (accepted workItems) = true := by
  unfold Eligible
  rw [List.mem_filter, List.all_eq_true, decide_eq_true_iff, and_assoc]

theorem followBlocked_ready {visited : List String} {current : WorkItem} {hmem : current ∈ workItems}
    (hopen : current.status = .open) (h : followBlocked workItems visited current hmem = .ready item) :
    Eligible workItems item := by
  fun_induction followBlocked workItems visited current hmem with
  | case1 => cases h
  | case2 visited current hmem hvisited hnone =>
    cases h
    refine ⟨hmem, hopen, fun id hid => ?_⟩
    simpa using List.find?_eq_none.1 hnone id hid
  | case3 => cases h
  | case4 visited current hmem hvisited blockedBy hfind dependency hfound hstatus ih => exact ih hstatus h
  | case5 => cases h

theorem eligible_of_ready (h : selectOpenWorkItem workItems = .ready item) : Eligible workItems item := by
  unfold selectOpenWorkItem at h
  split at h
  · cases h
  · next first others hopen =>
      have hfirst : first ∈ workItems.filter fun item => item.status = .open := hopen ▸ List.mem_cons_self
      split at h
      · next other hfind =>
          cases h
          rw [← hopen] at hfind
          exact eligible_iff.2 ⟨List.mem_of_find?_eq_some hfind, by simpa using List.find?_some hfind⟩
      · exact followBlocked_ready (by simpa using (List.mem_filter.1 hfirst).2) h

theorem ready_of_eligible (h : Eligible workItems item) : ∃ other, selectOpenWorkItem workItems = .ready other := by
  obtain ⟨hmem, hall⟩ := eligible_iff.1 h
  unfold selectOpenWorkItem
  split
  · next hopen =>
      rw [hopen] at hmem
      cases hmem
  · next first others hopen =>
      split
      · next other hfind => exact ⟨other, rfl⟩
      · next hfind =>
          rw [hopen] at hmem
          exact absurd hall (by simpa using List.find?_eq_none.1 hfind item hmem)

/-- What the report names: a dependency that is missing or retired, or the edge of a cycle when no
WorkItem has such a dependency. -/
structure Invalid (workItems : List WorkItem) (itemId dependencyId : String) : Prop where
  edge : ∃ item ∈ workItems, item.id = itemId ∧ item.status ≠ .retired ∧ dependencyId ∈ item.dependsOn
  reason : (∀ item ∈ workItems, item.id = dependencyId → item.status = .retired) ∨
    (∀ item ∈ notRetired workItems, ∀ id ∈ item.dependsOn, id ∈ (notRetired workItems).map WorkItem.id) ∧
      ReflTransGen (Depends (notRetired workItems)) dependencyId itemId

theorem draftWorkItemDependencyIssue_invalid (hids : (workItems.map WorkItem.id).Nodup)
    {issue : DependencyIssue} (h : draftWorkItemDependencyIssue workItems = some issue) :
    Invalid workItems issue.workItemId issue.dependencyId := by
  have hcurrent : ∀ item ∈ notRetired workItems, byId (notRetired workItems) item.id = some item :=
    fun item hitem => byId_of_mem (notRetired_nodup hids) hitem
  obtain hmissing | ⟨hnone, hvisit⟩ := Option.or_eq_some_iff.1 h
  · obtain ⟨item, hitem, hmissing⟩ := List.exists_of_findSome?_eq_some hmissing
    obtain ⟨hid, hdependency, habsent⟩ := missingDependency_some hmissing
    obtain ⟨hmem, hretired⟩ := List.mem_filter.1 hitem
    refine ⟨⟨item, hmem, hid.symm, by simpa using hretired, hdependency⟩, .inl fun other hother heq => ?_⟩
    by_contra hstatus
    exact habsent (List.mem_map.2 ⟨other, List.mem_filter.2 ⟨hother, by simpa using hstatus⟩, heq⟩)
  · have hcycle := visitItems_some hvisit hcurrent
    obtain ⟨item, hitem, hdependency⟩ := hcycle.edge
    obtain ⟨hmem, hid⟩ := byId_mem hitem
    obtain ⟨hmem, hretired⟩ := List.mem_filter.1 hmem
    refine ⟨⟨item, hmem, hid, by simpa using hretired, hdependency⟩, .inr ⟨?_, hcycle.back⟩⟩
    intro other hother id hmem
    have hpresent := missingDependency_none (List.findSome?_eq_none_iff.1 hnone other hother)
    exact byId_isSome_iff.1 (hpresent id hmem)

theorem eligible_of_no_issue (hids : (workItems.map WorkItem.id).Nodup)
    (h : draftWorkItemDependencyIssue workItems = none) (hopen : ∃ item ∈ workItems, item.status = .open) :
    ∃ item, Eligible workItems item := by
  have hcurrent : ∀ item ∈ notRetired workItems, byId (notRetired workItems) item.id = some item :=
    fun item hitem => byId_of_mem (notRetired_nodup hids) hitem
  obtain ⟨hpresent, hvisit⟩ := Option.or_eq_none_iff.1 h
  obtain ⟨all, hfinished, _, hall⟩ := visitItems_none hvisit trivial hcurrent
  obtain ⟨first, hfirst, hstatus⟩ := hopen
  have hmem : first ∈ notRetired workItems := List.mem_filter.2 ⟨hfirst, by simp [hstatus]⟩
  obtain ⟨id, item, hitem, hitemOpen, hclosed⟩ := hfinished.exists_open
    ⟨first.id, hall first hmem, first, hcurrent first hmem, hstatus⟩
  obtain ⟨hmem, rfl⟩ := byId_mem hitem
  refine ⟨item, (List.mem_filter.1 hmem).1, hitemOpen, fun dependencyId hdependency => ?_⟩
  have hresolved := missingDependency_none (List.findSome?_eq_none_iff.1 hpresent item hmem)
  obtain ⟨dependency, hfound⟩ := Option.isSome_iff_exists.1 (hresolved dependencyId hdependency)
  exact accepted_of_byId hids hfound (hclosed dependencyId hdependency dependency hfound)

theorem issue_of_blocked (hids : (workItems.map WorkItem.id).Nodup)
    (h : selectOpenWorkItem workItems = .blocked itemId blockedBy) :
    ∃ issue, draftWorkItemDependencyIssue workItems = some issue := by
  cases hissue : draftWorkItemDependencyIssue workItems with
  | some issue => exact ⟨issue, rfl⟩
  | none =>
    have hopen : ∃ item ∈ workItems, item.status = .open := by
      by_contra hnone
      push Not at hnone
      rw [(selectOpenWorkItem_none_iff workItems).2 hnone] at h
      cases h
    obtain ⟨item, hitem⟩ := eligible_of_no_issue hids hissue hopen
    obtain ⟨other, hother⟩ := ready_of_eligible hitem
    rw [hother] at h
    cases h

/-- The selection is exact, and of a blocked Task the first invalid edge of its dependency graph is
reported. -/
theorem open_work_selection_exact (facts : NextActionFacts) (hids : (facts.workItems.map WorkItem.id).Nodup) :
    (selectOpenWorkItem facts.workItems = .none ↔ ∀ item ∈ facts.workItems, item.status ≠ .open) ∧
    ((∃ item, selectOpenWorkItem facts.workItems = .ready item) ↔ ∃ item, Eligible facts.workItems item) ∧
    (∀ item, selectOpenWorkItem facts.workItems = .ready item → Eligible facts.workItems item) ∧
    ∀ itemId blockedBy, selectOpenWorkItem facts.workItems = .blocked itemId blockedBy →
      ∃ action reported dependencyId, openWorkBranch facts = .ok (some action) ∧
        action.kind = .repairProtocolInconsistency ∧
        action.refs = [⟨"work-item", reported⟩, ⟨"work-item", dependencyId⟩] ∧
        Invalid facts.workItems reported dependencyId := by
  refine ⟨selectOpenWorkItem_none_iff _, ⟨fun ⟨item, h⟩ => ⟨item, eligible_of_ready h⟩,
    fun ⟨item, h⟩ => ready_of_eligible h⟩, fun item => eligible_of_ready, fun itemId blockedBy h => ?_⟩
  obtain ⟨issue, hissue⟩ := issue_of_blocked hids h
  refine ⟨_, issue.workItemId, issue.dependencyId, by rw [openWorkBranch, h], ?_, ?_,
    draftWorkItemDependencyIssue_invalid hids hissue⟩
  · rw [blockedAction, hissue]
    rfl
  · rw [blockedAction, hissue]
    rfl

/-- What the pair should name: an open WorkItem that the blocked one leads to, and one of its dependencies
that is not accepted. -/
def NamesObstruction (workItems : List WorkItem) (blockedId itemId dependencyId : String) : Prop :=
  ReflTransGen (Depends workItems) blockedId itemId ∧ accepted workItems dependencyId = false ∧
    ∃ item ∈ workItems, item.id = itemId ∧ item.status = .open ∧ dependencyId ∈ item.dependsOn

def dependentItem (id : String) (dependsOn : List String) (status : WorkItemStatus) : WorkItem :=
  { acceptedItem with id := id, dependsOn := dependsOn, status := status }

/-- A dependency of an accepted WorkItem was retired, and two open ones depend on each other. -/
def entangledFacts : NextActionFacts :=
  { (deliveredFacts []).toNextActionFacts with
    workItems := [dependentItem "work-0" [] .retired, dependentItem "work-1" ["work-0"] .accepted,
      dependentItem "work-2" ["work-3"] .open, dependentItem "work-3" ["work-2"] .open] }

theorem entangledFacts_blocked : selectOpenWorkItem entangledFacts.workItems = .blocked "work-2" "work-2" := by
  decide +kernel

theorem open_work_selection_entangled :
    ∃ action reported dependencyId, openWorkBranch entangledFacts = .ok (some action) ∧
      action.refs = [⟨"work-item", reported⟩, ⟨"work-item", dependencyId⟩] ∧
      Invalid entangledFacts.workItems reported dependencyId := by
  obtain ⟨action, reported, dependencyId, hbranch, _, hrefs, hinvalid⟩ :=
    (open_work_selection_exact entangledFacts (by decide)).2.2.2 _ _ entangledFacts_blocked
  exact ⟨action, reported, dependencyId, hbranch, hrefs, hinvalid⟩

/-- The report on the two open ones names the accepted one. -/
theorem accepted_item_reported_blocked :
    (entangledFacts.workItems.map WorkItem.id).Nodup ∧
    selectOpenWorkItem entangledFacts.workItems = .blocked "work-2" "work-2" ∧
    (∃ action, projectNextAction entangledFacts = .ok action ∧
      action.refs = [⟨"work-item", "work-1"⟩, ⟨"work-item", "work-0"⟩]) ∧
    ∀ blockedId, ¬ NamesObstruction entangledFacts.workItems blockedId "work-1" "work-0" := by
  refine ⟨by decide, entangledFacts_blocked, ⟨blockedAction entangledFacts "work-2" "work-2", ?_, rfl⟩, ?_⟩
  · have hbranch : openWorkBranch entangledFacts =
        .ok (some (blockedAction entangledFacts "work-2" "work-2")) := by
      rw [openWorkBranch, entangledFacts_blocked]
    have hactive : ¬ (entangledFacts.task.status ≠ .active ∧ entangledFacts.task.status ≠ .draft) := by decide
    rw [projectNextAction, if_neg hactive]
    simp only [branches, hbranch]
    rfl
  · rintro blockedId ⟨_, _, item, hitem, hid, hopen, _⟩
    simp only [entangledFacts, List.mem_cons, List.not_mem_nil, or_false] at hitem
    obtain rfl | rfl | rfl | rfl := hitem <;> simp [dependentItem] at hid hopen

end Selection

end TaskProtocol
