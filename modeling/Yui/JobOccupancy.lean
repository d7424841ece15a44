import Yui.FallibleRun
import Yui.JobAdmission
import Yui.JobSupervisorStore

/-!
# One occupying run for each Job definition

An admission adds a run only when no run of its definition has the trigger or occupies the
definition, and a transition neither changes the definition and the trigger of a run nor lets a run
that ended occupy its definition again.
-/

open Checked

/-- Two runs of one definition differ in their trigger, and one of them does not occupy it. -/
def Apart (first second : JobRun) : Prop :=
  first.definition = second.definition →
    ¬ (occupies first = true ∧ occupies second = true) ∧ first.trigger ≠ second.trigger

theorem Apart.symm {first second : JobRun} (h : Apart first second) : Apart second first := by
  intro hdefinition
  obtain ⟨hoccupied, htrigger⟩ := h hdefinition.symm
  exact ⟨fun hboth => hoccupied hboth.symm, htrigger.symm⟩

structure Occupancy (runs : List JobRun) : Prop where
  references : (runs.map JobRun.reference).Nodup
  apart : runs.Pairwise Apart

/-- No run of the definition has the trigger, and none occupies the definition. -/
structure Free (runs : List JobRun) (job : JobScope × String) (trigger : JobTrigger) : Prop where
  trigger : ∀ run ∈ runs, run.definition = job → run.trigger ≠ trigger
  occupied : ∀ run ∈ runs, run.definition = job → occupies run = false

variable {run : JobRun}

theorem Occupancy.append {runs : List JobRun} (h : Occupancy runs) (hfree : Free runs run.definition run.trigger)
    (hget : KeyedTable.get JobRun.reference runs run.reference = none) : Occupancy (runs ++ [run]) := by
  constructor
  · rw [List.map_append, List.map_singleton]
    apply List.Nodup.append h.references (List.nodup_singleton _)
    rw [List.disjoint_singleton]
    intro hmem
    obtain ⟨other, hother, heq⟩ := List.mem_map.1 hmem
    rw [← heq, KeyedTable.get_of_mem h.references hother] at hget
    cases hget
  · rw [List.pairwise_append]
    refine ⟨h.apart, List.pairwise_singleton _ _, ?_⟩
    intro first hfirst second hsecond hsame
    rw [List.mem_singleton.1 hsecond] at hsame ⊢
    refine ⟨?_, hfree.trigger first hfirst hsame⟩
    intro hboth
    rw [hfree.occupied first hfirst hsame] at hboth
    cases hboth.1

theorem reference_delegationScope (facts : JobFacts) (scope : JobScope)
    (h : facts.scope = delegationScope scope) : (runReference facts).scope = scope := by
  cases scope with
  | global => simp [runReference, h, delegationScope]
  | task taskId => simp [runReference, h, delegationScope]

variable {store : JobStore}

theorem mem_listJobRuns {job : JobScope × String} :
    run ∈ listJobRuns store job ↔ run ∈ store.runs ∧ run.definition = job := by
  simp [listJobRuns]

/-- The runs of a definition with one trigger, and those that occupy it. -/
def runsWith (store : JobStore) (job : JobScope × String) (trigger : JobTrigger) : List JobRun :=
  (listJobRuns store job).filter fun run => run.trigger = trigger

def occupying (store : JobStore) (job : JobScope × String) : List JobRun :=
  (listJobRuns store job).filter occupies

theorem length_le_one {α : Type} {values : List α} (h : values.Pairwise fun _ _ => False) : values.length ≤ 1 := by
  match values, h with
  | [], _ => simp
  | [_], _ => simp
  | first :: second :: rest, h =>
    exact absurd ((List.pairwise_cons.1 h).1 second (by simp)) (by simp)

theorem Occupancy.runsWith_length (h : Occupancy store.runs)
    (job : JobScope × String) (trigger : JobTrigger) : (runsWith store job trigger).length ≤ 1 := by
  apply length_le_one
  apply ((h.apart.filter _).filter _).imp_of_mem
  intro first second hfirst hsecond hapart
  have h1 := List.mem_filter.1 hfirst
  have h2 := List.mem_filter.1 hsecond
  have hd1 := (mem_listJobRuns.1 h1.1).2
  have hd2 := (mem_listJobRuns.1 h2.1).2
  have ht1 : first.trigger = trigger := by simpa using h1.2
  have ht2 : second.trigger = trigger := by simpa using h2.2
  exact (hapart (hd1.trans hd2.symm)).2 (ht1.trans ht2.symm)

theorem Occupancy.occupying_length (h : Occupancy store.runs)
    (job : JobScope × String) : (occupying store job).length ≤ 1 := by
  apply length_le_one
  apply ((h.apart.filter _).filter _).imp_of_mem
  intro first second hfirst hsecond hapart
  have h1 := List.mem_filter.1 hfirst
  have h2 := List.mem_filter.1 hsecond
  have hd1 := (mem_listJobRuns.1 h1.1).2
  have hd2 := (mem_listJobRuns.1 h2.1).2
  exact (hapart (hd1.trans hd2.symm)).1 ⟨h1.2, h2.2⟩

theorem Occupancy.find_eq (h : Occupancy store.runs) {job : JobScope × String}
    {trigger : JobTrigger} (hrun : run ∈ runsWith store job trigger) :
    (listJobRuns store job).find? (fun other => other.trigger = trigger) = some run := by
  have hlength := h.runsWith_length job trigger
  rw [← List.head?_filter]
  change (runsWith store job trigger).head? = some run
  match hruns : runsWith store job trigger with
  | [] =>
    rw [hruns] at hrun
    cases hrun
  | [only] =>
    rw [hruns] at hrun
    rw [List.mem_singleton.1 hrun]
    rfl
  | first :: second :: rest =>
    rw [hruns] at hlength
    simp at hlength

section

variable [JobHost]

theorem definition_of_accepted {before after : JobRun} (h : Accepted before after)
    (hreference : after.reference = before.reference) :
    after.definition = before.definition ∧ after.trigger = before.trigger := by
  have hidentity := h.unchanged.identity
  have hscope : (runReference after.toJobFacts).scope = (runReference before.toJobFacts).scope :=
    congrArg JobRunReference.scope hreference
  have hid : before.definitionId = after.definitionId := congrArg RunIdentity.definitionId hidentity
  have htrigger : before.trigger = after.trigger := congrArg RunIdentity.trigger hidentity
  exact ⟨Prod.ext hscope hid.symm, htrigger.symm⟩

theorem occupies_of_accepted {before after : JobRun} (h : Accepted before after)
    (hafter : occupies after = true) : occupies before = true := by
  by_cases hterminal : isDurableJobTerminal before.status = true
  · have hstatus := (h.unchanged.terminal hterminal).1
    unfold occupies at hafter ⊢
    rw [hstatus]
    exact hafter
  · cases hstatus : before.status <;> simp_all [isDurableJobTerminal, occupies]

theorem Apart.accepted {before after other : JobRun} (h : Apart before other)
    (haccepted : Accepted before after) (hreference : after.reference = before.reference) : Apart after other := by
  obtain ⟨hdefinition, htrigger⟩ := definition_of_accepted haccepted hreference
  intro hsame
  obtain ⟨hoccupied, hdiffer⟩ := h (hdefinition ▸ hsame)
  refine ⟨?_, htrigger ▸ hdiffer⟩
  intro hboth
  exact hoccupied ⟨occupies_of_accepted haccepted hboth.1, hboth.2⟩

/-- A transition of a stored run keeps the runs apart. -/
theorem Occupancy.replace {runs : List JobRun} (h : Occupancy runs) {current next : JobRun}
    (hget : KeyedTable.get JobRun.reference runs next.reference = some current) (haccepted : Accepted current next) :
    Occupancy (KeyedTable.replace JobRun.reference runs next) := by
  have hreference := KeyedTable.key_of_get hget
  have hcurrent : ∀ run ∈ runs, run.reference = next.reference → run = current := by
    intro run hrun heq
    have hrow := KeyedTable.get_of_mem h.references hrun
    rw [heq, hget] at hrow
    injection hrow with hrow
    exact hrow.symm
  refine ⟨by rw [KeyedTable.keys_replace]; exact h.references, ?_⟩
  unfold KeyedTable.replace
  rw [List.pairwise_map]
  have hboth : runs.Pairwise fun first second =>
      Apart first second ∧ first.reference ≠ second.reference :=
    h.apart.and (List.pairwise_map.1 h.references)
  apply hboth.imp_of_mem
  intro first second hfirst hsecond hapart
  by_cases hone : first.reference = next.reference
  · have htwo : second.reference ≠ next.reference := fun heq => hapart.2 (hone.trans heq.symm)
    rw [if_pos hone, if_neg htwo]
    rw [hcurrent first hfirst hone] at hapart
    exact hapart.1.accepted haccepted hreference.symm
  · rw [if_neg hone]
    by_cases htwo : second.reference = next.reference
    · rw [if_pos htwo]
      rw [hcurrent second hsecond htwo] at hapart
      exact (hapart.1.symm.accepted haccepted hreference.symm).symm
    · rw [if_neg htwo]
      exact hapart.1

variable {env : AdmissionEnv} {run : JobRun}

theorem Occupancy.saveRun_free {store after : JobStore}
    (h : Occupancy store.runs) (hfree : Free store.runs run.definition run.trigger)
    (hsave : saveRun env store run = .ok after) : after.runs = store.runs ++ [run] ∧ Occupancy after.runs := by
  obtain ⟨_, _, hsave⟩ := bind_ok hsave
  split at hsave
  · next hget =>
      obtain ⟨_, _, hok⟩ := bind_ok hsave
      injection hok with hok
      subst hok
      exact ⟨rfl, h.append hfree hget⟩
  · next current hget =>
      split at hsave
      · cases hsave
      · next hstep =>
          have haccepted := (saveJobRun_ok hstep).1
          obtain ⟨hdefinition, htrigger⟩ := definition_of_accepted haccepted (KeyedTable.key_of_get hget).symm
          exact absurd htrigger.symm (hfree.trigger current (KeyedTable.mem_of_get hget) hdefinition.symm)

theorem Occupancy.saveRun_stored {store after : JobStore} (h : Occupancy store.runs) {run current : JobRun}
    (hget : KeyedTable.get JobRun.reference store.runs run.reference = some current)
    (hsave : saveRun env store run = .ok after) : Occupancy after.runs := by
  obtain ⟨_, _, hsave⟩ := bind_ok hsave
  rw [hget] at hsave
  simp only at hsave
  split at hsave
  · cases hsave
  · next hstep =>
      injection hsave with hsave
      subst hsave
      exact h.replace hget (saveJobRun_ok hstep).1

variable {call : Admission} {store : JobStore} {result : RunAdmission × JobStore} {job : JobDefinition}

theorem Occupancy.of_startDefinedJob
    {taskId : String} {owner : DurableJobOwner} {projectId head workspace : String} {runEnv : EnvMap}
    {steps : List DurableJobStep} (h : Occupancy store.runs) (hscope : job.scope = .task taskId)
    (hfree : Free store.runs job.key call.trigger)
    (hstart : startDefinedJob env store job taskId owner projectId head workspace runEnv steps call =
      .ok result) : Occupancy result.2.runs := by
  obtain ⟨actorId, _, _, _, _, _, existing, _, hstart⟩ := bind_ok₄ hstart
  cases existing with
  | some run =>
    injection hstart with hstart
    subst hstart
    exact h
  | none =>
    iterate 3 obtain ⟨_, _, hstart⟩ := bind_ok hstart
    obtain ⟨authorityRef, _, after, hsave, hok⟩ := bind_ok₂ hstart
    injection hok with hok
    subst hok
    refine (h.saveRun_free ?_ hsave).2
    have hkey : job.key = (.task taskId, job.id) := by rw [JobDefinition.key, hscope]
    rw [hkey] at hfree
    exact hfree

theorem Occupancy.of_settleCreation
    {taskId : String} {now : JsDate} {result : JobRun × JobStore} (h : Occupancy store.runs)
    (hrun : run ∈ store.runs) (hsettle : settleCreation env store run taskId now = .ok result) :
    Occupancy result.2.runs := by
  obtain ⟨event, _, next, hnext, after, hsave, hok⟩ := bind_ok₃ hsettle
  injection hok with hok
  subst hok
  have hreference : next.reference = run.reference := by
    obtain ⟨_, _, hvalid⟩ := bind_ok hnext
    injection hvalid with hvalid
    subst hvalid
    rfl
  apply h.saveRun_stored _ hsave
  · exact run
  · rw [hreference]
    exact KeyedTable.get_of_mem h.references hrun

theorem Occupancy.of_admitTaskJob {goal : TaskDelegationGoal} {target : TaskJobTarget} (h : Occupancy store.runs)
    (hfree : Free store.runs job.key call.trigger)
    (hadmission : admitTaskJob env store job goal target call = .ok result) : Occupancy result.2.runs := by
  obtain ⟨delegation, _, run, hrun, after, hsave, hadmission⟩ := bind_ok₃ hadmission
  obtain ⟨_, _, hvalid⟩ := bind_ok hrun
  injection hvalid with hvalid
  have hdefinition : run.definition = job.key := by
    subst hvalid
    exact Prod.ext (reference_delegationScope _ job.scope rfl) rfl
  have htrigger : run.trigger = call.trigger := by
    subst hvalid
    rfl
  have hfree' : Free store.runs run.definition run.trigger := by
    rw [hdefinition, htrigger]
    exact hfree
  obtain ⟨hruns, hoccupancy⟩ := h.saveRun_free hfree' hsave
  split_ifs at hadmission with hgoal
  · obtain ⟨settled, hsettled, hok⟩ := bind_ok hadmission
    injection hok with hok
    subst hok
    apply hoccupancy.of_settleCreation _ hsettled
    rw [hruns]
    simp
  · injection hadmission with hok
    subst hok
    exact hoccupancy

theorem bindRun_ok {run bound : JobRun} (h : bindRun env call run = .ok bound) :
    bound.definition = run.definition ∧ bound.trigger = run.trigger := by
  unfold bindRun at h
  split at h
  · obtain ⟨authorityRef, _, hok⟩ := bind_ok h
    injection hok with hok
    subst hok
    exact ⟨rfl, rfl⟩
  · split_ifs at h with huser
    · obtain ⟨authorityRef, _, hok⟩ := bind_ok h
      injection hok with hok
      subst hok
      exact ⟨rfl, rfl⟩
    · injection h with h
      subst h
      exact ⟨rfl, rfl⟩

theorem Occupancy.of_admitGlobalProcess (h : Occupancy store.runs)
    (hscope : job.scope = .global) (hfree : Free store.runs job.key call.trigger)
    (hadmission : admitGlobalProcess env store job call = .ok result) : Occupancy result.2.runs := by
  obtain ⟨prepared, _, authorityRef, _, run, hrun, after, hsave, hok⟩ := bind_ok₄ hadmission
  injection hok with hok
  subst hok
  obtain ⟨hdefinition, htrigger⟩ := bindRun_ok hrun
  refine (h.saveRun_free ?_ hsave).2
  rw [hdefinition, htrigger]
  have hkey : job.key = (.global, job.id) := by rw [JobDefinition.key, hscope]
  rw [hkey] at hfree
  exact hfree

theorem Occupancy.of_createRun (h : Occupancy store.runs)
    (hfree : Free store.runs job.key call.trigger) (hcreate : createRun env store job call = .ok result) :
    Occupancy result.2.runs := by
  unfold createRun at hcreate
  split at hcreate
  · obtain ⟨_, _, hadmission⟩ := bind_ok hcreate
    exact h.of_admitTaskJob hfree hadmission
  · next hscope => exact h.of_startDefinedJob hscope hfree hcreate
  · cases hcreate
  · next hscope _ => exact h.of_admitGlobalProcess hscope hfree hcreate

theorem repeatAdmission_ok {same : JobRun} (h : repeatAdmission env store job same call = .ok result) :
    result = (⟨same, false, false⟩, store) := by
  obtain ⟨_, _, _, _, hok⟩ := bind_ok₂ h
  injection hok with hok
  exact hok.symm

theorem Occupancy.of_newAdmission (h : Occupancy store.runs)
    (htrigger : ∀ run ∈ listJobRuns store job.key, run.trigger ≠ call.trigger)
    (hadmission : newAdmission env store job call = .ok result) : Occupancy result.2.runs := by
  obtain ⟨_, _, hadmission⟩ := bind_ok hadmission
  split at hadmission
  · obtain ⟨_, _, hok⟩ := bind_ok hadmission
    injection hok with hok
    subst hok
    exact h
  · next hvacant =>
      obtain ⟨_, _, hcreate⟩ := bind_ok hadmission
      apply h.of_createRun _ hcreate
      constructor
      · intro run hrun hdefinition
        exact htrigger run (mem_listJobRuns.2 ⟨hrun, hdefinition⟩)
      · intro run hrun hdefinition
        have hnone := List.find?_eq_none.1 hvacant run (mem_listJobRuns.2 ⟨hrun, hdefinition⟩)
        exact Bool.not_eq_true _ ▸ hnone

variable {scope : JobScope} {definitionId : String}

theorem Occupancy.of_admitJobRun
    (h : Occupancy store.runs) (hadmission : admitJobRun env store scope definitionId call = .ok result) :
    Occupancy result.2.runs := by
  unfold admitJobRun at hadmission
  split at hadmission
  · cases hadmission
  · obtain ⟨_, _, _, _, hadmission⟩ := bind_ok₂ hadmission
    split at hadmission
    · rw [repeatAdmission_ok hadmission]
      exact h
    · next hnone =>
        apply h.of_newAdmission _ hadmission
        intro run hrun
        simpa using List.find?_eq_none.1 hnone run hrun

theorem saveJobDefinition_runs {checks : ConfigurationChecks} {store after : JobStore}
    (h : saveJobDefinition checks store job = .ok after) : after.runs = store.runs := by
  obtain ⟨_, _, h⟩ := bind_ok h
  split at h
  · injection h with h
    subst h
    rfl
  · obtain ⟨_, _, hok⟩ := bind_ok h
    injection hok with hok
    subst hok
    rfl

theorem instantiate_runs {store after : JobStore} {source : JobDefinition}
    (h : instantiate env store source call = .ok after) : after.runs = store.runs := by
  unfold instantiate at h
  simp only at h
  split at h
  · obtain ⟨_, _, hok⟩ := bind_ok h
    injection hok with hok
    subst hok
    rfl
  · obtain ⟨job, _, hsave⟩ := bind_ok h
    exact saveJobDefinition_runs hsave

theorem Occupancy.of_call {store after : JobStore} {call : JobCall} (h : Occupancy store.runs)
    (hstep : call.apply store = .ok after) : Occupancy after.runs := by
  cases call with
  | admitRun env scope definitionId call =>
    obtain ⟨result, hadmission, hok⟩ := bind_ok hstep
    injection hok with hok
    subst hok
    exact h.of_admitJobRun hadmission
  | instantiate env scope definitionId revision call =>
    obtain ⟨result, hadmission, hok⟩ := bind_ok hstep
    injection hok with hok
    subst hok
    unfold instantiateJobRun at hadmission
    split at hadmission
    · cases hadmission
    · obtain ⟨_, _, _, _, defined, hdefined, hadmission⟩ := bind_ok₃ hadmission
      have hruns := instantiate_runs hdefined
      exact Occupancy.of_admitJobRun (hruns ▸ h) hadmission
  | transition next =>
    simp only [JobCall.apply, transitionRun] at hstep
    split at hstep
    · cases hstep
    · next current hget =>
        obtain ⟨valid, hvalid, _, hrefused, hok⟩ := bind_ok₂ hstep
        have htrue : valid = true := by simpa using refuse_ok hrefused
        rw [htrue] at hvalid
        injection hok with hok
        subst hok
        exact h.replace hget hvalid

theorem repeated_admission (h : Occupancy store.runs) (hrun : run ∈ runsWith store (scope, definitionId) call.trigger)
    (hadmission : admitJobRun env store scope definitionId call = .ok result) :
    result = (⟨run, false, false⟩, store) := by
  unfold admitJobRun at hadmission
  split at hadmission
  · cases hadmission
  · next job hjob =>
      obtain ⟨_, _, _, _, hadmission⟩ := bind_ok₂ hadmission
      rw [KeyedTable.key_of_get hjob, h.find_eq hrun] at hadmission
      exact repeatAdmission_ok hadmission

theorem authorized_repetition
    (h : Occupancy store.runs) (hrun : run ∈ runsWith store (scope, definitionId) call.trigger)
    (hjob : KeyedTable.get JobDefinition.key store.definitions (scope, definitionId) = some job)
    (hagent : isAgent job.configuration = false) (hauthorized : authorizeAdmission env job call = .ok ())
    (hfound : authorizeFound env run call.caller = .ok ())
    (hrevision : run.definitionRevision = job.revision) (hretry : run.retryOf = call.retryOf) :
    admitJobRun env store scope definitionId call = .ok (⟨run, false, false⟩, store) := by
  unfold admitJobRun
  rw [hjob]
  simp only [hagent, hauthorized, KeyedTable.key_of_get hjob, h.find_eq hrun, repeatAdmission, hfound,
    hrevision, hretry]
  simp [refuse, bind, Except.bind]

theorem repeated_instantiation {revision : ℚ} {source : JobDefinition} (h : Occupancy store.runs)
    (hsource : KeyedTable.get JobDefinition.key store.definitions (scope, definitionId) = some source)
    (hrun : run ∈ runsWith store (source.scope, instanceId source call.trigger) call.trigger)
    (hadmission : instantiateJobRun env store scope definitionId revision call = .ok result) :
    result.1 = ⟨run, false, false⟩ := by
  unfold instantiateJobRun at hadmission
  rw [hsource] at hadmission
  obtain ⟨_, _, _, _, defined, hdefined, hadmission⟩ := bind_ok₃ hadmission
  have hruns := instantiate_runs hdefined
  have hsame : run ∈ runsWith defined (source.scope, instanceId source call.trigger)
      call.trigger := by
    unfold runsWith listJobRuns at hrun ⊢
    rw [hruns]
    exact hrun
  have hreturned : result = (⟨run, false, false⟩, defined) :=
    repeated_admission (hruns ▸ h) (by exact hsame) hadmission
  rw [hreturned]

/-- In every store that admissions and transitions reach, a definition has at most one run that
occupies it and at most one run for each trigger. An admission whose trigger has a run returns that run
and creates none, and it does so whenever its caller may see the run and asks for the same retry of the
same revision. -/
theorem one_occupying_run (definitions : List JobDefinition) (calls : List JobCall) :
    let store := FallibleRun.run JobCall.apply ⟨definitions, []⟩ calls
    (∀ job, (occupying store job).length ≤ 1) ∧ (∀ job trigger, (runsWith store job trigger).length ≤ 1) ∧
      (∀ env scope definitionId call result, ∀ run ∈ runsWith store (scope, definitionId) call.trigger,
        admitJobRun env store scope definitionId call = .ok result → result = (⟨run, false, false⟩, store)) ∧
      (∀ env scope definitionId call job, ∀ run ∈ runsWith store (scope, definitionId) call.trigger,
        KeyedTable.get JobDefinition.key store.definitions (scope, definitionId) = some job →
        isAgent job.configuration = false → authorizeAdmission env job call = .ok () →
        authorizeFound env run call.caller = .ok () → run.definitionRevision = job.revision →
        run.retryOf = call.retryOf →
          admitJobRun env store scope definitionId call = .ok (⟨run, false, false⟩, store)) ∧
      ∀ env scope definitionId revision call source result,
        KeyedTable.get JobDefinition.key store.definitions (scope, definitionId) = some source →
        ∀ run ∈ runsWith store (source.scope, instanceId source call.trigger) call.trigger,
          instantiateJobRun env store scope definitionId revision call = .ok result →
            result.1 = ⟨run, false, false⟩ := by
  intro store
  have hoccupancy : Occupancy store.runs := by
    apply @FallibleRun.run_preserves _ _ _ _ (fun store : JobStore => Occupancy store.runs)
    · exact ⟨List.nodup_nil, .nil⟩
    · intro call _ before after h hstep
      exact h.of_call hstep
  refine ⟨hoccupancy.occupying_length, hoccupancy.runsWith_length, ?_, ?_, ?_⟩
  · intro env scope definitionId call result run hrun hadmission
    exact repeated_admission hoccupancy hrun hadmission
  · intro env scope definitionId call job run hrun hjob hagent hauthorized hfound hrevision hretry
    exact authorized_repetition hoccupancy hrun hjob hagent hauthorized hfound hrevision hretry
  · intro env scope definitionId revision call source result hsource run hrun hadmission
    exact repeated_instantiation hoccupancy hsource hrun hadmission

end
