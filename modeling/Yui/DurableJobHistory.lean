import Yui.DurableJobTransition

/-!
# The history of a durable job

Whatever chain of accepted transitions a stored run goes through, it keeps its identity, its
evidence accumulates, and once it is terminal its outcome and its two flags stay.
-/

open Checked Relation

variable [JobHost]

section Owner

theorem canonicalJson_obj_inj {members others : List (String × Json)}
    (h : canonicalJson (.obj members) = canonicalJson (.obj others)) :
    (Json.canonicalizeMembers JobHost.localeCompare members).Perm
      (Json.canonicalizeMembers JobHost.localeCompare others) := by
  unfold canonicalJson at h
  rw [Json.canonicalize, Json.canonicalize, Json.obj.injEq] at h
  exact Json.perm_of_canonicalMembers_eq h

theorem ownerJson_task_inj {owner other : DurableJobOwner}
    (h : canonicalJson owner.json = canonicalJson other.json) : owner = other := by
  cases owner <;> cases other <;>
    · have hperm := canonicalJson_obj_inj h
      have hmem : ∀ m ∈ _, m ∈ _ := fun m hm => hperm.subset hm
      simp [Json.canonicalizeMembers, Json.canonicalize] at hmem ⊢
      try exact hmem

/-- A Task run stays the run of its Task and owner. -/
theorem scope_of_identity {before after : JobFacts} (h : before.identity = after.identity)
    {taskId : String} {owner : DurableJobOwner} (hscope : before.scope = .task taskId owner) :
    after.scope = .task taskId owner := by
  have howner : canonicalJson before.scope.ownerJson = canonicalJson after.scope.ownerJson :=
    congrArg RunIdentity.owner h
  have hnamespace : executionNamespace before = executionNamespace after := congrArg RunIdentity.executionNamespace h
  rw [hscope] at howner
  cases hafter : after.scope with
  | task otherId other =>
    rw [hafter] at howner
    simp only [executionNamespace, hscope, hafter] at hnamespace
    rw [hnamespace, ownerJson_task_inj howner]
  | global action actionInput service =>
    rw [hafter] at howner
    cases owner <;> cases howner

end Owner

structure Unchanged (before after : JobRun) : Prop where
  identity : before.toJobFacts.identity = after.toJobFacts.identity
  artifacts : before.artifacts.getD [] <+: after.artifacts.getD []
  operation : before.operation.Accumulates after.operation
  terminal : isDurableJobTerminal before.status = true →
    before.status = after.status ∧ before.result = after.result ∧
      before.terminalAt = after.terminalAt ∧
      before.businessResult.map JobBusinessResult.canonical =
        after.businessResult.map JobBusinessResult.canonical
  notified : isDurableJobTerminal before.status = true → before.wakeupNotified = some true →
    after.wakeupNotified = some true
  acknowledged : isDurableJobTerminal before.status = true → ∀ time,
    before.acknowledgedAt = some time → after.acknowledgedAt = some time

theorem Unchanged.refl (job : JobRun) : Unchanged job job where
  identity := rfl
  artifacts := List.prefix_rfl
  operation := .refl _
  terminal _ := ⟨rfl, rfl, rfl, rfl⟩
  notified _ h := h
  acknowledged _ _ h := h

theorem Unchanged.trans {a b c : JobRun} (hab : Unchanged a b) (hbc : Unchanged b c) : Unchanged a c := by
  have hterminal : isDurableJobTerminal a.status = true → isDurableJobTerminal b.status = true :=
    fun ha => (hab.terminal ha).1 ▸ ha
  refine ⟨hab.identity.trans hbc.identity, hab.artifacts.trans hbc.artifacts,
    hab.operation.trans hbc.operation, fun ha => ?_, fun ha hn => ?_, fun ha time ht => ?_⟩
  · obtain ⟨hs, hr, ht, hb⟩ := hab.terminal ha
    obtain ⟨hs', hr', ht', hb'⟩ := hbc.terminal (hterminal ha)
    exact ⟨hs.trans hs', hr.trans hr', ht.trans ht', hb.trans hb'⟩
  · exact hbc.notified (hterminal ha) (hab.notified ha hn)
  · exact hbc.acknowledged (hterminal ha) time (hab.acknowledged ha time ht)

theorem Accepted.unchanged {before after : JobRun} (h : Accepted before after) : Unchanged before after := by
  obtain ⟨hidentity, hartifacts, hmerge, _, hstatus⟩ := (accepted_iff before after).1 h
  have hsame : isDurableJobTerminal before.status = true → SameTerminal before after := fun ht => by
    rwa [if_pos ht] at hstatus
  refine ⟨hidentity, List.isPrefixOf_iff_prefix.1 hartifacts, ?_, fun ht => ?_, fun ht hn => ?_,
    fun ht time ha => ?_⟩
  · have haccumulates := accumulates_mergeEvidence before.operation after.operation.asEvidence
    rwa [hmerge] at haccumulates
  · have hs := hsame ht
    exact ⟨hs.status, hs.result, hs.terminalAt, congrArg JobFacts.businessResult hs.facts⟩
  · rcases (hsame ht).wakeup with heq | ⟨hne, _⟩
    · exact heq ▸ hn
    · exact absurd hn hne
  · rcases (hsame ht).acknowledged with heq | ⟨hne, _⟩
    · exact heq ▸ ha
    · simp [ha] at hne

theorem unchanged_of_chain {before after : JobRun} (h : ReflTransGen Accepted before after) :
    Unchanged before after := by
  induction h with
  | refl => exact .refl before
  | tail _ hstep ih => exact ih.trans hstep.unchanged
