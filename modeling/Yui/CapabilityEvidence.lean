import Yui.CapabilityRegistry

/-!
# Authority and evidence of nested capability calls

No nested call is invoked beyond the boundary of an ancestor, and no operation is lost. The effect of a call
is at least that of what it gathered, except where an external implementation returns without any operation:
then the result says `possible` even if a nested mutation was confirmed.
-/

namespace Capability

variable {σ ν : Type}

/-! ## What an invocation carries -/

theorem Evidence.foldl_observe (operations : List CapabilityOperation) (evidence : Evidence) :
    (operations.foldl Evidence.observe evidence).operations = evidence.operations ++ operations := by
  induction operations generalizing evidence with
  | nil => simp
  | cons operation operations ih =>
    rw [List.foldl_cons, ih]
    simp [Evidence.observe]

theorem Evidence.le_foldl_observe (k : ℕ) (operations : List CapabilityOperation) (evidence : Evidence) :
    k ≤ (operations.foldl Evidence.observe evidence).effect.rank ↔
      k ≤ evidence.effect.rank ∨ ∃ operation ∈ operations, k ≤ operation.effect.rank := by
  induction operations generalizing evidence with
  | nil => simp
  | cons operation operations ih =>
    rw [List.foldl_cons, ih]
    simp [Evidence.observe, or_assoc]

@[simp] theorem Evidence.operations_absorb (evidence : Evidence) (outcome : CapabilityResult σ ν) :
    (evidence.absorb outcome).operations = evidence.operations ++ outcome.operations :=
  Evidence.foldl_observe outcome.operations evidence

/-- A result counts for a rank when its effect or that of one of its operations does. -/
def Counts (k : ℕ) (outcome : CapabilityResult σ ν) : Prop :=
  k ≤ outcome.effect.rank ∨ ∃ operation ∈ outcome.operations, k ≤ operation.effect.rank

theorem Evidence.le_absorb (k : ℕ) (evidence : Evidence) (outcome : CapabilityResult σ ν) :
    k ≤ (evidence.absorb outcome).effect.rank ↔ k ≤ evidence.effect.rank ∨ Counts k outcome := by
  rw [Evidence.absorb, rank_accumulatedEffect, le_max_iff, Evidence.le_foldl_observe, Counts]
  grind

namespace Invocation

/-- The operations that an invocation has or that its nested calls will bring. -/
def carried (invocation : Invocation σ ν) : List CapabilityOperation :=
  invocation.evidence.operations ++ invocation.children.flatMap CapabilityResult.operations

/-- The effect that an invocation has or that its nested calls will bring. -/
def Reaches (k : ℕ) (invocation : Invocation σ ν) : Prop :=
  k ≤ invocation.evidence.effect.rank ∨ ∃ child ∈ invocation.children, Counts k child

theorem operations_settled (invocation : Invocation σ ν) : invocation.settled.operations = invocation.carried := by
  have hfold : ∀ (children : List (CapabilityResult σ ν)) (evidence : Evidence),
      (children.foldl Evidence.absorb evidence).operations =
        evidence.operations ++ children.flatMap CapabilityResult.operations := by
    intro children
    induction children with
    | nil => simp
    | cons child children ih => intro evidence; simp [ih]
  exact hfold _ _

theorem le_settled (k : ℕ) (invocation : Invocation σ ν) :
    k ≤ invocation.settled.effect.rank ↔ invocation.Reaches k := by
  have hfold : ∀ (children : List (CapabilityResult σ ν)) (evidence : Evidence),
      k ≤ (children.foldl Evidence.absorb evidence).effect.rank ↔
        k ≤ evidence.effect.rank ∨ ∃ child ∈ children, Counts k child := by
    intro children
    induction children with
    | nil => simp
    | cons child children ih =>
      intro evidence
      rw [List.foldl_cons, ih, Evidence.le_absorb]
      simp [or_assoc]
  exact hfold _ _

theorem carried_settle (invocation : Invocation σ ν) (child : ℕ) :
    (invocation.settle child).carried.Perm invocation.carried := by
  unfold settle
  cases hchild : invocation.children[child]? with
  | none => exact List.Perm.refl _
  | some outcome =>
    obtain ⟨hlt, rfl⟩ := List.getElem?_eq_some_iff.1 hchild
    have hperm := (List.getElem_cons_eraseIdx_perm hlt).flatMap_right CapabilityResult.operations
    simpa [carried] using hperm.append_left invocation.evidence.operations

theorem reaches_settle (k : ℕ) (invocation : Invocation σ ν) (child : ℕ) :
    (invocation.settle child).Reaches k ↔ invocation.Reaches k := by
  unfold settle
  cases hchild : invocation.children[child]? with
  | none => exact Iff.rfl
  | some outcome =>
    obtain ⟨hlt, rfl⟩ := List.getElem?_eq_some_iff.1 hchild
    have hmem : ∀ other, other ∈ invocation.children ↔
        other = invocation.children[child] ∨ other ∈ invocation.children.eraseIdx child := by
      intro other
      rw [← (List.getElem_cons_eraseIdx_perm hlt).mem_iff, List.mem_cons]
    simp only [Reaches, Evidence.le_absorb, hmem, or_assoc, or_and_right, exists_or, exists_eq_left]

@[simp] theorem open_settle (invocation : Invocation σ ν) (child : ℕ) :
    (invocation.settle child).open = invocation.open := by
  unfold settle
  split <;> rfl

end Invocation

/-! ## What a call gathers -/

variable [DecidableEq σ] (schemaError : σ → ν → Option String)

/-- The results of the calls that an implementation issues. -/
def outcomes (descriptor : CapabilityDescriptor σ) (acts : Acts σ ν) : List (CapabilityResult σ ν) :=
  acts.issued.map (call schemaError (boundary descriptor))

theorem run_closed (descriptor : CapabilityDescriptor σ) (acts : Acts σ ν)
    (invocation : Invocation σ ν) (hopen : invocation.open = false) :
    (run schemaError descriptor acts invocation).carried.Perm invocation.carried ∧
      ∀ k, (run schemaError descriptor acts invocation).Reaches k ↔ invocation.Reaches k := by
  induction acts using Acts.observed.induct generalizing invocation with
  | case1 =>
    rw [run]
    exact ⟨List.Perm.refl _, fun k => Iff.rfl⟩
  | case2 operation rest ih =>
    rw [run, Invocation.observe, if_neg (by simp [hopen])]
    exact ih invocation hopen
  | case3 nested rest ih =>
    rw [run, Invocation.issue, if_neg (by simp [hopen])]
    exact ih invocation hopen
  | case4 child rest ih =>
    rw [run]
    obtain ⟨hperm, hreach⟩ := ih (invocation.settle child) (by rw [Invocation.open_settle, hopen])
    exact ⟨hperm.trans (invocation.carried_settle child),
      fun k => (hreach k).trans (invocation.reaches_settle k child)⟩

theorem run_open (descriptor : CapabilityDescriptor σ) (acts : Acts σ ν)
    (invocation : Invocation σ ν) (hopen : invocation.open = true) :
    (run schemaError descriptor acts invocation).carried.Perm (invocation.carried ++
        (acts.observed ++ (outcomes schemaError descriptor acts).flatMap CapabilityResult.operations)) ∧
      ∀ k, (run schemaError descriptor acts invocation).Reaches k ↔ invocation.Reaches k ∨
        (∃ operation ∈ acts.observed, k ≤ operation.effect.rank) ∨
          ∃ outcome ∈ outcomes schemaError descriptor acts, Counts k outcome := by
  induction acts using Acts.observed.induct generalizing invocation with
  | case1 =>
    rw [run]
    simp [outcomes, Acts.observed, Acts.issued]
  | case2 operation rest ih =>
    rw [run]
    obtain ⟨hperm, hreach⟩ := ih (invocation.observe operation) (by simp [Invocation.observe, hopen])
    constructor
    · apply hperm.trans
      simp only [Invocation.observe, hopen, if_true, Invocation.carried, Evidence.observe,
        Acts.observed, outcomes, Acts.issued, List.append_assoc, List.cons_append, List.nil_append]
      exact List.Perm.append_left _ List.perm_middle.symm
    · intro k
      rw [hreach]
      simp only [Invocation.observe, hopen, if_true, Invocation.Reaches, Evidence.observe,
        rank_accumulatedEffect, le_max_iff, Acts.observed, outcomes, Acts.issued, List.mem_cons,
        exists_eq_or_imp]
      grind
  | case3 nested rest ih =>
    rw [run]
    obtain ⟨hperm, hreach⟩ := ih (invocation.issue (call schemaError (boundary descriptor) nested))
      (by simp [Invocation.issue, hopen])
    constructor
    · apply hperm.trans
      simp only [Invocation.issue, hopen, if_true, Invocation.carried, Acts.observed, outcomes,
        Acts.issued, List.append_assoc, List.flatMap_append, List.map_cons, List.flatMap_cons,
        List.flatMap_nil, List.nil_append]
      apply List.Perm.append_left
      apply List.Perm.append_left
      exact List.perm_append_comm_assoc _ _ _
    · intro k
      rw [hreach]
      simp only [Invocation.issue, hopen, if_true, Invocation.Reaches, Acts.observed, outcomes,
        Acts.issued, List.map_cons, List.mem_cons, List.mem_append, or_and_right, exists_or, exists_eq_left]
      grind
  | case4 child rest ih =>
    rw [run]
    obtain ⟨hperm, hreach⟩ := ih (invocation.settle child) (by rw [Invocation.open_settle, hopen])
    constructor
    · exact hperm.trans ((invocation.carried_settle child).append_right _)
    · intro k
      rw [hreach, invocation.reaches_settle k child]
      rfl

/-- The evidence with which a call concludes. -/
def gathered (descriptor : CapabilityDescriptor σ) (acts late : Acts σ ν) : Evidence :=
  (run schemaError descriptor late
    (run schemaError descriptor acts Invocation.start).close).settled

theorem gathered_operations (descriptor : CapabilityDescriptor σ) (acts late : Acts σ ν) :
    (gathered schemaError descriptor acts late).operations.Perm
      (acts.observed ++ (outcomes schemaError descriptor acts).flatMap CapabilityResult.operations) := by
  have hlate := (run_closed schemaError descriptor late
    (run schemaError descriptor acts Invocation.start).close rfl).1
  have hacts := (run_open schemaError descriptor acts Invocation.start rfl).1
  rw [gathered, Invocation.operations_settled]
  exact hlate.trans hacts

theorem le_gathered (k : ℕ) (descriptor : CapabilityDescriptor σ) (acts late : Acts σ ν) :
    k ≤ (gathered schemaError descriptor acts late).effect.rank ↔ k = 0 ∨
      (∃ operation ∈ acts.observed, k ≤ operation.effect.rank) ∨
        ∃ outcome ∈ outcomes schemaError descriptor acts, Counts k outcome := by
  have hlate := (run_closed schemaError descriptor late
    (run schemaError descriptor acts Invocation.start).close rfl).2 k
  have hacts := (run_open schemaError descriptor acts Invocation.start rfl).2 k
  have hstart : (Invocation.start : Invocation σ ν).Reaches k ↔ k = 0 := by
    simp [Invocation.Reaches, Invocation.start, EffectEvidence.rank]
  rw [gathered, Invocation.le_settled, hlate, ← hstart]
  exact hacts

/-! ## What a call returns -/

variable {env : CallEnv σ ν}

theorem select_error {request : CapabilityCall ν} {refused : CapabilityResult σ ν}
    (h : select env request = .error refused) : refused.effect = .none ∧ refused.operations = [] := by
  unfold select at h
  cases hvisibility : env.visibility with
  | none =>
    rw [hvisibility] at h
    cases h
    exact ⟨rfl, rfl⟩
  | some visibility =>
    simp only [hvisibility] at h
    split_ifs at h
    · cases h
      exact ⟨rfl, rfl⟩
    · split at h <;> cases h <;> exact ⟨rfl, rfl⟩

theorem admission_error {bound : Boundary} {request : Option (CapabilityCall ν)}
    {refused : CapabilityResult σ ν} (h : admission schemaError bound env request = .error refused) :
    refused.effect = .none ∧ refused.operations = [] := by
  cases request with
  | none =>
    cases h
    exact ⟨rfl, rfl⟩
  | some request =>
    simp only [admission] at h
    cases hselect : select env request with
    | error resolved =>
      rw [hselect] at h
      cases h
      exact select_error hselect
    | ok descriptor =>
      rw [hselect] at h
      dsimp only at h
      repeat' split at h
      all_goals cases h
      all_goals exact ⟨rfl, rfl⟩

theorem admission_ok {bound : Boundary} {request : Option (CapabilityCall ν)}
    {descriptor : CapabilityDescriptor σ} {selection : CapabilitySelection}
    (h : admission schemaError bound env request = .ok (descriptor, selection)) :
    effectRank descriptor.effect ≤ effectRank bound.ceiling ∧
      ∀ permissions ∈ bound.permissions, descriptor.requiredPermissions ⊆ permissions := by
  cases request with
  | none => cases h
  | some request =>
    simp only [admission] at h
    cases hselect : select env request with
    | error resolved =>
      rw [hselect] at h
      cases h
    | ok selected =>
      rw [hselect] at h
      dsimp only at h
      by_cases heffect : effectRank bound.ceiling < effectRank selected.effect
      · rw [if_pos heffect] at h
        cases h
      rw [if_neg heffect] at h
      by_cases hpermissions : ∃ permissions ∈ bound.permissions,
          ∃ permission ∈ selected.requiredPermissions, permission ∉ permissions
      · rw [if_pos hpermissions] at h
        cases h
      rw [if_neg hpermissions] at h
      have hselected : selected = descriptor := by
        repeat' split at h
        all_goals cases h
        rfl
      subst hselected
      constructor
      · exact Nat.le_of_not_lt heffect
      · intro permissions hbound permission hrequired
        by_contra hmissing
        exact hpermissions ⟨permissions, hbound, permission, hrequired, hmissing⟩

namespace Ending

def isReturned : Ending ν → Bool
  | .returned _ => true
  | .threw _ => false

/-- The implementation threw or returned output that is not JSON or not of its schema. -/
def Faulty (outputSchema : σ) : Ending ν → Prop
  | .threw _ => True
  | .returned none => True
  | .returned (some value) => schemaError outputSchema value ≠ none

end Ending

section Conclusion

variable (descriptor : CapabilityDescriptor σ) (selection : CapabilitySelection) (evidence : Evidence)
  (ending : Ending ν)

/-- Nothing was observed and an external implementation returned. -/
def Unproven : Prop :=
  descriptor.effect = .externalOperation ∧ ending.isReturned = true ∧ evidence.operations = []

omit [DecidableEq σ] in
theorem conclude_operations :
    (conclude schemaError descriptor selection evidence ending).operations = evidence.operations := by
  cases ending with
  | threw error => rfl
  | returned output =>
    simp only [conclude]
    repeat' split
    all_goals rfl

omit [DecidableEq σ] in
theorem conclude_unproven (h : Unproven descriptor evidence ending) :
    (conclude schemaError descriptor selection evidence ending).effect = .possible := by
  obtain ⟨heffect, hreturned, hempty⟩ := h
  cases ending with
  | threw error => cases hreturned
  | returned output => simp [conclude, heffect, hempty]

omit [DecidableEq σ] in
theorem le_conclude (h : ¬ Unproven descriptor evidence ending) : evidence.effect.rank ≤
      (conclude schemaError descriptor selection evidence ending).effect.rank := by
  cases ending with
  | threw error =>
    simp only [conclude]
    split_ifs <;> simp
  | returned output =>
    have hproven : ¬(descriptor.effect = .externalOperation ∧ evidence.operations = []) :=
      fun hboth => h ⟨hboth.1, rfl, hboth.2⟩
    simp only [conclude, if_neg hproven]
    repeat' split
    all_goals simp

omit [DecidableEq σ] in
theorem conclude_mutation (heffect : descriptor.effect = .localMutation) (hreturned : ending.isReturned = true) :
    (conclude schemaError descriptor selection evidence ending).effect = .confirmed := by
  have hrank : ∀ effect : EffectEvidence, accumulatedEffect effect .confirmed = .confirmed := by
    intro effect
    simp [accumulatedEffect]
  cases ending with
  | threw error => cases hreturned
  | returned output =>
    simp only [conclude, heffect, hrank, if_true]
    repeat' split
    all_goals simp_all [accumulatedEffect]

omit [DecidableEq σ] in
theorem conclude_confirmed (h : (conclude schemaError descriptor selection evidence ending).effect = .confirmed) :
    evidence.effect = .confirmed ∨ descriptor.effect = .localMutation ∧ ending.isReturned = true := by
  have hpossible : ∀ effect : EffectEvidence,
      accumulatedEffect effect .possible = .confirmed → effect = .confirmed := by
    intro effect heffect
    cases effect <;> simp_all [accumulatedEffect]
  by_cases hmutation : descriptor.effect = .localMutation ∧ ending.isReturned = true
  · exact .inr hmutation
  · left
    cases ending with
    | threw error =>
      simp only [conclude] at h
      split_ifs at h
      · exact hpossible _ h
      · exact h
    | returned output =>
      have hother : descriptor.effect ≠ .localMutation := fun heffect => hmutation ⟨heffect, rfl⟩
      simp only [conclude, if_neg hother] at h
      repeat' split at h
      all_goals first | exact h | exact hpossible _ h | cases h

omit [DecidableEq σ] in
theorem conclude_faulty (heffect : descriptor.effect ≠ .query)
    (h : ending.Faulty schemaError descriptor.outputSchema) :
    (conclude schemaError descriptor selection evidence ending).effect ≠ .none := by
  have hpossible : ∀ effect, accumulatedEffect effect .possible ≠ .none := by
    intro effect
    cases effect <;> decide
  cases ending with
  | threw error =>
    simp only [conclude, if_pos heffect]
    exact hpossible _
  | returned output =>
    cases output with
    | none =>
      simp only [conclude, if_pos heffect]
      split_ifs <;> simp [hpossible]
    | some value =>
      obtain ⟨outputError, herror⟩ := Option.ne_none_iff_exists'.1 h
      simp only [conclude, herror, if_pos heffect]
      split_ifs <;> simp [hpossible]

end Conclusion

/-! ## Trees of calls -/

/-- The descriptor whose implementation a call enters. -/
def admitted (bound : Boundary) : CallTree σ ν → Option (CapabilityDescriptor σ)
  | .mk request env _ _ _ =>
    match admission schemaError bound env request with
    | .error _ => none
    | .ok (descriptor, _) => some descriptor

theorem call_refused {bound : Boundary} {tree : CallTree σ ν} (h : admitted schemaError bound tree = none) :
    (call schemaError bound tree).effect = .none ∧ (call schemaError bound tree).operations = [] := by
  obtain ⟨request, env, acts, ending, late⟩ := tree
  rw [call]
  rw [admitted] at h
  cases hadmission : admission schemaError bound env request with
  | error refused => exact admission_error schemaError hadmission
  | ok entry =>
    rw [hadmission] at h
    cases h

theorem call_admitted {bound : Boundary} {tree : CallTree σ ν} {descriptor : CapabilityDescriptor σ}
    (h : admitted schemaError bound tree = some descriptor) : ∃ selection late, call schemaError bound tree =
      conclude schemaError descriptor selection (gathered schemaError descriptor tree.acts late) tree.ending := by
  obtain ⟨request, env, acts, ending, late⟩ := tree
  rw [admitted] at h
  rw [call]
  cases hadmission : admission schemaError bound env request with
  | error refused =>
    rw [hadmission] at h
    cases h
  | ok entry =>
    obtain ⟨selected, selection⟩ := entry
    rw [hadmission] at h
    cases h
    exact ⟨selection, late, rfl⟩

theorem admitted_bound {bound : Boundary} {tree : CallTree σ ν}
    {descriptor : CapabilityDescriptor σ} (h : admitted schemaError bound tree = some descriptor) :
    effectRank descriptor.effect ≤ effectRank bound.ceiling ∧
      ∀ permissions ∈ bound.permissions, descriptor.requiredPermissions ⊆ permissions := by
  obtain ⟨request, env, acts, ending, late⟩ := tree
  rw [admitted] at h
  cases hadmission : admission schemaError bound env request with
  | error refused =>
    rw [hadmission] at h
    cases h
  | ok entry =>
    obtain ⟨selected, selection⟩ := entry
    rw [hadmission] at h
    cases h
    exact admission_ok schemaError hadmission

theorem call_operations {bound : Boundary} {tree : CallTree σ ν} {descriptor : CapabilityDescriptor σ}
    (h : admitted schemaError bound tree = some descriptor) :
    (call schemaError bound tree).operations.Perm (tree.acts.observed ++
      (outcomes schemaError descriptor tree.acts).flatMap CapabilityResult.operations) := by
  obtain ⟨selection, late, hcall⟩ := call_admitted schemaError h
  rw [hcall, conclude_operations]
  exact gathered_operations schemaError descriptor tree.acts late

/-- `Nested bound tree ancestors inner call`: the call is made within the tree, under the boundary `inner`,
below the implementations of the ancestors, nearest first. -/
inductive Nested : Boundary → CallTree σ ν → List (CapabilityDescriptor σ) → Boundary → CallTree σ ν → Prop where
  | root (bound : Boundary) (tree : CallTree σ ν) : Nested bound tree [] bound tree
  | inside {bound inner : Boundary} {tree nested leaf : CallTree σ ν}
      {descriptor : CapabilityDescriptor σ} {ancestors : List (CapabilityDescriptor σ)}
      (hadmitted : admitted schemaError bound tree = some descriptor)
      (hissued : nested ∈ tree.acts.issued)
      (hnested : Nested (boundary descriptor) nested ancestors inner leaf) :
      Nested bound tree (ancestors ++ [descriptor]) inner leaf

/-- What holds of an entered call and the calls and observations of its implementation. -/
structure CallSound (ancestors : List (CapabilityDescriptor σ)) (bound : Boundary)
    (tree : CallTree σ ν) (descriptor : CapabilityDescriptor σ) : Prop where
  effect_le : ∀ ancestor ∈ ancestors, effectRank descriptor.effect ≤ effectRank ancestor.effect
  permissions_subset : ∀ ancestor ∈ ancestors,
    descriptor.requiredPermissions ⊆ ancestor.requiredPermissions
  observed : ∀ operation ∈ tree.acts.observed,
    operation ∈ (call schemaError bound tree).operations ∧
      operation.effect.rank ≤ (call schemaError bound tree).effect.rank
  nested : ∀ outcome ∈ outcomes schemaError descriptor tree.acts,
    outcome.operations ⊆ (call schemaError bound tree).operations ∧
      outcome.effect.rank ≤ (call schemaError bound tree).effect.rank
  uncertain : descriptor.effect ≠ .query →
    tree.ending.Faulty schemaError descriptor.outputSchema →
      (call schemaError bound tree).effect ≠ .none

/-- No implementation in the tree observes an operation. -/
def Quiet (bound : Boundary) (tree : CallTree σ ν) : Prop :=
  ∀ ancestors inner leaf descriptor, Nested schemaError bound tree ancestors inner leaf →
    admitted schemaError inner leaf = some descriptor → leaf.acts.observed = []

/-- The implementation of a local mutation that the tree enters returns. -/
def Mutates (bound : Boundary) (tree : CallTree σ ν) : Prop :=
  ∃ ancestors inner leaf descriptor, Nested schemaError bound tree ancestors inner leaf ∧
    admitted schemaError inner leaf = some descriptor ∧ descriptor.effect = .localMutation ∧
      leaf.ending.isReturned = true

/-- An external implementation returns, nothing was observed by it or below it, and a local mutation
returned below it. -/
def Understated (bound : Boundary) (tree : CallTree σ ν) (descriptor : CapabilityDescriptor σ) : Prop :=
  descriptor.effect = .externalOperation ∧ tree.ending.isReturned = true ∧
    Quiet schemaError bound tree ∧
      ∃ nested ∈ tree.acts.issued, Mutates schemaError (boundary descriptor) nested

def TreeSound (bound : Boundary) (tree : CallTree σ ν) : Prop :=
  ∀ ancestors inner leaf descriptor, Nested schemaError bound tree ancestors inner leaf →
    admitted schemaError inner leaf = some descriptor →
      CallSound schemaError ancestors inner leaf descriptor

section Trees

variable {schemaError} {bound inner : Boundary} {tree leaf nested : CallTree σ ν}
  {ancestors : List (CapabilityDescriptor σ)} {descriptor : CapabilityDescriptor σ}

theorem Nested.child (hadmitted : admitted schemaError bound tree = some descriptor)
    (hissued : nested ∈ tree.acts.issued) : Nested schemaError bound tree [descriptor] (boundary descriptor) nested :=
  Nested.inside hadmitted hissued (Nested.root _ _)

theorem Nested.trans {deeper : Boundary} {first : CallTree σ ν} {above : List (CapabilityDescriptor σ)}
    (houter : Nested schemaError bound tree above inner leaf)
    (hinner : Nested schemaError inner leaf ancestors deeper first) :
    Nested schemaError bound tree (ancestors ++ above) deeper first := by
  induction houter with
  | root bound tree => simpa using hinner
  | inside hadmitted hissued hnested ih =>
    rw [← List.append_assoc]
    exact Nested.inside hadmitted hissued (ih hinner)

theorem Nested.boundary_le (h : Nested schemaError bound tree ancestors inner leaf) :
    (ancestors = [] ∨ ∃ permissions ∈ inner.permissions, ∀ ancestor ∈ ancestors,
      effectRank inner.ceiling ≤ effectRank ancestor.effect ∧ permissions ⊆ ancestor.requiredPermissions) ∧
      effectRank inner.ceiling ≤ effectRank bound.ceiling ∧
        ∀ outer ∈ bound.permissions, ∃ permissions ∈ inner.permissions, permissions ⊆ outer := by
  induction h with
  | root bound tree =>
    exact ⟨.inl rfl, Nat.le_refl _, fun outer houter => ⟨outer, houter, fun _ h => h⟩⟩
  | @inside bound inner tree nested leaf descriptor ancestors hadmitted hissued hnested ih =>
    obtain ⟨habove, heffect, hpermissions⟩ := ih
    obtain ⟨hceiling, hrequired⟩ := admitted_bound schemaError hadmitted
    obtain ⟨permissions, hinner, hsubset⟩ := hpermissions _ rfl
    refine ⟨.inr ⟨permissions, hinner, ?_⟩, Nat.le_trans heffect hceiling, ?_⟩
    · intro ancestor hmem
      rcases List.mem_append.1 hmem with hold | hnew
      · rcases habove with rfl | ⟨others, hothers, hall⟩
        · cases hold
        · rw [Option.mem_def.1 hinner] at hothers
          cases hothers
          exact hall ancestor hold
      · rw [List.mem_singleton.1 hnew]
        exact ⟨heffect, hsubset⟩
    · intro outer houter
      exact ⟨permissions, hinner, fun _ h => hrequired outer houter (hsubset h)⟩

theorem mem_outcomes {outcome : CapabilityResult σ ν} {acts : Acts σ ν} :
    outcome ∈ outcomes schemaError descriptor acts ↔
      ∃ nested ∈ acts.issued, call schemaError (boundary descriptor) nested = outcome :=
  List.mem_map

theorem call_observed (hadmitted : admitted schemaError bound tree = some descriptor)
    {operation : CapabilityOperation} (h : operation ∈ tree.acts.observed) :
    operation ∈ (call schemaError bound tree).operations :=
  (call_operations schemaError hadmitted).symm.subset (List.mem_append_left _ h)

theorem call_outcomes (hadmitted : admitted schemaError bound tree = some descriptor)
    {outcome : CapabilityResult σ ν} (h : outcome ∈ outcomes schemaError descriptor tree.acts) :
    outcome.operations ⊆ (call schemaError bound tree).operations := by
  intro operation hmem
  apply (call_operations schemaError hadmitted).symm.subset
  exact List.mem_append_right _ (List.mem_flatMap.2 ⟨outcome, h, hmem⟩)

/-- A call without operations has none below it. -/
theorem Nested.silent (h : Nested schemaError bound tree ancestors inner leaf)
    (hempty : (call schemaError bound tree).operations = []) : (call schemaError inner leaf).operations = [] := by
  induction h with
  | root bound tree => exact hempty
  | inside hadmitted hissued hnested ih =>
    apply ih
    apply List.eq_nil_iff_forall_not_mem.2
    intro operation hmem
    have hsubset := call_outcomes hadmitted (mem_outcomes.2 ⟨_, hissued, rfl⟩)
    rw [hempty] at hsubset
    cases hsubset hmem

theorem quiet_of_silent (hempty : (call schemaError bound tree).operations = []) : Quiet schemaError bound tree := by
  intro ancestors inner leaf descriptor hnested hadmitted
  apply List.eq_nil_iff_forall_not_mem.2
  intro operation hmem
  have hleaf := call_observed hadmitted hmem
  rw [hnested.silent hempty] at hleaf
  cases hleaf

theorem silent_of_quiet (tree : CallTree σ ν) (bound : Boundary)
    (hquiet : Quiet schemaError bound tree) : (call schemaError bound tree).operations = [] := by
  cases hadmitted : admitted schemaError bound tree with
  | none => exact (call_refused schemaError hadmitted).2
  | some descriptor =>
    apply (call_operations schemaError hadmitted).trans ?_ |>.eq_nil
    rw [hquiet [] bound tree descriptor (Nested.root _ _) hadmitted, List.nil_append]
    have hnone : (outcomes schemaError descriptor tree.acts).flatMap
        CapabilityResult.operations = [] := by
      rw [List.flatMap_eq_nil_iff]
      intro outcome houtcome
      obtain ⟨nested, hissued, rfl⟩ := mem_outcomes.1 houtcome
      apply silent_of_quiet nested
      intro ancestors inner leaf found hnested hfound
      exact hquiet _ _ _ _ (Nested.inside hadmitted hissued hnested) hfound
    rw [hnone]
termination_by sizeOf tree
decreasing_by
  have hlt := Acts.sizeOf_issued hissued
  have htree := tree.sizeOf_acts
  omega

theorem mutates_of_confirmed (tree : CallTree σ ν) (bound : Boundary)
    (hempty : (call schemaError bound tree).operations = [])
    (hconfirmed : (call schemaError bound tree).effect = .confirmed) : Mutates schemaError bound tree := by
  cases hadmitted : admitted schemaError bound tree with
  | none =>
    rw [(call_refused schemaError hadmitted).1] at hconfirmed
    cases hconfirmed
  | some descriptor =>
    obtain ⟨selection, late, hcall⟩ := call_admitted schemaError hadmitted
    rw [hcall] at hconfirmed
    rcases conclude_confirmed schemaError _ _ _ _ hconfirmed with hevidence | ⟨heffect, hreturned⟩
    · rw [EffectEvidence.eq_confirmed_iff, le_gathered] at hevidence
      rcases hevidence with hzero | ⟨operation, hmem, _⟩ | ⟨outcome, houtcome, hcounts⟩
      · cases hzero
      · have hop := call_observed hadmitted hmem
        rw [hempty] at hop
        cases hop
      · obtain ⟨nested, hissued, rfl⟩ := mem_outcomes.1 houtcome
        have hsilent : (call schemaError (boundary descriptor) nested).operations = [] :=
          (Nested.child hadmitted hissued).silent hempty
        rcases hcounts with heffect | ⟨operation, hmem, _⟩
        · obtain ⟨ancestors, inner, leaf, found, hnested, hleaf⟩ :=
            mutates_of_confirmed nested (boundary descriptor) hsilent
              ((EffectEvidence.eq_confirmed_iff _).2 heffect)
          exact ⟨_, inner, leaf, found, Nested.inside hadmitted hissued hnested, hleaf⟩
        · rw [hsilent] at hmem
          cases hmem
    · exact ⟨[], bound, tree, descriptor, Nested.root _ _, hadmitted, heffect, hreturned⟩
termination_by sizeOf tree
decreasing_by
  have hlt := Acts.sizeOf_issued hissued
  have htree := tree.sizeOf_acts
  omega

theorem unproven_gathered {late : Acts σ ν} {selection : CapabilitySelection}
    (hcall : call schemaError bound tree = conclude schemaError descriptor selection
      (gathered schemaError descriptor tree.acts late) tree.ending)
    (h : Unproven descriptor (gathered schemaError descriptor tree.acts late) tree.ending) :
    (call schemaError bound tree).operations = [] ∧ (call schemaError bound tree).effect = .possible := by
  rw [hcall]
  exact ⟨(conclude_operations schemaError _ _ _ _).trans h.2.2, conclude_unproven schemaError _ _ _ _ h⟩

theorem call_effect (hadmitted : admitted schemaError bound tree = some descriptor)
    (hstated : ¬ Understated schemaError bound tree descriptor) : (∀ operation ∈ tree.acts.observed,
      operation.effect.rank ≤ (call schemaError bound tree).effect.rank) ∧
    ∀ outcome ∈ outcomes schemaError descriptor tree.acts,
      outcome.effect.rank ≤ (call schemaError bound tree).effect.rank := by
  obtain ⟨selection, late, hcall⟩ := call_admitted schemaError hadmitted
  by_cases hunproven :
      Unproven descriptor (gathered schemaError descriptor tree.acts late) tree.ending
  · obtain ⟨hempty, hpossible⟩ := unproven_gathered hcall hunproven
    constructor
    · intro operation hmem
      have hop := call_observed hadmitted hmem
      rw [hempty] at hop
      cases hop
    · intro outcome houtcome
      obtain ⟨nested, hissued, rfl⟩ := mem_outcomes.1 houtcome
      rw [hpossible]
      by_contra hlarge
      have hconfirmed : (call schemaError (boundary descriptor) nested).effect = .confirmed := by
        rw [EffectEvidence.eq_confirmed_iff]
        exact Nat.lt_of_not_le hlarge
      apply hstated
      exact ⟨hunproven.1, hunproven.2.1, quiet_of_silent hempty, nested, hissued,
        mutates_of_confirmed nested _ ((Nested.child hadmitted hissued).silent hempty) hconfirmed⟩
  · have hle := le_conclude schemaError descriptor selection _ tree.ending hunproven
    rw [← hcall] at hle
    constructor
    · intro operation hmem
      apply Nat.le_trans ?_ hle
      exact (le_gathered schemaError _ _ _ _).2 (.inr (.inl ⟨operation, hmem, Nat.le_refl _⟩))
    · intro outcome houtcome
      apply Nat.le_trans ?_ hle
      exact (le_gathered schemaError _ _ _ _).2 (.inr (.inr ⟨outcome, houtcome, .inl (Nat.le_refl _)⟩))

theorem Nested.callSound (h : Nested schemaError bound tree ancestors inner leaf)
    (hadmitted : admitted schemaError inner leaf = some descriptor)
    (hstated : ¬ Understated schemaError inner leaf descriptor) :
    CallSound schemaError ancestors inner leaf descriptor := by
  obtain ⟨habove, -, -⟩ := h.boundary_le
  obtain ⟨hceiling, hrequired⟩ := admitted_bound schemaError hadmitted
  have hancestors : ∀ ancestor ∈ ancestors,
      effectRank descriptor.effect ≤ effectRank ancestor.effect ∧
        descriptor.requiredPermissions ⊆ ancestor.requiredPermissions := by
    intro ancestor hmem
    rcases habove with rfl | ⟨permissions, hpermissions, hall⟩
    · cases hmem
    · obtain ⟨heffect, hsubset⟩ := hall ancestor hmem
      exact ⟨Nat.le_trans hceiling heffect, fun _ hmem => hsubset (hrequired permissions hpermissions hmem)⟩
  obtain ⟨hobserved, houtcomes⟩ := call_effect hadmitted hstated
  constructor
  · exact fun ancestor hmem => (hancestors ancestor hmem).1
  · exact fun ancestor hmem => (hancestors ancestor hmem).2
  · exact fun operation hmem => ⟨call_observed hadmitted hmem, hobserved operation hmem⟩
  · exact fun outcome hmem => ⟨call_outcomes hadmitted hmem, houtcomes outcome hmem⟩
  · intro heffect hfaulty
    obtain ⟨selection, late, hcall⟩ := call_admitted schemaError hadmitted
    rw [hcall]
    exact conclude_faulty schemaError _ _ _ _ heffect hfaulty

theorem Nested.effect_rank_le (h : Nested schemaError bound tree ancestors inner leaf)
    (hkept : ∀ above middle node found, Nested schemaError bound tree above middle node →
      admitted schemaError middle node = some found → ∀ outcome ∈ outcomes schemaError found node.acts,
          outcome.effect.rank ≤ (call schemaError middle node).effect.rank) :
    (call schemaError inner leaf).effect.rank ≤ (call schemaError bound tree).effect.rank := by
  induction h with
  | root bound tree => exact Nat.le_refl _
  | inside hadmitted hissued hnested ih =>
    have hnext := hkept _ _ _ _ (Nested.root _ _) hadmitted _ (mem_outcomes.2 ⟨_, hissued, rfl⟩)
    apply Nat.le_trans ?_ hnext
    apply ih
    intro above middle node found hnode
    exact hkept _ _ _ _ (Nested.inside hadmitted hissued hnode)

theorem TreeSound.stated (hsound : TreeSound schemaError bound tree)
    (h : Nested schemaError bound tree ancestors inner leaf)
    (hadmitted : admitted schemaError inner leaf = some descriptor) :
    ¬ Understated schemaError inner leaf descriptor := by
  rintro ⟨hexternal, hreturned, hquiet, nested, hissued, above, middle, node, found, hnode, hfound,
    hmutation, hended⟩
  have hlow : (call schemaError inner leaf).effect = .possible := by
    obtain ⟨selection, late, hcall⟩ := call_admitted schemaError hadmitted
    have hempty := silent_of_quiet leaf inner hquiet
    rw [hcall, conclude_operations] at hempty
    rw [hcall]
    exact conclude_unproven schemaError _ _ _ _ ⟨hexternal, hreturned, hempty⟩
  have hhigh : (call schemaError middle node).effect = .confirmed := by
    obtain ⟨selection, late, hcall⟩ := call_admitted schemaError hfound
    rw [hcall]
    exact conclude_mutation schemaError _ _ _ _ hmutation hended
  have hle := (Nested.inside hadmitted hissued hnode).effect_rank_le
    fun above middle node found hnested hfound outcome houtcome =>
      ((hsound _ _ _ _ (h.trans hnested) hfound).nested outcome houtcome).2
  rw [hlow, hhigh] at hle
  exact absurd hle (by decide)

end Trees

/-- The calls of a tree are sound exactly when none of them is understated. -/
theorem nested_calls_sound_iff (tree : CallTree σ ν) : TreeSound schemaError Boundary.root tree ↔
      ∀ ancestors inner leaf descriptor, Nested schemaError Boundary.root tree ancestors inner leaf →
          admitted schemaError inner leaf = some descriptor → ¬ Understated schemaError inner leaf descriptor :=
  ⟨fun hsound _ _ _ _ hnested hadmitted => hsound.stated hnested hadmitted,
    fun hstated ancestors inner leaf descriptor hnested hadmitted =>
      hnested.callSound hadmitted (hstated ancestors inner leaf descriptor hnested hadmitted)⟩

section Sample

def sampleDescriptor (name : String) (effect : CapabilityEffect) : CapabilityDescriptor Unit :=
  { name, contractVersion := "1", inputSchema := (), outputSchema := (), effect,
    requiredPermissions := [], provider := ⟨"demo", "1"⟩, scope := .global, required := [],
    unavailable := none }

def sampleEnv : CallEnv Unit String :=
  { descriptors := [sampleDescriptor "demo.send" .externalOperation,
      sampleDescriptor "demo.note" .localMutation],
    visibility := some ⟨[], []⟩, authorizes := fun _ => true, revoked := fun _ _ => false,
    assess := fun _ _ => .ok none, isAvailable := fun _ => true, acquire := fun _ => none }

/-- A call by name whose implementation returns a text. -/
def sampleCall (name : String) (acts : Acts Unit String) : CallTree Unit String :=
  .mk (some { name, input := "", contractVersion := none, providerId := none, requestId := some "r" })
    sampleEnv acts (.returned (some "done")) .done

/-- An external implementation that only awaits a local mutation. -/
def noteOnly : CallTree Unit String :=
  sampleCall "demo.send" (.call (sampleCall "demo.note" .done) (.settle 0 .done))

/-- The mutation below the external call was confirmed, and the external call says `possible`. -/
theorem confirmed_mutation_understated : ¬ TreeSound (fun _ _ => none) Boundary.root noteOnly := by
  intro hsound
  have hadmitted : admitted (fun _ _ => none) Boundary.root noteOnly =
      some (sampleDescriptor "demo.send" .externalOperation) := by rfl
  have hnested := (hsound _ _ _ _ (Nested.root _ _) hadmitted).nested _
    (mem_outcomes.2 ⟨sampleCall "demo.note" .done, List.mem_singleton_self _, rfl⟩)
  exact absurd hnested.2 (by decide)

end Sample

end Capability
