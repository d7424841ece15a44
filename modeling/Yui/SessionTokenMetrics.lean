import Yui.JobRunner
import Yui.KeyedMap
import Yui.RuntimeObservationKey

/-!
# Session token metrics

`runtime/sessionTokenMetrics.ts`: the token observations of one native Session are put in order and
reduced to a total and a largest request. `localeCompare` belongs to the host: a consistent
comparator that may answer zero for different texts, as it must for canonically equivalent ones.
-/

class LocaleOrder where
  localeCompare : String → String → ℤ
  refl : ∀ a, localeCompare a a = 0
  neg_iff : ∀ a b, localeCompare a b < 0 ↔ 0 < localeCompare b a
  trans : ∀ a b c, localeCompare a b ≤ 0 → localeCompare b c ≤ 0 → localeCompare a c ≤ 0

namespace Runtime

open Checked JsText LocaleOrder

structure SessionTokenIdentity where
  taskId : String
  roleName : String
  agentId : String
  driverId : String
  nativeSessionId : String
  deriving DecidableEq

structure ObservedTokens where
  totalTokens : ℚ
  inputTokens : ℚ
  outputTokens : ℚ
  cachedInputTokens : Option ℚ
  reasoningTokens : Option ℚ
  deriving DecidableEq

inductive SessionCumulativeTokenMetric where
  | unobserved
  | observed (tokens : ObservedTokens)
  deriving DecidableEq

inductive SessionMaximumRequestInputMetric where
  | unobserved
  | observed (inputTokens : ℚ)
  deriving DecidableEq

structure SessionTokenMetrics where
  identity : Option SessionTokenIdentity
  cumulativeTotal : SessionCumulativeTokenMetric
  maximumRequestInput : SessionMaximumRequestInputMetric
  deriving DecidableEq

/-! ## The observations that count, and their order -/

def matchesSessionIdentity (observation : RuntimeObservation) (identity : SessionTokenIdentity) : Bool :=
  let fence := observation.fence
  fence.taskId = some identity.taskId && fence.roleName = identity.roleName &&
    fence.agentId = identity.agentId && fence.driverId = identity.driverId &&
    fence.nativeSessionId = some identity.nativeSessionId

/-- The filter of `projectSessionTokenObservations`. -/
def isSessionToken (identity : SessionTokenIdentity) (observation : RuntimeObservation) : Bool :=
  isRuntimeTokenEvidence observation && matchesSessionIdentity observation identity &&
    (observation.authority = .providerStructured || observation.authority = .driverInferred) &&
    observation.fence.continuationId.isNone && observation.fence.parentContinuationId.isNone

/-- `left || right`. -/
def orNext (left right : ℚ) : ℚ := if left = 0 then right else left

/-- `value ?? -1`. -/
def positionOf : Option JsNumeric → ℚ
  | some (.finite value) => value
  | _ => -1

def compareObservations [LocaleOrder] (left right : RuntimeObservation) : ℚ :=
  orNext (localeCompare left.receivedAt right.receivedAt) <|
    orNext (positionOf left.sequence - positionOf right.sequence) <|
      orNext (positionOf left.ordinal - positionOf right.ordinal) <|
        localeCompare left.eventId right.eventId

def sortObservations [LocaleOrder] (observations : List RuntimeObservation) : List RuntimeObservation :=
  observations.mergeSort fun left right => compareObservations left right ≤ 0

/-! ## The sums -/

def safeAdd (left right : ℚ) : Option ℚ :=
  if isSafeInteger (left + right) ∧ 0 ≤ left + right then some (left + right) else none

def safeSumFrom (total : ℚ) : List ℚ → Option ℚ
  | [] => some total
  | value :: values => (safeAdd total value).bind fun total => safeSumFrom total values

def safeSum (values : List ℚ) : Option ℚ := safeSumFrom 0 values

/-- A counter of a decoded usage snapshot, which is a non-negative safe integer. -/
def counter : Option JsNumeric → ℚ
  | some (.finite value) => value
  | _ => 0

/-- `payload.usage!`. -/
def usageOf (observation : RuntimeObservation) : RuntimeUsageSnapshot :=
  observation.payload.usage.getD ⟨none, none, none, none, none⟩

def hasSemantics (semantics : RuntimeUsageSemantics) (observation : RuntimeObservation) : Bool :=
  observation.payload.usage.any fun usage => usage.semantics = some semantics

def requestId (observation : RuntimeObservation) : String :=
  observation.payload.activityId.getD observation.semanticKey

def isIncomplete (observation : RuntimeObservation) : Bool :=
  observation.payload.observationQuality = some .partially ||
    observation.payload.observationQuality = some .unavailable

/-! ## The projection -/

def unobservedSessionTokenMetrics (identity : SessionTokenIdentity) : SessionTokenMetrics :=
  ⟨some identity, .unobserved, .unobserved⟩

def optionalSum (count : RuntimeUsageSnapshot → Option JsNumeric) (values : List RuntimeUsageSnapshot) : Option ℚ :=
  if values.all fun usage => (count usage).isSome then safeSum (values.map fun usage => counter (count usage))
  else none

/-- What `projectRequestSnapshots` reports of the snapshots it keeps, one for each request. -/
def requestMetrics (identity : SessionTokenIdentity) (values : List RuntimeUsageSnapshot) : SessionTokenMetrics :=
  match safeSum (values.map fun usage => counter usage.inputTokens),
    safeSum (values.map fun usage => counter usage.outputTokens) with
  | some inputTokens, some outputTokens =>
    match safeAdd inputTokens outputTokens with
    | some totalTokens =>
      ⟨some identity,
        .observed ⟨totalTokens, inputTokens, outputTokens,
          optionalSum RuntimeUsageSnapshot.cachedInputTokens values,
          optionalSum RuntimeUsageSnapshot.reasoningTokens values⟩,
        .observed ((values.map fun usage => counter usage.inputTokens).foldr max 0)⟩
    | none => unobservedSessionTokenMetrics identity
  | _, _ => unobservedSessionTokenMetrics identity

def projectRequestSnapshots (identity : SessionTokenIdentity) (observations : List RuntimeObservation)
    (hasIncompleteBoundary : Bool) : SessionTokenMetrics :=
  if hasIncompleteBoundary || observations.any isIncomplete then unobservedSessionTokenMetrics identity
  else requestMetrics identity ((KeyedMap.ofList requestId observations).map usageOf)

/-- The loop over the counters after the first: whether one went back, and the largest increase. -/
def increases (previous : RuntimeUsageSnapshot) (counterRollback : Bool) (maximumRequestInput : Option ℚ) :
    List RuntimeUsageSnapshot → Bool × Option ℚ
  | [] => (counterRollback, maximumRequestInput)
  | current :: values =>
    let requestInput := max 0 (counter current.inputTokens - counter previous.inputTokens)
    increases current
      (counterRollback || counter current.inputTokens < counter previous.inputTokens ||
        counter current.outputTokens < counter previous.outputTokens)
      (some (maximumRequestInput.elim requestInput fun largest => max largest requestInput)) values

def projectCumulativeSnapshots (identity : SessionTokenIdentity) (observations : List RuntimeObservation)
    (hasIncompleteBoundary : Bool) : SessionTokenMetrics :=
  match observations.map usageOf with
  | [] => unobservedSessionTokenMetrics identity
  | first :: values =>
    let (counterRollback, maximumRequestInput) := increases first false none values
    let latest := (first :: values).getLast (by simp)
    let requestBoundaryIncomplete := hasIncompleteBoundary || observations.any isIncomplete
    ⟨some identity,
      match counterRollback, safeAdd (counter latest.inputTokens) (counter latest.outputTokens) with
      | false, some totalTokens =>
        .observed ⟨totalTokens, counter latest.inputTokens, counter latest.outputTokens,
          latest.cachedInputTokens.map fun value => counter (some value),
          latest.reasoningTokens.map fun value => counter (some value)⟩
      | _, _ => .unobserved,
      match counterRollback || requestBoundaryIncomplete, maximumRequestInput with
      | false, some inputTokens => .observed inputTokens
      | _, _ => .unobserved⟩

def projectSessionTokenObservations [LocaleOrder] (input : List RuntimeObservation)
    (identity : SessionTokenIdentity) : SessionTokenMetrics :=
  let observations := sortObservations (input.filter (isSessionToken identity))
  let hasIncompleteBoundary := observations.any fun observation => observation.payload.usage.isNone
  let request := observations.filter (hasSemantics .requestContext)
  let cumulative := observations.filter (hasSemantics .cumulativeSession)
  if !request.isEmpty && !cumulative.isEmpty then unobservedSessionTokenMetrics identity
  else if !request.isEmpty then projectRequestSnapshots identity request hasIncompleteBoundary
  else if !cumulative.isEmpty then projectCumulativeSnapshots identity cumulative hasIncompleteBoundary
  else unobservedSessionTokenMetrics identity

/-! ## The order is consistent -/

/-- The laws of a comparator: its sign turns with its arguments, and "not after" is transitive. -/
structure Consistent {α : Type} (compare : α → α → ℚ) : Prop where
  neg_iff : ∀ a b, compare a b < 0 ↔ 0 < compare b a
  trans : ∀ a b c, compare a b ≤ 0 → compare b c ≤ 0 → compare a c ≤ 0

namespace Consistent

variable {α : Type} {first second : α → α → ℚ}

theorem swap_eq_zero (h : Consistent first) {a b : α} (hab : first a b = 0) : first b a = 0 := by
  apply le_antisymm
  · exact not_lt.1 fun hlt => hab.not_lt ((h.neg_iff a b).2 hlt)
  · exact not_lt.1 fun hlt => hab.not_gt ((h.neg_iff b a).1 hlt)

theorem eq_zero (h : Consistent first) {a b : α} (hab : first a b ≤ 0) (hba : first b a ≤ 0) : first a b = 0 := by
  apply le_antisymm hab
  exact not_lt.1 fun hlt => hba.not_gt ((h.neg_iff a b).1 hlt)

theorem total (h : Consistent first) (a b : α) : first a b ≤ 0 ∨ first b a ≤ 0 := by
  by_cases hab : first a b ≤ 0
  · exact .inl hab
  · exact .inr ((h.neg_iff b a).2 (not_le.1 hab)).le

theorem self_le (h : Consistent first) (a : α) : first a a ≤ 0 := or_self_iff.1 (h.total a a)

theorem le_of_orNext {left right : ℚ} (h : orNext left right ≤ 0) : left ≤ 0 := by
  unfold orNext at h
  split_ifs at h with hzero
  · exact hzero.le
  · exact h

theorem orNext (hfirst : Consistent first) (hsecond : Consistent second) :
    Consistent fun a b => Runtime.orNext (first a b) (second a b) where
  neg_iff a b := by
    unfold Runtime.orNext
    by_cases hab : first a b = 0
    · rw [if_pos hab, if_pos (hfirst.swap_eq_zero hab)]
      exact hsecond.neg_iff a b
    · rw [if_neg hab, if_neg fun hba => hab (hfirst.swap_eq_zero hba)]
      exact hfirst.neg_iff a b
  trans a b c hab hbc := by
    have hle := hfirst.trans a b c (le_of_orNext hab) (le_of_orNext hbc)
    unfold Runtime.orNext at hab hbc ⊢
    by_cases hac : first a c = 0
    · -- a tie of the ends is a tie all the way
      have hba : first b a ≤ 0 := hfirst.trans b c a (le_of_orNext hbc) (hfirst.swap_eq_zero hac).le
      have hzero := hfirst.eq_zero (le_of_orNext hab) hba
      have hcb : first c b ≤ 0 := hfirst.trans c a b (hfirst.swap_eq_zero hac).le (le_of_orNext hab)
      have hzero' := hfirst.eq_zero (le_of_orNext hbc) hcb
      rw [if_pos hzero] at hab
      rw [if_pos hzero'] at hbc
      rw [if_pos hac]
      exact hsecond.trans a b c hab hbc
    · rwa [if_neg hac]

theorem sub (position : α → ℚ) : Consistent fun a b => position a - position b where
  neg_iff a b := by rw [sub_neg, sub_pos]
  trans a b c hab hbc := by
    rw [sub_nonpos] at hab hbc ⊢
    exact hab.trans hbc

theorem locale [LocaleOrder] (text : α → String) : Consistent fun a b => (localeCompare (text a) (text b) : ℚ) where
  neg_iff a b := by
    have h := LocaleOrder.neg_iff (text a) (text b)
    exact_mod_cast h
  trans a b c hab hbc := by
    have h := LocaleOrder.trans (text a) (text b) (text c) (by exact_mod_cast hab) (by exact_mod_cast hbc)
    exact_mod_cast h

end Consistent

section Order

variable [LocaleOrder] {observations others : List RuntimeObservation} {left right : RuntimeObservation}

theorem consistent_compareObservations : Consistent compareObservations :=
  (Consistent.locale RuntimeObservation.receivedAt).orNext <|
    (Consistent.sub fun observation => positionOf observation.sequence).orNext <|
      (Consistent.sub fun observation => positionOf observation.ordinal).orNext
        (Consistent.locale RuntimeObservation.eventId)

theorem eventId_of_compare_eq_zero (h : compareObservations left right = 0) :
    localeCompare left.eventId right.eventId = 0 := by
  have orNext_eq_zero : ∀ {a b : ℚ}, orNext a b = 0 → b = 0 := by
    intro a b hab
    unfold orNext at hab
    split_ifs at hab with hzero
    · exact hab
    · exact absurd hab hzero
  exact_mod_cast orNext_eq_zero (orNext_eq_zero (orNext_eq_zero h))

theorem sortObservations_perm (observations : List RuntimeObservation) :
    (sortObservations observations).Perm observations :=
  List.mergeSort_perm _ _

theorem pairwise_sortObservations (observations : List RuntimeObservation) :
    (sortObservations observations).Pairwise fun left right => compareObservations left right ≤ 0 := by
  have h : (sortObservations observations).Pairwise fun left right =>
      decide (compareObservations left right ≤ 0) = true := by
    refine List.pairwise_mergeSort (fun a b c hab hbc => ?_) (fun a b => ?_) observations
    · rw [decide_eq_true_iff] at hab hbc ⊢
      exact consistent_compareObservations.trans a b c hab hbc
    · rw [Bool.or_eq_true, decide_eq_true_iff, decide_eq_true_iff]
      exact consistent_compareObservations.total a b
  exact h.imp fun h => by rwa [decide_eq_true_iff] at h

/-- No two event ids are equal to the host's order. -/
def DistinctIds (observations : List RuntimeObservation) : Prop :=
  observations.Pairwise fun left right => localeCompare left.eventId right.eventId ≠ 0

theorem DistinctIds.eq_of_tie (h : DistinctIds observations) (hleft : left ∈ observations)
    (hright : right ∈ observations) (hle : compareObservations left right ≤ 0)
    (hge : compareObservations right left ≤ 0) : left = right := by
  by_contra hne
  have : Std.Symm fun left right : RuntimeObservation =>
      localeCompare left.eventId right.eventId ≠ 0 := by
    refine ⟨fun a b hab hba => ?_⟩
    have hzero := (Consistent.locale (α := RuntimeObservation) RuntimeObservation.eventId).swap_eq_zero
      (a := b) (b := a) (by exact_mod_cast hba)
    exact hab (by exact_mod_cast hzero)
  exact List.Pairwise.forall h hleft hright hne
    (eventId_of_compare_eq_zero (consistent_compareObservations.eq_zero hle hge))

theorem sortObservations_eq_of_perm (hdistinct : DistinctIds observations)
    (h : others.Perm observations) : sortObservations others = sortObservations observations := by
  have hperm := (sortObservations_perm others).trans (h.trans (sortObservations_perm observations).symm)
  refine List.Perm.eq_of_pairwise (fun a b ha hb hle hge => ?_) (pairwise_sortObservations others)
    (pairwise_sortObservations observations) hperm
  exact hdistinct.eq_of_tie (h.mem_iff.1 ((sortObservations_perm others).mem_iff.1 ha))
    ((sortObservations_perm observations).mem_iff.1 hb) hle hge

theorem projectSessionTokenObservations_perm (identity : SessionTokenIdentity)
    (hdistinct : DistinctIds observations) (h : others.Perm observations) :
    projectSessionTokenObservations others identity = projectSessionTokenObservations observations identity := by
  have hsorted := sortObservations_eq_of_perm (hdistinct.filter (isSessionToken identity))
    (h.filter (isSessionToken identity))
  simp only [projectSessionTokenObservations, hsorted]

end Order

/-! ## Sums of safe counters -/

/-- The counter is a natural number that the host holds exactly. -/
def Counted (value : Option JsNumeric) : Prop := ∃ n : ℕ, counter value = n ∧ n ≤ maxSafeInteger

structure CountedUsage (usage : RuntimeUsageSnapshot) : Prop where
  inputTokens : Counted usage.inputTokens
  outputTokens : Counted usage.outputTokens
  cachedInputTokens : Counted usage.cachedInputTokens
  reasoningTokens : Counted usage.reasoningTokens

section Sums

variable {values others : List RuntimeUsageSnapshot} {count : RuntimeUsageSnapshot → Option JsNumeric}

theorem safeAdd_natCast (a b : ℕ) :
    safeAdd (a : ℚ) (b : ℚ) = if a + b ≤ maxSafeInteger then some ((a + b : ℕ) : ℚ) else none := by
  rw [safeAdd, ← Nat.cast_add, isSafeInteger_natCast]
  by_cases h : a + b ≤ maxSafeInteger
  · rw [if_pos h, if_pos ⟨decide_eq_true h, Nat.cast_nonneg _⟩]
  · rw [if_neg h, if_neg fun hsafe => h (of_decide_eq_true hsafe.1)]

theorem safeSumFrom_natCast (total : ℕ) (htotal : total ≤ maxSafeInteger) (counts : List ℕ) :
    safeSumFrom (total : ℚ) (counts.map Nat.cast) =
      if total + counts.sum ≤ maxSafeInteger then some ((total + counts.sum : ℕ) : ℚ) else none := by
  induction counts generalizing total with
  | nil =>
    rw [List.map_nil, safeSumFrom, List.sum_nil, add_zero, if_pos htotal]
  | cons count counts ih =>
    rw [List.map_cons, safeSumFrom, safeAdd_natCast, List.sum_cons, ← add_assoc]
    by_cases h : total + count ≤ maxSafeInteger
    · rw [if_pos h, Option.bind_some, ih _ h]
    · rw [if_neg h, Option.bind_none, if_neg fun hsum => h (le_trans (Nat.le_add_right _ _) hsum)]

theorem exists_counts (h : ∀ usage ∈ values, Counted (count usage)) :
    ∃ counts : List ℕ, (values.map fun usage => counter (count usage)) = counts.map Nat.cast := by
  induction values with
  | nil => exact ⟨[], rfl⟩
  | cons usage values ih =>
    obtain ⟨n, hn, -⟩ := h usage List.mem_cons_self
    obtain ⟨counts, hcounts⟩ := ih fun usage hmem => h usage (List.mem_cons_of_mem _ hmem)
    exact ⟨n :: counts, by rw [List.map_cons, List.map_cons, hn, hcounts]⟩

theorem safeSum_eq_some_iff (h : ∀ usage ∈ values, Counted (count usage)) {sum : ℚ} :
    safeSum (values.map fun usage => counter (count usage)) = some sum ↔
      sum = (values.map fun usage => counter (count usage)).sum ∧ isSafeInteger sum = true := by
  obtain ⟨counts, hcounts⟩ := exists_counts h
  have hsum := safeSumFrom_natCast 0 (Nat.zero_le _) counts
  rw [Nat.cast_zero, zero_add] at hsum
  rw [hcounts, safeSum, hsum, ← Nat.cast_list_sum]
  constructor
  · intro hsome
    split_ifs at hsome with hle
    obtain rfl := Option.some.inj hsome
    exact ⟨rfl, by rw [isSafeInteger_natCast, decide_eq_true hle]⟩
  · rintro ⟨rfl, hsafe⟩
    rw [isSafeInteger_natCast] at hsafe
    rw [if_pos (of_decide_eq_true hsafe)]

theorem safeSum_perm (h : ∀ usage ∈ values, Counted (count usage)) (hperm : others.Perm values) :
    safeSum (others.map fun usage => counter (count usage)) =
      safeSum (values.map fun usage => counter (count usage)) := by
  have h' : ∀ usage ∈ others, Counted (count usage) := fun usage hmem => h usage (hperm.mem_iff.1 hmem)
  refine Option.ext fun sum => ?_
  rw [safeSum_eq_some_iff h, safeSum_eq_some_iff h', (hperm.map fun usage => counter (count usage)).sum_eq]

theorem optionalSum_perm (h : ∀ usage ∈ values, Counted (count usage)) (hperm : others.Perm values) :
    optionalSum count others = optionalSum count values := by
  rw [optionalSum, optionalSum, safeSum_perm h hperm, hperm.all_eq]

theorem requestMetrics_perm (identity : SessionTokenIdentity) (h : ∀ usage ∈ values, CountedUsage usage)
    (hperm : others.Perm values) : requestMetrics identity others = requestMetrics identity values := by
  have hinput := safeSum_perm (fun usage hmem => (h usage hmem).inputTokens) hperm
  have houtput := safeSum_perm (fun usage hmem => (h usage hmem).outputTokens) hperm
  have hcached := optionalSum_perm (fun usage hmem => (h usage hmem).cachedInputTokens) hperm
  have hreasoning := optionalSum_perm (fun usage hmem => (h usage hmem).reasoningTokens) hperm
  have hlargest : (others.map fun usage => counter usage.inputTokens).foldr max 0 =
      (values.map fun usage => counter usage.inputTokens).foldr max 0 :=
    (hperm.map _).foldr_eq 0
  simp only [requestMetrics, hinput, houtput, hcached, hreasoning, hlargest]

def usageTokens (usage : RuntimeUsageSnapshot) : ℚ :=
  counter usage.inputTokens + counter usage.outputTokens

theorem isSafeInteger_of_optionalSum (h : ∀ usage ∈ values, Counted (count usage)) {sum : ℚ}
    (hsum : optionalSum count values = some sum) : isSafeInteger sum = true := by
  unfold optionalSum at hsum
  split_ifs at hsum
  exact ((safeSum_eq_some_iff h).1 hsum).2

/-- The reported total is the exact sum, and every count is a safe integer. -/
structure ObservedTokens.Safe (tokens : ObservedTokens) : Prop where
  sum : tokens.totalTokens = tokens.inputTokens + tokens.outputTokens
  totalTokens : isSafeInteger tokens.totalTokens = true
  inputTokens : isSafeInteger tokens.inputTokens = true
  outputTokens : isSafeInteger tokens.outputTokens = true
  cachedInputTokens : ∀ value ∈ tokens.cachedInputTokens, isSafeInteger value = true
  reasoningTokens : ∀ value ∈ tokens.reasoningTokens, isSafeInteger value = true

theorem safeAdd_eq_some_iff {left right total : ℚ} (hleft : ∃ n : ℕ, left = n) (hright : ∃ n : ℕ, right = n) :
    safeAdd left right = some total ↔ total = left + right ∧ isSafeInteger total = true := by
  obtain ⟨n, rfl⟩ := hleft
  obtain ⟨m, rfl⟩ := hright
  unfold safeAdd
  constructor
  · intro h
    split_ifs at h with hsafe
    obtain rfl := Option.some.inj h
    exact ⟨rfl, hsafe.1⟩
  · rintro ⟨rfl, hsafe⟩
    rw [if_pos ⟨hsafe, by positivity⟩]

end Sums

/-! ## What the decoder promises -/

/-- An observation that `createRuntimeObservation` returns. -/
def Decoded [JsHost] (observation : RuntimeObservation) : Prop :=
  ∃ input, createRuntimeObservation input = .ok observation

theorem counted_of_isSafeFrom {value : JsNumeric} (h : value.isSafeFrom 0 = true) : Counted (some value) := by
  cases value with
  | finite value =>
    obtain ⟨hsafe, hnonneg⟩ := Bool.and_eq_true_iff.1 h
    have hden : value.den = 1 := by simpa using (Bool.and_eq_true_iff.1 hsafe).1
    have hnum : 0 ≤ value.num := Rat.num_nonneg.2 (of_decide_eq_true hnonneg)
    have hvalue : value = ((value.num.toNat : ℕ) : ℚ) := by
      rw [← Int.cast_natCast, Int.toNat_of_nonneg hnum]
      exact (Rat.coe_int_num_of_den_eq_one hden).symm
    refine ⟨value.num.toNat, hvalue, ?_⟩
    rw [hvalue, isSafeInteger_natCast] at hsafe
    exact of_decide_eq_true hsafe
  | nan => cases h
  | infinite negative => cases h
  | null => cases h

theorem counted_none : Counted none := ⟨0, by rw [Nat.cast_zero]; rfl, Nat.zero_le _⟩

theorem countedUsage_of_validateUsage {usage : RuntimeUsageSnapshot} (h : validateUsage usage = .ok ()) :
    CountedUsage usage := by
  have hentries := checkAll_iff.1 (seq_iff.1 h).1
  have hcounted : ∀ name value, (∀ number ∈ value, (name, number) ∈ usageEntries usage) → Counted value := by
    intro name value hmem
    cases value with
    | none => exact counted_none
    | some number =>
      have hsafe := refuse_ok (hentries _ (hmem number rfl))
      exact counted_of_isSafeFrom (by simpa using hsafe)
  constructor
  · exact hcounted "inputTokens" _ fun number h => by simp [usageEntries, Option.mem_def.1 h]
  · exact hcounted "outputTokens" _ fun number h => by simp [usageEntries, Option.mem_def.1 h]
  · exact hcounted "cachedInputTokens" _ fun number h => by simp [usageEntries, Option.mem_def.1 h]
  · exact hcounted "reasoningTokens" _ fun number h => by simp [usageEntries, Option.mem_def.1 h]

theorem Decoded.countedUsage [JsHost] {observation : RuntimeObservation} (h : Decoded observation)
    (hkind : observation.kind = .activityObserved) : CountedUsage (usageOf observation) := by
  obtain ⟨input, h⟩ := h
  have hstable := createRuntimeObservation_stable input observation h
  unfold createRuntimeObservation at hstable
  iterate 3 obtain ⟨_, -, hstable⟩ := bind_ok hstable
  obtain ⟨payload, hpayload, -⟩ := bind_ok hstable
  obtain ⟨_, hactivity, -⟩ := bind_ok hpayload
  iterate 6 obtain ⟨_, -, hactivity⟩ := bind_ok hactivity
  obtain ⟨_, husage, -⟩ := bind_ok hactivity
  have hvalid := given_iff.1 husage hkind
  unfold usageOf
  cases hcase : observation.payload.usage with
  | none => exact ⟨counted_none, counted_none, counted_none, counted_none⟩
  | some usage =>
    rw [hcase] at hvalid
    exact countedUsage_of_validateUsage hvalid

/-! ## One snapshot for each request -/

section Requests

variable [LocaleOrder] {identity : SessionTokenIdentity} {observations : List RuntimeObservation}
  {observation latest : RuntimeObservation} {id : String}

def requestsOf (identity : SessionTokenIdentity) (observations : List RuntimeObservation) : List RuntimeObservation :=
  (sortObservations (observations.filter (isSessionToken identity))).filter (hasSemantics .requestContext)

structure IsRequest (identity : SessionTokenIdentity) (observations : List RuntimeObservation)
    (observation : RuntimeObservation) : Prop where
  mem : observation ∈ observations
  counted : isSessionToken identity observation = true
  semantics : hasSemantics .requestContext observation = true

/-- The request-context observation of the request that comes after all others of it. -/
structure IsLatest (identity : SessionTokenIdentity) (observations : List RuntimeObservation) (id : String)
    (latest : RuntimeObservation) : Prop where
  request : IsRequest identity observations latest
  requestId_eq : requestId latest = id
  last : ∀ other, IsRequest identity observations other → requestId other = id →
    compareObservations other latest ≤ 0

theorem mem_requestsOf : observation ∈ requestsOf identity observations ↔
    IsRequest identity observations observation := by
  rw [requestsOf, List.mem_filter, (sortObservations_perm _).mem_iff, List.mem_filter]
  constructor
  · rintro ⟨⟨hmem, hcounted⟩, hsemantics⟩
    exact ⟨hmem, hcounted, hsemantics⟩
  · rintro ⟨hmem, hcounted, hsemantics⟩
    exact ⟨⟨hmem, hcounted⟩, hsemantics⟩

theorem isLatest_of_lastOf (h : KeyedMap.lastOf requestId (requestsOf identity observations) id = some latest) :
    IsLatest identity observations id latest := by
  obtain ⟨hmem, hid⟩ := KeyedMap.lastOf_some h
  refine ⟨mem_requestsOf.1 hmem, hid, fun other hother hsame => ?_⟩
  obtain ⟨-, later, earlier, hsplit, hlater⟩ := List.find?_eq_some_iff_append.1 h
  have hpairwise : (requestsOf identity observations).Pairwise
      fun left right => compareObservations left right ≤ 0 :=
    (pairwise_sortObservations _).filter _
  have hreverse := List.pairwise_reverse.2 hpairwise
  rw [hsplit] at hreverse
  have hmem' : other ∈ (requestsOf identity observations).reverse := List.mem_reverse.2 (mem_requestsOf.2 hother)
  rw [hsplit, List.mem_append, List.mem_cons] at hmem'
  obtain hbefore | rfl | hafter := hmem'
  · exact absurd (decide_eq_true hsame) (by simpa using hlater other hbefore)
  · exact consistent_compareObservations.self_le other
  · exact (List.pairwise_cons.1 (List.pairwise_append.1 hreverse).2.1).1 other hafter

theorem IsLatest.eq (hdistinct : DistinctIds observations) {other : RuntimeObservation}
    (h : IsLatest identity observations id latest) (hother : IsLatest identity observations id other) :
    latest = other :=
  hdistinct.eq_of_tie h.request.mem hother.request.mem (hother.last latest h.request h.requestId_eq)
    (h.last other hother.request hother.requestId_eq)

def requestIds (identity : SessionTokenIdentity) (observations : List RuntimeObservation) : List String :=
  (((observations.filter (isSessionToken identity)).filter (hasSemantics .requestContext)).map requestId).dedup

omit [LocaleOrder] in
theorem mem_requestIds : id ∈ requestIds identity observations ↔
    ∃ observation, IsRequest identity observations observation ∧ requestId observation = id := by
  rw [requestIds, List.mem_dedup, List.mem_map]
  constructor
  · rintro ⟨observation, hmem, hid⟩
    rw [List.mem_filter, List.mem_filter] at hmem
    exact ⟨observation, ⟨hmem.1.1, hmem.1.2, hmem.2⟩, hid⟩
  · rintro ⟨observation, hrequest, hid⟩
    refine ⟨observation, ?_, hid⟩
    rw [List.mem_filter, List.mem_filter]
    exact ⟨⟨hrequest.mem, hrequest.counted⟩, hrequest.semantics⟩

omit [LocaleOrder] in
theorem nodup_requestIds (identity : SessionTokenIdentity) (observations : List RuntimeObservation) :
    (requestIds identity observations).Nodup := List.nodup_dedup _

theorem exists_latest (h : id ∈ requestIds identity observations) :
    ∃ latest, KeyedMap.lastOf requestId (requestsOf identity observations) id = some latest := by
  obtain ⟨observation, hrequest, rfl⟩ := mem_requestIds.1 h
  exact KeyedMap.lastOf_isSome (List.mem_map_of_mem (mem_requestsOf.2 hrequest))

theorem kept_perm {latest : String → RuntimeObservation} (h : ∀ id ∈ requestIds identity observations,
      KeyedMap.lastOf requestId (requestsOf identity observations) id = some (latest id)) :
    (KeyedMap.ofList requestId (requestsOf identity observations)).Perm
      ((requestIds identity observations).map latest) := by
  have hkept := @KeyedMap.collects_ofList _ _ _ requestId (requestsOf identity observations)
  have hids : ∀ id ∈ requestIds identity observations, requestId (latest id) = id := fun id hid =>
    (KeyedMap.lastOf_some (h id hid)).2
  have hnodup : ((requestIds identity observations).map latest).Nodup := by
    refine List.Nodup.map_on (fun first hfirst second hsecond heq => ?_) (List.nodup_dedup _)
    rw [← hids first hfirst, heq, hids second hsecond]
  refine (List.perm_ext_iff_of_nodup (List.Nodup.of_map requestId hkept.nodup) hnodup).2 fun observation => ?_
  rw [KeyedMap.mem_ofList_iff, List.mem_map]
  constructor
  · intro hlast
    have hmem := mem_requestIds.2 ⟨observation, mem_requestsOf.1 (KeyedMap.lastOf_some hlast).1, rfl⟩
    refine ⟨_, hmem, ?_⟩
    exact Option.some.inj ((h _ hmem).symm.trans hlast)
  · rintro ⟨id, hid, rfl⟩
    rw [hids id hid]
    exact h id hid

end Requests

end Runtime
