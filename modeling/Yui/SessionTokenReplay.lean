import Yui.SessionTokenMetrics

/-!
# Session token metrics under reordering and replay

The metrics of `runtime/sessionTokenMetrics.ts` do not depend on the order of delivery when the
host's order tells the event ids apart, and a second snapshot like the latest one of its request
changes nothing. What is reported is the exact sum, and it is a safe integer.
-/

namespace Runtime

open Checked JsText LocaleOrder

section Request

variable {values : List RuntimeUsageSnapshot} {identity : SessionTokenIdentity} {tokens : ObservedTokens}

theorem Counted.isSafeInteger {value : Option JsNumeric} (h : Counted value) :
    isSafeInteger (counter value) = true := by
  obtain ⟨n, hn, hle⟩ := h
  rw [hn, isSafeInteger_natCast, decide_eq_true hle]

theorem exists_sum {count : RuntimeUsageSnapshot → Option JsNumeric} (h : ∀ usage ∈ values, Counted (count usage)) :
    ∃ n : ℕ, (values.map fun usage => counter (count usage)).sum = n := by
  obtain ⟨counts, hcounts⟩ := exists_counts h
  exact ⟨counts.sum, by rw [hcounts, ← Nat.cast_list_sum]⟩

theorem sum_usageTokens (values : List RuntimeUsageSnapshot) :
    (values.map usageTokens).sum = (values.map fun usage => counter usage.inputTokens).sum +
      (values.map fun usage => counter usage.outputTokens).sum :=
  List.sum_map_add

theorem requestMetrics_observed (h : ∀ usage ∈ values, CountedUsage usage)
    (htokens : (requestMetrics identity values).cumulativeTotal = .observed tokens) :
    tokens.totalTokens = (values.map usageTokens).sum ∧ tokens.Safe := by
  have hin : ∀ usage ∈ values, Counted usage.inputTokens := fun usage hmem => (h usage hmem).inputTokens
  have hout : ∀ usage ∈ values, Counted usage.outputTokens := fun usage hmem => (h usage hmem).outputTokens
  unfold requestMetrics at htokens
  split at htokens
  · rename_i input output hinput houtput
    obtain ⟨rfl, hinputSafe⟩ := (safeSum_eq_some_iff hin).1 hinput
    obtain ⟨rfl, houtputSafe⟩ := (safeSum_eq_some_iff hout).1 houtput
    split at htokens
    · rename_i total htotal
      obtain ⟨rfl, htotalSafe⟩ := (safeAdd_eq_some_iff (exists_sum hin) (exists_sum hout)).1 htotal
      obtain rfl := SessionCumulativeTokenMetric.observed.inj htokens
      refine ⟨(sum_usageTokens values).symm, rfl, htotalSafe, hinputSafe, houtputSafe, fun value hvalue => ?_,
        fun value hvalue => ?_⟩
      · exact isSafeInteger_of_optionalSum (fun usage hmem => (h usage hmem).cachedInputTokens) hvalue
      · exact isSafeInteger_of_optionalSum (fun usage hmem => (h usage hmem).reasoningTokens) hvalue
    · cases htokens
  · cases htokens

theorem exists_requestMetrics (h : ∀ usage ∈ values, CountedUsage usage)
    (hsafe : isSafeInteger (values.map usageTokens).sum = true) :
    ∃ tokens, (requestMetrics identity values).cumulativeTotal = .observed tokens := by
  have hin : ∀ usage ∈ values, Counted usage.inputTokens := fun usage hmem => (h usage hmem).inputTokens
  have hout : ∀ usage ∈ values, Counted usage.outputTokens := fun usage hmem => (h usage hmem).outputTokens
  obtain ⟨n, hn⟩ := exists_sum hin
  obtain ⟨m, hm⟩ := exists_sum hout
  have hle : n + m ≤ maxSafeInteger := by
    rw [sum_usageTokens, hn, hm, ← Nat.cast_add, isSafeInteger_natCast] at hsafe
    exact of_decide_eq_true hsafe
  have hinput : safeSum (values.map fun usage => counter usage.inputTokens) = some (n : ℚ) :=
    (safeSum_eq_some_iff hin).2 ⟨hn.symm, by
      rw [isSafeInteger_natCast]; exact decide_eq_true ((Nat.le_add_right n m).trans hle)⟩
  have houtput : safeSum (values.map fun usage => counter usage.outputTokens) = some (m : ℚ) :=
    (safeSum_eq_some_iff hout).2 ⟨hm.symm, by
      rw [isSafeInteger_natCast]; exact decide_eq_true ((Nat.le_add_left m n).trans hle)⟩
  have htotal : safeAdd (n : ℚ) (m : ℚ) = some ((n + m : ℕ) : ℚ) := by rw [safeAdd_natCast, if_pos hle]
  rw [requestMetrics, hinput, houtput]
  simp only [htotal]
  exact ⟨_, rfl⟩

theorem projectCumulativeSnapshots_observed {observations : List RuntimeObservation} {incomplete : Bool}
    (h : ∀ observation ∈ observations, CountedUsage (usageOf observation))
    (htokens : (projectCumulativeSnapshots identity observations incomplete).cumulativeTotal =
      .observed tokens) : tokens.Safe := by
  unfold projectCumulativeSnapshots at htokens
  split at htokens
  · cases htokens
  · rename_i first values hvalues
    have hall : ∀ usage ∈ first :: values, CountedUsage usage := by
      rw [← hvalues]
      intro usage hmem
      obtain ⟨observation, hobservation, rfl⟩ := List.mem_map.1 hmem
      exact h observation hobservation
    have hlatest := hall _ (List.getLast_mem (l := first :: values) (by simp))
    dsimp only at htokens
    split at htokens
    · rename_i total _ htotal
      obtain ⟨n, hn, -⟩ := hlatest.inputTokens
      obtain ⟨m, hm, -⟩ := hlatest.outputTokens
      obtain ⟨hsum, hsafe⟩ := (safeAdd_eq_some_iff ⟨n, hn⟩ ⟨m, hm⟩).1 htotal
      obtain rfl := SessionCumulativeTokenMetric.observed.inj htokens
      refine ⟨hsum, hsafe, hlatest.inputTokens.isSafeInteger, hlatest.outputTokens.isSafeInteger,
        fun value hvalue => ?_, fun value hvalue => ?_⟩
      · obtain ⟨number, hnumber, rfl⟩ := Option.map_eq_some_iff.1 hvalue
        exact hnumber ▸ hlatest.cachedInputTokens.isSafeInteger
      · obtain ⟨number, hnumber, rfl⟩ := Option.map_eq_some_iff.1 hvalue
        exact hnumber ▸ hlatest.reasoningTokens.isSafeInteger
    · cases htokens

end Request

section Project

variable [LocaleOrder] {identity : SessionTokenIdentity} {observations before after : List RuntimeObservation}
  {latest extra : RuntimeObservation} {tokens : ObservedTokens}

/-- Nothing of the Session is missing or counted in another way. -/
def Complete (identity : SessionTokenIdentity) (observations : List RuntimeObservation) : Prop :=
  ∀ observation ∈ observations, isSessionToken identity observation = true →
    observation.payload.usage.isNone = false ∧ hasSemantics .cumulativeSession observation = false ∧
      (hasSemantics .requestContext observation = true → isIncomplete observation = false)

variable {observation : RuntimeObservation}

theorem mem_counted : observation ∈ sortObservations (observations.filter (isSessionToken identity)) ↔
      observation ∈ observations ∧ isSessionToken identity observation = true := by
  rw [(sortObservations_perm _).mem_iff, List.mem_filter]

theorem countedUsage_of_mem [JsHost] (hdecoded : ∀ observation ∈ observations, Decoded observation)
    (h : observation ∈ sortObservations (observations.filter (isSessionToken identity))) :
    CountedUsage (usageOf observation) := by
  obtain ⟨hmem, hcounted⟩ := mem_counted.1 h
  simp only [isSessionToken, isRuntimeTokenEvidence, Bool.and_eq_true, decide_eq_true_eq] at hcounted
  exact (hdecoded observation hmem).countedUsage hcounted.1.1.1.1.1

theorem countedUsage_of_kept [JsHost] (hdecoded : ∀ observation ∈ observations, Decoded observation) :
    ∀ usage ∈ (KeyedMap.ofList requestId (requestsOf identity observations)).map usageOf, CountedUsage usage := by
  intro usage hmem
  obtain ⟨observation, hkept, rfl⟩ := List.mem_map.1 hmem
  have hrequest := (KeyedMap.collects_ofList _).mem observation hkept
  exact countedUsage_of_mem hdecoded (List.mem_of_mem_filter hrequest)

theorem project_cases (h : ∃ observation, IsRequest identity observations observation) :
    (Complete identity observations ∧ projectSessionTokenObservations observations identity =
      requestMetrics identity ((KeyedMap.ofList requestId (requestsOf identity observations)).map usageOf)) ∨
    (¬ Complete identity observations ∧ projectSessionTokenObservations observations identity =
      unobservedSessionTokenMetrics identity) := by
  set counted := sortObservations (observations.filter (isSessionToken identity)) with hcounted
  have hrequest : (!(requestsOf identity observations).isEmpty) = true := by
    obtain ⟨observation, hmem⟩ := h
    rw [Bool.not_eq_true', List.isEmpty_eq_false_iff_exists_mem]
    exact ⟨observation, mem_requestsOf.2 hmem⟩
  have hproject : projectSessionTokenObservations observations identity =
      if !(counted.filter (hasSemantics .cumulativeSession)).isEmpty then unobservedSessionTokenMetrics identity
      else projectRequestSnapshots identity (requestsOf identity observations)
        (counted.any fun observation => observation.payload.usage.isNone) := by
    unfold projectSessionTokenObservations
    rw [← hcounted]
    change (if (!(requestsOf identity observations).isEmpty && _) = true then _ else
      if (!(requestsOf identity observations).isEmpty) = true then _ else _) = _
    rw [hrequest, Bool.true_and]
    rfl
  by_cases hcomplete : Complete identity observations
  · refine .inl ⟨hcomplete, ?_⟩
    have hnone : (counted.filter (hasSemantics .cumulativeSession)) = [] := by
      refine List.filter_eq_nil_iff.2 fun observation hmem => ?_
      obtain ⟨hin, hsession⟩ := mem_counted.1 hmem
      rw [(hcomplete observation hin hsession).2.1]
      exact Bool.false_ne_true
    have husage : (counted.any fun observation => observation.payload.usage.isNone) = false := by
      refine List.any_eq_false.2 fun observation hmem => ?_
      obtain ⟨hin, hsession⟩ := mem_counted.1 hmem
      rw [(hcomplete observation hin hsession).1]
      exact Bool.false_ne_true
    have hquality : (requestsOf identity observations).any isIncomplete = false := by
      refine List.any_eq_false.2 fun observation hmem => ?_
      have hthis := mem_requestsOf.1 hmem
      rw [(hcomplete observation hthis.mem hthis.counted).2.2 hthis.semantics]
      exact Bool.false_ne_true
    rw [hproject, hnone, husage, projectRequestSnapshots, hquality]
    rfl
  · refine .inr ⟨hcomplete, ?_⟩
    rw [hproject]
    split_ifs with hcumulative
    · rfl
    · rw [projectRequestSnapshots, if_pos]
      by_contra hquality
      rw [Bool.or_eq_true, not_or] at hquality
      refine hcomplete fun observation hin hsession => ⟨?_, ?_, fun hsemantics => ?_⟩
      · by_contra hnone
        exact hquality.1 (List.any_eq_true.2 ⟨observation, mem_counted.2 ⟨hin, hsession⟩, by simpa using hnone⟩)
      · by_contra hsome
        rw [Bool.not_eq_false] at hsome
        refine hcumulative ?_
        rw [Bool.not_eq_true', List.isEmpty_eq_false_iff_exists_mem]
        exact ⟨observation, List.mem_filter.2 ⟨mem_counted.2 ⟨hin, hsession⟩, hsome⟩⟩
      · by_contra hpart
        exact hquality.2 (List.any_eq_true.2
          ⟨observation, mem_requestsOf.2 ⟨hin, hsession, hsemantics⟩, by simpa using hpart⟩)

theorem exists_latest_of_ids (h : ∃ observation, IsRequest identity observations observation) :
    ∃ latest : String → RuntimeObservation, ∀ id ∈ requestIds identity observations,
      KeyedMap.lastOf requestId (requestsOf identity observations) id = some (latest id) := by
  obtain ⟨default, -⟩ := h
  refine ⟨fun id => (KeyedMap.lastOf requestId (requestsOf identity observations) id).getD default, fun id hid => ?_⟩
  obtain ⟨latest, hlatest⟩ := exists_latest hid
  simp only [hlatest, Option.getD_some]

theorem project_request_total [JsHost] (hdecoded : ∀ observation ∈ observations, Decoded observation)
    (h : ∃ observation, IsRequest identity observations observation) : ∃ latest : String → RuntimeObservation,
      (∀ id ∈ requestIds identity observations, IsLatest identity observations id (latest id)) ∧
      (∀ tokens, (projectSessionTokenObservations observations identity).cumulativeTotal = .observed tokens →
        tokens.totalTokens =
          ((requestIds identity observations).map fun id => usageTokens (usageOf (latest id))).sum) ∧
      (Complete identity observations → isSafeInteger ((requestIds identity observations).map fun id =>
          usageTokens (usageOf (latest id))).sum = true →
        ∃ tokens, (projectSessionTokenObservations observations identity).cumulativeTotal = .observed tokens) := by
  obtain ⟨latest, hlatest⟩ := exists_latest_of_ids h
  have hsum : ((KeyedMap.ofList requestId (requestsOf identity observations)).map usageOf).map usageTokens =
      (KeyedMap.ofList requestId (requestsOf identity observations)).map fun observation =>
        usageTokens (usageOf observation) := by
    rw [List.map_map]
    rfl
  have hids : (((KeyedMap.ofList requestId (requestsOf identity observations)).map usageOf).map usageTokens).sum =
      ((requestIds identity observations).map fun id => usageTokens (usageOf (latest id))).sum := by
    rw [hsum, ((kept_perm hlatest).map fun observation => usageTokens (usageOf observation)).sum_eq, List.map_map]
    rfl
  have hcounted : ∀ usage ∈ (KeyedMap.ofList requestId (requestsOf identity observations)).map usageOf,
      CountedUsage usage := countedUsage_of_kept hdecoded
  refine ⟨latest, fun id hid => isLatest_of_lastOf (hlatest id hid), fun tokens htokens => ?_,
    fun hcomplete hsafe => ?_⟩
  · obtain ⟨-, hproject⟩ | ⟨-, hproject⟩ := project_cases h
    · rw [hproject] at htokens
      rw [(requestMetrics_observed hcounted htokens).1, hids]
    · rw [hproject] at htokens
      cases htokens
  · obtain ⟨-, hproject⟩ | ⟨hnot, -⟩ := project_cases h
    · rw [hproject]
      exact exists_requestMetrics hcounted (hids ▸ hsafe)
    · exact absurd hcomplete hnot

theorem project_safe [JsHost] (hdecoded : ∀ observation ∈ observations, Decoded observation)
    (htokens : (projectSessionTokenObservations observations identity).cumulativeTotal = .observed tokens) :
    tokens.Safe := by
  by_cases h : ∃ observation, IsRequest identity observations observation
  · obtain ⟨-, hproject⟩ | ⟨-, hproject⟩ := project_cases h
    · rw [hproject] at htokens
      exact (requestMetrics_observed (countedUsage_of_kept hdecoded) htokens).2
    · rw [hproject] at htokens
      cases htokens
  · unfold projectSessionTokenObservations at htokens
    dsimp only at htokens
    split_ifs at htokens with hboth hrequest hcumulative
    · cases htokens
    · obtain ⟨observation, hmem⟩ := List.isEmpty_eq_false_iff_exists_mem.1 (Bool.not_eq_true' _ ▸ hrequest)
      exact absurd ⟨observation, mem_requestsOf.1 hmem⟩ h
    · exact projectCumulativeSnapshots_observed
        (fun observation hmem => countedUsage_of_mem hdecoded (List.mem_of_mem_filter hmem)) htokens
    · cases htokens

/-! ## Replay -/

/-- The observation says again what the latest one of its request said. -/
structure Repeats (identity : SessionTokenIdentity) (latest extra : RuntimeObservation) : Prop where
  counted : isSessionToken identity extra = true
  requestId_eq : requestId extra = requestId latest
  usage_eq : extra.payload.usage = latest.payload.usage
  quality_eq : extra.payload.observationQuality = latest.payload.observationQuality

omit [LocaleOrder] in
theorem mem_insert_iff :
    observation ∈ before ++ extra :: after ↔ observation = extra ∨ observation ∈ before ++ after := by
  rw [List.mem_append, List.mem_cons, List.mem_append]
  exact or_left_comm

omit [LocaleOrder] in
theorem Repeats.isRequest (h : Repeats identity latest extra)
    (hlatest : IsRequest identity (before ++ after) latest) :
    IsRequest identity (before ++ extra :: after) extra where
  mem := mem_insert_iff.2 (.inl rfl)
  counted := h.counted
  semantics := by
    have hsemantics := hlatest.semantics
    rwa [hasSemantics, ← h.usage_eq] at hsemantics

omit [LocaleOrder] in
theorem isRequest_insert (h : Repeats identity latest extra) (hlatest : IsRequest identity (before ++ after) latest) :
    IsRequest identity (before ++ extra :: after) observation ↔
      observation = extra ∨ IsRequest identity (before ++ after) observation := by
  constructor
  · intro hrequest
    obtain rfl | hmem := mem_insert_iff.1 hrequest.mem
    · exact .inl rfl
    · exact .inr ⟨hmem, hrequest.counted, hrequest.semantics⟩
  · rintro (rfl | hrequest)
    · exact h.isRequest hlatest
    · exact ⟨mem_insert_iff.2 (.inr hrequest.mem), hrequest.counted, hrequest.semantics⟩

omit [LocaleOrder] in
theorem complete_insert (h : Repeats identity latest extra) (hlatest : IsRequest identity (before ++ after) latest) :
    Complete identity (before ++ extra :: after) ↔ Complete identity (before ++ after) := by
  constructor
  · exact fun hcomplete observation hmem => hcomplete observation (mem_insert_iff.2 (.inr hmem))
  · intro hcomplete observation hmem hsession
    obtain rfl | hmem := mem_insert_iff.1 hmem
    · have hthis := hcomplete latest hlatest.mem hlatest.counted
      rw [hasSemantics, hasSemantics, isIncomplete, h.usage_eq, h.quality_eq]
      exact hthis
    · exact hcomplete observation hmem hsession

theorem project_insert [JsHost] (hdecoded : ∀ observation ∈ before ++ after, Decoded observation)
    (hdistinct : DistinctIds (before ++ after))
    (hlatest : IsLatest identity (before ++ after) (requestId latest) latest) (h : Repeats identity latest extra) :
    projectSessionTokenObservations (before ++ extra :: after) identity =
      projectSessionTokenObservations (before ++ after) identity := by
  have hrequest : ∀ observation, IsRequest identity (before ++ extra :: after) observation ↔
      observation = extra ∨ IsRequest identity (before ++ after) observation :=
    fun _ => isRequest_insert h hlatest.request
  have hids : (requestIds identity (before ++ extra :: after)).Perm (requestIds identity (before ++ after)) := by
    refine (List.perm_ext_iff_of_nodup (nodup_requestIds _ _) (nodup_requestIds _ _)).2 fun id => ?_
    rw [mem_requestIds, mem_requestIds]
    constructor
    · rintro ⟨observation, hobservation, hid⟩
      obtain rfl | hobservation := (hrequest observation).1 hobservation
      · exact ⟨latest, hlatest.request, h.requestId_eq ▸ hid⟩
      · exact ⟨observation, hobservation, hid⟩
    · rintro ⟨observation, hobservation, hid⟩
      exact ⟨observation, (hrequest observation).2 (.inr hobservation), hid⟩
  obtain ⟨first, hfirst⟩ := exists_latest_of_ids ⟨latest, hlatest.request⟩
  obtain ⟨second, hsecond⟩ := exists_latest_of_ids ⟨extra, h.isRequest hlatest.request⟩
  -- The latest snapshot of every request says the same with and without the repeated one.
  have hsame : ∀ id ∈ requestIds identity (before ++ after), usageOf (second id) = usageOf (first id) := by
    intro id hid
    have hold := isLatest_of_lastOf (hfirst id hid)
    have hnew := isLatest_of_lastOf (hsecond id (hids.mem_iff.2 hid))
    obtain heq | hin := (hrequest _).1 hnew.request
    · obtain rfl : requestId latest = id := by rw [← h.requestId_eq, ← heq, hnew.requestId_eq]
      rw [hold.eq hdistinct hlatest, heq, usageOf, usageOf, h.usage_eq]
    · have hthis : IsLatest identity (before ++ after) id (second id) :=
        ⟨hin, hnew.requestId_eq, fun other hother => hnew.last other ((hrequest other).2 (.inr hother))⟩
      rw [hthis.eq hdistinct hold]
  have hvalues : ((KeyedMap.ofList requestId (requestsOf identity (before ++ extra :: after))).map usageOf).Perm
      ((KeyedMap.ofList requestId (requestsOf identity (before ++ after))).map usageOf) := by
    have hmap : ((requestIds identity (before ++ after)).map second).map usageOf =
        ((requestIds identity (before ++ after)).map first).map usageOf := by
      rw [List.map_map, List.map_map]
      exact List.map_congr_left hsame
    have hnew := (kept_perm hsecond).map usageOf
    have hold := (kept_perm hfirst).map usageOf
    have hreordered := (hids.map second).map usageOf
    rw [hmap] at hreordered
    exact hnew.trans (hreordered.trans hold.symm)
  have hmetrics := requestMetrics_perm identity (countedUsage_of_kept hdecoded) hvalues
  obtain ⟨hold, hproject⟩ | ⟨hold, hproject⟩ := project_cases ⟨latest, hlatest.request⟩
  · obtain ⟨-, hproject'⟩ | ⟨hnot, -⟩ := project_cases ⟨extra, h.isRequest hlatest.request⟩
    · rw [hproject, hproject', hmetrics]
    · exact absurd ((complete_insert h hlatest.request).2 hold) hnot
  · obtain ⟨hnew, -⟩ | ⟨-, hproject'⟩ := project_cases ⟨extra, h.isRequest hlatest.request⟩
    · exact absurd ((complete_insert h hlatest.request).1 hnew) hold
    · rw [hproject, hproject']

end Project

/-- The metrics of a Session depend neither on the order of delivery nor on a repeated latest snapshot,
and they report exact sums that are safe integers, or nothing. -/
theorem session_token_metrics_stable [JsHost] [LocaleOrder] (identity : SessionTokenIdentity) :
    (∀ observations others : List RuntimeObservation, DistinctIds observations → others.Perm observations →
      projectSessionTokenObservations others identity = projectSessionTokenObservations observations identity) ∧
    (∀ observations : List RuntimeObservation, (∀ observation ∈ observations, Decoded observation) →
      (∃ observation, IsRequest identity observations observation) → ∃ latest : String → RuntimeObservation,
        (∀ id ∈ requestIds identity observations, IsLatest identity observations id (latest id)) ∧
        (∀ tokens, (projectSessionTokenObservations observations identity).cumulativeTotal = .observed tokens →
          tokens.totalTokens =
            ((requestIds identity observations).map fun id => usageTokens (usageOf (latest id))).sum) ∧
        (Complete identity observations → isSafeInteger ((requestIds identity observations).map fun id =>
            usageTokens (usageOf (latest id))).sum = true →
          ∃ tokens, (projectSessionTokenObservations observations identity).cumulativeTotal = .observed tokens)) ∧
    (∀ (before after : List RuntimeObservation) (latest extra : RuntimeObservation),
      (∀ observation ∈ before ++ after, Decoded observation) → DistinctIds (before ++ after) →
      IsLatest identity (before ++ after) (requestId latest) latest → Repeats identity latest extra →
      projectSessionTokenObservations (before ++ extra :: after) identity =
        projectSessionTokenObservations (before ++ after) identity) ∧
    (∀ (observations : List RuntimeObservation) (tokens : ObservedTokens),
      (∀ observation ∈ observations, Decoded observation) →
      (projectSessionTokenObservations observations identity).cumulativeTotal = .observed tokens → tokens.Safe) :=
  ⟨fun _ _ hdistinct hperm => projectSessionTokenObservations_perm identity hdistinct hperm,
    fun _ hdecoded hrequest => project_request_total hdecoded hrequest,
    fun _ _ _ _ hdecoded hdistinct hlatest hrepeats => project_insert hdecoded hdistinct hlatest hrepeats,
    fun _ _ hdecoded htokens => project_safe hdecoded htokens⟩

/-! ## Event ids that the host does not tell apart -/

/-- The text with `e` and U+0301 composed, as its normal form has it. -/
def composed : List Char → List Char
  | first :: second :: rest =>
    if first = 'e' ∧ second.toNat = 0x301 then Char.ofNat 0xE9 :: composed rest
    else first :: composed (second :: rest)
  | text => text

def threeWay (left right : String) : ℤ := if left < right then -1 else if right < left then 1 else 0

theorem threeWay_neg_iff {left right : String} : threeWay left right < 0 ↔ left < right := by
  unfold threeWay
  split_ifs with hlt hgt
  · exact iff_of_true (by decide) hlt
  · exact iff_of_false (by decide) hlt
  · exact iff_of_false (by decide) hlt

theorem threeWay_pos_iff {left right : String} : 0 < threeWay left right ↔ right < left := by
  unfold threeWay
  split_ifs with hlt hgt
  · exact iff_of_false (by decide) hlt.asymm
  · exact iff_of_true (by decide) hgt
  · exact iff_of_false (by decide) hgt

/-- An order of texts that, like the host's, does not tell canonically equivalent ones apart. -/
@[reducible] def composedOrder : LocaleOrder where
  localeCompare left right :=
    threeWay (String.ofList (composed left.toList)) (String.ofList (composed right.toList))
  refl a := by simp [threeWay]
  neg_iff a b := by rw [threeWay_neg_iff, threeWay_pos_iff]
  trans a b c hab hbc := by
    rw [← not_lt, threeWay_pos_iff, not_lt] at hab hbc ⊢
    exact hab.trans hbc

def sampleIdentity : SessionTokenIdentity := ⟨"task-1", "writer", "agent-1", "builtin/codex", "native-1"⟩

/-- A snapshot of one request, as the decoder returns it. -/
def sampleSnapshot (eventId : String) (inputTokens : ℚ) : RuntimeObservation where
  schemaVersion := 1
  eventId := eventId
  semanticKey := "activity-1"
  kind := .activityObserved
  authority := .providerStructured
  receivedAt := sampleInstant
  observedAt := none
  sequence := none
  ordinal := none
  fence := ⟨some "task-1", "writer", none, "agent-1", "builtin/codex", none, none, none, some "native-1", none,
    some "receipt-1"⟩
  payload := { activity := some .model, activityId := some "request-1",
               usage := some ⟨some .requestContext, some (.finite inputTokens), some (.finite 1), none, none⟩ }

def decomposedId : String := String.ofList ['e', Char.ofNat 0x301]

def composedId : String := String.ofList [Char.ofNat 0xE9]

theorem sampleSnapshot_decoded : let _ := sampleClock
    ∀ observation ∈ [sampleSnapshot "event-1" 1, sampleSnapshot "event-2" 2, sampleSnapshot decomposedId 1,
      sampleSnapshot composedId 2], Decoded observation := by
  have haccepted : ∀ observation ∈ [sampleSnapshot "event-1" 1, sampleSnapshot "event-2" 2,
      sampleSnapshot decomposedId 1, sampleSnapshot composedId 2], let _ := sampleClock
        createRuntimeObservation observation = .ok observation := by
    decide +kernel
  exact fun observation hmem => ⟨observation, haccepted observation hmem⟩

theorem session_token_metrics_stable_sample : let _ := sampleClock; let _ := composedOrder
    projectSessionTokenObservations [sampleSnapshot "event-2" 2, sampleSnapshot "event-1" 1] sampleIdentity =
        projectSessionTokenObservations [sampleSnapshot "event-1" 1, sampleSnapshot "event-2" 2] sampleIdentity ∧
      (∃ latest : String → RuntimeObservation, ∀ tokens,
        (projectSessionTokenObservations [sampleSnapshot "event-1" 1, sampleSnapshot "event-2" 2]
            sampleIdentity).cumulativeTotal = .observed tokens →
          tokens.totalTokens =
            ((requestIds sampleIdentity [sampleSnapshot "event-1" 1, sampleSnapshot "event-2" 2]).map fun id =>
              usageTokens (usageOf (latest id))).sum) ∧
      projectSessionTokenObservations
          [sampleSnapshot "event-1" 1, sampleSnapshot "event-2" 2, sampleSnapshot "event-3" 2] sampleIdentity =
        projectSessionTokenObservations [sampleSnapshot "event-1" 1, sampleSnapshot "event-2" 2] sampleIdentity ∧
      ∀ tokens, (projectSessionTokenObservations [sampleSnapshot "event-1" 1, sampleSnapshot "event-2" 2]
        sampleIdentity).cumulativeTotal = .observed tokens → tokens.Safe := by
  let _ := sampleClock
  let _ := composedOrder
  have hdecoded : ∀ observation ∈ [sampleSnapshot "event-1" 1, sampleSnapshot "event-2" 2],
      Decoded observation := fun observation hmem => sampleSnapshot_decoded observation (List.mem_append_left _ hmem)
  have hdistinct : DistinctIds [sampleSnapshot "event-1" 1, sampleSnapshot "event-2" 2] := by
    unfold DistinctIds
    decide +kernel
  have hrequest : ∀ observation ∈ [sampleSnapshot "event-1" 1, sampleSnapshot "event-2" 2],
      IsRequest sampleIdentity [sampleSnapshot "event-1" 1, sampleSnapshot "event-2" 2] observation :=
    fun observation hmem => ⟨hmem, by revert observation; decide +kernel, by revert observation; decide +kernel⟩
  have hlatest : IsLatest sampleIdentity [sampleSnapshot "event-1" 1, sampleSnapshot "event-2" 2] "request-1"
      (sampleSnapshot "event-2" 2) := by
    refine ⟨hrequest _ (by simp), rfl, fun other hother _ => ?_⟩
    have hle : ∀ other ∈ [sampleSnapshot "event-1" 1, sampleSnapshot "event-2" 2],
        compareObservations other (sampleSnapshot "event-2" 2) ≤ 0 := by decide +kernel
    exact hle other hother.mem
  obtain ⟨hreorder, htotal, hreplay, hsafe⟩ := session_token_metrics_stable sampleIdentity
  obtain ⟨latest, -, hsum, -⟩ := htotal _ hdecoded ⟨_, hrequest (sampleSnapshot "event-1" 1) (by simp)⟩
  exact ⟨hreorder _ _ hdistinct (List.Perm.swap _ _ _), ⟨latest, hsum⟩,
    hreplay [sampleSnapshot "event-1" 1, sampleSnapshot "event-2" 2] [] (sampleSnapshot "event-2" 2)
      (sampleSnapshot "event-3" 2) hdecoded hdistinct hlatest ⟨by decide +kernel, rfl, rfl, rfl⟩,
    fun tokens => hsafe _ tokens hdecoded⟩

/-- Two snapshots whose event ids are canonically equivalent keep the order of their delivery. -/
theorem equivalent_ids_keep_delivery_order : ¬ ∀ (_ : JsHost) (_ : LocaleOrder) (identity : SessionTokenIdentity)
    (observations others : List RuntimeObservation), (∀ observation ∈ observations, Decoded observation) →
      (observations.map RuntimeObservation.eventId).Nodup → others.Perm observations →
      projectSessionTokenObservations others identity = projectSessionTokenObservations observations identity := by
  intro h
  let _ := sampleClock
  let _ := composedOrder
  have hdecoded : ∀ observation ∈ [sampleSnapshot decomposedId 1, sampleSnapshot composedId 2],
      Decoded observation := fun observation hmem => sampleSnapshot_decoded observation (List.mem_append_right [_, _] hmem)
  have hsame := h sampleClock composedOrder sampleIdentity _
    [sampleSnapshot composedId 2, sampleSnapshot decomposedId 1] hdecoded (by decide +kernel) (List.Perm.swap _ _ _)
  have hsort : ∀ observations : List RuntimeObservation,
      (observations.Pairwise fun left right => compareObservations left right ≤ 0) →
      sortObservations observations = observations := fun observations hpairwise =>
    List.mergeSort_of_pairwise (hpairwise.imp fun hle => decide_eq_true hle)
  have hfilter : ∀ observation ∈ [sampleSnapshot composedId 2, sampleSnapshot decomposedId 1],
      isSessionToken sampleIdentity observation = true := by decide +kernel
  have hfirst : ([sampleSnapshot composedId 2, sampleSnapshot decomposedId 1].filter
      (isSessionToken sampleIdentity)) = [sampleSnapshot composedId 2, sampleSnapshot decomposedId 1] :=
    List.filter_eq_self.2 hfilter
  have hsecond : ([sampleSnapshot decomposedId 1, sampleSnapshot composedId 2].filter
      (isSessionToken sampleIdentity)) = [sampleSnapshot decomposedId 1, sampleSnapshot composedId 2] :=
    List.filter_eq_self.2 fun observation hmem => hfilter observation (by
      rw [List.mem_pair] at hmem ⊢
      exact hmem.symm)
  rw [projectSessionTokenObservations, projectSessionTokenObservations, hfirst, hsecond,
    hsort _ (by decide +kernel), hsort _ (by decide +kernel)] at hsame
  revert hsame
  decide +kernel

end Runtime
