import Yui.ContinuationManager

/-!
# Two projections of continuation observations

`projectRuntimeObservation` keeps an entry per continuation for display and health, and
`projectProviderContinuations` a record per continuation for cleanup and retry. Only the fence and
the continuations of the runtime projection are modelled; every other field is derived from them or
untouched by continuation observations.

The two agree along every stream whose evidence of quiescence is exact, whose inexact evidence does
not deny writing, and whose evidence after a settlement repeats it or contradicts it openly.
-/

open JsText Checked Runtime FallibleRun

namespace Continuation

/-- An entry of the projection; a field that is `undefined` is none. -/
structure Entry where
  execution : Option ContinuationExecution
  outcome : Option ContinuationOutcome
  attachment : Option ContinuationAttachment
  observation : Option ContinuationObservationQuality
  mayWriteWorkspace : Option Bool
  identityConflict : Option Bool
  resultRef : Option String

structure RuntimeProjection where
  fence : RuntimeObservationFence
  continuations : String → Option Entry

/-- The names that a plain object inherits. -/
def inheritedNames : List String :=
  ["constructor", "hasOwnProperty", "isPrototypeOf", "propertyIsEnumerable", "toLocaleString",
    "toString", "valueOf", "__defineGetter__", "__defineSetter__", "__lookupGetter__",
    "__lookupSetter__"]

/-- `current.continuations[id]`: an inherited function has none of the fields of an entry. -/
def readEntry (continuations : String → Option Entry) (id : String) : Option Entry :=
  match continuations id with
  | some entry => some entry
  | none => if id ∈ inheritedNames then some ⟨none, none, none, none, none, none, none⟩ else none

def reportedEntry (existing : Option Entry) (payload : RuntimeObservationPayload) : Entry :=
  let reported := existing.getD ⟨some .unknown, some .pending,
    some (payload.attachment.getD .detached), some .unavailable, some true, some false, none⟩
  { reported with resultRef := payload.resultRef.orElse fun _ => reported.resultRef }

/-- Evidence against a settled entry. -/
def Entry.Conflicts (existing : Entry) (payload : RuntimeObservationPayload) : Prop :=
  (existing.execution = some .quiescent ∧ existing.observation = some .exactly) ∧
    (payload.execution ≠ some .quiescent ∨ payload.outcome ≠ existing.outcome)

instance (existing : Entry) (payload : RuntimeObservationPayload) : Decidable (existing.Conflicts payload) :=
  inferInstanceAs (Decidable ((_ ∧ _) ∧ (_ ∨ _)))

def writesNow (existing : Option Entry) (payload : RuntimeObservationPayload) : Option Bool :=
  if payload.observationQuality = some .exactly then payload.mayWriteWorkspace
  else if (existing.bind Entry.mayWriteWorkspace).getD false then some true
  else payload.mayWriteWorkspace

def freshEntry (existing : Option Entry) (payload : RuntimeObservationPayload) : Entry where
  execution := payload.execution
  outcome := payload.outcome
  attachment := payload.attachment
  observation := payload.observationQuality
  mayWriteWorkspace := writesNow existing payload
  identityConflict := some ((existing.bind Entry.identityConflict).getD false)
  resultRef := payload.resultRef.orElse fun _ => existing.bind Entry.resultRef

def observedEntry (existing : Option Entry) (payload : RuntimeObservationPayload) : Entry :=
  match existing with
  | none => freshEntry none payload
  | some entry =>
    if entry.Conflicts payload then { entry with identityConflict := some true }
    else freshEntry (some entry) payload

def runtimeObservationRunFenceMatches (expected actual : RuntimeObservationFence) : Bool :=
  expected.taskId = actual.taskId ∧ expected.roleName = actual.roleName ∧
    expected.runId = actual.runId ∧ expected.agentId = actual.agentId ∧
    expected.driverId = actual.driverId ∧ expected.nativeSessionId = actual.nativeSessionId

/-- The entry of a continuation after one more event. -/
def updatedEntry (existing : Option Entry) (event : RuntimeObservation) : Entry :=
  if event.kind = .continuationReported then reportedEntry existing event.payload
  else observedEntry existing event.payload

def RuntimeProjection.put (current : RuntimeProjection) (id : String) (entry : Entry) : RuntimeProjection :=
  { current with continuations := Function.update current.continuations id (some entry) }

def projectEvent (current : RuntimeProjection) (event : RuntimeObservation) : RuntimeProjection :=
  if event.kind.isContinuation = true then
    let id := event.fence.continuationId.getD ""
    current.put id (updatedEntry (readEntry current.continuations id) event)
  else current

def projectRuntimeObservation [JsHost] (current : RuntimeProjection) (raw : RuntimeObservation) :
    Except String RuntimeProjection := do
  let event ← createRuntimeObservation raw
  refuse (runtimeObservationRunFenceMatches current.fence event.fence = false)
    "Runtime observation fence does not match the projection."
  .ok (projectEvent current event)

/-- `observations.reduce(projectRuntimeObservation, createRuntimeProjection(fence, createdAt))`. -/
def projectRuntimeObservations [JsHost] (fence : RuntimeObservationFence)
    (observations : List RuntimeObservation) : Except String RuntimeProjection :=
  observations.foldlM projectRuntimeObservation ⟨fence, fun _ => none⟩

/-- The projected records by the parts of their key. -/
def Projected := List String → Option ProviderContinuation

/-- One turn of the loop of `projectProviderContinuations`, which skips an incomplete fence. -/
def projectContinuation [JobHost] (projected : Projected) (observation : RuntimeObservation) :
    Except String Projected :=
  match observation.fence.conversationId, observation.fence.continuationId with
  | some conversationId, some continuationId => do
    let result ← foldContinuationObservation (projected [observation.fence.driverId,
      observation.fence.agentId, conversationId, continuationId]) observation
    let key ← providerContinuationKey result.identity
    .ok (Function.update projected key (some result))
  | _, _ => .ok projected

def projectProviderContinuations [JobHost] (observations : List RuntimeObservation) : Except String Projected :=
  (observations.filter fun observation => observation.kind.isContinuation).foldlM
    projectContinuation fun _ => none

/-- What the two projections of one continuation have in common. -/
structure Agree (entry : Entry) (record : ProviderContinuation) : Prop where
  waited : (entry.execution = some .active ∨ entry.execution = some .unknown) ↔
    (record.execution = .active ∨ record.execution = .unknown)
  writes : entry.mayWriteWorkspace = some record.mayWriteWorkspace
  conflict : entry.identityConflict = some record.identityConflict
  settled : (entry.execution = some .quiescent ∧ entry.observation = some .exactly) ↔
    record.settledAt ≠ none
  outcome : record.settledAt ≠ none → entry.outcome = some record.outcome

/-- Evidence after a settlement repeats it with the same result, or contradicts it. -/
def RepeatsOrContradicts (record : ProviderContinuation) (payload : RuntimeObservationPayload) : Prop :=
  (payload.outcome = some record.outcome → payload.mayWriteWorkspace = some record.mayWriteWorkspace ∧
      (record.identityConflict = true ∨ record.outcome = .unknown ∨ record.resultRef = none ∨
        payload.resultRef = none ∨ payload.resultRef = record.resultRef)) ∧
    (payload.outcome ≠ some record.outcome → record.identityConflict = true ∨
      record.outcome ≠ .unknown ∨ payload.outcome = some .pending)

/-- The evidence that both projections read the same way. -/
def Compatible (existing : Option ProviderContinuation) (observation : RuntimeObservation) : Prop :=
  observation.kind ≠ .continuationReported →
    (observation.payload.execution = some .quiescent →
      observation.payload.observationQuality = some .exactly) ∧
    ∀ record ∈ existing,
      (record.settledAt = none → observation.payload.observationQuality ≠ some .exactly →
        record.mayWriteWorkspace = true → observation.payload.mayWriteWorkspace = some true) ∧
      (record.settledAt ≠ none → observation.payload.execution = some .quiescent →
        RepeatsOrContradicts record observation.payload)

section Steps

variable [JsHost] {record result : ProviderContinuation} {entry : Entry} {input : ObserveInput}
  {payload : RuntimeObservationPayload}

structure ReadFrom (input : ObserveInput) (payload : RuntimeObservationPayload) : Prop where
  execution : payload.execution = some input.execution
  outcome : payload.outcome = some input.outcome
  quality : payload.observationQuality = some input.observation
  mayWriteWorkspace : payload.mayWriteWorkspace = some input.mayWriteWorkspace
  resultRef : input.resultRef = payload.resultRef
  sequence : input.providerSequence = none

structure Related (entry : Entry) (record : ProviderContinuation) : Prop where
  agree : Agree entry record
  valid : Valid record
  conflict : record.identityConflict = true → record.settledAt ≠ none

variable {observedAt : String}

theorem observeOpen_fresh (hexact : input.execution = .quiescent → input.observation = .exactly)
    (hopen : record.settledAt = none) (h : observeOpen record input observedAt = .ok result) :
    Valid result ∧ result.execution = input.execution ∧ result.outcome = input.outcome ∧
      result.mayWriteWorkspace = input.mayWriteWorkspace ∧ result.identityConflict = record.identityConflict ∧
      (result.settledAt ≠ none ↔ input.execution = .quiescent ∧ input.observation = .exactly) := by
  unfold observeOpen at h
  rw [if_neg (fun hboth => hboth.2 (hexact hboth.1))] at h
  obtain ⟨resultRef, _, h⟩ := bind_ok h
  obtain ⟨rfl, hvalid⟩ := validateProviderContinuation_ok h
  refine ⟨hvalid, rfl, rfl, rfl, rfl, ?_⟩
  simp only [ObserveInput.settlesAt, hopen]
  split_ifs with hsettles
  · simpa using hsettles
  · simpa using hsettles

theorem related_fresh {existing : Option Entry} (hread : ReadFrom input payload)
    (hexact : input.execution = .quiescent → input.observation = .exactly)
    (hopen : record.settledAt = none) (hclear : record.identityConflict = false)
    (hwrites : writesNow existing payload = some input.mayWriteWorkspace)
    (hconflict : (existing.bind Entry.identityConflict).getD false = false)
    (h : observeOpen record input observedAt = .ok result) : Related (freshEntry existing payload) result := by
  obtain ⟨hvalid, hexecution, houtcome, hmay, hsame, hsettled⟩ := observeOpen_fresh hexact hopen h
  refine ⟨⟨?_, ?_, ?_, ?_, ?_⟩, hvalid, ?_⟩
  · simp only [freshEntry, hread.execution, hexecution, Option.some.injEq]
  · simp only [freshEntry, hwrites, hmay]
  · simp only [freshEntry, hconflict, hsame, hclear]
  · simp only [freshEntry, hread.execution, hread.quality, Option.some.injEq, hsettled]
  · intro _
    simp only [freshEntry, hread.outcome, houtcome]
  · intro htrue
    rw [hsame, hclear] at htrue
    cases htrue

theorem related_open (hrelated : Related entry record) (hread : ReadFrom input payload)
    (hexact : input.execution = .quiescent → input.observation = .exactly) (hopen : record.settledAt = none)
    (hwriter : input.observation ≠ .exactly → record.mayWriteWorkspace = true → input.mayWriteWorkspace = true)
    (h : observeOpen record input observedAt = .ok result) : Related (observedEntry (some entry) payload) result := by
  have hclear : record.identityConflict = false := by
    by_contra htrue
    exact hrelated.conflict (by simpa using htrue) hopen
  have hnot : ¬ entry.Conflicts payload := fun hconflicts =>
    hrelated.agree.settled.1 hconflicts.1 hopen
  simp only [observedEntry, if_neg hnot]
  apply related_fresh hread hexact hopen hclear _ _ h
  · simp only [writesNow, hread.quality, hread.mayWriteWorkspace, Option.bind_some,
      hrelated.agree.writes, Option.getD_some, Option.some.injEq]
    split_ifs with hquality hold
    · rfl
    · rw [hwriter hquality hold]
    · rfl
  · simp only [Option.bind_some, hrelated.agree.conflict, hclear, Option.getD_some]

theorem observe_folds (hclear : record.identityConflict = false) (hsequence : input.providerSequence = none)
    (h : observeProviderContinuation record input = .ok result) :
    ∃ observedAt, record.settledAt = none ∧ observeOpen record input observedAt = .ok result ∨
      record.settledAt ≠ none ∧ observeSettled record input observedAt = .ok result := by
  unfold observeProviderContinuation at h
  obtain ⟨current, hcurrent, hrest⟩ := bind_ok h
  clear h
  obtain ⟨rfl, _⟩ := validateProviderContinuation_ok hcurrent
  rw [hclear, hsequence] at hrest
  obtain ⟨regresses, hregresses, hrest⟩ := bind_ok hrest
  cases hregresses
  obtain ⟨observedAt, _, hrest⟩ := bind_ok hrest
  refine ⟨observedAt, ?_⟩
  split_ifs at hrest with hopen
  · exact .inl ⟨hopen, hrest⟩
  · exact .inr ⟨hopen, hrest⟩

theorem reopening_marks (hactive : input.execution ≠ .quiescent)
    (h : observeSettled record input observedAt = .ok result) :
    result = { record with identityConflict := true, updatedAt := observedAt } := by
  unfold observeSettled at h
  rw [if_neg (by simp [hactive]), if_neg (by simp [hactive]), if_neg (by simp [hactive])] at h
  exact (validateProviderContinuation_ok h).1

theorem contradiction_marks (hother : input.outcome ≠ record.outcome)
    (hrefused : record.outcome ≠ .unknown ∨ input.outcome = .pending)
    (h : observeSettled record input observedAt = .ok result) :
    result = { record with identityConflict := true, updatedAt := observedAt } := by
  unfold observeSettled at h
  rw [if_neg (by simp [hother]), if_neg (by simp [hother]), if_neg (by tauto)] at h
  exact (validateProviderContinuation_ok h).1

theorem repeat_keeps (hclear : record.identityConflict = false)
    (hquiet : input.execution = .quiescent) (hexact : input.observation = .exactly)
    (hsame : input.outcome = record.outcome)
    (hresultRef : record.identityConflict = true ∨ record.outcome = .unknown ∨
      record.resultRef = none ∨ input.resultRef = none ∨ input.resultRef = record.resultRef)
    (h : observeSettled record input observedAt = .ok result) :
    ¬ result = { record with identityConflict := true, updatedAt := observedAt } := by
  have hkept : result.identityConflict = false := by
    unfold observeSettled at h
    split_ifs at h with hrepeats hfills hrefines
    · cases h
      exact hclear
    · obtain ⟨resultRef, _, h⟩ := bind_ok h
      obtain ⟨rfl, _⟩ := validateProviderContinuation_ok h
      exact hclear
    · obtain ⟨resultRef, _, h⟩ := bind_ok h
      obtain ⟨rfl, _⟩ := validateProviderContinuation_ok h
      exact hclear
    · rcases hresultRef with htrue | hunknown | hnone | hnone | hequal
      · simp [hclear] at htrue
      · refine absurd ⟨hunknown, hquiet, hexact, ?_⟩ hrefines
        simp [hsame, hunknown]
      · refine absurd ⟨hquiet, hexact, hsame, hnone, fun hmissing => ?_⟩ hfills
        exact hrepeats ⟨hquiet, hsame, .inl hmissing⟩
      · exact absurd ⟨hquiet, hsame, .inl hnone⟩ hrepeats
      · exact absurd ⟨hquiet, hsame, .inr hequal⟩ hrepeats
  intro hconflict
  rw [hconflict] at hkept
  cases hkept

theorem related_conflict (hrelated : Related entry record) (hsettled : record.settledAt ≠ none)
    (hresult : Valid result) (hexecution : result.execution = record.execution)
    (houtcome : result.outcome = record.outcome) (hmay : result.mayWriteWorkspace = record.mayWriteWorkspace)
    (hat : result.settledAt = record.settledAt) (hconflict : result.identityConflict = true) :
    Related { entry with identityConflict := some true } result := by
  refine ⟨⟨?_, ?_, ?_, ?_, ?_⟩, hresult, fun _ => hat ▸ hsettled⟩
  · rw [hexecution]
    exact hrelated.agree.waited
  · rw [hmay]
    exact hrelated.agree.writes
  · rw [hconflict]
  · rw [hat]
    exact hrelated.agree.settled
  · intro _
    rw [houtcome]
    exact hrelated.agree.outcome hsettled

theorem related_repeat (hrelated : Related entry record) (hsettled : record.settledAt ≠ none)
    (hread : ReadFrom input payload) (hquiet : input.execution = .quiescent)
    (hexact : input.observation = .exactly) (hmay : input.mayWriteWorkspace = record.mayWriteWorkspace)
    (hsame : input.outcome = record.outcome) (hresult : Valid result)
    (hexecution : result.execution = record.execution) (houtcome : result.outcome = record.outcome)
    (hwrites : result.mayWriteWorkspace = record.mayWriteWorkspace) (hat : result.settledAt = record.settledAt)
    (hconflict : result.identityConflict = record.identityConflict) :
    Related (freshEntry (some entry) payload) result := by
  obtain ⟨settledAt, hsome⟩ := Option.ne_none_iff_exists'.1 hsettled
  have hquiescent := (hrelated.valid.settled settledAt hsome).1
  refine ⟨⟨?_, ?_, ?_, ?_, ?_⟩, hresult, fun _ => hat ▸ hsettled⟩
  · simp only [freshEntry, hread.execution, hquiet, hexecution, hquiescent]
    decide
  · simp only [freshEntry, writesNow, hread.quality, hexact, hread.mayWriteWorkspace, if_true, hmay, hwrites]
  · simp only [freshEntry, Option.bind_some, hrelated.agree.conflict, Option.getD_some, hconflict]
  · simp only [freshEntry, hread.execution, hquiet, hread.quality, hexact, hat, true_and, true_iff]
    exact hsettled
  · intro _
    simp only [freshEntry, hread.outcome, hsame, houtcome]

theorem related_settled (hrelated : Related entry record)
    (hclear : record.identityConflict = false) (hsettled : record.settledAt ≠ none) (hread : ReadFrom input payload)
    (hexact : input.execution = .quiescent → input.observation = .exactly)
    (hrepeats : input.execution = .quiescent → RepeatsOrContradicts record payload)
    (h : observeSettled record input observedAt = .ok result) :
    Related (observedEntry (some entry) payload) result := by
  have hresult := observeSettled_valid hrelated.valid h
  have hentry := hrelated.agree.settled.2 hsettled
  have hknown := hrelated.agree.outcome hsettled
  by_cases hquiet : input.execution = .quiescent
  · obtain ⟨hrepeat, hcontradict⟩ := hrepeats hquiet
    by_cases hsame : input.outcome = record.outcome
    · obtain ⟨hmay, hresultRef⟩ := hrepeat (by rw [hread.outcome, hsame])
      rw [hread.mayWriteWorkspace, Option.some.injEq] at hmay
      have hnot : ¬ entry.Conflicts payload := by
        rintro ⟨_, hother | hother⟩
        · exact hother (by rw [hread.execution, hquiet])
        · exact hother (by rw [hread.outcome, hsame, hknown])
      simp only [observedEntry, if_neg hnot]
      rcases observeSettled_cases h with rfl | ⟨_, _, _, rfl⟩ | ⟨_, _, _, _, _, _, _, rfl⟩ | hconflict
      · exact related_repeat hrelated hsettled hread hquiet (hexact hquiet) hmay hsame hresult rfl rfl rfl rfl rfl
      · exact related_repeat hrelated hsettled hread hquiet (hexact hquiet) hmay hsame hresult rfl rfl rfl rfl rfl
      · exact related_repeat hrelated hsettled hread hquiet (hexact hquiet) hmay hsame hresult rfl hsame rfl rfl rfl
      · exact absurd hconflict (repeat_keeps hclear hquiet (hexact hquiet) hsame (hread.resultRef ▸ hresultRef) h)
    · have hconflicts : entry.Conflicts payload := ⟨hentry, .inr (by rw [hread.outcome, hknown]; simpa using hsame)⟩
      have hrefused := hcontradict (by rw [hread.outcome]; simpa using hsame)
      rw [hread.outcome, Option.some.injEq] at hrefused
      simp only [observedEntry, if_pos hconflicts]
      obtain rfl := contradiction_marks hsame (hrefused.resolve_left (by simp [hclear])) h
      exact related_conflict hrelated hsettled hresult rfl rfl rfl rfl rfl
  · have hconflicts : entry.Conflicts payload := ⟨hentry, .inl (by rw [hread.execution]; simpa using hquiet)⟩
    simp only [observedEntry, if_pos hconflicts]
    obtain rfl := reopening_marks hquiet h
    exact related_conflict hrelated hsettled hresult rfl rfl rfl rfl rfl

theorem related_frozen (hrelated : Related entry record) (hmarked : record.identityConflict = true)
    (hread : ReadFrom input payload) (hexact : input.execution = .quiescent → input.observation = .exactly)
    (hrepeats : input.execution = .quiescent → RepeatsOrContradicts record payload) :
    Related (observedEntry (some entry) payload) record := by
  have hsettled := hrelated.conflict hmarked
  by_cases hconflicts : entry.Conflicts payload
  · simp only [observedEntry, if_pos hconflicts]
    exact related_conflict hrelated hsettled hrelated.valid rfl rfl rfl rfl hmarked
  · simp only [observedEntry, if_neg hconflicts]
    have hentry := hrelated.agree.settled.2 hsettled
    have hknown := hrelated.agree.outcome hsettled
    have hquiet : input.execution = .quiescent := by
      by_contra hactive
      exact hconflicts ⟨hentry, .inl (by rw [hread.execution]; simpa using hactive)⟩
    have hsame : input.outcome = record.outcome := by
      by_contra hother
      exact hconflicts ⟨hentry, .inr (by rw [hread.outcome, hknown]; simpa using hother)⟩
    have hmay := ((hrepeats hquiet).1 (by rw [hread.outcome, hsame])).1
    rw [hread.mayWriteWorkspace, Option.some.injEq] at hmay
    exact related_repeat hrelated hsettled hread hquiet (hexact hquiet) hmay hsame hrelated.valid rfl rfl rfl rfl rfl

/-- One piece of evidence on a known continuation. -/
theorem related_observe (hrelated : Related entry record) (hread : ReadFrom input payload)
    (hexact : input.execution = .quiescent → input.observation = .exactly)
    (hwriter : record.settledAt = none → input.observation ≠ .exactly →
      record.mayWriteWorkspace = true → input.mayWriteWorkspace = true)
    (hrepeats : record.settledAt ≠ none → input.execution = .quiescent → RepeatsOrContradicts record payload)
    (h : observeProviderContinuation record input = .ok result) :
    Related (observedEntry (some entry) payload) result := by
  by_cases hmarked : record.identityConflict = true
  · have hsame : result = record := by
      obtain ⟨_, hsame | ⟨hclear, _⟩⟩ := observeProviderContinuation_cases h
      · exact hsame
      · simp [hclear] at hmarked
    rw [hsame]
    exact related_frozen hrelated hmarked hread hexact (hrepeats (hrelated.conflict hmarked))
  · rw [Bool.not_eq_true] at hmarked
    obtain ⟨observedAt, ⟨hopen, hfold⟩ | ⟨hsettled, hfold⟩⟩ := observe_folds hmarked hread.sequence h
    · exact related_open hrelated hread hexact hopen (hwriter hopen) hfold
    · exact related_settled hrelated hmarked hsettled hread hexact (hrepeats hsettled) hfold

theorem related_report {report : ProviderReport} {providerSequence : Option JsNumeric}
    (hrelated : Related entry record) (h : recordProviderReport record report providerSequence = .ok result) :
    Related (reportedEntry (some entry) payload) result := by
  obtain ⟨_, rfl | ⟨_, hresult, normalized, _, _, rfl⟩⟩ := recordProviderReport_cases h
  · exact ⟨⟨hrelated.agree.waited, hrelated.agree.writes, hrelated.agree.conflict,
      hrelated.agree.settled, hrelated.agree.outcome⟩, hrelated.valid, hrelated.conflict⟩
  · exact ⟨⟨hrelated.agree.waited, hrelated.agree.writes, hrelated.agree.conflict,
      hrelated.agree.settled, hrelated.agree.outcome⟩, hresult, hrelated.conflict⟩

end Steps

theorem providerContinuationKey_ok {identity : ProviderContinuationIdentity} {key : List String}
    (h : providerContinuationKey identity = .ok key) :
    key = [identity.providerNamespace, identity.accountScope, identity.conversationId, identity.continuationId] := by
  unfold providerContinuationKey at h
  obtain ⟨normalized, hnormalized, h⟩ := bind_ok h
  unfold validateProviderContinuationIdentity at hnormalized
  iterate 4 obtain ⟨_, _, hnormalized⟩ := bind_ok hnormalized
  cases hnormalized
  cases h
  rfl

theorem continuationIdentity_parts {observation : RuntimeObservation} {owner : FenceIdentity}
    {conversation id : String} (hconversation : observation.fence.conversationId = some conversation)
    (hid : observation.fence.continuationId = some id) (h : continuationIdentity observation = .ok owner) :
    owner.identity = ⟨observation.fence.driverId, observation.fence.agentId, conversation, id⟩ := by
  unfold continuationIdentity at h
  rw [hconversation, hid] at h
  split at h
  · next _ _ hleft hright =>
      cases hleft
      cases hright
      cases h
      rfl
  · cases h

section Folds

variable [JobHost] {result : ProviderContinuation} {observation : RuntimeObservation}

theorem createFromObservation_open {fence : FenceIdentity}
    (h : createFromObservation observation fence = .ok result) :
    Valid result ∧ result.settledAt = none ∧ result.identityConflict = false ∧
      result.execution = .active ∧ result.identity = fence.identity ∧
      (observation.kind = .continuationReported → result.mayWriteWorkspace = true) := by
  unfold createFromObservation at h
  iterate 3 obtain ⟨_, _, h⟩ := bind_ok h
  unfold createProviderContinuation at h
  iterate 3 obtain ⟨_, _, h⟩ := bind_ok h
  obtain ⟨identity, hidentity, _, _, _, _, h⟩ := bind_ok₃ h
  unfold validateProviderContinuationIdentity at hidentity
  iterate 4 obtain ⟨_, _, hidentity⟩ := bind_ok hidentity
  cases hidentity
  obtain ⟨rfl, hvalid⟩ := validateProviderContinuation_ok h
  exact ⟨hvalid, rfl, rfl, rfl, rfl, fun hkind => by simp [hkind]⟩

variable {base : ProviderContinuation}

theorem foldEvidence_reads (hsequence : observation.sequence = none)
    (h : foldEvidence base observation = .ok result) :
    ∃ input, ReadFrom input observation.payload ∧ observeProviderContinuation base input = .ok result := by
  unfold foldEvidence at h
  obtain ⟨execution, hexecution, outcome, houtcome, attachment, _, quality, hquality, h⟩ := bind_ok₄ h
  obtain ⟨mayWrite, hmayWrite, h⟩ := bind_ok h
  exact ⟨_, ⟨guaranteed_ok hexecution, guaranteed_ok houtcome, guaranteed_ok hquality,
    guaranteed_ok hmayWrite, rfl, hsequence⟩, h⟩

theorem related_first {fence : FenceIdentity} (hbase : createFromObservation observation fence = .ok base)
    (hsequence : observation.sequence = none) (hcompatible : Compatible none observation)
    (h : (if observation.kind = .continuationReported then foldReport base observation
      else foldEvidence base observation) = .ok result) : Related (updatedEntry none observation) result := by
  obtain ⟨hvalid, hopen, hclear, hactive, _, hwriter⟩ := createFromObservation_open hbase
  unfold updatedEntry
  split_ifs at h ⊢ with hreported
  · obtain ⟨reportId, _, h⟩ := bind_ok h
    have hnew : Agree (reportedEntry none observation.payload) base := by
      refine ⟨?_, ?_, ?_, ?_, fun hsettled => absurd hopen hsettled⟩
      · simp [reportedEntry, hactive]
      · simp [reportedEntry, hwriter hreported]
      · simp [reportedEntry, hclear]
      · simp [reportedEntry, hopen]
    obtain ⟨_, rfl | ⟨_, hresult, normalized, _, _, rfl⟩⟩ := recordProviderReport_cases h
    · exact ⟨hnew, hvalid, fun htrue => by simp [hclear] at htrue⟩
    · exact ⟨⟨hnew.waited, hnew.writes, hnew.conflict, hnew.settled, hnew.outcome⟩, hresult,
        fun htrue => by simp [hclear] at htrue⟩
  · obtain ⟨input, hread, h⟩ := foldEvidence_reads hsequence h
    have hexact : input.execution = .quiescent → input.observation = .exactly := by
      intro hquiet
      have hquality := (hcompatible hreported).1 (by rw [hread.execution, hquiet])
      rw [hread.quality, Option.some.injEq] at hquality
      exact hquality
    obtain ⟨observedAt, ⟨_, hfold⟩ | ⟨hsettled, _⟩⟩ := observe_folds hclear hread.sequence h
    · refine related_fresh hread hexact hopen hclear ?_ rfl hfold
      simp only [writesNow, hread.mayWriteWorkspace, Option.bind_none, Option.getD_none]
      simp
    · exact absurd hopen hsettled

/-- A further observation of a continuation. -/
theorem related_next {entry : Entry} {record : ProviderContinuation} (hrelated : Related entry record)
    (hsequence : observation.sequence = none) (hcompatible : Compatible (some record) observation)
    (h : (if observation.kind = .continuationReported then foldReport record observation
      else foldEvidence record observation) = .ok result) :
    Related (updatedEntry (some entry) observation) result := by
  unfold updatedEntry
  split_ifs at h ⊢ with hreported
  · obtain ⟨reportId, _, h⟩ := bind_ok h
    exact related_report hrelated h
  · obtain ⟨input, hread, h⟩ := foldEvidence_reads hsequence h
    obtain ⟨hquality, hknown⟩ := hcompatible hreported
    obtain ⟨hwriter, hrepeats⟩ := hknown record rfl
    apply related_observe hrelated hread _ _ _ h
    · intro hquiet
      have hexact := hquality (by rw [hread.execution, hquiet])
      rw [hread.quality, Option.some.injEq] at hexact
      exact hexact
    · intro hopen hinexact hwrites
      have hmay := hwriter hopen (by rw [hread.quality]; simpa using hinexact) hwrites
      rw [hread.mayWriteWorkspace, Option.some.injEq] at hmay
      exact hmay
    · intro hsettled hquiet
      exact hrepeats hsettled (by rw [hread.execution, hquiet])

theorem observe_identity {record : ProviderContinuation} {input : ObserveInput}
    (h : observeProviderContinuation record input = .ok result) : result.identity = record.identity := by
  obtain ⟨_, rfl | ⟨_, _, observedAt, ⟨_, hopen⟩ | ⟨_, hsettled⟩⟩⟩ :=
    observeProviderContinuation_cases h
  · rfl
  · unfold observeOpen at hopen
    split_ifs at hopen with hinexact
    · obtain ⟨rfl, _⟩ := validateProviderContinuation_ok hopen
      rfl
    · obtain ⟨_, _, hopen⟩ := bind_ok hopen
      obtain ⟨rfl, _⟩ := validateProviderContinuation_ok hopen
      rfl
  · rcases observeSettled_cases hsettled with rfl | ⟨_, _, _, rfl⟩ | ⟨_, _, _, _, _, _, _, rfl⟩ | rfl
    · rfl
    · rfl
    · rfl
    · rfl

theorem fold_identity (h : (if observation.kind = .continuationReported then foldReport base observation
      else foldEvidence base observation) = .ok result) : result.identity = base.identity := by
  split_ifs at h with hreported
  · obtain ⟨reportId, _, h⟩ := bind_ok h
    obtain ⟨_, rfl | ⟨_, _, normalized, _, _, rfl⟩⟩ := recordProviderReport_cases h
    · rfl
    · rfl
  · unfold foldEvidence at h
    iterate 5 obtain ⟨_, _, h⟩ := bind_ok h
    exact observe_identity h

theorem foldBase_key {existing : Option ProviderContinuation} {owner : FenceIdentity}
    (h : foldBase existing observation owner = .ok base) :
    [base.identity.providerNamespace, base.identity.accountScope, base.identity.conversationId,
      base.identity.continuationId] = [owner.identity.providerNamespace, owner.identity.accountScope,
      owner.identity.conversationId, owner.identity.continuationId] := by
  cases existing with
  | none => rw [(createFromObservation_open h).2.2.2.2.1]
  | some current =>
    obtain ⟨key, hkey, other, hother, _, hsame, h⟩ := bind_ok₃ h
    cases h
    have hequal := refuse_ok hsame
    rw [not_not, providerContinuationKey_ok hkey, providerContinuationKey_ok hother] at hequal
    exact hequal

end Folds

section Runs

variable [JobHost] {fence : RuntimeObservationFence} {conversation : String}

/-- A continuation observation of one AgentRun in one conversation, without a Provider sequence, as
it is read back from its Task event. -/
structure InStream (fence : RuntimeObservationFence) (conversation : String)
    (observation : RuntimeObservation) : Prop where
  normalized : createRuntimeObservation observation = .ok observation
  kind : observation.kind.isContinuation = true
  sequence : observation.sequence = none
  run : runtimeObservationRunFenceMatches fence observation.fence = true
  conversationId : observation.fence.conversationId = some conversation

def streamKey (fence : RuntimeObservationFence) (conversation id : String) : List String :=
  [fence.driverId, fence.agentId, conversation, id]

/-- Both projections know the same continuations and agree about each. -/
def Matched (fence : RuntimeObservationFence) (conversation : String)
    (continuations : String → Option Entry) (projected : Projected) : Prop := ∀ id,
  (continuations id = none ∧ projected (streamKey fence conversation id) = none) ∨
    ∃ entry record, continuations id = some entry ∧
      projected (streamKey fence conversation id) = some record ∧ Related entry record

/-- The observation is compatible with the record of its continuation, whose id is no inherited
name. -/
def StepCompatible (fence : RuntimeObservationFence) (conversation : String) (projected : Projected)
    (observation : RuntimeObservation) : Prop :=
  ∀ id ∈ observation.fence.continuationId, id ∉ inheritedNames ∧
    Compatible (projected (streamKey fence conversation id)) observation

theorem InStream.continuationId {observation : RuntimeObservation}
    (h : InStream fence conversation observation) : ∃ id, observation.fence.continuationId = some id := by
  have hnormalized := h.normalized
  unfold createRuntimeObservation at hnormalized
  obtain ⟨_, _, normal, _, _, hscope, hnormalized⟩ := bind_ok₃ hnormalized
  iterate 7 obtain ⟨_, _, hnormalized⟩ := bind_ok hnormalized
  have hsame : normal = observation.fence := by
    have hfence := congrArg (fun result => result.map RuntimeObservation.fence) hnormalized
    exact Except.ok.inj hfence
  unfold checkScope at hscope
  simp only [seq_iff, refuse_iff, h.kind, true_and] at hscope
  rw [hsame] at hscope
  exact Option.ne_none_iff_exists'.1 (refuse_ok hscope.2.2.2)

theorem runFence_eq {observation : RuntimeObservation} (h : InStream fence conversation observation) :
    observation.fence.driverId = fence.driverId ∧ observation.fence.agentId = fence.agentId := by
  have hrun := h.run
  simp only [runtimeObservationRunFenceMatches, decide_eq_true_eq] at hrun
  exact ⟨hrun.2.2.2.2.1.symm, hrun.2.2.2.1.symm⟩

theorem matched_step {observation : RuntimeObservation} {projection : RuntimeProjection}
    {projected next : Projected} (hin : InStream fence conversation observation) (hfence : projection.fence = fence)
    (hmatched : Matched fence conversation projection.continuations projected)
    (hcompatible : StepCompatible fence conversation projected observation)
    (h : projectContinuation projected observation = .ok next) :
    ∃ after, projectRuntimeObservation projection observation = .ok after ∧ after.fence = fence ∧
      Matched fence conversation after.continuations next := by
  obtain ⟨id, hid⟩ := hin.continuationId
  obtain ⟨hdriver, hagent⟩ := runFence_eq hin
  obtain ⟨hplain, hcompatible⟩ := hcompatible id hid
  have hafter : projectRuntimeObservation projection observation =
      .ok (projection.put id (updatedEntry (readEntry projection.continuations id) observation)) := by
    unfold projectRuntimeObservation
    rw [hin.normalized, ok_bind, hfence, refuse_of_not (by simp [hin.run]), ok_bind, projectEvent,
      if_pos hin.kind, hid]
    rfl
  refine ⟨_, hafter, hfence, ?_⟩
  unfold projectContinuation at h
  rw [hin.conversationId, hid, hdriver, hagent] at h
  obtain ⟨result, hfold, key, hkey, h⟩ := bind_ok₂ h
  cases h
  unfold foldContinuationObservation at hfold
  rw [hin.normalized, ok_bind] at hfold
  unfold foldNormalized at hfold
  obtain ⟨_, _, owner, howner, base, hbase, hfold⟩ := bind_ok₃ hfold
  have hparts : owner.identity = ⟨fence.driverId, fence.agentId, conversation, id⟩ := by
    rw [← hdriver, ← hagent]
    exact continuationIdentity_parts hin.conversationId hid howner
  have hstored : key = streamKey fence conversation id := by
    rw [providerContinuationKey_ok hkey, fold_identity hfold, foldBase_key hbase, hparts]
    rfl
  have hrelated : Related (updatedEntry (readEntry projection.continuations id) observation) result := by
    rcases hmatched id with ⟨hnone, hmissing⟩ | ⟨entry, record, hentry, hrecord, hrelated⟩
    · have hread : readEntry projection.continuations id = none := by simp only [readEntry, hnone, if_neg hplain]
      have hmissing' : projected [fence.driverId, fence.agentId, conversation, id] = none := hmissing
      rw [hmissing] at hcompatible
      rw [hmissing'] at hbase
      rw [hread]
      exact related_first hbase hin.sequence hcompatible hfold
    · have hread : readEntry projection.continuations id = some entry := by simp only [readEntry, hentry]
      have hrecord' : projected [fence.driverId, fence.agentId, conversation, id] = some record := hrecord
      rw [hrecord] at hcompatible
      rw [hrecord'] at hbase
      rw [hread]
      have hsame : base = record := by
        iterate 3 obtain ⟨_, _, hbase⟩ := bind_ok hbase
        exact (Except.ok.inj hbase).symm
      rw [hsame] at hfold
      exact related_next hrelated hin.sequence hcompatible hfold
  intro other
  by_cases hother : other = id
  · refine .inr ⟨_, result, ?_, ?_, hrelated⟩
    · rw [hother]
      exact Function.update_self _ _ _
    · rw [hother, hstored]
      exact Function.update_self _ _ _
  · have hkeys : streamKey fence conversation other ≠ key := by
      rw [hstored]
      intro heq
      exact hother (by simpa [streamKey] using heq)
    have hcontinuations : (projection.put id (updatedEntry (readEntry projection.continuations id)
        observation)).continuations other = projection.continuations other :=
      Function.update_of_ne hother _ _
    have hprojected : Function.update projected key (some result) (streamKey fence conversation other) =
        projected (streamKey fence conversation other) := Function.update_of_ne hkeys _ _
    rw [hcontinuations, hprojected]
    exact hmatched other

theorem matched_run {observations : List RuntimeObservation} {projection : RuntimeProjection}
    {projected final : Projected} (hstream : ∀ observation ∈ observations,
      InStream fence conversation observation) (hfence : projection.fence = fence)
    (hmatched : Matched fence conversation projection.continuations projected)
    (hcompatible : Along projectContinuation (StepCompatible fence conversation) projected observations)
    (h : observations.foldlM projectContinuation projected = .ok final) :
    ∃ after, observations.foldlM projectRuntimeObservation projection = .ok after ∧
      Matched fence conversation after.continuations final := by
  induction observations generalizing projection projected with
  | nil =>
    cases h
    exact ⟨projection, rfl, hmatched⟩
  | cons observation observations ih =>
    rw [List.foldlM_cons] at h
    obtain ⟨next, hnext, h⟩ := bind_ok h
    obtain ⟨middle, hmiddle, hsame, hmatched⟩ := matched_step (hstream observation (by simp)) hfence
      hmatched hcompatible.1 hnext
    have hrest := hcompatible.2
    rw [attempt_ok hnext] at hrest
    obtain ⟨after, hafter, hfinal⟩ := ih (fun other hother => hstream other (by simp [hother])) hsame hmatched hrest h
    refine ⟨after, ?_, hfinal⟩
    rw [List.foldlM_cons, hmiddle]
    exact hafter

/-- Along every compatible stream both projections keep the same continuations and agree about each
of them. -/
theorem projections_agree {observations : List RuntimeObservation} {projected : Projected}
    (hstream : ∀ observation ∈ observations, InStream fence conversation observation)
    (hcompatible : Along projectContinuation (StepCompatible fence conversation) (fun _ => none) observations)
    (h : projectProviderContinuations observations = .ok projected) :
    ∃ projection, projectRuntimeObservations fence observations = .ok projection ∧
      ∀ id, (projection.continuations id = none ∧ projected (streamKey fence conversation id) = none) ∨
        ∃ entry record, projection.continuations id = some entry ∧
          projected (streamKey fence conversation id) = some record ∧ Agree entry record := by
  have hall : observations.filter (fun observation => observation.kind.isContinuation) = observations :=
    List.filter_eq_self.2 fun observation hobservation => (hstream observation hobservation).kind
  unfold projectProviderContinuations at h
  rw [hall] at h
  obtain ⟨projection, hprojection, hmatched⟩ := @matched_run _ fence conversation observations
    ⟨fence, fun _ => none⟩ _ _ hstream rfl (fun _ => .inl ⟨rfl, rfl⟩) hcompatible h
  refine ⟨projection, hprojection, fun id => ?_⟩
  rcases hmatched id with hnone | ⟨entry, record, hentry, hrecord, hrelated⟩
  · exact .inl hnone
  · exact .inr ⟨entry, record, hentry, hrecord, hrelated.agree⟩

end Runs

def sampleFence : RuntimeObservationFence :=
  (sampleEvidence .continuationStarted .active .pending .exactly true).fence

theorem runtimeObservationRunFenceMatches_self (fence : RuntimeObservationFence) :
    runtimeObservationRunFenceMatches fence fence = true := by
  simp [runtimeObservationRunFenceMatches]

theorem sampleEvidence_inStream {kind : RuntimeObservationKind} {execution : ContinuationExecution}
    {outcome : ContinuationOutcome} {quality : ContinuationObservationQuality} {mayWrite : Bool}
    (hkind : kind.isContinuation = true)
    (hnormalized : @createRuntimeObservation sampleClock
      (sampleEvidence kind execution outcome quality mayWrite) =
        .ok (sampleEvidence kind execution outcome quality mayWrite)) :
    @InStream sampleRuntimeHost sampleFence "conversation-1"
      (sampleEvidence kind execution outcome quality mayWrite) :=
  @InStream.mk sampleRuntimeHost _ _ _ hnormalized hkind rfl
    (runtimeObservationRunFenceMatches_self sampleFence) rfl

/-- A settlement, a report and a late start that contradicts the settlement. -/
def contradictedStream : List RuntimeObservation :=
  [sampleEvidence .continuationSettled .quiescent .succeeded .exactly false,
    sampleEvidence .continuationReported .active .pending .unavailable true,
    sampleEvidence .continuationStarted .active .pending .exactly true]

theorem projections_agree_contradicted :
    let _ := sampleRuntimeHost
    ∃ projected projection, projectProviderContinuations contradictedStream = .ok projected ∧
      projectRuntimeObservations sampleFence contradictedStream = .ok projection ∧
      ∀ id, (projection.continuations id = none ∧
          projected (streamKey sampleFence "conversation-1" id) = none) ∨
        ∃ entry record, projection.continuations id = some entry ∧
          projected (streamKey sampleFence "conversation-1" id) = some record ∧
          Agree entry record := by
  let _ := sampleRuntimeHost
  obtain ⟨projected, hprojected⟩ : ∃ projected,
      projectProviderContinuations contradictedStream = .ok projected :=
    exists_of_isOk (by decide +kernel)
  have hstream : ∀ observation ∈ contradictedStream,
      InStream sampleFence "conversation-1" observation := by
    intro observation hobservation
    simp only [contradictedStream, List.mem_cons, List.not_mem_nil, or_false] at hobservation
    rcases hobservation with rfl | rfl | rfl
    · exact sampleEvidence_inStream rfl (by rfl)
    · exact sampleEvidence_inStream rfl (by rfl)
    · exact sampleEvidence_inStream rfl (by rfl)
  obtain ⟨projection, hprojection, hagree⟩ := projections_agree hstream (by
    refine ⟨fun id hid => ?_, fun id hid => ?_, fun id hid => ?_, trivial⟩
    · cases hid
      exact ⟨by decide, fun _ => ⟨fun _ => rfl, by simp⟩⟩
    · cases hid
      exact ⟨by decide, fun hkind => absurd rfl hkind⟩
    · cases hid
      refine ⟨by decide, fun _ => ⟨by decide, fun record _ => ⟨fun _ hinexact => ?_, fun _ hquiet => ?_⟩⟩⟩
      · exact absurd rfl hinexact
      · exact absurd hquiet (by decide)) hprojected
  exact ⟨projected, projection, hprojected, hprojection, hagree⟩

/-- A start and a partial observation of quiescence. -/
def partialStream : List RuntimeObservation :=
  [sampleEvidence .continuationStarted .active .pending .exactly true,
    sampleEvidence .continuationStarted .quiescent .succeeded .partially true]

/-- After partial quiescence one projection still waits and the other does not. -/
theorem projections_differ :
    let _ := sampleRuntimeHost
    (∀ observation ∈ partialStream, InStream sampleFence "conversation-1" observation) ∧
      (projectProviderContinuations partialStream).map (fun projected =>
        (projected (streamKey sampleFence "conversation-1" "continuation-1")).map
          ProviderContinuation.execution) = .ok (some .unknown) ∧
      (projectRuntimeObservations sampleFence partialStream).map (fun projection =>
        (projection.continuations "continuation-1").bind Entry.execution) =
          .ok (some .quiescent) := by
  let _ := sampleRuntimeHost
  refine ⟨fun observation hobservation => ?_, by decide +kernel, by decide +kernel⟩
  simp only [partialStream, List.mem_cons, List.not_mem_nil, or_false] at hobservation
  rcases hobservation with rfl | rfl
  · exact sampleEvidence_inStream rfl (by rfl)
  · exact sampleEvidence_inStream rfl (by rfl)

end Continuation
