import Yui.ProviderContinuation

/-!
# A settled continuation

Once a continuation is settled, later calls leave its execution, its settlement and its reports
alone and refine an unknown outcome once. A result reference is kept as long as no exact evidence
that refines an unknown outcome brings another one.
-/

open JsText Checked FallibleRun

namespace Continuation

inductive Call where
  | observe (input : ObserveInput)
  | report (report : ProviderReport) (providerSequence : Option JsNumeric)
  | detach (observedAt : String)

structure DistinctReports (value : ProviderContinuation) : Prop where
  ids : (value.reports.map ProviderReport.reportId).Nodup
  digests : (value.reports.filterMap ProviderReport.resultDigest).Nodup

theorem distinctReports_append {value : ProviderContinuation} {report : ProviderReport}
    (h : DistinctReports value) (hid : ∀ entry ∈ value.reports, entry.reportId ≠ report.reportId)
    (hdigest : ∀ digest ∈ report.resultDigest, ∀ entry ∈ value.reports, entry.resultDigest ≠ some digest) :
    ((value.reports ++ [report]).map ProviderReport.reportId).Nodup ∧
      ((value.reports ++ [report]).filterMap ProviderReport.resultDigest).Nodup := by
  constructor
  · rw [List.map_append, List.nodup_append]
    refine ⟨h.ids, List.nodup_singleton _, ?_⟩
    intro id hmem other hother heq
    obtain ⟨entry, hentry, rfl⟩ := List.mem_map.1 hmem
    rw [List.map_singleton, List.mem_singleton] at hother
    exact hid entry hentry (heq.trans hother)
  · rw [List.filterMap_append, List.nodup_append]
    refine ⟨h.digests, ?_, ?_⟩
    · cases hnew : report.resultDigest with
      | none => simp [hnew]
      | some digest => simp [hnew]
    · intro digest hmem other hother heq
      obtain ⟨entry, hentry, hold⟩ := List.mem_filterMap.1 hmem
      obtain ⟨new, hnew, hdigestNew⟩ := List.mem_filterMap.1 hother
      rw [List.mem_singleton.1 hnew] at hdigestNew
      exact hdigest other hdigestNew entry hentry (heq ▸ hold)

/-- What every later record keeps of a settled one. -/
structure Final (before after : ProviderContinuation) : Prop where
  execution : after.execution = .quiescent
  observation : after.observation = .exactly
  settledAt : after.settledAt = before.settledAt
  outcome : after.outcome = before.outcome ∨
    before.outcome = .unknown ∧ after.outcome ≠ .pending ∧ after.outcome ≠ .unknown
  resultRef : ∀ ref ∈ before.resultRef, after.resultRef = some ref
  reports : before.reports <+: after.reports
  distinct : DistinctReports after
  conflict : before.identityConflict = true → after = before ∨
    ∃ updatedAt, after = { before with attachment := .detached, updatedAt := updatedAt }

theorem Final.refl {value : ProviderContinuation} (hdistinct : DistinctReports value)
    (hquiet : value.execution = .quiescent ∧ value.observation = .exactly) : Final value value :=
  ⟨hquiet.1, hquiet.2, rfl, .inl rfl, fun _ href => href, List.prefix_refl _, hdistinct,
    fun _ => .inl rfl⟩

theorem Final.trans {a b c : ProviderContinuation} (hab : Final a b) (hbc : Final b c) : Final a c := by
  refine ⟨hbc.execution, hbc.observation, hbc.settledAt.trans hab.settledAt, ?_, ?_,
    hab.reports.trans hbc.reports, hbc.distinct, ?_⟩
  · rcases hbc.outcome with hsame | ⟨hunknown, hpending, hknown⟩
    · rw [hsame]
      exact hab.outcome
    · rcases hab.outcome with hsame | ⟨_, _, hother⟩
      · exact .inr ⟨hsame ▸ hunknown, hpending, hknown⟩
      · exact absurd hunknown hother
  · intro ref href
    exact hbc.resultRef ref (hab.resultRef ref href)
  · intro hconflict
    rcases hab.conflict hconflict with rfl | ⟨updatedAt, rfl⟩
    · exact hbc.conflict hconflict
    · rcases hbc.conflict hconflict with rfl | ⟨later, rfl⟩
      · exact .inr ⟨updatedAt, rfl⟩
      · exact .inr ⟨later, rfl⟩

section

variable [JsHost]

def Call.apply (current : ProviderContinuation) : Call → Except String ProviderContinuation
  | .observe input => observeProviderContinuation current input
  | .report entry providerSequence => recordProviderReport current entry providerSequence
  | .detach observedAt => detachProviderContinuation current observedAt

def Reached (value : ProviderContinuation) : Prop :=
  ∃ input created calls, createProviderContinuation input = .ok created ∧
    value = run Call.apply created calls

/-- Exact evidence that refines an unknown outcome does not name another result. -/
def KeepsResult (current : ProviderContinuation) : Call → Prop
  | .observe input => current.settledAt ≠ none → current.identityConflict = false →
      providerSequenceRegresses current input.providerSequence = .ok false →
      current.outcome = .unknown → input.execution = .quiescent → input.observation = .exactly →
      input.outcome ≠ .pending →
      ∀ ref ∈ current.resultRef, ∀ other ∈ input.resultRef, trim other = ref
  | .report _ _ => True
  | .detach _ => True

section Step

variable {value result : ProviderContinuation}

variable {input : ObserveInput} {observedAt : String}

theorem observeOpen_reports (h : observeOpen value input observedAt = .ok result) :
    Valid result ∧ result.reports = value.reports := by
  unfold observeOpen at h
  split_ifs at h with hinexact
  · obtain ⟨rfl, hvalid⟩ := validateProviderContinuation_ok h
    exact ⟨hvalid, rfl⟩
  · obtain ⟨resultRef, _, h⟩ := bind_ok h
    obtain ⟨rfl, hvalid⟩ := validateProviderContinuation_ok h
    exact ⟨hvalid, rfl⟩

theorem observeSettled_cases (h : observeSettled value input observedAt = .ok result) : result = value ∨
    (∃ resultRef lastProviderSequence, value.resultRef = none ∧ result = { value with
      resultRef := resultRef
      lastProviderSequence := lastProviderSequence
      updatedAt := observedAt }) ∨ (∃ (resultRef : Option String) (lastProviderSequence : Option JsNumeric),
      value.outcome = .unknown ∧ input.execution = .quiescent ∧ input.observation = .exactly ∧ input.outcome ≠ .pending ∧
      (∀ ref ∈ resultRef, ∃ other ∈ input.resultRef, trim other = ref) ∧ result = { value with
        outcome := input.outcome
        resultRef := resultRef.orElse fun _ => value.resultRef
        lastProviderSequence := lastProviderSequence
        updatedAt := observedAt }) ∨ result = { value with identityConflict := true, updatedAt := observedAt } := by
  unfold observeSettled at h
  split_ifs at h with hsame hfills hrefines
  · cases h
    exact .inl rfl
  · obtain ⟨resultRef, _, h⟩ := bind_ok h
    obtain ⟨rfl, _⟩ := validateProviderContinuation_ok h
    exact .inr (.inl ⟨_, _, hfills.2.2.2.1, rfl⟩)
  · obtain ⟨resultRef, hresultRef, h⟩ := bind_ok h
    obtain ⟨rfl, _⟩ := validateProviderContinuation_ok h
    refine .inr (.inr (.inl ⟨resultRef, _, hrefines.1, hrefines.2.1, hrefines.2.2.1,
      hrefines.2.2.2, fun ref href => ?_, rfl⟩))
    obtain ⟨other, hother, htext⟩ := (onSome_ok hresultRef).1 ref href
    exact ⟨other, hother, (requireTextWith_normal htext).2.symm⟩
  · obtain ⟨rfl, _⟩ := validateProviderContinuation_ok h
    exact .inr (.inr (.inr rfl))

theorem observeSettled_valid (hvalue : Valid value)
    (h : observeSettled value input observedAt = .ok result) : Valid result := by
  unfold observeSettled at h
  split_ifs at h with hsame hfills hrefines
  · cases h
    exact hvalue
  · obtain ⟨resultRef, _, h⟩ := bind_ok h
    obtain ⟨rfl, hvalid⟩ := validateProviderContinuation_ok h
    exact hvalid
  · obtain ⟨resultRef, _, h⟩ := bind_ok h
    obtain ⟨rfl, hvalid⟩ := validateProviderContinuation_ok h
    exact hvalid
  · obtain ⟨rfl, hvalid⟩ := validateProviderContinuation_ok h
    exact hvalid

theorem Call.apply_distinct {call : Call} (hdistinct : DistinctReports value)
    (h : call.apply value = .ok result) : Valid result ∧ DistinctReports result := by
  cases call with
  | observe input =>
    obtain ⟨hvalid, rfl | ⟨_, _, observedAt, ⟨_, hopen⟩ | ⟨_, hsettled⟩⟩⟩ :=
      observeProviderContinuation_cases h
    · exact ⟨hvalid, hdistinct⟩
    · obtain ⟨hresult, hreports⟩ := observeOpen_reports hopen
      exact ⟨hresult, by rw [hreports]; exact hdistinct.ids, by rw [hreports]; exact hdistinct.digests⟩
    · refine ⟨observeSettled_valid hvalid hsettled, ?_⟩
      rcases observeSettled_cases hsettled with rfl | ⟨_, _, _, rfl⟩ | ⟨_, _, _, _, _, _, _, rfl⟩ | rfl
      · exact hdistinct
      · exact ⟨hdistinct.ids, hdistinct.digests⟩
      · exact ⟨hdistinct.ids, hdistinct.digests⟩
      · exact ⟨hdistinct.ids, hdistinct.digests⟩
  | report report providerSequence =>
    obtain ⟨hvalid, rfl | ⟨_, hresult, normalized, hid, hdigest, rfl⟩⟩ :=
      recordProviderReport_cases h
    · exact ⟨hvalid, hdistinct⟩
    · obtain ⟨hids, hdigests⟩ := distinctReports_append hdistinct hid hdigest
      exact ⟨hresult, hids, hdigests⟩
  | detach observedAt =>
    obtain ⟨hvalid, rfl | ⟨hresult, updatedAt, rfl⟩⟩ := detachProviderContinuation_cases h
    · exact ⟨hvalid, hdistinct⟩
    · exact ⟨hresult, hdistinct.ids, hdistinct.digests⟩

theorem Call.apply_final {call : Call} (hdistinct : DistinctReports value)
    (hsettled : value.settledAt ≠ none) (hkeeps : KeepsResult value call)
    (h : call.apply value = .ok result) : Final value result := by
  have hresult := (Call.apply_distinct hdistinct h).2
  have hquiet : ∀ hvalid : Valid value, value.execution = .quiescent ∧ value.observation = .exactly := by
    intro hvalid
    obtain ⟨settledAt, hsome⟩ := Option.ne_none_iff_exists'.1 hsettled
    exact hvalid.settled settledAt hsome
  cases call with
  | observe input =>
    obtain ⟨hvalid, rfl | ⟨hconflict, hsequence, observedAt, ⟨hopen, _⟩ | ⟨_, hobserve⟩⟩⟩ :=
      observeProviderContinuation_cases h
    · exact Final.refl hdistinct (hquiet hvalid)
    · exact absurd hopen hsettled
    · have hclear : ¬ value.identityConflict = true := by simp [hconflict]
      rcases observeSettled_cases hobserve with rfl | ⟨ref, _, hnone, rfl⟩ |
        ⟨ref, _, hunknown, hexecution, hexact, hpending, href, rfl⟩ | rfl
      · exact Final.refl hdistinct (hquiet hvalid)
      · exact ⟨(hquiet hvalid).1, (hquiet hvalid).2, rfl, .inl rfl, by simp [hnone],
          List.prefix_refl _, hresult, fun htrue => absurd htrue hclear⟩
      · refine ⟨(hquiet hvalid).1, (hquiet hvalid).2, rfl, ?_, fun old hold => ?_,
          List.prefix_refl _, hresult, fun htrue => absurd htrue hclear⟩
        · by_cases hstill : input.outcome = .unknown
          · exact .inl (hstill.trans hunknown.symm)
          · exact .inr ⟨hunknown, hpending, hstill⟩
        · cases ref with
          | none => exact hold
          | some new =>
            obtain ⟨other, hother, htrim⟩ := href new rfl
            have hold' := hkeeps hsettled hconflict hsequence hunknown hexecution hexact hpending
              old hold other hother
            exact congrArg some (htrim.symm.trans hold')
      · exact ⟨(hquiet hvalid).1, (hquiet hvalid).2, rfl, .inl rfl, fun _ href => href,
          List.prefix_refl _, hresult, fun htrue => absurd htrue hclear⟩
  | report report providerSequence =>
    obtain ⟨hvalid, rfl | ⟨hconflict, _, normalized, _, _, rfl⟩⟩ := recordProviderReport_cases h
    · exact Final.refl hdistinct (hquiet hvalid)
    · exact ⟨(hquiet hvalid).1, (hquiet hvalid).2, rfl, .inl rfl, fun _ href => href,
        List.prefix_append _ _, hresult, fun htrue => absurd htrue (by simp [hconflict])⟩
  | detach observedAt =>
    obtain ⟨hvalid, rfl | ⟨_, updatedAt, rfl⟩⟩ := detachProviderContinuation_cases h
    · exact Final.refl hdistinct (hquiet hvalid)
    · exact ⟨(hquiet hvalid).1, (hquiet hvalid).2, rfl, .inl rfl, fun _ href => href,
        List.prefix_refl _, hresult, fun _ => .inr ⟨updatedAt, rfl⟩⟩

end Step

theorem createProviderContinuation_open {input : CreateInput} {created : ProviderContinuation}
    (h : createProviderContinuation input = .ok created) : Valid created ∧ DistinctReports created := by
  unfold createProviderContinuation at h
  iterate 6 obtain ⟨_, _, h⟩ := bind_ok h
  obtain ⟨rfl, hvalid⟩ := validateProviderContinuation_ok h
  exact ⟨hvalid, List.nodup_nil, List.nodup_nil⟩

theorem Reached.valid {value : ProviderContinuation} (h : Reached value) : Valid value ∧ DistinctReports value := by
  obtain ⟨input, created, calls, hcreate, rfl⟩ := h
  apply @run_preserves _ _ _ _ (fun value => Valid value ∧ DistinctReports value) _ calls
    (createProviderContinuation_open hcreate)
  intro call _ before after hbefore hstep
  exact Call.apply_distinct hbefore.2 hstep

/-- A settled record stays as it is along every run in which no exact evidence names another result
than the recorded one for an unknown outcome. -/
theorem settled_final {value : ProviderContinuation} (hreached : Reached value)
    (hsettled : value.settledAt ≠ none) {calls : List Call}
    (h : Along Call.apply KeepsResult value calls) : Final value (run Call.apply value calls) := by
  obtain ⟨hvalid, hdistinct⟩ := hreached.valid
  refine (@run_relates _ _ _ _ (fun value => Valid value ∧ DistinctReports value ∧
    value.settledAt ≠ none) _ Final ?_ ?_ ?_ _ ⟨hvalid, hdistinct, hsettled⟩ _ h).2
  · rintro value ⟨hvalid, hdistinct, hsettled⟩
    obtain ⟨settledAt, hsome⟩ := Option.ne_none_iff_exists'.1 hsettled
    exact Final.refl hdistinct (hvalid.settled settledAt hsome)
  · exact fun _ _ _ => Final.trans
  · rintro before call after ⟨hvalid, hdistinct, hsettled⟩ hkeeps hstep
    have hfinal := Call.apply_final hdistinct hsettled hkeeps hstep
    exact ⟨⟨(Call.apply_distinct hdistinct hstep).1, hfinal.distinct, hfinal.settledAt ▸ hsettled⟩, hfinal⟩

end

def sampleIdentity : ProviderContinuationIdentity :=
  ⟨"driver/sample", "agent-1", "conversation-1", "continuation-1"⟩

def sampleContinuation : ProviderContinuation where
  schemaVersion := 1
  taskId := "task-1"
  roleName := "leader"
  runId := "run-1"
  identity := sampleIdentity
  parentContinuationId := none
  execution := .active
  outcome := .pending
  attachment := .attached
  observation := .exactly
  mayWriteWorkspace := true
  durability := .bestEffort
  reports := []
  resultRef := none
  settledAt := none
  lastProviderSequence := none
  identityConflict := false
  createdAt := sampleInstant
  updatedAt := sampleInstant

def settlement (outcome : ContinuationOutcome) (resultRef : Option String) : Call :=
  .observe ⟨.quiescent, outcome, .attached, .exactly, false, sampleInstant, resultRef, none⟩

theorem sampleContinuation_reached (calls : List Call) :
    @Reached sampleClock (@run _ _ _ (@Call.apply sampleClock) sampleContinuation calls) := by
  let _ := sampleClock
  exact ⟨⟨"task-1", "leader", "run-1", sampleIdentity, none, .attached, .exactly, true,
    sampleInstant, none⟩, sampleContinuation, calls, by rfl, rfl⟩

theorem settled_final_detached :
    let _ := sampleClock
    let settled := run Call.apply sampleContinuation [settlement .succeeded (some "result-1")]
    Final settled (run Call.apply settled
      [settlement .succeeded (some "result-2"), .detach sampleInstant]) := by
  let _ := sampleClock
  apply settled_final (sampleContinuation_reached _) (by decide +kernel)
  refine ⟨fun _ _ _ hunknown => ?_, trivial, trivial⟩
  revert hunknown
  decide +kernel

/-- A settled unknown outcome with a result is refined with another result. -/
theorem settled_result_replaced : ¬ ∀ (_ : JsHost) (value : ProviderContinuation), Reached value →
    value.settledAt ≠ none → ∀ calls, Final value (run Call.apply value calls) := by
  intro h
  let _ := sampleClock
  have hfinal := h sampleClock _ (sampleContinuation_reached [settlement .unknown (some "result-1")])
    (by decide +kernel) [settlement .succeeded (some "result-2")]
  have hkept := hfinal.resultRef "result-1" (by decide +kernel)
  revert hkept
  decide +kernel

end Continuation
