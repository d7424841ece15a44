import Yui.AgentTurnCalls

/-!
# The record of a batch is accepted

The Session format follows the Turn event by event. Here it follows a batch: the model's answer puts its
calls in the queue, and each call takes the next one off, started or not.
-/

open JsText Checked ToolExecutor

namespace Session

section Format

variable {s : Replay} {turn : TurnRecovery} {step : ℕ}

theorem replayEvent_of_extend {sessionId : String} {event : AgentEvent} {active : TurnRecovery}
    (hid : identity event.turnId = true) (hsession : event.sessionId = sessionId)
    (hdata : event.data ≠ .turnStarted) (hactive : s.active = some active)
    (hturn : active.turnId = event.turnId ∧ event.seq = active.lastSequence + 1) : replayEvent sessionId s event =
      extendTurn { s with active := some { active with lastSequence := event.seq } }
        { active with lastSequence := event.seq } event.data := by
  unfold replayEvent requireIdentity
  rw [requireFact_iff.2 hid, ok_bind, requireFact_iff.2 hsession, ok_bind, hactive]
  cases hd : event.data with
  | turnStarted => exact absurd hd hdata
  | _ =>
    dsimp only
    rw [requireFact_iff.2 hturn, ok_bind]

theorem checkSettlement_ok {call : CallRecovery} {outcome : ToolOutcome} {evidence : ToolSettlementEvidence}
    (hstatus : evidence.status = expectedStatus evidence.started outcome)
    (hintent : evidence.started = true → call.started = true)
    (hharmless : evidence.started = false → outcome.isHarmless = true)
    (hdiagnostic : if evidence.cleanup.isFailure = true then
        ∃ error, evidence.cleanup.error = some error ∧ identity error.1 = true else evidence.cleanup.error = none)
    (hreleased : evidence.started = true → evidence.cleanup.status = .released ∨ evidence.cleanup.status = .failed) :
    checkSettlement call outcome evidence = .ok () := by
  unfold checkSettlement
  have hfact : evidence.status = expectedStatus evidence.started outcome ∧
      (evidence.started = false ∨ call.started = true) ∧
      (evidence.started = true ∨ outcome.isHarmless = true) := by
    cases hstarted : evidence.started with
    | true => exact ⟨hstarted ▸ hstatus, .inr (hintent hstarted), .inl rfl⟩
    | false => exact ⟨hstarted ▸ hstatus, .inl rfl, .inr (hharmless hstarted)⟩
  have hlast : evidence.started = false ∨ evidence.cleanup.status = .released ∨
      evidence.cleanup.status = .failed := by
    cases hstarted : evidence.started with
    | true => exact .inr (hreleased hstarted)
    | false => exact .inl rfl
  rw [requireFact_iff.2 hfact, ok_bind]
  by_cases hfailure : evidence.cleanup.isFailure = true
  · rw [if_pos hfailure] at hdiagnostic
    obtain ⟨error, herror, hid⟩ := hdiagnostic
    rw [if_pos hfailure, herror]
    dsimp only [requireIdentity]
    rw [requireFact_iff.2 hid, ok_bind, requireFact_iff.2 hlast]
  · rw [if_neg hfailure] at hdiagnostic
    rw [if_neg hfailure, requireFact_iff.2 hdiagnostic, ok_bind, requireFact_iff.2 hlast]

/-- The replay after the result of the next call. -/
def Replay.answered (s : Replay) (call : CallRecovery) (pending : List CallRecovery)
    (outcome : ToolOutcome) (settlement : Option ToolSettlementEvidence) : Replay :=
  { s with
    settled := s.settled ++
      [{ call with status := if outcome.isUnknown = true then .unknown else .settled }]
    pending := pending
    uncertain := s.uncertain || outcome.isUnknown
    cleanupRequired := s.cleanupRequired ||
      (settlement.any fun settlement => settlement.cleanup.isFailure)
    messages := s.messages ++ [.tool call.id call.name outcome] }

theorem appendTool_ok {call : CallRecovery} {pending : List CallRecovery} {outcome : ToolOutcome}
    {settlement : Option ToolSettlementEvidence} (hopen : turn.openStep = some step)
    (hpending : s.pending = call :: pending) (hid : identity call.id = true) (hname : identity call.name = true)
    (hcode : checkOutcome outcome = .ok ()) (hintent : outcome.isHarmless = true ∨ call.started = true)
    (hcertain : s.uncertain = false ∨ outcome.isHarmless = true ∧ call.started = false)
    (hsettlement : whenPresent settlement (checkSettlement call outcome) = .ok ()) :
    appendMessage s turn (some step) (.tool call.id call.name outcome) settlement =
      .ok (s.answered call pending outcome settlement) := by
  have hcheck : checkMessage (.tool call.id call.name outcome) = .ok () := by
    simp only [checkMessage, requireIdentity]
    rw [requireFact_iff.2 hid, ok_bind, requireFact_iff.2 hname, ok_bind, hcode]
  have hresult : addResult s call.id call.name outcome settlement =
      .ok { s.answered call pending outcome settlement with messages := s.messages } := by
    unfold addResult
    rw [hpending]
    dsimp only
    rw [requireFact_iff.2 ⟨rfl, rfl⟩, ok_bind, requireFact_iff.2 hintent, ok_bind,
      requireFact_iff.2 hcertain, ok_bind, hsettlement, ok_bind]
    rfl
  unfold appendMessage acceptMessage
  rw [hcheck, ok_bind, requireFact_iff.2 (.inr rfl), ok_bind]
  dsimp only
  rw [requireFact_iff.2 ⟨by simp [hopen], hopen.symm⟩, ok_bind, hresult, ok_bind]
  rfl

theorem appendAssistant_ok {content : String} {calls : List ToolCall} (hopen : turn.openStep = some step)
    (hresponse : s.responseSeen = false) (hpending : s.pending = []) (hlength : calls.length ≤ 8)
    (hcalls : ∀ call ∈ calls, call.otherFields = [] ∧ identity call.id = true ∧ identity call.name = true)
    (hnodup : (calls.map ToolCall.id).Nodup) (hfresh : ∀ call ∈ calls, call.id ∉ s.callIds) :
    appendMessage s turn (some step) (.assistant content calls) none =
      .ok { Replay.withCalls { s with responseSeen := true, finalSeen := calls.isEmpty } calls with
        messages := s.messages ++ [.assistant content calls] } := by
  have hcheck : checkMessage (.assistant content calls) = .ok () := by
    simp only [checkMessage]
    rw [requireFact_iff.2 hlength, ok_bind, checkAll_iff]
    intro call hcall
    obtain ⟨hother, hid, hname⟩ := hcalls call hcall
    simp only [checkCall, requireIdentity]
    rw [requireFact_iff.2 hother, ok_bind, requireFact_iff.2 hid, ok_bind, requireFact_iff.2 hname]
  unfold appendMessage acceptMessage addResponse
  rw [hcheck, ok_bind, requireFact_iff.2 (.inl rfl), ok_bind]
  dsimp only
  rw [requireFact_iff.2 ⟨by simp [hopen], hopen.symm⟩, ok_bind, requireFact_iff.2 ⟨hresponse, hpending⟩, ok_bind]
  rw [addCalls_fresh hnodup (by exact hfresh), ok_bind]
  rfl

end Format

section Record

variable {w : TurnWorld} {input : TurnInput} {s0 s s' : Replay} {t t' : Turn} {last last' step : ℕ}
  {openStep openStep' : Option ℕ}

/-- The format accepts what the Turn has recorded, and the Turn has not ended. -/
structure Recorded (input : TurnInput) (s0 : Replay) (t : Turn) (s : Replay) (last : ℕ)
    (openStep : Option ℕ) : Prop where
  replay : replayEvents input.sessionId s0 t.events = .ok s
  active : s.active = some ⟨input.turnId, t.events.length, last, openStep⟩
  running : ∀ event ∈ t.events, ∀ reason code, event.data ≠ .turnEnded reason code
  identity : identity input.turnId = true

theorem Recorded.of_record (h : Recorded input s0 t s last openStep) (ht : t'.record = t.record) :
    Recorded input s0 t' s last openStep := by
  have hevents : t'.record.events = t.record.events := congrArg Turn.events ht
  change t'.events = t.events at hevents
  refine ⟨?_, ?_, ?_, h.identity⟩ <;> rw [hevents]
  · exact h.replay
  · exact h.active
  · exact h.running

theorem Recorded.emit {data : EventData} (h : Recorded input s0 t s last openStep)
    (hdata : data ≠ .turnStarted) (hend : ∀ reason code, data ≠ .turnEnded reason code) (hstep : extendTurn
      { s with active := some ⟨input.turnId, t.events.length + 1, last, openStep⟩ }
      ⟨input.turnId, t.events.length + 1, last, openStep⟩ data = .ok s')
    (hactive : s'.active = some ⟨input.turnId, t.events.length + 1, last', openStep'⟩) :
    Recorded input s0 (emit input t data) s' last' openStep' := by
  have hevent : replayEvent input.sessionId s
      ⟨input.sessionId, input.turnId, t.events.length + 1, data⟩ = .ok s' := by
    refine (replayEvent_of_extend ?_ ?_ ?_ h.active ?_).trans hstep
    · exact h.identity
    · rfl
    · exact hdata
    · exact ⟨rfl, rfl⟩
  refine ⟨?_, ?_, ?_, h.identity⟩
  · change replayEvents input.sessionId s0 (t.events ++ [_]) = _
    rw [replayEvents_append, h.replay, ok_bind, replayEvents, hevent]
    rfl
  · simpa [Session.emit] using hactive
  · intro event hevent reason code
    rcases List.mem_append.1 hevent with hevent | hevent
    · exact h.running event hevent reason code
    · rw [List.mem_singleton.1 hevent]
      exact hend reason code

structure SameBatch (s s' : Replay) : Prop where
  callIds : s'.callIds = s.callIds
  userSeen : s'.userSeen = s.userSeen
  finalSeen : s'.finalSeen = s.finalSeen

theorem SameBatch.trans {s'' : Replay} (h : SameBatch s s') (h' : SameBatch s' s'') : SameBatch s s'' :=
  ⟨h'.callIds.trans h.callIds, h'.userSeen.trans h.userSeen, h'.finalSeen.trans h.finalSeen⟩

theorem Recorded.start {call : ToolCall} {pending : List CallRecovery}
    (h : Recorded input s0 t s last (some step)) (hpending : s.pending = call.unstarted :: pending)
    (hcertain : s.uncertain = false) (hclean : s.cleanupRequired = false) :
    Recorded input s0 (t.withStart input step call) { s with
        active := some ⟨input.turnId, t.events.length + 1, last, some step⟩
        pending := ⟨call.id, call.name, true, .unknown⟩ :: pending } last (some step) := by
  refine h.emit (by simp) (by simp) ?_ rfl
  have hfact : s.uncertain = false ∧ s.cleanupRequired = false ∧ some step = some step ∧
      call.unstarted.id = call.id ∧ call.unstarted.name = call.name ∧ call.unstarted.started = false :=
    ⟨hcertain, hclean, rfl, rfl, rfl, rfl⟩
  unfold extendTurn startTool
  dsimp only
  rw [hpending]
  dsimp only
  rw [requireFact_iff.2 hfact, ok_bind]
  rfl

theorem Recorded.answer {call : CallRecovery} {pending : List CallRecovery} (outcome : ToolOutcome)
    (settlement : Option ToolSettlementEvidence)
    (h : Recorded input s0 t s last (some step)) (hpending : s.pending = call :: pending)
    (hid : Session.identity call.id = true) (hname : Session.identity call.name = true)
    (hcode : checkOutcome outcome = .ok ()) (hintent : outcome.isHarmless = true ∨ call.started = true)
    (hcertain : s.uncertain = false ∨ outcome.isHarmless = true ∧ call.started = false)
    (hsettlement : whenPresent settlement (checkSettlement call outcome) = .ok ()) :
    Recorded input s0 (append input t (.tool call.id call.name outcome) (some step) settlement) (Replay.answered
        { s with active := some ⟨input.turnId, t.events.length + 1, last, some step⟩ }
        call pending outcome settlement) last (some step) := by
  have hsame : Recorded input s0
      { t with messages := t.messages ++ [.tool call.id call.name outcome] } s last (some step) :=
    ⟨h.replay, h.active, h.running, h.identity⟩
  refine hsame.emit (by simp) (by simp) ?_ rfl
  exact appendTool_ok rfl hpending hid hname hcode hintent hcertain hsettlement

end Record

section Batch

variable {w : TurnWorld} {input : TurnInput} {s0 s : Replay} {last step : ℕ}

theorem Fatal.stoppedAfter {value : ToolOutcome} {stopped : Option Stopped} {isAborted : Bool}
    (h : Fatal stopped ∨ value.isUnknown = true) : Fatal (stoppedAfter value stopped isAborted) := by
  unfold ToolExecutor.stoppedAfter
  by_cases hunknown : value.isUnknown = true
  · rw [if_pos hunknown]
    cases isAborted <;> exact ⟨by simp, by simp⟩
  · have hstopped : Fatal stopped := h.resolve_right hunknown
    rw [if_neg hunknown]
    obtain ⟨reason, rfl⟩ := Option.ne_none_iff_exists'.1 hstopped.1
    cases isAborted <;> exact ⟨by simp, by simpa using hstopped.2⟩

theorem beginCall_recorded (w : TurnWorld) (pack : Pack) {call : ToolCall} {b : CallWorld} {t : Turn}
    {stopped : Option Stopped} {pending : List CallRecovery} (hb : BoundedCodes b)
    (h : Recorded input s0 t s last (some step)) (hpending : s.pending = call.unstarted :: pending)
    (hfatal : s.uncertain = true ∨ s.cleanupRequired = true → Fatal stopped) : ∃ s1 started status,
      Recorded input s0 (beginCall (turnHost w input step) pack call b t stopped).host s1 last (some step) ∧
      s1.pending = ⟨call.id, call.name, started, status⟩ :: pending ∧ SameBatch s s1 ∧
      s1.uncertain = s.uncertain ∧ s1.cleanupRequired = s.cleanupRequired ∧
      ((beginCall (turnHost w input step) pack call b t stopped).started = true → started = true) ∧
      (s.uncertain = true → started = false ∧
        (beginCall (turnHost w input step) pack call b t stopped).started = false) := by
  obtain ⟨hfollows, _, hstays⟩ := beginCall_spec w input step pack call hb t stopped
  generalize beginCall (turnHost w input step) pack call b t stopped = r at *
  by_cases hstopped : stopped = none
  · have hnone : ¬ Fatal stopped := fun hf => hf.1 hstopped
    have hcertain : s.uncertain = false := by
      by_contra hne
      exact hnone (hfatal (.inl (by simpa using hne)))
    have hclean : s.cleanupRequired = false := by
      by_contra hne
      exact hnone (hfatal (.inr (by simpa using hne)))
    by_cases hstart : r.host.record = (t.withStart input step call).record
    · refine ⟨_, true, .unknown, (h.start hpending hcertain hclean).of_record hstart, rfl,
        ⟨rfl, rfl, rfl⟩, rfl, rfl, fun _ => rfl, fun hne => ?_⟩
      exact absurd (hcertain.symm.trans hne) (by simp)
    · refine ⟨s, false, .notStarted, h.of_record (hfollows.turn.resolve_right hstart), hpending,
        ⟨rfl, rfl, rfl⟩, rfl, rfl, fun hs => absurd (hfollows.started hs) hstart, fun hne => ?_⟩
      exact absurd (hcertain.symm.trans hne) (by simp)
  · have hsame := hstays hstopped
    exact ⟨s, false, .notStarted, h.of_record hsame.turn, hpending, ⟨rfl, rfl, rfl⟩, rfl, rfl,
      fun hs => absurd (hsame.started.symm.trans hs) (by simp), fun _ => ⟨rfl, hsame.started⟩⟩

/-- The batch between two calls, against the format. -/
structure BatchRecorded (input : TurnInput) (s0 : Replay) (batch : Batch Turn) (s : Replay)
    (last step : ℕ) (calls : List ToolCall) : Prop where
  recorded : Recorded input s0 batch.host s last (some step)
  pending : s.pending = calls.map ToolCall.unstarted
  confirmed : batch.recordingError = false
  fatal : s.uncertain = true ∨ s.cleanupRequired = true → Fatal batch.stopped

variable {calls : List ToolCall}

theorem runCall_recorded (w : TurnWorld) (pack : Pack) (index : ℕ) {call : ToolCall}
    {b : CallWorld} {batch : Batch Turn} (hb : BoundedCodes b)
    (hid : identity call.id = true) (hname : identity call.name = true)
    (h : BatchRecorded input s0 batch s last step (call :: calls)) :
    ∃ s', BatchRecorded input s0 (runCall (turnHost w input step) pack index call b batch) s' last step
        calls ∧ SameBatch s s' ∧
      (runCall (turnHost w input step) pack index call b batch).host.usedIds = batch.host.usedIds ∧
      (runCall (turnHost w input step) pack index call b batch).host.steps = batch.host.steps := by
  obtain ⟨s1, started, status, hrecorded, hpending, hsame, huncertain, hcleanup, hstarted, hbarred⟩ :=
    beginCall_recorded w pack hb h.recorded h.pending h.fatal
  obtain ⟨hfollows, hreleased, hstays⟩ := beginCall_spec w input step pack call hb batch.host batch.stopped
  have htruthful : CallRun.Truthful
      (beginCall (turnHost w input step) pack call b batch.host batch.stopped) pack call b :=
    beginCall_truthful batch.host batch.stopped
  have hrun : runCall (turnHost w input step) pack index call b batch =
      let r := beginCall (turnHost w input step) pack call b batch.host batch.stopped
      ⟨append input r.host.look (.tool call.id call.name r.value) (some step)
          (some (settlementOf (turnHost w input step) call r).evidence),
        stoppedAfter r.value r.stopped (aborted w r.host), false,
        batch.results ++ [settlementOf (turnHost w input step) call r],
        batch.trace ++ (r.phases ++ lastPhases (turnHost w input step) call r true).map
          fun phase => (index, phase)⟩ := by
    unfold runCall record
    rw [h.confirmed]
    rfl
  rw [hrun]
  generalize beginCall (turnHost w input step) pack call b batch.host batch.stopped = r at *
  dsimp only
  have hlook : Recorded input s0 r.host.look s1 last (some step) := hrecorded.of_record rfl
  have hanswer := hlook.answer r.value
    (some (settlementOf (turnHost w input step) call r).evidence)
    hpending hid hname hfollows.code ?_ ?_ ?_
  · refine ⟨_, ⟨hanswer, rfl, rfl, ?_⟩, ⟨hsame.callIds, hsame.userSeen, hsame.finalSeen⟩, ?_, ?_⟩
    · intro hbad
      apply Fatal.stoppedAfter
      have hbefore : s.uncertain = true ∨ s.cleanupRequired = true → Fatal r.stopped := by
        intro hbad
        have hf := h.fatal hbad
        rw [(hstays hf.1).stopped]
        exact hf
      simp only [Replay.answered, Option.any_some, Bool.or_eq_true, huncertain, hcleanup] at hbad
      rcases hbad with (hbad | hbad) | (hbad | hbad)
      · exact .inl (hbefore (.inl hbad))
      · exact .inr hbad
      · exact .inl (hbefore (.inr hbad))
      · exact .inl (hreleased.fatal hbad)
    · change r.host.record.usedIds = _
      rcases hfollows.turn with hturn | hturn <;> rw [hturn] <;> rfl
    · change r.host.record.steps = _
      rcases hfollows.turn with hturn | hturn <;> rw [hturn] <;> rfl
  · cases hs : r.started with
    | true => exact .inr (hstarted hs)
    | false => exact .inl (htruthful.harmless hs)
  · cases hu : s1.uncertain with
    | false => exact .inl rfl
    | true =>
      obtain ⟨hnot, hidle⟩ := hbarred (huncertain.symm.trans hu)
      exact .inr ⟨htruthful.harmless hidle, hnot⟩
  · apply checkSettlement_ok
    · exact status_eq_expectedStatus r.started r.value
    · exact hstarted
    · exact htruthful.harmless
    · exact hreleased.diagnostic
    · exact hreleased.started

theorem runCallsFrom_recorded (w : TurnWorld) (pack : Pack) {world : ℕ → CallWorld} (hworld : ∀ i, BoundedCodes (world i))
    (index : ℕ) {batch : Batch Turn} {s : Replay}
    (hcalls : ∀ call ∈ calls, identity call.id = true ∧ identity call.name = true)
    (h : BatchRecorded input s0 batch s last step calls) :
    ∃ s', BatchRecorded input s0 (runCallsFrom (turnHost w input step) pack world index calls batch) s'
        last step [] ∧ SameBatch s s' ∧
      (runCallsFrom (turnHost w input step) pack world index calls batch).host.usedIds = batch.host.usedIds ∧
      (runCallsFrom (turnHost w input step) pack world index calls batch).host.steps = batch.host.steps := by
  induction calls generalizing index batch s with
  | nil => exact ⟨s, h, ⟨rfl, rfl, rfl⟩, rfl, rfl⟩
  | cons call calls ih =>
    obtain ⟨hid, hname⟩ := hcalls call (by simp)
    obtain ⟨s1, h1, hsame1, hused1, hsteps1⟩ := runCall_recorded w pack index (hworld index) hid hname h
    obtain ⟨s2, h2, hsame2, hused2, hsteps2⟩ := ih (index + 1)
      (fun other hother => hcalls other (by simp [hother])) h1
    exact ⟨s2, h2, hsame1.trans hsame2, hused2.trans hused1, hsteps2.trans hsteps1⟩

/-- The messages of a batch that was not started. -/
theorem skipCalls_recorded {t : Turn} {s : Replay}
    (hcalls : ∀ call ∈ calls, identity call.id = true ∧ identity call.name = true)
    (h : Recorded input s0 t s last (some step)) (hpending : s.pending = calls.map ToolCall.unstarted)
    (hcertain : s.uncertain = false) (hclean : s.cleanupRequired = false) :
    ∃ s', Recorded input s0 (skipCalls w input step calls t) s' last (some step) ∧ s'.pending = [] ∧
      SameBatch s s' ∧ s'.uncertain = false ∧ s'.cleanupRequired = false ∧
      (skipCalls w input step calls t).usedIds = t.usedIds ∧ (skipCalls w input step calls t).steps = t.steps := by
  induction calls generalizing t s with
  | nil => exact ⟨s, h, hpending, ⟨rfl, rfl, rfl⟩, hcertain, hclean, rfl, rfl⟩
  | cons call calls ih =>
    obtain ⟨hid, hname⟩ := hcalls call (by simp)
    have hcode : (if aborted w t = true then "cancelled_before_start" else "not_started") ∈
        failureCodes := by
      split_ifs <;> simp [failureCodes]
    have hlook : Recorded input s0 t.look s last (some step) := h.of_record rfl
    have hanswer := hlook.answer (ToolExecutor.failure
        (if aborted w t = true then "cancelled_before_start" else "not_started")
        "Tool was not started") none
      hpending hid hname (checkOutcome_failure hcode) (.inl rfl) (.inl hcertain) rfl
    obtain ⟨s', h', hpending', hsame', hcertain', hclean', hused', hsteps'⟩ :=
      ih (fun other hother => hcalls other (by simp [hother])) hanswer rfl
        (by simp [Replay.answered, hcertain, ToolExecutor.failure, ToolOutcome.isUnknown])
        (by simp [Replay.answered, hclean])
    exact ⟨s', h', hpending', ⟨hsame'.callIds, hsame'.userSeen, hsame'.finalSeen⟩, hcertain',
      hclean', hused', hsteps'⟩

end Batch

end Session
