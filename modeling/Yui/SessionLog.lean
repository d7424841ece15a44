import Yui.SessionReplay

/-!
# A document as a log

What an accepted document says about its own events: which calls were made, started and answered, which
messages were appended, and when no new effect may begin. `Logged` ties these lists to the replay, one
event at a time.
-/

open JsText Checked

namespace Session

section Events

structure ToolResult where
  key : String × String
  outcome : ToolOutcome
  settlement : Option ToolSettlementEvidence

def ToolResult.status (result : ToolResult) : CallStatus :=
  if result.outcome.isUnknown = true then .unknown else .settled

def ToolResult.failedCleanup (result : ToolResult) : Bool :=
  result.settlement.any fun settlement => settlement.cleanup.isFailure

def ToolCall.key (call : ToolCall) : String × String := (call.id, call.name)

def CallRecovery.key (call : CallRecovery) : String × String := (call.id, call.name)

def EventData.messages : EventData → List Message
  | .messageAppended _ message _ => [message]
  | _ => []

def EventData.calls : EventData → List (String × String)
  | .messageAppended _ (.assistant _ toolCalls) _ => toolCalls.map ToolCall.key
  | _ => []

def EventData.starts : EventData → List (String × String)
  | .toolStarted _ toolCallId name => [(toolCallId, name)]
  | _ => []

def EventData.results : EventData → List ToolResult
  | .messageAppended _ (.tool toolCallId name outcome) settlement =>
    [⟨(toolCallId, name), outcome, settlement⟩]
  | _ => []

variable (events : List AgentEvent)

def messagesOf : List Message := events.flatMap fun event => event.data.messages
def callsOf : List (String × String) := events.flatMap fun event => event.data.calls
def startsOf : List (String × String) := events.flatMap fun event => event.data.starts
def resultsOf : List ToolResult := events.flatMap fun event => event.data.results

def turnOpen : Bool := events.foldl (fun isOpen event =>
  match event.data with
  | .turnStarted => true
  | .turnEnded _ _ => false
  | _ => isOpen) false

/-- The calls that the messages leave without a result, none when a message is out of place. -/
def awaited : List Message → Option (List (String × String)) := fun messages =>
  messages.foldl (fun waiting message => waiting.bind fun waiting =>
    match message with
    | .assistant _ toolCalls => if waiting = [] then some (toolCalls.map ToolCall.key) else none
    | .tool toolCallId name _ =>
      match waiting with
      | [] => none
      | call :: waiting => if call = (toolCallId, name) then some waiting else none
    | .system _ | .user _ => if waiting = [] then some [] else none) (some [])

/-- An event that begins no effect and does not call a Turn finished. -/
def EventData.quiet : EventData → Bool
  | .turnStarted | .stepStarted _ | .toolStarted _ _ _ => false
  | .messageAppended _ _ _ | .stepEnded _ => true
  | .turnEnded reason _ => reason = .error

end Events

section Invariant

structure Logged (events : List AgentEvent) (s : Replay) : Prop where
  messages : s.messages = messagesOf events
  calls : callsOf events = (s.settled ++ s.pending).map CallRecovery.key
  callIds : s.callIds = (callsOf events).map Prod.fst
  unique : s.callIds.Nodup
  starts : startsOf events = ((s.settled ++ s.pending).filter CallRecovery.started).map CallRecovery.key
  results : s.settled.map (fun call => (call.key, call.status)) =
    (resultsOf events).map fun result => (result.key, result.status)
  pending : ∀ call ∈ s.pending, call.status = if call.started = true then .unknown else .notStarted
  later : ∀ call ∈ s.pending.tail, call.started = false
  intended : ∀ call ∈ s.settled, call.status = .unknown → call.started = true
  uncertain : s.uncertain = (resultsOf events).any fun result => result.outcome.isUnknown
  cleanup : s.cleanupRequired = (resultsOf events).any ToolResult.failedCleanup
  active : s.active.isSome = turnOpen events
  awaited : awaited s.messages = some (s.pending.map CallRecovery.key)

variable {events : List AgentEvent} {event : AgentEvent} {s s' : Replay} {turn : TurnRecovery}

theorem logged_empty : Logged [] Replay.empty := by
  constructor <;> simp [Replay.empty, messagesOf, callsOf, startsOf, resultsOf, turnOpen, awaited]

/-- An event that makes, starts and answers no call. -/
theorem Logged.bare (h : Logged events s) (hmessages : event.data.messages = [])
    (hcalls : event.data.calls = []) (hstarts : event.data.starts = []) (hresults : event.data.results = [])
    (hsame : s'.messages = s.messages ∧ s'.settled = s.settled ∧ s'.pending = s.pending ∧
      s'.callIds = s.callIds ∧ s'.uncertain = s.uncertain ∧ s'.cleanupRequired = s.cleanupRequired)
    (hactive : s'.active.isSome = turnOpen (events ++ [event])) : Logged (events ++ [event]) s' := by
  obtain ⟨hm, hset, hp, hids, hu, hc⟩ := hsame
  have hresultsOf : resultsOf (events ++ [event]) = resultsOf events := by simp [resultsOf, hresults]
  have hcallsOf : callsOf (events ++ [event]) = callsOf events := by simp [callsOf, hcalls]
  constructor
  · rw [hm, h.messages]
    simp [messagesOf, hmessages]
  · rw [hcallsOf, hset, hp]
    exact h.calls
  · rw [hcallsOf, hids]
    exact h.callIds
  · rw [hids]
    exact h.unique
  · rw [hset, hp, ← h.starts]
    simp [startsOf, hstarts]
  · rw [hset, hresultsOf]
    exact h.results
  · rw [hp]
    exact h.pending
  · rw [hp]
    exact h.later
  · rw [hset]
    exact h.intended
  · rw [hu, hresultsOf]
    exact h.uncertain
  · rw [hc, hresultsOf]
    exact h.cleanup
  · exact hactive
  · rw [hm, hp]
    exact h.awaited

@[simp] theorem turnOpen_append (events : List AgentEvent) (event : AgentEvent) : turnOpen (events ++ [event]) =
      match event.data with
      | .turnStarted => true
      | .turnEnded _ _ => false
      | _ => turnOpen events := by
  unfold turnOpen
  rw [List.foldl_append]
  rfl

theorem awaited_append (messages : List Message) (message : Message) :
    awaited (messages ++ [message]) = (awaited messages).bind fun waiting =>
      match message with
      | .assistant _ toolCalls => if waiting = [] then some (toolCalls.map ToolCall.key) else none
      | .tool toolCallId name _ =>
        match waiting with
        | [] => none
        | call :: waiting => if call = (toolCallId, name) then some waiting else none
      | .system _ | .user _ => if waiting = [] then some [] else none := by
  unfold awaited
  rw [List.foldl_append]
  rfl

theorem logged_toolStarted {step : ℕ} {toolCallId name : String} (h : Logged events s)
    (hdata : event.data = .toolStarted step toolCallId name)
    (hstep : startTool s turn step toolCallId name = .ok s') : Logged (events ++ [event]) s' := by
  unfold startTool at hstep
  cases hpending : s.pending with
  | nil => simp [hpending] at hstep
  | cons call pending =>
    rw [hpending] at hstep
    obtain ⟨_, hfact, hstep⟩ := bind_ok hstep
    cases hstep
    obtain ⟨_, _, _, hid, hname, hstarted⟩ := requireFact_iff.1 hfact
    have hlater : ∀ call ∈ pending, call.started = false := by
      have := h.later
      rwa [hpending] at this
    have hrest : pending.filter CallRecovery.started = [] := by
      rw [List.filter_eq_nil_iff]
      intro call hcall
      simp [hlater call hcall]
    have hcallsOf : callsOf (events ++ [event]) = callsOf events := by simp [callsOf, hdata, EventData.calls]
    have hresultsOf : resultsOf (events ++ [event]) = resultsOf events := by
      simp [resultsOf, hdata, EventData.results]
    constructor
    · simp only [h.messages]
      simp [messagesOf, hdata, EventData.messages]
    · rw [hcallsOf, h.calls, hpending]
      simp [CallRecovery.key]
    · rw [hcallsOf]
      exact h.callIds
    · exact h.unique
    · have hbefore := h.starts
      rw [hpending] at hbefore
      simp only [startsOf, List.flatMap_append] at hbefore ⊢
      rw [hbefore]
      simp [hstarted, hrest, hdata, EventData.starts, CallRecovery.key, hid, hname]
    · rw [hresultsOf]
      exact h.results
    · intro other hother
      rcases List.mem_cons.1 hother with rfl | hother
      · simp
      · exact h.pending other (by rw [hpending]; exact List.mem_cons_of_mem _ hother)
    · exact hlater
    · exact h.intended
    · rw [hresultsOf]
      exact h.uncertain
    · rw [hresultsOf]
      exact h.cleanup
    · rw [turnOpen_append, hdata]
      exact h.active
    · have := h.awaited
      rw [hpending] at this
      simpa [CallRecovery.key] using this

/-- A message that makes no call and answers none. -/
theorem logged_input {message : Message} (h : Logged events s)
    (hmessages : event.data.messages = [message]) (hcalls : event.data.calls = [])
    (hstarts : event.data.starts = []) (hresults : event.data.results = [])
    (hopen : turnOpen (events ++ [event]) = turnOpen events)
    (hawaited : Session.awaited (s.messages ++ [message]) = some []) (hpending : s.pending = []) {userSeen : Bool} :
    Logged (events ++ [event]) { s with userSeen := userSeen, messages := s.messages ++ [message] } := by
  have hresultsOf : resultsOf (events ++ [event]) = resultsOf events := by simp [resultsOf, hresults]
  have hcallsOf : callsOf (events ++ [event]) = callsOf events := by simp [callsOf, hcalls]
  constructor
  · simp only [h.messages]
    simp [messagesOf, hmessages]
  · rw [hcallsOf]
    exact h.calls
  · rw [hcallsOf]
    exact h.callIds
  · exact h.unique
  · simp only [← h.starts]
    simp [startsOf, hstarts]
  · rw [hresultsOf]
    exact h.results
  · exact h.pending
  · exact h.later
  · exact h.intended
  · rw [hresultsOf]
    exact h.uncertain
  · rw [hresultsOf]
    exact h.cleanup
  · rw [hopen]
    exact h.active
  · rw [hawaited, hpending]
    rfl

theorem logged_response {content : String} {toolCalls : List ToolCall} {responseSeen finalSeen : Bool}
    (h : Logged events s) (hmessages : event.data.messages = [.assistant content toolCalls])
    (hcalls : event.data.calls = toolCalls.map ToolCall.key) (hstarts : event.data.starts = [])
    (hresults : event.data.results = []) (hopen : turnOpen (events ++ [event]) = turnOpen events)
    (hpending : s.pending = []) (hunique : (s.callIds ++ toolCalls.map ToolCall.id).Nodup) :
    Logged (events ++ [event]) { s with
      responseSeen := responseSeen
      finalSeen := finalSeen
      callIds := s.callIds ++ toolCalls.map ToolCall.id
      pending := s.pending ++ toolCalls.map ToolCall.unstarted
      messages := s.messages ++ [.assistant content toolCalls] } := by
  have hresultsOf : resultsOf (events ++ [event]) = resultsOf events := by simp [resultsOf, hresults]
  have hcallsOf : callsOf (events ++ [event]) = callsOf events ++ toolCalls.map ToolCall.key := by
    simp [callsOf, hcalls]
  have hkeys : (toolCalls.map ToolCall.unstarted).map CallRecovery.key = toolCalls.map ToolCall.key := by
    simp [ToolCall.unstarted, CallRecovery.key, ToolCall.key]
  have hnone : (toolCalls.map ToolCall.unstarted).filter CallRecovery.started = [] := by
    rw [List.filter_eq_nil_iff]
    intro call hcall
    obtain ⟨_, _, rfl⟩ := List.mem_map.1 hcall
    simp [ToolCall.unstarted]
  constructor
  · simp only [h.messages]
    simp [messagesOf, hmessages]
  · simp only [hcallsOf, h.calls, ← hkeys, List.map_append, List.append_assoc]
  · simp only [hcallsOf, h.callIds]
    simp [ToolCall.key]
  · exact hunique
  · have hbefore := h.starts
    simp only [startsOf, List.flatMap_append] at hbefore ⊢
    rw [hbefore, ← List.append_assoc, List.filter_append _ (toolCalls.map _), hnone]
    simp [hstarts]
  · rw [hresultsOf]
    exact h.results
  · intro call hcall
    rw [hpending, List.nil_append] at hcall
    obtain ⟨_, _, rfl⟩ := List.mem_map.1 hcall
    rfl
  · intro call hcall
    rw [hpending, List.nil_append] at hcall
    obtain ⟨_, _, rfl⟩ := List.mem_map.1 (List.mem_of_mem_tail hcall)
    rfl
  · exact h.intended
  · rw [hresultsOf]
    exact h.uncertain
  · rw [hresultsOf]
    exact h.cleanup
  · rw [hopen]
    exact h.active
  · rw [awaited_append, h.awaited, hpending, List.nil_append, hkeys]
    simp

theorem logged_result {toolCallId name : String} {outcome : ToolOutcome}
    {settlement : Option ToolSettlementEvidence} {call : CallRecovery} {pending : List CallRecovery}
    (h : Logged events s) (hmessages : event.data.messages = [.tool toolCallId name outcome])
    (hcalls : event.data.calls = []) (hstarts : event.data.starts = [])
    (hresults : event.data.results = [⟨(toolCallId, name), outcome, settlement⟩])
    (hopen : turnOpen (events ++ [event]) = turnOpen events) (hpending : s.pending = call :: pending)
    (hkey : call.key = (toolCallId, name)) (hstarted : outcome.isHarmless = true ∨ call.started = true) :
    Logged (events ++ [event]) { s with
      settled := s.settled ++
        [{ call with status := if outcome.isUnknown = true then .unknown else .settled }]
      pending := pending
      uncertain := s.uncertain || outcome.isUnknown
      cleanupRequired := s.cleanupRequired ||
        (settlement.any fun settlement => settlement.cleanup.isFailure)
      messages := s.messages ++ [.tool toolCallId name outcome] } := by
  have hcallsOf : callsOf (events ++ [event]) = callsOf events := by simp [callsOf, hcalls]
  have hresultsOf : resultsOf (events ++ [event]) =
      resultsOf events ++ [⟨(toolCallId, name), outcome, settlement⟩] := by
    simp [resultsOf, hresults]
  have hlater : ∀ call ∈ pending, call.started = false := by
    have := h.later
    rwa [hpending] at this
  constructor
  · simp only [h.messages]
    simp [messagesOf, hmessages]
  · rw [hcallsOf, h.calls, hpending]
    simp [CallRecovery.key]
  · rw [hcallsOf]
    exact h.callIds
  · exact h.unique
  · have hbefore := h.starts
    rw [hpending] at hbefore
    simp only [startsOf, List.flatMap_append] at hbefore ⊢
    rw [hbefore]
    cases hc : call.started <;> simp [hc, hstarts, CallRecovery.key]
  · rw [hresultsOf]
    simp only [List.map_append, h.results]
    simp only [List.map_cons, List.map_nil, ToolResult.status]
    rw [← hkey]
    rfl
  · intro other hother
    exact h.pending other (by rw [hpending]; exact List.mem_cons_of_mem _ hother)
  · intro other hother
    exact hlater other (List.mem_of_mem_tail hother)
  · intro other hother hunknown
    rcases List.mem_append.1 hother with hother | hother
    · exact h.intended other hother hunknown
    · rw [List.mem_singleton.1 hother] at hunknown ⊢
      cases hstarted with
      | inr hstarted => exact hstarted
      | inl hharmless =>
        cases outcome with
        | ok content => simp [ToolOutcome.isHarmless] at hharmless
        | error error => simp_all [ToolOutcome.isHarmless, ToolOutcome.isUnknown]
  · rw [hresultsOf, List.any_append, ← h.uncertain]
    simp
  · rw [hresultsOf, List.any_append, ← h.cleanup]
    simp [ToolResult.failedCleanup]
  · rw [hopen]
    exact h.active
  · have hbefore := h.awaited
    rw [hpending] at hbefore
    rw [awaited_append, hbefore]
    simp [hkey]

theorem appendMessage_logged {step : Option ℕ} {message : Message}
    {settlement : Option ToolSettlementEvidence} (h : Logged events s) (hs : s.Sound)
    (hactive : s.active = some turn) (hdata : event.data = .messageAppended step message settlement)
    (hstep : appendMessage s turn step message settlement = .ok s') : Logged (events ++ [event]) s' := by
  obtain ⟨_, _, _, _, next, hnext, hstep⟩ := bind_ok₃ hstep
  cases hstep
  have hopen : turnOpen (events ++ [event]) = turnOpen events := by rw [turnOpen_append, hdata]
  -- input is only accepted before the first Step, when no call is pending
  have hinput : ∀ isUser, addInput s turn step isUser = .ok next →
      s.pending = [] ∧ next = { s with userSeen := isUser || s.userSeen } := by
    intro isUser hnext
    obtain ⟨_, hfact, hnext⟩ := bind_ok hnext
    cases hnext
    refine ⟨?_, rfl⟩
    by_contra hpending
    obtain ⟨turn', hturn, hstepOpen⟩ := hs.pending hpending
    cases hactive.symm.trans hturn
    exact hs.opened turn hactive hstepOpen (requireFact_iff.1 hfact).2.1
  cases message with
  | system content =>
    obtain ⟨hpending, rfl⟩ := hinput false hnext
    refine logged_input h ?_ ?_ ?_ ?_ hopen ?_ hpending
    · rw [hdata]; rfl
    · rw [hdata]; rfl
    · rw [hdata]; rfl
    · rw [hdata]; rfl
    · rw [awaited_append, h.awaited, hpending]
      rfl
  | user content =>
    obtain ⟨hpending, rfl⟩ := hinput true hnext
    refine logged_input h ?_ ?_ ?_ ?_ hopen ?_ hpending
    · rw [hdata]; rfl
    · rw [hdata]; rfl
    · rw [hdata]; rfl
    · rw [hdata]; rfl
    · rw [awaited_append, h.awaited, hpending]
      rfl
  | assistant content toolCalls =>
    obtain ⟨_, _, _, hfact, hnext⟩ := bind_ok₂ hnext
    have hpending := (requireFact_iff.1 hfact).2
    have hunique := addCalls_nodup (by exact h.unique) hnext
    rw [addCalls_ok hnext]
    refine logged_response h ?_ ?_ ?_ ?_ hopen hpending hunique
    · rw [hdata]; rfl
    · rw [hdata]; rfl
    · rw [hdata]; rfl
    · rw [hdata]; rfl
  | tool toolCallId name outcome =>
    obtain ⟨_, _, hnext⟩ := bind_ok hnext
    unfold addResult at hnext
    cases hpending : s.pending with
    | nil => simp [hpending] at hnext
    | cons call pending =>
      rw [hpending] at hnext
      obtain ⟨_, hpair, _, hintent, _, _, _, _, hnext⟩ := bind_ok₄ hnext
      cases hnext
      obtain ⟨hid, hname⟩ := requireFact_iff.1 hpair
      refine logged_result h ?_ ?_ ?_ ?_ hopen hpending ?_ (requireFact_iff.1 hintent)
      · rw [hdata]; rfl
      · rw [hdata]; rfl
      · rw [hdata]; rfl
      · rw [hdata]; rfl
      · simp [CallRecovery.key, hid, hname]

theorem Logged.withActive (h : Logged events s) {active : Option TurnRecovery}
    (hactive : active.isSome = s.active.isSome) : Logged events { s with active := active } :=
  ⟨h.messages, h.calls, h.callIds, h.unique, h.starts, h.results, h.pending, h.later, h.intended,
    h.uncertain, h.cleanup, hactive.trans h.active, h.awaited⟩

theorem extendTurn_logged (h : Logged events s) (hs : s.Sound) (hactive : s.active = some turn)
    (hdata : event.data ≠ .turnStarted) (hstep : extendTurn s turn event.data = .ok s') :
    Logged (events ++ [event]) s' := by
  have hopen : turnOpen events = true := by rw [← h.active, hactive]; rfl
  cases hd : event.data with
  | turnStarted => exact absurd hd hdata
  | stepStarted step =>
    rw [hd] at hstep
    obtain ⟨_, _, hstep⟩ := bind_ok hstep
    cases hstep
    apply h.bare <;> simp [hd, EventData.messages, EventData.calls, EventData.starts, EventData.results, hopen]
  | messageAppended step message settlement =>
    rw [hd] at hstep
    exact appendMessage_logged h hs hactive hd hstep
  | toolStarted step toolCallId name =>
    rw [hd] at hstep
    exact logged_toolStarted h hd hstep
  | stepEnded step =>
    rw [hd] at hstep
    obtain ⟨_, _, hstep⟩ := bind_ok hstep
    cases hstep
    apply h.bare <;> simp [hd, EventData.messages, EventData.calls, EventData.starts, EventData.results, hopen]
  | turnEnded reason errorCode =>
    rw [hd] at hstep
    iterate 4 obtain ⟨_, _, hstep⟩ := bind_ok hstep
    cases hstep
    apply h.bare <;> simp [hd, EventData.messages, EventData.calls, EventData.starts, EventData.results]

theorem replayEvent_logged {sessionId : String} (h : Logged events s) (hs : s.Sound)
    (hstep : replayEvent sessionId s event = .ok s') : Logged (events ++ [event]) s' := by
  by_cases hdata : event.data = .turnStarted
  · obtain ⟨_, _, _, _, hstep⟩ := bind_ok₂ hstep
    rw [hdata] at hstep
    obtain ⟨_, _, hstep⟩ := bind_ok hstep
    cases hstep
    apply h.bare <;> simp [hdata, EventData.messages, EventData.calls, EventData.starts, EventData.results]
  · obtain ⟨active, hactive, hstep⟩ := replayEvent_extend hdata hstep
    refine extendTurn_logged (h.withActive (by simp [hactive])) ?_ rfl hdata hstep
    exact hs.advance hactive

theorem replayEvents_logged {sessionId : String} {more : List AgentEvent} (h : Logged events s)
    (hs : s.Sound) (hstep : replayEvents sessionId s more = .ok s') : Logged (events ++ more) s' := by
  induction more generalizing events s with
  | nil =>
    cases hstep
    simpa using h
  | cons event more ih =>
    obtain ⟨next, hnext, hstep⟩ := bind_ok hstep
    have := ih (replayEvent_logged h hs hnext) (replayEvent_sound hs hnext) hstep
    simpa using this

theorem replay_logged {sessionId : String} (h : replayEvents sessionId Replay.empty events = .ok s) :
    Logged events s := by
  simpa using replayEvents_logged logged_empty replay_empty_sound h

end Invariant

section Laws

variable {sessionId : String} {events : List AgentEvent} {event : AgentEvent} {s s' : Replay}

theorem replay_at {before after : List AgentEvent}
    (h : replayEvents sessionId Replay.empty (before ++ event :: after) = .ok s) :
    ∃ mid next, replayEvents sessionId Replay.empty before = .ok mid ∧
      replayEvent sessionId mid event = .ok next ∧ replayEvents sessionId next after = .ok s := by
  rw [replayEvents_append] at h
  obtain ⟨mid, hmid, next, hnext, h⟩ := bind_ok₂ h
  exact ⟨mid, next, hmid, hnext, h⟩

variable {result : ToolResult}

theorem replayEvent_intended (hlogged : Logged events s) (h : replayEvent sessionId s event = .ok s')
    (hresult : result ∈ event.data.results)
    (heffect : result.outcome.isHarmless = false) : result.key ∈ startsOf events := by
  have hstarted : event.data ≠ .turnStarted := by
    intro heq
    rw [heq] at hresult
    cases hresult
  obtain ⟨active, _, h⟩ := replayEvent_extend hstarted h
  cases hd : event.data with
  | messageAppended step message settlement =>
    rw [hd] at hresult h
    obtain ⟨_, _, _, _, next, hnext, _⟩ := bind_ok₃ h
    cases message with
    | tool toolCallId name outcome =>
      obtain rfl := List.mem_singleton.1 hresult
      obtain ⟨_, _, hnext⟩ := bind_ok hnext
      unfold addResult at hnext
      dsimp only at hnext
      cases hpending : s.pending with
      | nil => simp [hpending] at hnext
      | cons call pending =>
        rw [hpending] at hnext
        obtain ⟨_, hpair, _, hintent, _⟩ := bind_ok₂ hnext
        obtain ⟨hid, hname⟩ := requireFact_iff.1 hpair
        have hcall : call.started = true := by
          cases requireFact_iff.1 hintent with
          | inl hharmless => exact absurd (hharmless.symm.trans heffect) (by simp)
          | inr hcall => exact hcall
        rw [hlogged.starts, List.mem_map]
        exact ⟨call, by simp [hpending, hcall], by simp [CallRecovery.key, hid, hname]⟩
    | system content => cases hresult
    | user content => cases hresult
    | assistant content toolCalls => cases hresult
  | turnStarted => exact absurd hd hstarted
  | stepStarted step => rw [hd] at hresult; cases hresult
  | toolStarted step toolCallId name => rw [hd] at hresult; cases hresult
  | stepEnded step => rw [hd] at hresult; cases hresult
  | turnEnded reason errorCode => rw [hd] at hresult; cases hresult

theorem replayEvent_quiet (hfence : s.uncertain = true ∨ s.cleanupRequired = true)
    (h : replayEvent sessionId s event = .ok s') : event.data.quiet = true := by
  have hnot : ¬ (s.uncertain = false ∧ s.cleanupRequired = false) := by
    rintro ⟨huncertain, hcleanup⟩
    rcases hfence with hfence | hfence
    · exact absurd (huncertain.symm.trans hfence) (by simp)
    · exact absurd (hcleanup.symm.trans hfence) (by simp)
  by_cases hstarted : event.data = .turnStarted
  · obtain ⟨_, _, _, _, h⟩ := bind_ok₂ h
    rw [hstarted] at h
    obtain ⟨_, hfact, _⟩ := bind_ok h
    obtain ⟨_, _, _, hfact⟩ := requireFact_iff.1 hfact
    exact absurd hfact hnot
  obtain ⟨active, _, h⟩ := replayEvent_extend hstarted h
  cases hd : event.data with
  | turnStarted => exact absurd hd hstarted
  | messageAppended step message settlement => rfl
  | stepEnded step => rfl
  | stepStarted step =>
    rw [hd] at h
    obtain ⟨_, hfact, _⟩ := bind_ok h
    obtain ⟨_, _, huncertain, hcleanup, _⟩ := requireFact_iff.1 hfact
    exact absurd ⟨huncertain, hcleanup⟩ hnot
  | toolStarted step toolCallId name =>
    rw [hd] at h
    unfold extendTurn startTool at h
    dsimp only at h
    cases hpending : s.pending with
    | nil => simp [hpending] at h
    | cons call pending =>
      rw [hpending] at h
      obtain ⟨_, hfact, _⟩ := bind_ok h
      obtain ⟨huncertain, hcleanup, _⟩ := requireFact_iff.1 hfact
      exact absurd ⟨huncertain, hcleanup⟩ hnot
  | turnEnded reason errorCode =>
    rw [hd] at h
    obtain ⟨_, _, _, _, _, hunknown, _, hcleanup, _⟩ := bind_ok₄ h
    rw [EventData.quiet, decide_eq_true_eq]
    rcases hfence with hfence | hfence
    · exact requireFact_iff.1 hunknown hfence
    · exact requireFact_iff.1 hcleanup hfence

theorem Logged.fenced (h : Logged events s) (hresult : result ∈ resultsOf events)
    (hbad : result.outcome.isUnknown = true ∨ result.failedCleanup = true) :
    s.uncertain = true ∨ s.cleanupRequired = true := by
  rw [h.uncertain, h.cleanup, List.any_eq_true, List.any_eq_true]
  exact hbad.imp (fun hbad => ⟨result, hresult, hbad⟩) (fun hbad => ⟨result, hresult, hbad⟩)

theorem Logged.keys_nodup (h : Logged events s) : ((s.settled ++ s.pending).map CallRecovery.key).Nodup := by
  have hunique := h.unique
  rw [h.callIds] at hunique
  rw [← h.calls]
  exact hunique.of_map

theorem Logged.settled_keys (h : Logged events s) :
    s.settled.map CallRecovery.key = (resultsOf events).map ToolResult.key := by
  have := congrArg (List.map Prod.fst) h.results
  simpa [List.map_map, Function.comp_def] using this

theorem Logged.settled_of_result (h : Logged events s) (hresult : result ∈ resultsOf events) :
    ∃ call ∈ s.settled, call.key = result.key ∧ call.status = result.status := by
  have hmem : (result.key, result.status) ∈ s.settled.map fun call => (call.key, call.status) := by
    rw [h.results]
    exact List.mem_map_of_mem hresult
  obtain ⟨call, hcall, heq⟩ := List.mem_map.1 hmem
  exact ⟨call, hcall, congrArg Prod.fst heq, congrArg Prod.snd heq⟩

theorem Logged.result_of_settled (h : Logged events s) {call : CallRecovery} (hcall : call ∈ s.settled) :
    ∃ result ∈ resultsOf events, result.key = call.key ∧ result.status = call.status := by
  have hmem : (call.key, call.status) ∈ (resultsOf events).map fun result =>
      (result.key, result.status) := by
    rw [← h.results]
    exact List.mem_map_of_mem hcall
  obtain ⟨result, hresult, heq⟩ := List.mem_map.1 hmem
  exact ⟨result, hresult, congrArg Prod.fst heq, congrArg Prod.snd heq⟩

theorem ToolResult.status_unknown : result.status = .unknown ↔ result.outcome.isUnknown = true := by
  unfold ToolResult.status
  split_ifs with h <;> simp [h]

theorem Logged.ready_iff (h : Logged events s) (hs : s.Sound) : s.disposition = .ready ↔ turnOpen events = false ∧
      (∀ key ∈ startsOf events, ∃ result ∈ resultsOf events, result.key = key ∧ result.outcome.isUnknown = false) ∧
      ∀ result ∈ resultsOf events, result.failedCleanup = false := by
  constructor
  · intro hready
    obtain ⟨hactive, hpending, huncertain, hcleanup⟩ := ready_facts hs hready
    refine ⟨by rw [← h.active, hactive]; rfl, fun key hkey => ?_, fun result hresult => ?_⟩
    · rw [h.starts, hpending, List.append_nil] at hkey
      obtain ⟨call, hcall, rfl⟩ := List.mem_map.1 hkey
      obtain ⟨result, hresult, hkeys, _⟩ := h.result_of_settled (List.mem_of_mem_filter hcall)
      refine ⟨result, hresult, hkeys, ?_⟩
      have hall := h.uncertain.symm.trans huncertain
      exact Bool.eq_false_iff.2 (List.any_eq_false.1 hall result hresult)
    · have hall := h.cleanup.symm.trans hcleanup
      exact Bool.eq_false_iff.2 (List.any_eq_false.1 hall result hresult)
  · rintro ⟨hopen, hstarts, hcleanup⟩
    have hactive : s.active = none := by
      have := h.active.trans hopen
      simpa using this
    have hpending : s.pending = [] := by
      by_contra hpending
      obtain ⟨turn, hturn, _⟩ := hs.pending hpending
      exact absurd (hactive.symm.trans hturn) (by simp)
    have hclean : s.cleanupRequired = false := by
      rw [h.cleanup, List.any_eq_false]
      intro result hresult
      simp [hcleanup result hresult]
    have hknown : ∀ call ∈ s.settled, call.status ≠ .unknown := by
      intro call hcall hunknown
      have hstart : call.key ∈ startsOf events := by
        rw [h.starts]
        exact List.mem_map_of_mem (by simp [hcall, h.intended call hcall hunknown])
      obtain ⟨result, hresult, hkey, heffect⟩ := hstarts call.key hstart
      obtain ⟨other, hother, hsame, hstatus⟩ := h.settled_of_result hresult
      have hnodup := h.keys_nodup
      rw [hpending, List.append_nil] at hnodup
      have heq : other = call := List.inj_on_of_nodup_map hnodup hother hcall (hsame.trans hkey)
      rw [heq] at hstatus
      have := ToolResult.status_unknown.1 (hstatus.symm.trans hunknown)
      exact absurd (heffect.symm.trans this) (by simp)
    unfold Replay.disposition
    rw [hpending, List.append_nil, if_neg, if_neg, if_neg]
    · simp [hactive]
    · simp [hclean]
    · rw [List.any_eq_true]
      rintro ⟨call, hcall, hunknown⟩
      exact hknown call hcall (by simpa using hunknown)

/-- An accepted document is a write-ahead log with an effect fence. Its results answer the calls in order;
those still waiting are of the last batch of an open Turn. -/
theorem document_is_log (limits : Limits) (document : SessionDocument) (s : Replay)
    (h : inspectDocument limits document = .ok s) :
    (∀ n, ∃ p, inspectDocument limits ⟨document.sessionId, document.events.take n⟩ = .ok p) ∧
    (∃ waiting, callsOf document.events = (resultsOf document.events).map ToolResult.key ++ waiting ∧
      awaited (messagesOf document.events) = some waiting ∧ (waiting ≠ [] → turnOpen document.events = true)) ∧
    ((callsOf document.events).map Prod.fst).Nodup ∧
    (∀ before event after, document.events = before ++ event :: after →
      ∀ result ∈ event.data.results, result.outcome.isHarmless = false → result.key ∈ startsOf before) ∧
    (∀ before event after, document.events = before ++ event :: after → (∃ result ∈ event.data.results,
        result.outcome.isUnknown = true ∨ result.failedCleanup = true) → ∀ later ∈ after, later.data.quiet = true) ∧
    (s.disposition = .ready ↔ turnOpen document.events = false ∧
      (∀ key ∈ startsOf document.events, ∃ result ∈ resultsOf document.events,
        result.key = key ∧ result.outcome.isUnknown = false) ∧
      ∀ result ∈ resultsOf document.events, result.failedCleanup = false) ∧ (s.disposition = .ready →
      s.messages = messagesOf document.events ∧ awaited s.messages = some []) := by
  obtain ⟨hfit, h⟩ := inspectDocument_iff.1 h
  have hsound := replayEvents_sound replay_empty_sound h
  have hlogged := replay_logged h
  refine ⟨fun n => ?_, ⟨s.pending.map CallRecovery.key, ?_, ?_, ?_⟩, ?_, ?_, ?_,
    hlogged.ready_iff hsound, fun hready => ?_⟩
  · obtain ⟨p, hp⟩ := replayEvents_take h n
    exact ⟨p, inspectDocument_iff.2 ⟨hfit.take n, hp⟩⟩
  · rw [hlogged.calls, List.map_append, hlogged.settled_keys]
  · rw [← hlogged.messages]
    exact hlogged.awaited
  · intro hwaiting
    obtain ⟨turn, hturn, _⟩ := hsound.pending fun hnil => hwaiting (by rw [hnil]; rfl)
    rw [← hlogged.active, hturn]
    rfl
  · rw [← hlogged.callIds]
    exact hlogged.unique
  · intro before event after hevents result hresult heffect
    rw [hevents] at h
    obtain ⟨mid, next, hmid, hnext, _⟩ := replay_at h
    exact replayEvent_intended (replay_logged hmid) hnext hresult heffect
  · rintro before event after hevents ⟨result, hresult, hbad⟩ later hlater
    obtain ⟨between, rest, rfl⟩ := List.append_of_mem hlater
    rw [hevents, ← List.cons_append, ← List.append_assoc] at h
    obtain ⟨mid, next, hmid, hnext, _⟩ := replay_at h
    refine replayEvent_quiet ((replay_logged hmid).fenced ?_ hbad) hnext
    simp only [resultsOf, List.flatMap_append, List.flatMap_cons, List.mem_append]
    exact .inr (.inl hresult)
  · obtain ⟨_, hpending, _, _⟩ := ready_facts hsound hready
    refine ⟨hlogged.messages, ?_⟩
    rw [hlogged.awaited, hpending]
    rfl

/-- A Session interrupted after the model asked for a read. -/
def interruptedSession : SessionDocument :=
  ⟨"session", [
    ⟨"session", "turn", 1, .turnStarted⟩,
    ⟨"session", "turn", 2, .messageAppended none (.user "look") none⟩,
    ⟨"session", "turn", 3, .stepStarted 1⟩,
    ⟨"session", "turn", 4, .messageAppended (some 1) (.assistant "" [⟨"c1", "read", .null, []⟩]) none⟩]⟩

/-- The same Session after the tool answered and the model finished. -/
def finishedSession : SessionDocument :=
  ⟨"session", interruptedSession.events ++ [
    ⟨"session", "turn", 5, .toolStarted 1 "c1" "read"⟩,
    ⟨"session", "turn", 6, .messageAppended (some 1) (.tool "c1" "read" (.ok "text"))
      (some ⟨true, .succeeded, false, ⟨.released, none⟩⟩)⟩,
    ⟨"session", "turn", 7, .stepEnded 1⟩,
    ⟨"session", "turn", 8, .stepStarted 2⟩,
    ⟨"session", "turn", 9, .messageAppended (some 2) (.assistant "done" []) none⟩,
    ⟨"session", "turn", 10, .stepEnded 2⟩,
    ⟨"session", "turn", 11, .turnEnded .completed none⟩]⟩

def unlimited : Limits := ⟨fun _ => true, fun _ => 0, fun _ => 0⟩

theorem document_is_log_sample : ∃ s, inspectDocument unlimited finishedSession = .ok s ∧
    ∀ n, ∃ p, inspectDocument unlimited ⟨finishedSession.sessionId, finishedSession.events.take n⟩ = .ok p := by
  obtain ⟨s, h⟩ := exists_of_isOk (x := inspectDocument unlimited finishedSession) (by rfl)
  exact ⟨s, h, (document_is_log unlimited finishedSession s h).1⟩

/-- An accepted document can hold a call without a result. -/
theorem interrupted_call_unanswered : (∃ s, inspectDocument unlimited interruptedSession = .ok s) ∧
      callsOf interruptedSession.events ≠ (resultsOf interruptedSession.events).map ToolResult.key :=
  ⟨exists_of_isOk (by rfl), by decide⟩

end Laws

end Session
