import Yui.DurableJobValid
import Yui.SessionFormat

/-!
# What a replay knows

The replay of a document is a fold, so a document grows by replaying the new events from where the old
ones ended. A replay keeps its calls pending inside an open Step, marks every uncertainty on a settled
call and knows exactly the call identities of its messages.
-/

open JsText Checked

namespace Session

@[simp] theorem requireFact_iff {p : Prop} [Decidable p] {message : String} : requireFact p message = .ok () ↔ p := by
  unfold requireFact
  rw [refuse_iff, not_not]

theorem replayEvents_append (sessionId : String) (s : Replay) (xs ys : List AgentEvent) :
    replayEvents sessionId s (xs ++ ys) =
      replayEvents sessionId s xs >>= fun next => replayEvents sessionId next ys := by
  induction xs generalizing s with
  | nil => rfl
  | cons x xs ih =>
    simp only [List.cons_append, replayEvents]
    cases replayEvent sessionId s x with
    | error e => rfl
    | ok next => simp [ih]

theorem replayEvents_take {sessionId : String} {s s' : Replay} {events : List AgentEvent}
    (h : replayEvents sessionId s events = .ok s') (n : ℕ) :
    ∃ mid, replayEvents sessionId s (events.take n) = .ok mid := by
  rw [← List.take_append_drop n events, replayEvents_append] at h
  obtain ⟨mid, hmid, _⟩ := bind_ok h
  exact ⟨mid, hmid⟩

/-- The identities of the calls that a message makes. -/
def messageIds : Message → List String
  | .assistant _ toolCalls => toolCalls.map ToolCall.id
  | _ => []

section Calls

/-- A call that the model made and nothing has started. -/
def ToolCall.unstarted (call : ToolCall) : CallRecovery := ⟨call.id, call.name, false, .notStarted⟩

def Replay.withCalls (s : Replay) (calls : List ToolCall) : Replay :=
  { s with
    callIds := s.callIds ++ calls.map ToolCall.id
    pending := s.pending ++ calls.map ToolCall.unstarted }

variable {calls : List ToolCall}

theorem addCalls_ok {s s' : Replay} (h : addCalls s calls = .ok s') : s' = s.withCalls calls := by
  induction calls generalizing s with
  | nil =>
    cases h
    simp [Replay.withCalls]
  | cons call calls ih =>
    obtain ⟨_, _, h⟩ := bind_ok h
    rw [ih h]
    simp [Replay.withCalls, ToolCall.unstarted]

theorem addCalls_nodup {s s' : Replay} (hunique : s.callIds.Nodup)
    (h : addCalls s calls = .ok s') : (s.callIds ++ calls.map ToolCall.id).Nodup := by
  induction calls generalizing s with
  | nil => simpa using hunique
  | cons call calls ih =>
    obtain ⟨_, hfresh, h⟩ := bind_ok h
    have hfresh := requireFact_iff.1 hfresh
    have hnodup : (s.callIds ++ [call.id]).Nodup := by
      rw [List.nodup_append]
      refine ⟨hunique, by simp, ?_⟩
      intro a ha b hb heq
      rw [List.mem_singleton.1 hb] at heq
      exact hfresh (heq ▸ ha)
    simpa using ih hnodup h

theorem addCalls_fresh {s : Replay} (hnodup : (calls.map ToolCall.id).Nodup)
    (hfresh : ∀ call ∈ calls, call.id ∉ s.callIds) : addCalls s calls = .ok (s.withCalls calls) := by
  induction calls generalizing s with
  | nil => simp [addCalls, Replay.withCalls]
  | cons call calls ih =>
    rw [List.map_cons, List.nodup_cons] at hnodup
    have hcall : call.id ∉ s.callIds := hfresh call (by simp)
    rw [addCalls, requireFact_iff.2 hcall, ok_bind, ih hnodup.2]
    · simp [Replay.withCalls, ToolCall.unstarted]
    · intro other hother
      have hne : other.id ≠ call.id := fun heq =>
        hnodup.1 (heq ▸ List.mem_map_of_mem hother)
      simp [hfresh other (by simp [hother]), hne]

end Calls

section Invariant

structure Replay.Sound (s : Replay) : Prop where
  pending : s.pending ≠ [] → ∃ turn, s.active = some turn ∧ turn.openStep ≠ none
  opened : ∀ turn, s.active = some turn → turn.openStep ≠ none → turn.lastStep ≠ 0
  uncertain : s.uncertain = true → ∃ call ∈ s.settled, call.status = .unknown
  calls : s.callIds = s.messages.flatMap messageIds

variable {s s' : Replay} {turn : TurnRecovery}

variable {step : ℕ}

theorem startStep_sound (hs : s.Sound) (h : startStep s turn step = .ok s') : s'.Sound := by
  obtain ⟨_, hfact, h⟩ := bind_ok h
  cases h
  have hnone := (requireFact_iff.1 hfact).2.2.2.2.2.1
  have hnext := (requireFact_iff.1 hfact).2.2.2.2.2.2
  refine ⟨fun h => absurd hnone h, ?_, hs.uncertain, hs.calls⟩
  intro turn hturn _
  cases hturn
  simp [hnext]

theorem startTool_sound {toolCallId name : String} (hs : s.Sound)
    (hactive : s.active = some turn) (h : startTool s turn step toolCallId name = .ok s') : s'.Sound := by
  unfold startTool at h
  cases hpending : s.pending with
  | nil => simp [hpending] at h
  | cons call pending =>
    rw [hpending] at h
    obtain ⟨_, hfact, h⟩ := bind_ok h
    cases h
    have hopen := (requireFact_iff.1 hfact).2.2.1
    exact ⟨fun _ => ⟨turn, hactive, by simp [hopen]⟩, hs.opened, hs.uncertain, hs.calls⟩

theorem endStep_sound (hs : s.Sound) (h : endStep s turn step = .ok s') : s'.Sound := by
  obtain ⟨_, hfact, h⟩ := bind_ok h
  cases h
  refine ⟨fun h => absurd (requireFact_iff.1 hfact).2 h, ?_, hs.uncertain, hs.calls⟩
  intro turn hturn hopen
  cases hturn
  exact absurd rfl hopen

theorem endTurn_sound {reason : EndReason} (hs : s.Sound) (h : endTurn s turn reason = .ok s') : s'.Sound := by
  obtain ⟨_, hfact, h⟩ := bind_ok h
  iterate 3 obtain ⟨_, _, h⟩ := bind_ok h
  cases h
  exact ⟨fun h => absurd (requireFact_iff.1 hfact).2 h, by simp, hs.uncertain, hs.calls⟩

theorem addResult_sound {toolCallId name : String} {outcome : ToolOutcome}
    {settlement : Option ToolSettlementEvidence} (hs : s.Sound) (hactive : s.active = some turn)
    (hopen : turn.openStep ≠ none) (h : addResult s toolCallId name outcome settlement = .ok s') :
    s'.Sound ∧ s'.messages = s.messages := by
  unfold addResult at h
  cases hpending : s.pending with
  | nil => simp [hpending] at h
  | cons call pending =>
    rw [hpending] at h
    iterate 4 obtain ⟨_, _, h⟩ := bind_ok h
    cases h
    refine ⟨⟨fun _ => ⟨turn, hactive, hopen⟩, hs.opened, ?_, hs.calls⟩, rfl⟩
    intro huncertain
    simp only [Bool.or_eq_true] at huncertain
    cases huncertain with
    | inl hbefore =>
      obtain ⟨other, hother, hunknown⟩ := hs.uncertain hbefore
      exact ⟨other, by simp [hother], hunknown⟩
    | inr hnow => exact ⟨_, List.mem_append_right _ (List.mem_singleton_self _), by simp [hnow]⟩

theorem appendMessage_sound {step : Option ℕ} {message : Message}
    {settlement : Option ToolSettlementEvidence} (hs : s.Sound) (hactive : s.active = some turn)
    (h : appendMessage s turn step message settlement = .ok s') : s'.Sound := by
  obtain ⟨_, _, _, _, next, hnext, h⟩ := bind_ok₃ h
  cases h
  cases message with
  | system content =>
    obtain ⟨_, _, hnext⟩ := bind_ok hnext
    cases hnext
    exact ⟨hs.pending, hs.opened, hs.uncertain, by simp [hs.calls, messageIds]⟩
  | user content =>
    obtain ⟨_, _, hnext⟩ := bind_ok hnext
    cases hnext
    exact ⟨hs.pending, hs.opened, hs.uncertain, by simp [hs.calls, messageIds]⟩
  | assistant content toolCalls =>
    obtain ⟨_, hopen, _, _, hnext⟩ := bind_ok₂ hnext
    rw [addCalls_ok hnext]
    have hopen := (requireFact_iff.1 hopen).1
    exact ⟨fun _ => ⟨turn, hactive, hopen⟩, hs.opened, hs.uncertain, by simp [Replay.withCalls, hs.calls, messageIds]⟩
  | tool toolCallId name outcome =>
    obtain ⟨_, hopen, hnext⟩ := bind_ok hnext
    obtain ⟨hsound, hmessages⟩ := addResult_sound hs hactive (requireFact_iff.1 hopen).1 hnext
    exact ⟨hsound.pending, hsound.opened, hsound.uncertain, by simp [hsound.calls, messageIds]⟩

theorem extendTurn_sound {data : EventData} (hs : s.Sound) (hactive : s.active = some turn)
    (h : extendTurn s turn data = .ok s') : s'.Sound := by
  cases data with
  | turnStarted =>
    cases h
    exact hs
  | stepStarted step => exact startStep_sound hs h
  | messageAppended step message settlement => exact appendMessage_sound hs hactive h
  | toolStarted step toolCallId name => exact startTool_sound hs hactive h
  | stepEnded step => exact endStep_sound hs h
  | turnEnded reason errorCode => exact endTurn_sound hs h

theorem startTurn_sound {turnId : String} {seq : ℕ} (hs : s.Sound)
    (h : startTurn s turnId seq = .ok s') : s'.Sound := by
  obtain ⟨_, hfact, h⟩ := bind_ok h
  cases h
  have hnone := (requireFact_iff.1 hfact).1
  refine ⟨fun hpending => ?_, ?_, hs.uncertain, hs.calls⟩
  · obtain ⟨turn, hactive, _⟩ := hs.pending hpending
    exact absurd (hnone.symm.trans hactive) (by simp)
  · intro turn hturn hopen
    cases hturn
    exact absurd rfl hopen

variable {sessionId : String}

theorem replayEvent_extend {event : AgentEvent}
    (hdata : event.data ≠ .turnStarted) (h : replayEvent sessionId s event = .ok s') :
    ∃ active, s.active = some active ∧ extendTurn { s with active := some { active with lastSequence := event.seq } }
        { active with lastSequence := event.seq } event.data = .ok s' := by
  obtain ⟨_, _, _, _, h⟩ := bind_ok₂ h
  split at h
  · rename_i hstarted
    exact absurd hstarted hdata
  · cases hactive : s.active with
    | none => simp [hactive] at h
    | some active =>
      rw [hactive] at h
      obtain ⟨_, _, h⟩ := bind_ok h
      exact ⟨active, rfl, h⟩

theorem Replay.Sound.advance (hs : s.Sound) {active : TurnRecovery} {seq : ℕ} (hactive : s.active = some active) :
    Replay.Sound { s with active := some { active with lastSequence := seq } } := by
  refine ⟨fun hpending => ?_, ?_, hs.uncertain, hs.calls⟩
  · obtain ⟨turn, hturn, hopen⟩ := hs.pending hpending
    cases hactive.symm.trans hturn
    exact ⟨_, rfl, hopen⟩
  · intro turn hturn hopen
    cases hturn
    exact hs.opened active hactive hopen

theorem replayEvent_sound {event : AgentEvent} (hs : s.Sound)
    (h : replayEvent sessionId s event = .ok s') : s'.Sound := by
  by_cases hdata : event.data = .turnStarted
  · obtain ⟨_, _, _, _, h⟩ := bind_ok₂ h
    rw [hdata] at h
    exact startTurn_sound hs h
  · obtain ⟨active, hactive, h⟩ := replayEvent_extend hdata h
    exact extendTurn_sound (hs.advance hactive) rfl h

theorem replayEvents_sound {events : List AgentEvent} (hs : s.Sound)
    (h : replayEvents sessionId s events = .ok s') : s'.Sound := by
  induction events generalizing s with
  | nil =>
    cases h
    exact hs
  | cons event events ih =>
    obtain ⟨next, hnext, h⟩ := bind_ok h
    exact ih (replayEvent_sound hs hnext) h

theorem replay_empty_sound : Replay.empty.Sound :=
  ⟨fun h => absurd rfl h, by simp [Replay.empty], by simp [Replay.empty], rfl⟩

structure Limits.Fit (limits : Limits) (document : SessionDocument) : Prop where
  identity : identity document.sessionId = true
  count : document.events.length ≤ 10000
  bytes : documentBytes limits document ≤ 16 * 1024 * 1024
  events : ∀ event ∈ document.events, limits.admits event = true

theorem inspectDocument_iff {limits : Limits} {document : SessionDocument} :
    inspectDocument limits document = .ok s ↔ limits.Fit document ∧
      replayEvents document.sessionId Replay.empty document.events = .ok s := by
  unfold inspectDocument requireIdentity
  simp only [seq_iff, requireFact_iff]
  constructor
  · rintro ⟨hid, hcount, hbytes, hevents, h⟩
    exact ⟨⟨hid, hcount, hbytes, hevents⟩, h⟩
  · rintro ⟨⟨hid, hcount, hbytes, hevents⟩, h⟩
    exact ⟨hid, hcount, hbytes, hevents, h⟩

theorem Limits.Fit.take {limits : Limits} {document : SessionDocument} (h : limits.Fit document)
    (n : ℕ) : limits.Fit ⟨document.sessionId, document.events.take n⟩ := by
  have hlength : (document.events.take n).length ≤ document.events.length := (List.take_sublist n document.events).length_le
  have hsum : ((document.events.take n).map limits.bytes).sum ≤
      (document.events.map limits.bytes).sum := by
    conv_rhs => rw [← List.take_append_drop n document.events]
    rw [List.map_append, List.sum_append]
    omega
  refine ⟨h.identity, ?_, ?_, fun event hevent => h.events event (List.mem_of_mem_take hevent)⟩
  · exact hlength.trans h.count
  · have hbytes := h.bytes
    unfold documentBytes at hbytes ⊢
    dsimp only
    omega

theorem ready_facts (hs : s.Sound) (h : s.disposition = .ready) :
    s.active = none ∧ s.pending = [] ∧ s.uncertain = false ∧ s.cleanupRequired = false := by
  unfold Replay.disposition at h
  split_ifs at h with hunknown hcleanup hactive
  simp only [ne_eq, not_not] at hactive
  refine ⟨hactive, ?_, ?_, by simpa using hcleanup⟩
  · by_contra hpending
    obtain ⟨turn, hturn, _⟩ := hs.pending hpending
    exact absurd (hactive.symm.trans hturn) (by simp)
  · by_contra huncertain
    obtain ⟨call, hcall, hstatus⟩ := hs.uncertain (by simpa using huncertain)
    exact hunknown (List.any_eq_true.2 ⟨call, by simp [hcall], by simp [hstatus]⟩)

end Invariant

end Session
