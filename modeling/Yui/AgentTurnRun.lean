import Yui.AgentTurnRecord
import Yui.SessionLog

/-!
# A Turn is accepted by the Session format

The loop of a Turn against the replay of its record: a Step leaves no call pending, and the reason with
which the Turn ends is one that the format allows. The one thing that the Turn records and the format does
not read is a tool call with a field of its own.
-/

open JsText Checked ToolExecutor

namespace Session

section World

variable (w : TurnWorld)

/-- The calls of an answer that `response` accepts. -/
def TurnWorld.Answers (step : ℕ) (calls : List ToolCall) : Prop :=
  ∃ raw usedIds content, w.provider step = .returns raw ∧
    response w raw usedIds = some (.toolCalls content calls)

/-- Names, identities and error codes are within the format's bound. -/
structure TurnWorld.Bounded : Prop where
  calls : ∀ step calls, w.Answers step calls → ∀ call ∈ calls,
    Runtime.length16 call.id ≤ 256 ∧ Runtime.length16 call.name ≤ 256
  codes : ∀ step index, BoundedCodes (w.call step index)

/-- No accepted call has a field that the format does not know. -/
def TurnWorld.PlainCalls : Prop :=
  ∀ step calls, w.Answers step calls → ∀ call ∈ calls, call.otherFields = []

variable {w}

theorem readCall_nonempty {data : JsonData} {call : ToolCall} (h : readCall w data = some call) :
    isNonempty call.id = true ∧ isNonempty call.name = true := by
  unfold readCall at h
  split at h
  · split at h
    · split_ifs at h with hfields
      cases h
      exact ⟨hfields.1, hfields.2.1⟩
    · cases h
  · cases h

theorem readCalls_spec {items : List JsonData} {calls : List ToolCall}
    (h : readCalls w items = some calls) : calls.length = items.length ∧
      ∀ call ∈ calls, isNonempty call.id = true ∧ isNonempty call.name = true := by
  induction items generalizing calls with
  | nil =>
    cases h
    simp
  | cons item items ih =>
    obtain ⟨call, hcall, h⟩ := Option.bind_eq_some_iff.1 h
    obtain ⟨rest, hrest, h⟩ := Option.bind_eq_some_iff.1 h
    cases h
    obtain ⟨hlength, hall⟩ := ih hrest
    refine ⟨by simp [hlength], fun other hother => ?_⟩
    rcases List.mem_cons.1 hother with rfl | hother
    · exact readCall_nonempty hcall
    · exact hall other hother

theorem response_calls {raw : Option JsonData} {usedIds : List String} {content : String}
    {calls : List ToolCall} (h : response w raw usedIds = some (.toolCalls content calls)) :
    calls.length ≤ 8 ∧ (calls.map ToolCall.id).Nodup ∧ calls ≠ [] ∧ (∀ call ∈ calls, call.id ∉ usedIds) ∧
      ∀ call ∈ calls, isNonempty call.id = true ∧ isNonempty call.name = true := by
  obtain ⟨value, _, h⟩ := Option.bind_eq_some_iff.1 h
  split_ifs at h
  split at h
  · cases h
  · split at h
    · obtain ⟨read, hread, h⟩ := Option.bind_eq_some_iff.1 h
      split_ifs at h with hfacts
      cases h
      obtain ⟨hlength, hall⟩ := readCalls_spec hread
      exact ⟨hlength ▸ hfacts.1, hfacts.2.1, hfacts.2.2.1, hfacts.2.2.2, hall⟩
    · cases h
  · cases h

theorem identity_of_nonempty {text : String} (hnonempty : isNonempty text = true)
    (hlength : Runtime.length16 text ≤ 256) : identity text = true := by
  simp only [identity, Bool.and_eq_true, decide_eq_true_eq]
  exact ⟨hnonempty, hlength⟩

end World

section Step

variable {w : TurnWorld} {input : TurnInput} {s0 s : Replay} {t : Turn} {openStep : Option ℕ}

/-- The format between two batches of the Turn. -/
structure Calm (input : TurnInput) (s0 : Replay) (t : Turn) (s : Replay) (openStep : Option ℕ) : Prop where
  recorded : Recorded input s0 t s t.steps openStep
  pending : s.pending = []
  ids : ∀ id ∈ s.callIds, id ∈ t.usedIds

structure Continues (s : Replay) : Prop where
  userSeen : s.userSeen = true
  finalSeen : s.finalSeen = false
  certain : s.uncertain = false
  clean : s.cleanupRequired = false

structure Ends (s : Replay) (reason : EndReason) : Prop where
  completed : reason = .completed → s.finalSeen = true
  uncertain : s.uncertain = true → reason = .error
  cleanup : s.cleanupRequired = true → reason = .error

def StepEnd.Fits (s : Replay) : StepEnd → Prop
  | .next => Continues s
  | .stop reason => Ends s reason
  | .fault _ => True

def Leaves (input : TurnInput) (s0 : Replay) (t : Turn) (result : StepEnd × Turn) : Prop :=
  ∃ s', Calm input s0 result.2 s' (some t.steps) ∧ result.1.Fits s' ∧ result.2.steps = t.steps

theorem Continues.ends (h : Continues s) {reason : EndReason} (hreason : reason ≠ .completed) : Ends s reason :=
  ⟨fun heq => absurd heq hreason, fun hu => absurd (h.certain.symm.trans hu) (by simp),
    fun hc => absurd (h.clean.symm.trans hc) (by simp)⟩

theorem Calm.look (h : Calm input s0 t s openStep) : Calm input s0 t.look s openStep :=
  ⟨h.recorded.of_record rfl, h.pending, h.ids⟩

/-- A Step that stops where nothing was recorded. -/
theorem Calm.leaves (h : Calm input s0 t s (some t.steps)) {t' : Turn} (ht : t'.record = t.record)
    {ending : StepEnd} (hfits : ending.Fits s) : Leaves input s0 t (ending, t') := by
  have hsteps : t'.record.steps = t.record.steps := congrArg Turn.steps ht
  have hused : t'.record.usedIds = t.record.usedIds := congrArg Turn.usedIds ht
  change t'.steps = t.steps at hsteps
  change t'.usedIds = t.usedIds at hused
  refine ⟨s, ⟨?_, h.pending, ?_⟩, hfits, hsteps⟩
  · rw [hsteps]
    exact h.recorded.of_record ht
  · rw [hused]
    exact h.ids

structure Asked (input : TurnInput) (s0 : Replay) (t : Turn) (s : Replay) (calls : List ToolCall) : Prop where
  recorded : Recorded input s0 t s t.steps (some t.steps)
  pending : s.pending = calls.map ToolCall.unstarted
  ids : ∀ id ∈ s.callIds, id ∈ t.usedIds ++ calls.map ToolCall.id
  continues : Continues s

theorem runCalls_leaves {calls : List ToolCall} (hw : w.Bounded)
    (hcalls : ∀ call ∈ calls, identity call.id = true ∧ identity call.name = true)
    (h : Asked input s0 t s calls) : Leaves input s0 t (runCalls w input t.steps calls t) := by
  unfold runCalls
  by_cases haborted : aborted w t = true
  · rw [if_pos haborted]
    have hlook : Recorded input s0 t.look s t.steps (some t.steps) := h.recorded.of_record rfl
    obtain ⟨s', hrecorded, hpending, hsame, hcertain, hclean, hused, hsteps⟩ :=
      skipCalls_recorded (w := w) hcalls hlook h.pending h.continues.certain h.continues.clean
    generalize skipCalls w input t.steps calls t.look = t1 at *
    have hcontinues : Continues s' := ⟨hsame.userSeen.trans h.continues.userSeen,
      hsame.finalSeen.trans h.continues.finalSeen, hcertain, hclean⟩
    have hsteps : t1.steps = t.steps := hsteps
    have hused : t1.usedIds = t.usedIds := hused
    have hcalm : Calm input s0 ({ t1 with usedIds := t1.usedIds ++ calls.map ToolCall.id }) s'
        (some t.steps) := by
      refine ⟨?_, hpending, ?_⟩
      · dsimp only
        rw [hsteps]
        exact ⟨hrecorded.replay, hrecorded.active, hrecorded.running, hrecorded.identity⟩
      · intro id hid
        rw [hsame.callIds] at hid
        dsimp only
        rw [hused]
        exact h.ids id hid
    dsimp only
    split_ifs
    · exact ⟨s', hcalm.look, hcontinues.ends (by simp), hsteps⟩
    · exact ⟨s', hcalm.look, hcontinues, hsteps⟩
  · rw [if_neg haborted]
    have hbatch : BatchRecorded input s0 ⟨t.look, none, false, [], []⟩ s t.steps t.steps calls :=
      ⟨h.recorded.of_record rfl, h.pending, rfl, fun hbad => by
        rcases hbad with hbad | hbad
        · exact absurd (h.continues.certain.symm.trans hbad) (by simp)
        · exact absurd (h.continues.clean.symm.trans hbad) (by simp)⟩
    obtain ⟨s', hdone, hsame, hused, hsteps⟩ := runCallsFrom_recorded w w.pack (hw.codes t.steps) 0 hcalls hbatch
    have hexec : executeBatch (turnHost w input t.steps) w.pack (w.call t.steps) calls t.look =
      runCallsFrom (turnHost w input t.steps) w.pack (w.call t.steps) 0 calls
        ⟨t.look, none, false, [], []⟩ := rfl
    rw [hexec]
    generalize runCallsFrom (turnHost w input t.steps) w.pack (w.call t.steps) 0 calls
      ⟨t.look, none, false, [], []⟩ = batch at *
    have hsteps : batch.host.steps = t.steps := hsteps
    have hused : batch.host.usedIds = t.usedIds := hused
    have hcalm : ∀ code, Calm input s0 (⟨batch.host.clock, batch.host.events, batch.host.messages,
        batch.host.usedIds ++ calls.map ToolCall.id, batch.host.steps, code⟩) s' (some t.steps) := by
      intro code
      refine ⟨?_, hdone.pending, ?_⟩
      · dsimp only
        rw [hsteps]
        exact ⟨hdone.recorded.replay, hdone.recorded.active, hdone.recorded.running, hdone.recorded.identity⟩
      · intro id hid
        rw [hsame.callIds] at hid
        dsimp only
        rw [hused]
        exact h.ids id hid
    have hcontinues : ¬ Fatal batch.stopped → Continues s' := by
      intro hnot
      refine ⟨hsame.userSeen.trans h.continues.userSeen,
        hsame.finalSeen.trans h.continues.finalSeen, ?_, ?_⟩
      · by_contra hne
        exact hnot (hdone.fatal (.inl (by simpa using hne)))
      · by_contra hne
        exact hnot (hdone.fatal (.inr (by simpa using hne)))
    dsimp only
    by_cases hfatal : Fatal batch.stopped
    · have hfailed : batch.stopped ≠ none ∧ batch.stopped ≠ some .cancelled := hfatal
      rw [if_pos (.inr hfailed), if_pos hfailed]
      refine ⟨s', hcalm _, ⟨by simp, by simp, by simp⟩, hsteps⟩
    · have hfatal' : ¬ (batch.stopped ≠ none ∧ batch.stopped ≠ some .cancelled) := hfatal
      rw [if_neg hfatal']
      split_ifs with huncertain hcancelled
      · exact ⟨s', hcalm batch.host.errorCode, ⟨by simp, by simp, by simp⟩, hsteps⟩
      · exact ⟨s', (hcalm batch.host.errorCode).look, (hcontinues hfatal).ends (by simp), hsteps⟩
      · exact ⟨s', (hcalm batch.host.errorCode).look, hcontinues hfatal, hsteps⟩

theorem answer_leaves {raw : Option JsonData} (hw : w.Bounded) (hplain : w.PlainCalls)
    (hraw : w.provider t.steps = .returns raw) (h : Calm input s0 t s (some t.steps))
    (hcontinues : Continues s) (hresponse : s.responseSeen = false) :
    Leaves input s0 t (answer w input t.steps t raw) := by
  unfold answer
  -- both kinds of answers are one event
  have hemit : ∀ content calls, calls.length ≤ 8 →
      (∀ call ∈ calls, call.otherFields = [] ∧ identity call.id = true ∧ identity call.name = true) →
      (calls.map ToolCall.id).Nodup → (∀ call ∈ calls, call.id ∉ s.callIds) →
      Recorded input s0 (append input t (.assistant content calls) (some t.steps) none)
        { Replay.withCalls
            { s with
              active := some ⟨input.turnId, t.events.length + 1, t.steps, some t.steps⟩
              responseSeen := true
              finalSeen := calls.isEmpty } calls with
          messages := s.messages ++ [.assistant content calls] } t.steps (some t.steps) := by
    intro content calls hlength hcalls hnodup hfresh
    have hsame : Recorded input s0 { t with messages := t.messages ++ [.assistant content calls] } s
        t.steps (some t.steps) :=
      ⟨h.recorded.replay, h.recorded.active, h.recorded.running, h.recorded.identity⟩
    refine hsame.emit (by simp) (by simp) ?_ rfl
    exact appendAssistant_ok rfl hresponse h.pending hlength hcalls hnodup hfresh
  cases hmodel : response w raw t.usedIds with
  | none => exact h.leaves rfl trivial
  | some model =>
    cases model with
    | final content =>
      have hrecorded := hemit content [] (by simp) (by simp) (by simp) (by simp)
      dsimp only
      refine ⟨_, ⟨hrecorded.of_record rfl, ?_, ?_⟩, ?_, rfl⟩
      · simpa [Replay.withCalls] using h.pending
      · intro id hid
        exact h.ids id (by simpa [Replay.withCalls] using hid)
      · have hcertain := hcontinues.certain
        have hclean := hcontinues.clean
        exact ⟨fun _ => rfl, fun hu => absurd (hcertain.symm.trans hu) (by simp),
          fun hc => absurd (hclean.symm.trans hc) (by simp)⟩
    | toolCalls content calls =>
      obtain ⟨hlength, hnodup, hne, hfresh, hnonempty⟩ := response_calls hmodel
      have hanswers : w.Answers t.steps calls := ⟨raw, t.usedIds, content, hraw, hmodel⟩
      have hids : ∀ call ∈ calls, identity call.id = true ∧ identity call.name = true := by
        intro call hcall
        obtain ⟨hid, hname⟩ := hw.calls t.steps calls hanswers call hcall
        exact ⟨identity_of_nonempty (hnonempty call hcall).1 hid, identity_of_nonempty (hnonempty call hcall).2 hname⟩
      have hrecorded := hemit content calls hlength
        (fun call hcall => ⟨hplain t.steps calls hanswers call hcall, hids call hcall⟩) hnodup
        (fun call hcall hmem => hfresh call hcall (h.ids call.id hmem))
      dsimp only
      refine runCalls_leaves hw hids ⟨hrecorded, ?_, ?_, ?_⟩
      · simp [Replay.withCalls, h.pending]
      · intro id hid
        have hmem : id ∈ s.callIds ++ calls.map ToolCall.id := hid
        rcases List.mem_append.1 hmem with hmem | hmem
        · exact List.mem_append_left _ (h.ids id hmem)
        · exact List.mem_append_right _ hmem
      · refine ⟨hcontinues.userSeen, ?_, hcontinues.certain, hcontinues.clean⟩
        simpa [Replay.withCalls] using hne

theorem stepBody_leaves (hw : w.Bounded) (hplain : w.PlainCalls) (h : Calm input s0 t s (some t.steps))
    (hcontinues : Continues s) (hresponse : s.responseSeen = false) :
    Leaves input s0 t (stepBody w input t.steps t) := by
  have hcancelled : StepEnd.Fits s (.stop .cancelled) := hcontinues.ends (by simp)
  have hfault : ∀ code, StepEnd.Fits s (.fault code) := fun _ => trivial
  unfold stepBody
  by_cases hfirst : aborted w t = true
  · rw [if_pos hfirst]
    exact h.leaves (by rfl) hcancelled
  rw [if_neg hfirst]
  by_cases hsecond : aborted w t.look = true
  · rw [if_pos hsecond]
    exact h.leaves (by rfl) hcancelled
  rw [if_neg hsecond]
  dsimp only
  cases w.context t.steps with
  | fails =>
    dsimp only
    exact h.leaves (by rfl) (hfault _)
  | rejected =>
    dsimp only
    split_ifs
    · exact h.leaves (by rfl) hcancelled
    · exact h.leaves (by rfl) (hfault _)
  | built tooLarge =>
    cases tooLarge with
    | true =>
      dsimp only
      exact h.leaves (by rfl) (hfault _)
    | false =>
      dsimp only
      by_cases hthird : aborted w t.look.look = true
      · rw [if_pos hthird]
        exact h.leaves (by rfl) hcancelled
      rw [if_neg hthird]
      cases hprovider : w.provider t.steps with
      | throws =>
        dsimp only
        exact h.leaves (by rfl) (hfault _)
      | returns raw =>
        exact answer_leaves hw hplain hprovider h.look.look.look hcontinues hresponse

theorem Calm.startStep (h : Calm input s0 t s none) (hcontinues : Continues s) :
    ∃ s', Calm input s0 (emit input { t.look with steps := t.steps + 1 } (.stepStarted (t.steps + 1))) s'
      (some (t.steps + 1)) ∧ Continues s' ∧ s'.responseSeen = false := by
  have hlook : Recorded input s0 { t.look with steps := t.steps + 1 } s t.steps none :=
    ⟨h.recorded.replay, h.recorded.active, h.recorded.running, h.recorded.identity⟩
  refine ⟨{ s with
    active := some ⟨input.turnId, t.events.length + 1, t.steps + 1, some (t.steps + 1)⟩
    responseSeen := false }, ⟨hlook.emit (by simp) (by simp) ?_ rfl, h.pending, h.ids⟩,
    ⟨hcontinues.userSeen, hcontinues.finalSeen, hcontinues.certain, hcontinues.clean⟩, rfl⟩
  have hfact : s.userSeen = true ∧ s.finalSeen = false ∧ s.uncertain = false ∧
      s.cleanupRequired = false ∧ (none : Option ℕ) = none ∧ s.pending = [] ∧
      t.steps + 1 = t.steps + 1 :=
    ⟨hcontinues.userSeen, hcontinues.finalSeen, hcontinues.certain, hcontinues.clean, rfl, h.pending, rfl⟩
  unfold extendTurn Session.startStep
  dsimp only
  rw [requireFact_iff.2 hfact, ok_bind]
  rfl

theorem Calm.endStep {step : ℕ} (h : Calm input s0 t s (some step)) :
    ∃ s', Calm input s0 (emit input t (.stepEnded step)) s' none ∧ s'.userSeen = s.userSeen ∧
      s'.finalSeen = s.finalSeen ∧ s'.uncertain = s.uncertain ∧ s'.cleanupRequired = s.cleanupRequired := by
  refine ⟨{ s with active := some ⟨input.turnId, t.events.length + 1, t.steps, none⟩ },
    ⟨h.recorded.emit (by simp) (by simp) ?_ rfl, h.pending, h.ids⟩, rfl, rfl, rfl, rfl⟩
  have hfact : some step = some step ∧ s.pending = [] := ⟨rfl, h.pending⟩
  unfold extendTurn Session.endStep
  dsimp only
  rw [requireFact_iff.2 hfact, ok_bind]

theorem loop_ends (hw : w.Bounded) (hplain : w.PlainCalls) (budget : ℕ) {t : Turn} {s : Replay}
    (h : Calm input s0 t s none) (hcontinues : Continues s) :
    ∃ s', Calm input s0 (loop w input budget t).2 s' none ∧ Ends s' (loop w input budget t).1 := by
  induction budget generalizing t s with
  | zero =>
    unfold loop
    split_ifs
    · exact ⟨s, h.look, hcontinues.ends (by simp)⟩
    · exact ⟨s, h.look, hcontinues.ends (by simp)⟩
  | succ budget ih =>
    unfold loop
    by_cases haborted : aborted w t = true
    · rw [if_pos haborted]
      exact ⟨s, h.look, hcontinues.ends (by simp)⟩
    rw [if_neg haborted]
    obtain ⟨s1, h1, hcontinues1, hresponse⟩ := h.startStep hcontinues
    dsimp only
    generalize htn : emit input { t.look with steps := t.steps + 1 } (.stepStarted (t.steps + 1)) = t1
      at *
    have hsteps : t1.steps = t.steps + 1 := by rw [← htn]; rfl
    rw [← hsteps] at h1 ⊢
    obtain ⟨s2, h2, hfits, hsteps2⟩ := stepBody_leaves hw hplain h1 hcontinues1 hresponse
    generalize stepBody w input t1.steps t1 = result at *
    obtain ⟨s3, h3, huser, hfinal, hcertain, hclean⟩ := h2.endStep
    obtain ⟨ending, t2⟩ := result
    cases ending with
    | next =>
      refine ih h3 ⟨huser.trans hfits.userSeen, hfinal.trans hfits.finalSeen,
        hcertain.trans hfits.certain, hclean.trans hfits.clean⟩
    | stop reason =>
      refine ⟨s3, h3, ⟨fun hr => hfinal.trans (hfits.completed hr), fun hu => ?_, fun hc => ?_⟩⟩
      · exact hfits.uncertain (hcertain.symm.trans hu)
      · exact hfits.cleanup (hclean.symm.trans hc)
    | fault code =>
      dsimp only
      have hrecorded := h3.recorded
      exact ⟨s3, ⟨⟨hrecorded.replay, hrecorded.active, hrecorded.running, hrecorded.identity⟩,
        h3.pending, h3.ids⟩, ⟨by simp, by simp, by simp⟩⟩

end Step

section Turn

variable {w : TurnWorld} {input : TurnInput} {s0 : Replay}

theorem startTurn_calm (hid : identity input.turnId = true) (hready : s0.active = none)
    (hfresh : input.turnId ∉ s0.turnIds) (hpending : s0.pending = []) (hcertain : s0.uncertain = false)
    (hclean : s0.cleanupRequired = false) (hids : s0.callIds = input.history.flatMap messageIds) :
    ∃ s, Calm input s0 (emit input ⟨0, [], [], input.history.flatMap messageIds, 0, none⟩ .turnStarted) s
        none ∧ s.userSeen = false ∧ s.finalSeen = false ∧ s.uncertain = false ∧ s.cleanupRequired = false := by
  have hfact : s0.active = none ∧ input.turnId ∉ s0.turnIds ∧ 0 + 1 = 1 ∧ s0.uncertain = false ∧
      s0.cleanupRequired = false := ⟨hready, hfresh, rfl, hcertain, hclean⟩
  refine ⟨{ s0 with
    active := some ⟨input.turnId, 1, 0, none⟩
    turnIds := s0.turnIds ++ [input.turnId]
    userSeen := false
    finalSeen := false }, ⟨⟨?_, rfl, ?_, hid⟩, hpending, ?_⟩, rfl, rfl, hcertain, hclean⟩
  · change replayEvents input.sessionId s0 [⟨input.sessionId, input.turnId, 0 + 1, .turnStarted⟩] = _
    unfold replayEvents replayEvent requireIdentity startTurn
    rw [requireFact_iff.2 hid, ok_bind, requireFact_iff.2 rfl, ok_bind]
    dsimp only
    rw [requireFact_iff.2 hfact]
    rfl
  · intro event hevent reason code
    rw [List.mem_singleton.1 hevent]
    simp
  · intro id hmem
    rw [← hids]
    exact hmem

theorem appendUser_calm {t : Turn} {s : Replay} (h : Calm input s0 t s none) (hsteps : t.steps = 0)
    (huser : s.userSeen = false) (hfinal : s.finalSeen = false) (hcertain : s.uncertain = false)
    (hclean : s.cleanupRequired = false) :
    ∃ s', Calm input s0 (append input t (.user input.input) none none) s' none ∧ Continues s' := by
  have hsame : Recorded input s0 { t with messages := t.messages ++ [.user input.input] } s t.steps
      none :=
    ⟨h.recorded.replay, h.recorded.active, h.recorded.running, h.recorded.identity⟩
  have hfact : (none : Option ℕ) = none ∧ t.steps = 0 ∧ s.userSeen = false := ⟨rfl, hsteps, huser⟩
  refine ⟨{ s with
    active := some ⟨input.turnId, t.events.length + 1, t.steps, none⟩
    userSeen := true
    messages := s.messages ++ [.user input.input] },
    ⟨hsame.emit (by simp) (by simp) ?_ rfl, h.pending, h.ids⟩, ⟨rfl, hfinal, hcertain, hclean⟩⟩
  unfold extendTurn appendMessage acceptMessage addInput
  dsimp only [checkMessage]
  rw [ok_bind, requireFact_iff.2 (.inl rfl), ok_bind, requireFact_iff.2 hfact, ok_bind]
  rfl

theorem endTurn_replay {t : Turn} {s : Replay} {reason : EndReason} (code : Option String)
    (h : Calm input s0 t s none) (hends : Ends s reason) :
    ∃ s', replayEvents input.sessionId s0 (emit input t (.turnEnded reason code)).events = .ok s' ∧
      s'.active = none ∧ (s'.uncertain = true ∨ s'.cleanupRequired = true → reason = .error) ∧
      (reason = .completed → s'.finalSeen = true) := by
  refine ⟨{ s with active := none }, ?_, rfl, fun hbad => ?_, hends.completed⟩
  · have hevent : replayEvent input.sessionId s
        ⟨input.sessionId, input.turnId, t.events.length + 1, .turnEnded reason code⟩ =
          .ok { s with active := none } := by
      have hfact : (none : Option ℕ) = none ∧ s.pending = [] := ⟨rfl, h.pending⟩
      refine (replayEvent_of_extend ?_ ?_ ?_ h.recorded.active ?_).trans ?_
      · exact h.recorded.identity
      · rfl
      · simp
      · exact ⟨rfl, rfl⟩
      · unfold extendTurn endTurn
        dsimp only
        rw [requireFact_iff.2 hfact, ok_bind, requireFact_iff.2 hends.completed, ok_bind,
          requireFact_iff.2 hends.uncertain, ok_bind, requireFact_iff.2 hends.cleanup, ok_bind]
    change replayEvents input.sessionId s0 (t.events ++ [_]) = _
    rw [replayEvents_append, h.recorded.replay, ok_bind, replayEvents, hevent]
    rfl
  · exact hbad.elim hends.uncertain hends.cleanup

/-- The reason and the record before the last event. -/
theorem runTurn_eq (w : TurnWorld) (input : TurnInput) : ∃ reason t,
    runTurn w input = (emit input t (.turnEnded reason t.errorCode)).events ∧
    (reason = .error ∧ t.events = (emit input
        ⟨0, [], [], input.history.flatMap messageIds, 0, none⟩ .turnStarted).events ∧ t.steps = 0 ∧
        t.usedIds = input.history.flatMap messageIds ∨
      (reason, t) = loop w input input.maxSteps.toNat (append input (emit input
        ⟨0, [], [], input.history.flatMap messageIds, 0, none⟩ .turnStarted) (.user input.input) none none)) := by
  unfold runTurn
  dsimp only
  split_ifs
  · exact ⟨_, _, rfl, .inl ⟨rfl, rfl, rfl, rfl⟩⟩
  · exact ⟨_, _, rfl, .inl ⟨rfl, rfl, rfl, rfl⟩⟩
  · exact ⟨_, _, rfl, .inl ⟨rfl, rfl, rfl, rfl⟩⟩
  · exact ⟨_, _, rfl, .inr rfl⟩

/-- Every event of the Turn is accepted by the format, in order, and the last one alone ends the Turn. -/
theorem runTurn_accepted (limits : Limits) (document : SessionDocument) (s0 : Replay) (w : TurnWorld)
    (input : TurnInput) (hdocument : inspectDocument limits document = .ok s0)
    (hready : s0.disposition = .ready) (hhistory : input.history = s0.messages)
    (hsession : input.sessionId = document.sessionId) (hturn : identity input.turnId = true)
    (hfresh : input.turnId ∉ s0.turnIds) (hbounded : w.Bounded)
    (hfit : limits.Fit ⟨document.sessionId, document.events ++ runTurn w input⟩) (hplain : w.PlainCalls) :
    (∀ n, ∃ s, inspectDocument limits ⟨document.sessionId, document.events ++ (runTurn w input).take n⟩ = .ok s) ∧
    ∃ s events reason code, inspectDocument limits ⟨document.sessionId, document.events ++ runTurn w input⟩ = .ok s ∧
      s.active = none ∧ runTurn w input = events ++
        [⟨input.sessionId, input.turnId, events.length + 1, .turnEnded reason code⟩] ∧
      (∀ event ∈ events, ∀ reason code, event.data ≠ .turnEnded reason code) ∧
      (s.uncertain = true ∨ s.cleanupRequired = true → reason = .error) ∧
      (reason = .completed → s.finalSeen = true) := by
  obtain ⟨_, hreplay⟩ := inspectDocument_iff.1 hdocument
  have hsound := replayEvents_sound replay_empty_sound hreplay
  obtain ⟨hactive, hpending, hcertain, hclean⟩ := ready_facts hsound hready
  have hids : s0.callIds = input.history.flatMap messageIds := by rw [hhistory, hsound.calls]
  obtain ⟨s1, h1, huser, hfinal, hcertain1, hclean1⟩ :=
    startTurn_calm hturn hactive hfresh hpending hcertain hclean hids
  obtain ⟨reason, t, hrun, hcases⟩ := runTurn_eq w input
  have hcalm : ∃ s, Calm input s0 t s none ∧ Ends s reason := by
    rcases hcases with ⟨rfl, hevents, hsteps, hused⟩ | hloop
    · refine ⟨s1, ⟨⟨?_, ?_, ?_, hturn⟩, h1.pending, ?_⟩, ⟨by simp, by simp, by simp⟩⟩
      · rw [hevents]
        exact h1.recorded.replay
      · rw [hevents, hsteps]
        exact h1.recorded.active
      · rw [hevents]
        exact h1.recorded.running
      · rw [hused]
        exact h1.ids
    · obtain ⟨s2, h2, hcontinues⟩ := appendUser_calm h1 rfl huser hfinal hcertain1 hclean1
      obtain ⟨s3, h3, hends⟩ := loop_ends hbounded hplain input.maxSteps.toNat h2 hcontinues
      rw [← hloop] at h3 hends
      exact ⟨s3, h3, hends⟩
  obtain ⟨s, h, hends⟩ := hcalm
  obtain ⟨s', hlast, hinactive, herror, hcompleted⟩ := endTurn_replay t.errorCode h hends
  rw [← hrun, hsession] at hlast
  have hall : replayEvents document.sessionId Replay.empty (document.events ++ runTurn w input) =
      .ok s' := by
    rw [replayEvents_append, hreplay, ok_bind, hlast]
  constructor
  · intro n
    obtain ⟨mid, hmid⟩ := replayEvents_take hall (document.events.length + n)
    have htake : (document.events ++ runTurn w input).take (document.events.length + n) =
        document.events ++ (runTurn w input).take n := List.take_length_add_append _
    rw [htake] at hmid
    have hfits := hfit.take (document.events.length + n)
    dsimp only at hfits
    rw [htake] at hfits
    exact ⟨mid, inspectDocument_iff.2 ⟨hfits, hmid⟩⟩
  · exact ⟨s', t.events, reason, t.errorCode, inspectDocument_iff.2 ⟨hfit, hall⟩, hinactive, hrun,
      h.recorded.running, herror, hcompleted⟩

/-- One read by a tool that works, and then a final answer. The call has the fields `extra` besides. -/
def readWorld (extra : List (String × JsonData)) : TurnWorld where
  cancelAt := none
  pack := ⟨["read"], fun _ => true, fun _ => true⟩
  context _ := .built false
  provider step :=
    if step = 1 then .returns (some (.obj [("kind", .str "tool_calls"), ("content", .str ""),
      ("calls", .arr [.obj ([("id", .str "c1"), ("name", .str "read"), ("arguments", .obj [])] ++
        extra)])]))
    else .returns (some (.obj [("kind", .str "final"), ("content", .str "done")]))
  call _ _ := ⟨.valid, .lease false, .allowed,
    .returns (some (.obj [("ok", .bool true), ("content", .str "text")])), true⟩
  argumentsFit _ := true

def lookInput : TurnInput := ⟨"session", "turn", 2, "look", []⟩

theorem readWorld_answers {step : ℕ} {calls : List ToolCall} (h : (readWorld []).Answers step calls) :
    calls = [⟨"c1", "read", .obj [], []⟩] := by
  obtain ⟨raw, usedIds, content, hraw, hresponse⟩ := h
  by_cases hstep : step = 1
  · have hvalue : raw = _ := (Answer.returns.inj (hraw.symm.trans (if_pos hstep)))
    have hid : isNonempty "c1" = true := by rfl
    have hname : isNonempty "read" = true := by rfl
    rw [hvalue] at hresponse
    simp [response, readWorld, readCalls, readCall, JsonData.member?, hid, hname] at hresponse
    exact hresponse.2.2.symm
  · have hvalue : raw = _ := (Answer.returns.inj (hraw.symm.trans (if_neg hstep)))
    rw [hvalue] at hresponse
    simp [response, readWorld, JsonData.member?] at hresponse

theorem readWorld_bounded : (readWorld []).Bounded := by
  refine ⟨fun step calls hcalls call hcall => ?_, fun step index => ⟨?_, ?_⟩⟩
  · rw [readWorld_answers hcalls, List.mem_singleton] at hcall
    rw [hcall]
    exact ⟨by decide, by decide⟩
  · intro error herror
    cases herror
  · intro value error hvalue herror
    cases hvalue
    simp [JsonData.member?] at herror

theorem readWorld_plain : (readWorld []).PlainCalls := by
  intro step calls hcalls call hcall
  rw [readWorld_answers hcalls, List.mem_singleton] at hcall
  rw [hcall]

theorem runTurn_accepted_sample :
    ∃ s, inspectDocument unlimited
      ⟨"session", [] ++ (runTurn (readWorld []) lookInput).take 4⟩ = .ok s :=
  (runTurn_accepted unlimited ⟨"session", []⟩ Replay.empty (readWorld []) lookInput
    (inspectDocument_iff.2 ⟨⟨by rfl, by simp, by simp [documentBytes, unlimited], by simp⟩, rfl⟩)
    rfl rfl rfl (by rfl) (by simp [Replay.empty]) readWorld_bounded
    ⟨by decide, by decide, by decide, fun _ _ => rfl⟩ readWorld_plain).1 4

/-- A call with a field of its own is accepted from the model, run and recorded, and not read back. -/
theorem extra_field_rejected :
    inspectDocument unlimited ⟨"session", []⟩ = .ok Replay.empty ∧
      Replay.empty.disposition = .ready ∧ lookInput.history = Replay.empty.messages ∧
      (inspectDocument unlimited
        ⟨"session", runTurn (readWorld [("extra", .bool true)]) lookInput⟩).isOk = false := by
  refine ⟨?_, rfl, rfl, by rfl⟩
  exact inspectDocument_iff.2 ⟨⟨by rfl, by simp, by simp [documentBytes, unlimited], by simp⟩, rfl⟩

end Turn

end Session
