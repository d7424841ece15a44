import Mathlib.Data.List.Induction
import Yui.AcpSession

/-!
# One owner and an exact answer

In every run of a Session a slot is given away only when everybody who had it before got the terminal, and a
terminal only comes from the response to the request of its owner. The text of a terminal is what came in since
the reservation, as long as no failed reply empties the buffer of a Turn in flight.
-/

open EventJournal

namespace AcpSession

def Reserved (requestId : ℕ) (journal : List Entry) : Prop :=
  ∃ attemptId, Entry.reserved requestId attemptId ∈ journal

def Answered (requestId : ℕ) (journal : List Entry) : Prop :=
  ∃ terminal, Entry.answered requestId terminal ∈ journal

def chunkText : Entry → Option String
  | .chunk text => some text
  | _ => none

/-- The texts that came in since the request was reserved. -/
def chunksSince (requestId : ℕ) : List Entry → List String
  | [] => []
  | .reserved owner _ :: later =>
    if owner = requestId then later.filterMap chunkText else chunksSince requestId later
  | _ :: later => chunksSince requestId later

/-- A slot is given to a new request when every earlier one, and in particular every one whose delivery is
unknown, is answered. A terminal belongs to a reserved attempt that has none yet. -/
def OneOwner (before : List Entry) : Entry → Prop
  | .reserved requestId _ =>
    ¬ Reserved requestId before ∧
    (∀ other, Reserved other before → Answered other before) ∧
    ∀ other, Entry.ended other false ∈ before → Answered other before
  | .answered requestId terminal =>
    Entry.reserved requestId terminal.attemptId ∈ before ∧ ¬ Answered requestId before
  | _ => True

def ExactAnswer (before : List Entry) : Entry → Prop
  | .answered requestId terminal =>
    ∀ text, terminal.output = some text → text = String.join (chunksSince requestId before)
  | _ => True

/-- A terminal that the event adds comes from a response with the id of its request. -/
def Session.FromResponse (s : Session) (event : Event) : Prop :=
  ∀ requestId terminal, Entry.answered requestId terminal ∈ (s.step event).journal →
    Entry.answered requestId terminal ∈ s.journal ∨ ∃ body, event = .response (some requestId) body

/-- The reply fails when the pipe is closed, when no Turn waits for its answer, or before the Turn in flight has
any text. -/
def Session.Harmless (s : Session) : Event → Prop
  | .replyFailed =>
    s.channelClosed = true ∨ s.promptSettle = none ∨
      (String.join s.answer = "" ∧ s.answerOverflowed = false)
  | _ => True

variable {s : Session} {journal : List Entry} {requestId : ℕ} {entry : Entry}

theorem Reserved.snoc (h : Reserved requestId journal) (entry : Entry) : Reserved requestId (journal ++ [entry]) := by
  obtain ⟨attemptId, hmem⟩ := h
  exact ⟨attemptId, List.mem_append_left _ hmem⟩

theorem Answered.snoc (h : Answered requestId journal) (entry : Entry) : Answered requestId (journal ++ [entry]) := by
  obtain ⟨terminal, hmem⟩ := h
  exact ⟨terminal, List.mem_append_left _ hmem⟩

variable {owner : ℕ} {attemptId : String}

theorem reserved_snoc_reserved : Reserved requestId (journal ++ [Entry.reserved owner attemptId]) ↔
      Reserved requestId journal ∨ requestId = owner := by
  simp [Reserved, exists_or]

variable {terminal : Terminal}

theorem answered_snoc_answered : Answered requestId (journal ++ [Entry.answered owner terminal]) ↔
      Answered requestId journal ∨ requestId = owner := by
  simp [Answered, exists_or]

theorem reserved_snoc_iff (h : ∀ owner attemptId, entry ≠ .reserved owner attemptId) :
    Reserved requestId (journal ++ [entry]) ↔ Reserved requestId journal := by
  refine ⟨?_, fun hres => hres.snoc entry⟩
  rintro ⟨attemptId, hmem⟩
  obtain hmem | hlast := List.mem_append.1 hmem
  · exact ⟨attemptId, hmem⟩
  · exact absurd (List.mem_singleton.1 hlast).symm (h requestId attemptId)

theorem answered_snoc_iff (h : ∀ owner terminal, entry ≠ .answered owner terminal) :
    Answered requestId (journal ++ [entry]) ↔ Answered requestId journal := by
  refine ⟨?_, fun hans => hans.snoc entry⟩
  rintro ⟨terminal, hmem⟩
  obtain hmem | hlast := List.mem_append.1 hmem
  · exact ⟨terminal, hmem⟩
  · exact absurd (List.mem_singleton.1 hlast).symm (h requestId terminal)

theorem chunksSince_snoc (h : Reserved requestId journal) (entry : Entry) :
    chunksSince requestId (journal ++ [entry]) = chunksSince requestId journal ++ (chunkText entry).toList := by
  induction journal with
  | nil => simp [Reserved] at h
  | cons head later ih =>
    have htail : (∀ attemptId, head ≠ .reserved requestId attemptId) → Reserved requestId later := by
      intro hhead
      obtain ⟨attemptId, hmem⟩ := h
      obtain rfl | hmem := List.mem_cons.1 hmem
      · exact absurd rfl (hhead attemptId)
      · exact ⟨attemptId, hmem⟩
    cases head with
    | reserved owner attemptId =>
      by_cases howner : owner = requestId
      · simp only [chunksSince, List.cons_append, howner, if_true, List.filterMap_append]
        cases hentry : chunkText entry <;> simp [hentry]
      · simp only [chunksSince, List.cons_append, howner, if_false]
        exact ih (htail fun _ heq => howner (Entry.reserved.inj heq).1)
    | refused attemptId => exact ih (htail fun _ heq => by cases heq)
    | chunk text => exact ih (htail fun _ heq => by cases heq)
    | answered owner terminal => exact ih (htail fun _ heq => by cases heq)
    | ended owner accepted => exact ih (htail fun _ heq => by cases heq)

theorem chunksSince_fresh (h : ¬ Reserved requestId journal) (attemptId : String) :
    chunksSince requestId (journal ++ [Entry.reserved requestId attemptId]) = [] := by
  induction journal with
  | nil => simp [chunksSince]
  | cons head later ih =>
    have htail : ¬ Reserved requestId later := fun ⟨attemptId, hmem⟩ => h ⟨attemptId, List.mem_cons_of_mem _ hmem⟩
    cases head with
    | reserved owner other =>
      have howner : owner ≠ requestId := by
        rintro rfl
        exact h ⟨other, List.mem_cons_self⟩
      simp only [chunksSince, List.cons_append, howner, if_false]
      exact ih htail
    | refused attemptId => exact ih htail
    | chunk text => exact ih htail
    | answered owner terminal => exact ih htail
    | ended owner accepted => exact ih htail

theorem Session.fail_cases (s : Session) :
    (s.promptSettle = none ∧ s.fail = { s with closed := true, pending := [] }) ∨
    ∃ owner, s.promptSettle = some owner ∧
      s.fail = ({ s with closed := true, pending := [], promptSettle := none }.resetAnswer).settle owner false := by
  unfold Session.fail
  cases hsettle : s.promptSettle with
  | none => exact .inl ⟨rfl, rfl⟩
  | some owner => exact .inr ⟨owner, rfl, rfl⟩

/-- The slot and the buffer are given up with the terminal. -/
def Session.giveTerminal (s : Session) (requestId : ℕ) (terminal : Terminal) : Session :=
  ({ s with activeAttemptId := none, promptRequestId := none }.resetAnswer).log (.answered requestId terminal)

theorem Session.settlePrompt_cases (hactive : s.activeAttemptId = some attemptId)
    (requestId : ℕ) (body : PromptResponse) : ∃ settled : Session, (settled = { s with promptSettle := none } ∨
        ∃ owner, s.promptSettle = some owner ∧ settled = { s with promptSettle := none }.settle owner true) ∧
      s.settlePrompt requestId body = settled.giveTerminal requestId (terminalOf attemptId s.takeAnswer body) := by
  unfold Session.settlePrompt
  rw [hactive]
  cases hsettle : s.promptSettle with
  | none => exact ⟨_, .inl rfl, rfl⟩
  | some owner =>
    refine ⟨_, .inr ⟨owner, rfl, rfl⟩, ?_⟩
    by_cases hwriting : owner ∈ s.writing <;>
      simp [Session.settle, Session.resetAnswer, Session.giveTerminal, Session.log, hwriting]

@[simp] theorem Session.settle_promptRequestId (s : Session) (requestId : ℕ) (accepted : Bool) :
    (s.settle requestId accepted).promptRequestId = s.promptRequestId := by
  unfold Session.settle
  split <;> rfl

@[simp] theorem Session.settle_activeAttemptId (s : Session) (requestId : ℕ) (accepted : Bool) :
    (s.settle requestId accepted).activeAttemptId = s.activeAttemptId := by
  unfold Session.settle
  split <;> rfl

@[simp] theorem terminalOf_attemptId (attemptId : String) (answer : Option String) (body : PromptResponse) :
    (terminalOf attemptId answer body).attemptId = attemptId := by
  rcases body with _ | _ | _ <;> rfl

theorem terminalOf_output {answer : Option String} {body : PromptResponse} {text : String}
    (h : (terminalOf attemptId answer body).output = some text) : answer = some text := by
  rcases body with _ | _ | _
  · cases h
  · cases h
  · exact h

theorem chunksSince_settle (h : Reserved requestId s.journal) (owner : ℕ) (accepted : Bool) :
    chunksSince requestId (s.settle owner accepted).journal = chunksSince requestId s.journal := by
  unfold Session.settle
  split
  · rfl
  · exact (chunksSince_snoc h _).trans (List.append_nil _)

/-- The slot belongs to the one request that is reserved and not answered. -/
structure Owned (s : Session) : Prop where
  throughout : Throughout OneOwner s.journal
  below : ∀ requestId, Reserved requestId s.journal → requestId < s.nextRequestId
  settled : ∀ requestId, Reserved requestId s.journal →
    Answered requestId s.journal ∨ s.promptRequestId = some requestId
  slot : ∀ requestId, s.promptRequestId = some requestId →
    ∃ attemptId, s.activeAttemptId = some attemptId ∧ Entry.reserved requestId attemptId ∈ s.journal ∧
      ¬ Answered requestId s.journal
  free : s.promptRequestId = none → s.activeAttemptId = none
  ended : ∀ requestId accepted, Entry.ended requestId accepted ∈ s.journal → Reserved requestId s.journal
  settles : ∀ requestId, s.promptSettle = some requestId → Reserved requestId s.journal
  writes : ∀ requestId ∈ s.writing, Reserved requestId s.journal

namespace Owned

theorem initial : Owned {} where
  throughout := Throughout.nil _
  below := by simp [Reserved]
  settled := by simp [Reserved]
  slot := by simp
  free := fun _ => rfl
  ended := by simp
  settles := by simp
  writes := by simp

/-- An entry that neither takes nor frees the slot. -/
theorem log (h : Owned s) (hreserved : ∀ owner attemptId, entry ≠ .reserved owner attemptId)
    (hanswered : ∀ owner terminal, entry ≠ .answered owner terminal)
    (hended : ∀ owner accepted, entry = .ended owner accepted → Reserved owner s.journal) : Owned (s.log entry) where
  throughout := by
    refine h.throughout.snoc ?_
    cases entry with
    | reserved owner attemptId => exact absurd rfl (hreserved owner attemptId)
    | answered owner terminal => exact absurd rfl (hanswered owner terminal)
    | refused attemptId => trivial
    | chunk text => trivial
    | ended owner accepted => trivial
  below requestId hres := h.below requestId ((reserved_snoc_iff hreserved).1 hres)
  settled requestId hres :=
    (h.settled requestId ((reserved_snoc_iff hreserved).1 hres)).imp_left fun hans => hans.snoc entry
  slot requestId hprompt := by
    obtain ⟨attemptId, hactive, hmem, hans⟩ := h.slot requestId hprompt
    exact ⟨attemptId, hactive, List.mem_append_left _ hmem,
      fun hlater => hans ((answered_snoc_iff hanswered).1 hlater)⟩
  free := h.free
  ended requestId accepted hmem := by
    obtain hmem | hlast := List.mem_append.1 hmem
    · exact (h.ended requestId accepted hmem).snoc entry
    · exact (hended requestId accepted (List.mem_singleton.1 hlast).symm).snoc entry
  settles requestId hsettle := (h.settles requestId hsettle).snoc entry
  writes requestId hmem := (h.writes requestId hmem).snoc entry

theorem logEnded (h : Owned s) (hres : Reserved requestId s.journal) (accepted : Bool) :
    Owned (s.log (.ended requestId accepted)) := by
  refine h.log nofun nofun ?_
  intro owner other heq
  cases heq
  exact hres

/-- The settle callback is given up, and writes complete. -/
theorem release (h : Owned s) {writing : List ℕ} (hsub : writing ⊆ s.writing) :
    Owned { s with promptSettle := none, writing := writing } :=
  { h with
    settles := by simp
    writes := fun requestId hmem => h.writes requestId (hsub hmem) }

theorem settle (h : Owned s) (hres : Reserved requestId s.journal) (accepted : Bool) :
    Owned (s.settle requestId accepted) := by
  unfold Session.settle
  split
  · exact { h with }
  · exact h.logEnded hres accepted

theorem fail (h : Owned s) : Owned s.fail := by
  obtain ⟨-, heq⟩ | ⟨owner, hsettle, heq⟩ := s.fail_cases
  · rw [heq]
    exact { h with }
  · have hreleased : Owned ({ s with closed := true, pending := [], promptSettle := none }.resetAnswer) :=
      { h with settles := by simp [Session.resetAnswer] }
    rw [heq]
    exact hreleased.settle (h.settles owner hsettle) false

theorem writeFailed (h : Owned s) (hmem : requestId ∈ s.writing) : Owned (s.writeFailed requestId) :=
  (h.release List.erase_subset).logEnded (h.writes requestId hmem) false

theorem writeDone (h : Owned s) (requestId : ℕ) (succeeded : Bool) : Owned (s.writeDone requestId succeeded) := by
  unfold Session.writeDone
  split
  · exact h
  · rename_i hmem
    have hmem : requestId ∈ s.writing := by simpa using hmem
    split
    · exact h.writeFailed hmem
    · have hwritten : Owned { s with writing := s.writing.erase requestId } :=
        { h with writes := fun other hother => h.writes other (List.mem_of_mem_erase hother) }
      split
      · exact hwritten
      · exact hwritten.logEnded (h.writes requestId hmem) _

theorem reserve (h : Owned s) (hfree : s.activeAttemptId = none) (attemptId : String) : Owned (({ s with
      nextRequestId := s.nextRequestId + 1
      activeAttemptId := some attemptId
      promptRequestId := some s.nextRequestId
      promptSettle := some s.nextRequestId
      writing := s.nextRequestId :: s.writing }.resetAnswer).log (.reserved s.nextRequestId attemptId)) := by
  have hfresh : ¬ Reserved s.nextRequestId s.journal := fun hres => absurd (h.below _ hres) (Nat.lt_irrefl _)
  have hnone : s.promptRequestId = none := by
    cases hprompt : s.promptRequestId with
    | none => rfl
    | some owner =>
      obtain ⟨active, hactive, -⟩ := h.slot owner hprompt
      rw [hfree] at hactive
      cases hactive
  have hanswered : ∀ other, Reserved other s.journal → Answered other s.journal := by
    intro other hres
    obtain hans | hprompt := h.settled other hres
    · exact hans
    · rw [hnone] at hprompt
      cases hprompt
  have hnew : Reserved s.nextRequestId (s.journal ++ [.reserved s.nextRequestId attemptId]) :=
    reserved_snoc_reserved.2 (.inr rfl)
  refine ⟨?_, ?_, ?_, ?_, ?_, ?_, ?_, ?_⟩
  · exact h.throughout.snoc ⟨hfresh, hanswered, fun other hended => hanswered other (h.ended other false hended)⟩
  · intro other hres
    obtain hres | rfl := reserved_snoc_reserved.1 hres
    · exact Nat.lt_succ_of_lt (h.below other hres)
    · exact Nat.lt_succ_self _
  · intro other hres
    obtain hres | rfl := reserved_snoc_reserved.1 hres
    · exact .inl ((hanswered other hres).snoc _)
    · exact .inr rfl
  · intro other hprompt
    cases hprompt
    refine ⟨attemptId, rfl, List.mem_append_right _ List.mem_cons_self, ?_⟩
    intro hans
    obtain ⟨terminal, hmem⟩ := (answered_snoc_iff fun _ _ heq => by cases heq).1 hans
    -- An answered request was reserved before, and the new id is above all of these.
    obtain ⟨before, later, heq⟩ := List.append_of_mem hmem
    have hearlier := (h.throughout before _ later heq).1
    exact hfresh ⟨terminal.attemptId, heq ▸ List.mem_append_left _ hearlier⟩
  · intro hprompt
    cases hprompt
  · intro other accepted hmem
    obtain hmem | hlast := List.mem_append.1 hmem
    · exact (h.ended other accepted hmem).snoc _
    · cases List.mem_singleton.1 hlast
  · intro other hsettle
    cases hsettle
    exact hnew
  · intro other hmem
    obtain rfl | hmem := List.mem_cons.1 hmem
    · exact hnew
    · exact (h.writes other hmem).snoc _

theorem submitTurn (h : Owned s) (attemptId : String) : Owned (s.submitTurn attemptId) := by
  unfold Session.submitTurn
  split
  · exact h.log (by simp) (by simp) (by simp)
  · rename_i hfree
    have hreserved := h.reserve (by simpa using hfree) attemptId
    split
    · exact hreserved.writeFailed List.mem_cons_self
    · exact hreserved

theorem giveTerminal (h : Owned s) (hprompt : s.promptRequestId = some requestId) {terminal : Terminal}
    (hactive : s.activeAttemptId = some terminal.attemptId) : Owned (s.giveTerminal requestId terminal) := by
  obtain ⟨attemptId, hfound, hmem, hans⟩ := h.slot requestId hprompt
  obtain rfl : terminal.attemptId = attemptId := Option.some.inj (hactive.symm.trans hfound)
  have hkept : ∀ {other}, Reserved other (s.journal ++ [Entry.answered requestId terminal]) →
      Reserved other s.journal := (reserved_snoc_iff fun _ _ heq => by cases heq).1
  refine ⟨?_, ?_, ?_, ?_, ?_, ?_, ?_, ?_⟩
  · exact h.throughout.snoc ⟨hmem, hans⟩
  · exact fun other hres => h.below other (hkept hres)
  · intro other hres
    refine .inl (answered_snoc_answered.2 ?_)
    obtain hother | hother := h.settled other (hkept hres)
    · exact .inl hother
    · exact .inr (Option.some.inj (hother.symm.trans hprompt))
  · intro other hother
    cases hother
  · exact fun _ => rfl
  · intro other accepted hother
    obtain hother | hlast := List.mem_append.1 hother
    · exact (h.ended other accepted hother).snoc _
    · cases List.mem_singleton.1 hlast
  · exact fun other hsettle => (h.settles other hsettle).snoc _
  · exact fun other hwriting => (h.writes other hwriting).snoc _

theorem settlePrompt (h : Owned s) (hprompt : s.promptRequestId = some requestId) (body : PromptResponse) :
    Owned (s.settlePrompt requestId body) := by
  obtain ⟨attemptId, hactive, -⟩ := h.slot requestId hprompt
  obtain ⟨settled, hsettled, heq⟩ := Session.settlePrompt_cases hactive requestId body
  have hreleased : Owned { s with promptSettle := none } := h.release (List.Subset.refl _)
  rw [heq]
  obtain rfl | ⟨owner, hsettle, rfl⟩ := hsettled
  · exact hreleased.giveTerminal hprompt (hactive.trans (by rw [terminalOf_attemptId]))
  · refine (hreleased.settle (h.settles owner hsettle) true).giveTerminal ?_ ?_
    · rw [Session.settle_promptRequestId, hprompt]
    · rw [Session.settle_activeAttemptId, hactive, terminalOf_attemptId]

theorem response (h : Owned s) (id : Option ℕ) (body : PromptResponse) : Owned (s.response id body) := by
  unfold Session.response
  cases id with
  | none => exact h
  | some id =>
    by_cases hprompt : s.promptRequestId = some id
    · simp only [hprompt, if_true]
      exact h.settlePrompt hprompt body
    · simp only [hprompt, if_false]
      exact { h with }

theorem adopt (h : Owned s) (text : String) : Owned (s.adopt text) := by
  unfold Session.adopt
  split
  · exact h
  · split <;> exact { h with }

theorem step (h : Owned s) (event : Event) : Owned (s.step event) := by
  cases event with
  | submitTurn attemptId => exact h.submitTurn attemptId
  | writeDone requestId succeeded => exact h.writeDone requestId succeeded
  | request =>
    simp only [Session.step, Session.request]
    split
    · exact h
    · exact { h with below := fun other hres => Nat.lt_succ_of_lt (h.below other hres) }
  | requestFailed requestId => exact { h with }
  | response id body =>
    simp only [Session.step]
    split
    · exact h
    · exact h.response id body
  | agentMessage text =>
    simp only [Session.step]
    split
    · exact h
    · exact (h.adopt text).log (by simp) (by simp)
        (by simp)
  | otherMessage => exact h
  | replyFailed => exact h.fail
  | transportClosed =>
    simp only [Session.step]
    split
    · exact h
    · exact fail { h with }

end Owned

theorem mem_log {added : Entry} (h : entry ∈ (s.log added).journal) : entry ∈ s.journal ∨ entry = added := by
  simpa [Session.log] using h

theorem answered_settle {accepted : Bool}
    (h : Entry.answered requestId terminal ∈ (s.settle owner accepted).journal) :
    Entry.answered requestId terminal ∈ s.journal := by
  unfold Session.settle at h
  split at h
  · exact h
  · obtain h | h := mem_log h
    · exact h
    · cases h

theorem answered_fail (h : Entry.answered requestId terminal ∈ s.fail.journal) :
    Entry.answered requestId terminal ∈ s.journal := by
  obtain ⟨-, heq⟩ | ⟨owner, -, heq⟩ := s.fail_cases
  · rwa [heq] at h
  · rw [heq] at h
    have hbefore := answered_settle h
    exact hbefore

theorem answered_writeFailed (h : Entry.answered requestId terminal ∈ (s.writeFailed owner).journal) :
    Entry.answered requestId terminal ∈ s.journal := by
  obtain h | h := mem_log h
  · exact h
  · cases h

theorem answered_submitTurn (h : Entry.answered requestId terminal ∈ (s.submitTurn attemptId).journal) :
    Entry.answered requestId terminal ∈ s.journal := by
  unfold Session.submitTurn at h
  split at h
  · obtain h | h := mem_log h
    · exact h
    · cases h
  · have hreserved : Entry.answered requestId terminal ∈
        s.journal ++ [Entry.reserved s.nextRequestId attemptId] := by
      split at h
      · exact answered_writeFailed h
      · exact h
    simpa using hreserved

theorem answered_writeDone {succeeded : Bool}
    (h : Entry.answered requestId terminal ∈ (s.writeDone owner succeeded).journal) :
    Entry.answered requestId terminal ∈ s.journal := by
  unfold Session.writeDone at h
  split at h
  · exact h
  · split at h
    · exact answered_writeFailed h
    · split at h
      · exact h
      · obtain h | h := mem_log h
        · exact h
        · cases h

theorem answered_response {id : Option ℕ} {body : PromptResponse}
    (h : Entry.answered requestId terminal ∈ (s.response id body).journal) :
    Entry.answered requestId terminal ∈ s.journal ∨ id = some requestId := by
  unfold Session.response at h
  cases id with
  | none => exact .inl h
  | some id =>
    by_cases hprompt : s.promptRequestId = some id
    · simp only [hprompt, if_true] at h
      cases hactive : s.activeAttemptId with
      | none =>
        simp only [Session.settlePrompt, hactive] at h
        exact .inl h
      | some attemptId =>
        obtain ⟨settled, hsettled, heq⟩ := Session.settlePrompt_cases hactive id body
        rw [heq] at h
        obtain h | h := mem_log h
        · left
          obtain rfl | ⟨owner, -, rfl⟩ := hsettled
          · exact h
          · have hbefore := answered_settle (s := { s with promptSettle := none }) h
            exact hbefore
        · exact .inr (congrArg some (Entry.answered.inj h).1.symm)
    · simp only [hprompt, if_false] at h
      exact .inl h

theorem Session.adopt_cases (s : Session) (text : String) :
    ((s.activeAttemptId = none ∨ s.answerOverflowed = true) ∧ s.adopt text = s) ∨
    s.adopt text = { s with answerOverflowed := true, answer := [], answerBytes := 0 } ∨ s.adopt text =
      { s with answer := s.answer ++ [text], answerBytes := s.answerBytes + text.utf8ByteSize } := by
  unfold Session.adopt
  split
  · rename_i hskip
    exact .inl ⟨hskip, rfl⟩
  · split
    · exact .inr (.inl rfl)
    · exact .inr (.inr rfl)

theorem adopt_journal (s : Session) (text : String) : (s.adopt text).journal = s.journal := by
  obtain ⟨-, heq⟩ | heq | heq := s.adopt_cases text <;> rw [heq]

theorem Session.step_fromResponse (s : Session) (event : Event) : s.FromResponse event := by
  intro requestId terminal h
  cases event with
  | submitTurn attemptId => exact .inl (answered_submitTurn h)
  | writeDone owner succeeded => exact .inl (answered_writeDone h)
  | request =>
    simp only [Session.step, Session.request] at h
    split at h <;> exact .inl h
  | requestFailed owner => exact .inl h
  | response id body =>
    simp only [Session.step] at h
    split at h
    · exact .inl h
    · exact (answered_response h).imp_right fun hid => ⟨body, by rw [hid]⟩
  | agentMessage text =>
    simp only [Session.step] at h
    split at h
    · exact .inl h
    · obtain h | h := mem_log h
      · exact .inl (by rwa [adopt_journal] at h)
      · cases h
  | otherMessage => exact .inl h
  | replyFailed => exact .inl (answered_fail h)
  | transportClosed =>
    simp only [Session.step] at h
    split at h
    · exact .inl h
    · exact .inl (answered_fail (s := { s with channelClosed := true }) h)

/-- While messages still come in, the buffer holds what came in since the reservation. -/
structure Exact (s : Session) : Prop where
  answers : Throughout ExactAnswer s.journal
  buffer : s.channelClosed = false → s.answerOverflowed = false →
    ∀ requestId, s.promptRequestId = some requestId →
      String.join s.answer = String.join (chunksSince requestId s.journal)

namespace Exact

theorem log (h : Exact s) (howned : Owned s) (hchunk : chunkText entry = none)
    (hanswer : ExactAnswer s.journal entry) : Exact (s.log entry) where
  answers := h.answers.snoc hanswer
  buffer hopen hfull requestId hprompt := by
    obtain ⟨attemptId, -, hmem, -⟩ := howned.slot requestId hprompt
    have hsince := chunksSince_snoc ⟨attemptId, hmem⟩ entry
    rw [hchunk, Option.toList_none, List.append_nil] at hsince
    exact (h.buffer hopen hfull requestId hprompt).trans (congrArg String.join hsince.symm)

theorem settle (h : Exact s) (howned : Owned s) (requestId : ℕ) (accepted : Bool) :
    Exact (s.settle requestId accepted) := by
  unfold Session.settle
  split
  · exact { h with }
  · exact h.log howned rfl trivial

theorem fail (h : Exact s) (howned : Owned s)
    (hharmless : s.channelClosed = true ∨ s.promptSettle = none ∨
      (String.join s.answer = "" ∧ s.answerOverflowed = false)) : Exact s.fail := by
  obtain ⟨-, heq⟩ | ⟨owner, hsettle, heq⟩ := s.fail_cases
  · rw [heq]
    exact { h with }
  · have hreleased : Owned ({ s with closed := true, pending := [], promptSettle := none }.resetAnswer) :=
      { howned with settles := by simp [Session.resetAnswer] }
    rw [heq]
    suffices hexact : Exact ({ s with closed := true, pending := [], promptSettle := none }.resetAnswer) from
      hexact.settle hreleased owner false
    refine ⟨h.answers, ?_⟩
    intro hopen _ requestId hprompt
    obtain hclosed | hnone | ⟨hempty, hfull⟩ := hharmless
    · exact absurd (hclosed.symm.trans hopen) (by simp)
    · rw [hnone] at hsettle
      cases hsettle
    · -- The buffer was empty already, so emptying it loses nothing.
      exact hempty.symm.trans (h.buffer hopen hfull requestId hprompt)

theorem writeFailed (h : Exact s) (howned : Owned s) (requestId : ℕ) : Exact (s.writeFailed requestId) :=
  log (s := { s with promptSettle := none, writing := s.writing.erase requestId }) { h with }
    (howned.release List.erase_subset) rfl trivial

theorem writeDone (h : Exact s) (howned : Owned s) (requestId : ℕ) (succeeded : Bool) :
    Exact (s.writeDone requestId succeeded) := by
  unfold Session.writeDone
  split
  · exact h
  · split
    · exact h.writeFailed howned requestId
    · have hwritten : Owned { s with writing := s.writing.erase requestId } :=
        { howned with writes := fun other hother => howned.writes other (List.mem_of_mem_erase hother) }
      split
      · exact { h with }
      · exact log { h with } hwritten rfl trivial

theorem submitTurn (h : Exact s) (howned : Owned s) (attemptId : String) : Exact (s.submitTurn attemptId) := by
  unfold Session.submitTurn
  split
  · exact h.log howned rfl trivial
  · rename_i hfree
    have hreserved := howned.reserve (by simpa using hfree) attemptId
    have hfresh : ¬ Reserved s.nextRequestId s.journal := fun hres => absurd (howned.below _ hres) (Nat.lt_irrefl _)
    have hexact : Exact (({ s with
        nextRequestId := s.nextRequestId + 1
        activeAttemptId := some attemptId
        promptRequestId := some s.nextRequestId
        promptSettle := some s.nextRequestId
        writing := s.nextRequestId :: s.writing }.resetAnswer).log (.reserved s.nextRequestId attemptId)) := by
      refine ⟨h.answers.snoc trivial, ?_⟩
      intro _ _ requestId hprompt
      cases hprompt
      exact congrArg String.join (chunksSince_fresh hfresh attemptId).symm
    split
    · exact hexact.writeFailed hreserved s.nextRequestId
    · exact hexact

theorem takeAnswer (h : Exact s) (hopen : s.channelClosed = false) (hprompt : s.promptRequestId = some requestId)
    {text : String} (htext : s.takeAnswer = some text) : text = String.join (chunksSince requestId s.journal) := by
  unfold Session.takeAnswer at htext
  split at htext
  · cases htext
  · rename_i hfull
    split at htext
    · cases htext
    · cases htext
      exact h.buffer hopen (by simpa using (not_or.1 hfull).1) requestId hprompt

/-- Without a slot there is nothing to keep. -/
theorem giveTerminal (h : Exact s) {terminal : Terminal}
    (hanswer : ExactAnswer s.journal (.answered requestId terminal)) : Exact (s.giveTerminal requestId terminal) where
  answers := h.answers.snoc hanswer
  buffer _ _ _ hprompt := by cases hprompt

theorem settlePrompt (h : Exact s) (howned : Owned s) (hopen : s.channelClosed = false)
    (hprompt : s.promptRequestId = some requestId) (body : PromptResponse) :
    Exact (s.settlePrompt requestId body) := by
  obtain ⟨attemptId, hactive, hmem, -⟩ := howned.slot requestId hprompt
  obtain ⟨settled, hsettled, heq⟩ := Session.settlePrompt_cases hactive requestId body
  have hreleased : Owned { s with promptSettle := none } := howned.release (List.Subset.refl _)
  have houtput : ∀ text, (terminalOf attemptId s.takeAnswer body).output = some text →
      text = String.join (chunksSince requestId s.journal) :=
    fun text htext => h.takeAnswer hopen hprompt (terminalOf_output htext)
  have hkept : Exact { s with promptSettle := none } := ⟨h.answers, h.buffer⟩
  rw [heq]
  obtain rfl | ⟨owner, hsettle, rfl⟩ := hsettled
  · exact hkept.giveTerminal houtput
  · refine (hkept.settle hreleased owner true).giveTerminal fun text htext => ?_
    have hsince : chunksSince requestId ({ s with promptSettle := none }.settle owner true).journal =
        chunksSince requestId s.journal :=
      chunksSince_settle (s := { s with promptSettle := none }) ⟨attemptId, hmem⟩ owner true
    rw [hsince]
    exact houtput text htext

theorem response (h : Exact s) (howned : Owned s) (hopen : s.channelClosed = false) (id : Option ℕ)
    (body : PromptResponse) : Exact (s.response id body) := by
  unfold Session.response
  cases id with
  | none => exact h
  | some id =>
    by_cases hprompt : s.promptRequestId = some id
    · simp only [hprompt, if_true]
      exact h.settlePrompt howned hopen hprompt body
    · simp only [hprompt, if_false]
      exact { h with }

/-- The text is kept, or dropped with all the others. -/
theorem agentMessage (h : Exact s) (howned : Owned s) (text : String) : Exact ((s.adopt text).log (.chunk text)) := by
  refine ⟨?_, ?_⟩
  · rw [Session.log, adopt_journal]
    exact h.answers.snoc trivial
  · intro hopen hfull requestId hprompt
    obtain ⟨hskip, heq⟩ | heq | heq := s.adopt_cases text <;> rw [heq] at hopen hfull hprompt ⊢
    · obtain hnone | hover := hskip
      · obtain ⟨attemptId, hactive, -⟩ := howned.slot requestId hprompt
        rw [hnone] at hactive
        cases hactive
      · exact absurd (hover.symm.trans hfull) (by simp)
    · cases hfull
    · obtain ⟨attemptId, -, hmem, -⟩ := howned.slot requestId hprompt
      have hsince := chunksSince_snoc ⟨attemptId, hmem⟩ (.chunk text)
      have hbuffer := h.buffer hopen hfull requestId hprompt
      simp only [Session.log, hsince, chunkText, Option.toList_some, String.join_append, hbuffer]

theorem initial : Exact {} := ⟨Throughout.nil _, by simp⟩

theorem step (h : Exact s) (howned : Owned s) {event : Event} (hharmless : s.Harmless event) :
    Exact (s.step event) := by
  cases event with
  | submitTurn attemptId => exact h.submitTurn howned attemptId
  | writeDone requestId succeeded => exact h.writeDone howned requestId succeeded
  | request =>
    simp only [Session.step, Session.request]
    split <;> exact { h with }
  | requestFailed requestId => exact { h with }
  | response id body =>
    simp only [Session.step]
    split
    · exact h
    · rename_i hopen
      exact h.response howned (by simpa using hopen) id body
  | agentMessage text =>
    simp only [Session.step]
    split
    · exact h
    · exact h.agentMessage howned text
  | otherMessage => exact h
  | replyFailed => exact h.fail howned hharmless
  | transportClosed =>
    simp only [Session.step]
    split
    · exact h
    · -- No message comes in any more.
      exact fail ⟨h.answers, fun hopen => by cases hopen⟩ { howned with } (.inl rfl)

end Exact

theorem run_snoc (events : List Event) (event : Event) :
    Session.run (events ++ [event]) = (Session.run events).step event := by
  simp [Session.run]

theorem run_owned (events : List Event) : Owned (Session.run events) := by
  induction events using List.reverseRecOn with
  | nil => exact Owned.initial
  | append_singleton events event ih =>
    rw [run_snoc]
    exact ih.step event

/-- Every event of the run meets the condition in the state that it meets. -/
def Harmless (events : List Event) : Prop :=
  Throughout (fun before event => (Session.run before).Harmless event) events

theorem run_exact {events : List Event} (h : Harmless events) : Exact (Session.run events) := by
  induction events using List.reverseRecOn with
  | nil => exact Exact.initial
  | append_singleton events event ih =>
    have hbefore : Harmless events := fun before found later heq =>
      h before found (later ++ [event]) (by simp [heq])
    rw [run_snoc]
    exact (ih hbefore).step (run_owned events) (h events event [] rfl)

/-- The slot has one owner, and a terminal comes once and from the response to the request of its attempt. -/
structure OneOwnerTurns (events : List Event) : Prop where
  owner : Throughout OneOwner (Session.run events).journal
  response : Throughout (fun before event => (Session.run before).FromResponse event) events

/-- The text of a terminal is all of what came in since the reservation, or nothing. -/
structure OneOwnerExactAnswer (events : List Event) : Prop extends OneOwnerTurns events where
  answer : Throughout ExactAnswer (Session.run events).journal

/-- Every run has one owner, and the exact text when its failed replies hit no Turn that has text already. -/
theorem turn_owned_and_exact (events : List Event) :
    OneOwnerTurns events ∧ (Harmless events → OneOwnerExactAnswer events) := by
  have howned : OneOwnerTurns events :=
    ⟨(run_owned events).throughout, fun before event _ _ => (Session.run before).step_fromResponse event⟩
  exact ⟨howned, fun h => ⟨howned, (run_exact h).answers⟩⟩

/-- The Turn completes with its whole answer after a reply failed before the first text. -/
def repliedRun : List Event :=
  [.submitTurn "turn-1", .replyFailed, .agentMessage "Done.", .response (some 1) (.result (some .endTurn))]

theorem turn_owned_and_exact_replied :
    OneOwnerExactAnswer repliedRun ∧
    (Session.run repliedRun).journal =
      [.reserved 1 "turn-1", .chunk "Done.",
        .answered 1 ⟨"turn-1", .completed, some "Done.", none, none⟩] := by
  refine ⟨(turn_owned_and_exact repliedRun).2 ?_, by rfl⟩
  have hsubmitted : Harmless [.submitTurn "turn-1"] := (Throughout.nil _).snoc trivial
  have hreplied : Harmless [.submitTurn "turn-1", .replyFailed] :=
    hsubmitted.snoc (.inr (.inr ⟨rfl, rfl⟩))
  have hstreamed : Harmless [.submitTurn "turn-1", .replyFailed, .agentMessage "Done."] :=
    hreplied.snoc trivial
  exact hstreamed.snoc trivial

/-- A reply that fails in the middle of the answer takes the first half away. -/
theorem half_answer : ¬ ∀ events, OneOwnerExactAnswer events := by
  intro hall
  have hjournal : (Session.run [.submitTurn "turn-1", .agentMessage "Not ", .replyFailed, .agentMessage "done.",
      .response (some 1) (.result (some .endTurn))]).journal =
        [Entry.reserved 1 "turn-1", Entry.chunk "Not ", Entry.chunk "done."] ++
          Entry.answered 1 ⟨"turn-1", .completed, some "done.", none, none⟩ :: [] := by decide +kernel
  have hexact := (hall _).answer _ _ _ hjournal "done." rfl
  exact absurd hexact (by decide)

end AcpSession
