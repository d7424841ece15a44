import Yui.ModelGateway

/-!
# What a request of the gateway leaves

Each step keeps the books of the calls: the attempts are recorded in their order, the bodies are released,
and the request goes on only after a rate limit. The flags of an attempt say what its response was.
-/

open JsText Checked Session

namespace ModelGateway

section Frames

variable {w : World} {retry : Retry} {r r' : Run}

/-- The steps that read a body change nothing else. -/
structure Reads (r r' : Run) : Prop where
  same : ∃ tick aborted usage body reader, r' =
    { r with tick := tick, aborted := aborted, usage := usage, body := body, reader := reader }
  handed : r'.body.map Held.handed = r.body.map Held.handed

theorem Reads.refl (r : Run) : Reads r r := ⟨⟨_, _, _, _, _, rfl⟩, rfl⟩

theorem Reads.trans {r'' : Run} (h : Reads r r') (h' : Reads r' r'') : Reads r r'' := by
  obtain ⟨⟨tick, aborted, usage, body, reader, rfl⟩, hhanded⟩ := h
  obtain ⟨⟨tick', aborted', usage', body', reader', rfl⟩, hhanded'⟩ := h'
  exact ⟨⟨_, _, _, _, _, rfl⟩, hhanded'.trans hhanded⟩

theorem Reads.look (r : Run) : Reads r r.look := ⟨⟨_, _, _, _, _, rfl⟩, rfl⟩

variable (w retry) in
theorem Reads.check (r : Run) : Reads r (check w retry r).2 := by
  unfold ModelGateway.check
  split_ifs
  · exact Reads.look r
  · exact ⟨⟨_, _, _, _, _, rfl⟩, rfl⟩
  · exact Reads.look r

def Reader.isOpen : Reader → Prop
  | .reading _ _ | .flushed => True
  | .fresh | .ended => False

/-- A locked body came locked, unless the stream has it open. -/
def Kept (r : Run) : Prop :=
  ∀ held, r.body = some held → held.locked = true → held.handed.locked = true ∨ r.reader.isOpen

/-- Nothing is being read. -/
def Idle (r : Run) : Prop := ¬ r.reader.isOpen

variable (w retry) in
theorem Kept.check (h : Kept r) : Kept (ModelGateway.check w retry r).2 := by
  unfold ModelGateway.check
  split_ifs <;> exact h

variable (w retry) in
theorem Idle.check (h : Idle r) : Idle (ModelGateway.check w retry r).2 := by
  unfold ModelGateway.check
  split_ifs <;> exact h

theorem endReader_reads (r : Run) : Reads r (endReader r).2 := by
  unfold endReader
  cases hbody : r.body with
  | none => exact ⟨⟨_, _, _, _, _, rfl⟩, by simp [hbody]⟩
  | some held => exact ⟨⟨_, _, _, _, _, rfl⟩, by simp [hbody]⟩

theorem endReader_idle (r : Run) : Kept (endReader r).2 ∧ Idle (endReader r).2 := by
  unfold endReader
  cases hbody : r.body with
  | none => exact ⟨fun held hheld => by simp at hheld, id⟩
  | some held =>
    refine ⟨fun other hother hlocked => ?_, id⟩
    simp only [Option.some.injEq] at hother
    rw [← hother] at hlocked
    cases hlocked

theorem failReader_snd (error : Thrown) (r : Run) : (failReader error r).2 = (endReader r).2 := by
  unfold failReader
  cases endReader r with
  | mk resolved r' => cases resolved <;> rfl

/-- A turn of the loop of the reader, which ends with the reader open only when it yields. -/
structure Pulled (r : Run) (result : Except Thrown String × Run) : Prop where
  reads : Reads r result.2
  kept : Kept result.2
  idle : ∀ error, result.1 = .error error → Idle result.2

theorem Pulled.fail (h : Reads r r') (error : Thrown) : Pulled r (failReader error r') where
  reads := by
    rw [failReader_snd]
    exact h.trans (endReader_reads r')
  kept := by
    rw [failReader_snd]
    exact (endReader_idle r').1
  idle := by
    rw [failReader_snd]
    exact fun _ _ => (endReader_idle r').2

theorem pull_pulled (limit : ℕ) (rest : List Part) (count : ℕ) (r : Run) : Pulled r (pull w limit rest count r) := by
  have htwice : Reads r r.look.look := (Reads.look r).trans (Reads.look _)
  have hyield : ∀ (text : String) (reader : Reader), reader.isOpen →
      Pulled r (.ok text, { r.look.look with reader := reader }) := fun text reader hopen =>
    ⟨htwice.trans ⟨⟨_, _, _, _, _, rfl⟩, rfl⟩, fun _ _ _ => .inr hopen, fun _ h => by cases h⟩
  unfold pull
  by_cases haborted : signalAborted w r = true
  · rw [if_pos haborted]
    exact .fail (Reads.look r) _
  rw [if_neg haborted]
  cases rest with
  | nil =>
    dsimp only
    split_ifs
    · exact .fail htwice _
    · split
      · exact .fail htwice _
      · exact hyield _ _ trivial
  | cons part rest =>
    cases part with
    | fails => exact .fail (Reads.look r) _
    | chunk bytes decoded =>
      dsimp only
      split_ifs
      · exact .fail htwice _
      · exact .fail htwice _
      · cases decoded with
        | none => exact .fail htwice _
        | some text => exact hyield _ _ trivial

theorem openReader_reads (r : Run) : Reads r (openReader r).2 := by
  unfold openReader
  cases hbody : r.body with
  | none => exact ⟨⟨_, _, _, _, _, rfl⟩, by simp [hbody]⟩
  | some held =>
    dsimp only
    split_ifs
    · exact ⟨⟨_, _, _, _, _, rfl⟩, by simp [hbody]⟩
    · exact ⟨⟨_, _, _, _, _, rfl⟩, by simp [hbody]⟩

theorem openReader_kept (h : Kept r) (hidle : Idle r) :
    Kept (openReader r).2 ∧ ∀ error, (openReader r).1 = .error error → Idle (openReader r).2 := by
  unfold openReader
  cases hbody : r.body with
  | none => exact ⟨fun held hheld => by simp at hheld, fun _ _ => id⟩
  | some held =>
    dsimp only
    split_ifs
    · refine ⟨fun other hother hlocked => ?_, fun _ _ => id⟩
      exact .inl ((h other (hbody.trans hother) hlocked).resolve_right hidle)
    · exact ⟨fun _ _ _ => .inr trivial, fun _ h => by cases h⟩

theorem next_kept (limit : ℕ) (h : Kept r) : Reads r (next w limit r).2 ∧ Kept (next w limit r).2 := by
  unfold next
  cases hreader : r.reader with
  | ended => exact ⟨Reads.refl r, h⟩
  | flushed =>
    have hend := And.intro (endReader_reads r) (endReader_idle r).1
    dsimp only
    revert hend
    cases endReader r with
    | mk resolved r' => cases resolved <;> exact id
  | reading rest count =>
    have hpulled := pull_pulled (w := w) limit rest count r
    dsimp only
    revert hpulled
    cases pull w limit rest count r with
    | mk result r' => cases result <;> exact fun hpulled => ⟨hpulled.reads, hpulled.kept⟩
  | fresh =>
    have hidle : Idle r := by
      unfold Idle
      rw [hreader]
      exact id
    have hopened := And.intro (openReader_reads r) (openReader_kept h hidle).1
    dsimp only
    revert hopened
    cases openReader r with
    | mk result r' =>
      cases result with
      | error error => exact id
      | ok rest =>
        intro hopened
        have hpulled := pull_pulled (w := w) limit rest 0 r'
        dsimp only
        revert hpulled
        cases pull w limit rest 0 r' with
        | mk result r'' =>
          cases result <;>
            exact fun hpulled => ⟨hopened.1.trans hpulled.reads, hpulled.kept⟩

theorem closeStream_idle (h : Kept r) :
    Reads r (closeStream r).2 ∧ Kept (closeStream r).2 ∧ Idle (closeStream r).2 := by
  unfold closeStream
  have hended : Idle r → Reads r { r with reader := .ended } ∧ Kept { r with reader := .ended } ∧
      Idle { r with reader := .ended } := fun hidle =>
    ⟨⟨⟨_, _, _, _, _, rfl⟩, rfl⟩,
      fun held hheld hlocked => .inl ((h held hheld hlocked).resolve_right hidle), id⟩
  have hopen := And.intro (endReader_reads r) (endReader_idle r)
  split
  · next hreader => exact hended (by simp [Idle, hreader, Reader.isOpen])
  · next hreader => exact hended (by simp [Idle, hreader, Reader.isOpen])
  · exact hopen
  · exact hopen

theorem drain_idle (limit : ℕ) (parts : List Part) (count : ℕ) (text : String) (r : Run) :
    Reads r (drain w limit parts count text r).2 ∧ Kept (drain w limit parts count text r).2 ∧
      Idle (drain w limit parts count text r).2 := by
  induction parts generalizing count text r with
  | nil =>
    have hpulled := pull_pulled (w := w) limit [] count r
    unfold drain
    revert hpulled
    cases pull w limit [] count r with
    | mk result r' =>
      cases result with
      | error error => exact fun hpulled => ⟨hpulled.reads, hpulled.kept, hpulled.idle error rfl⟩
      | ok last =>
        intro hpulled
        have hend := And.intro (hpulled.reads.trans (endReader_reads r')) (endReader_idle r')
        dsimp only
        revert hend
        cases endReader r' with
        | mk resolved r'' => cases resolved <;> exact id
  | cons part parts ih =>
    cases part with
    | fails =>
      have hpulled := pull_pulled (w := w) limit (.fails :: parts) count r
      unfold drain
      revert hpulled
      cases pull w limit (.fails :: parts) count r with
      | mk result r' =>
        cases result with
        | error error =>
          exact fun hpulled => ⟨hpulled.reads, hpulled.kept, hpulled.idle error rfl⟩
        | ok last =>
          intro hpulled
          have hfail := Pulled.fail hpulled.reads .other
          dsimp only
          refine ⟨hfail.reads, hfail.kept, ?_⟩
          rw [failReader_snd]
          exact (endReader_idle r').2
    | chunk bytes decoded =>
      have hpulled := pull_pulled (w := w) limit (.chunk bytes decoded :: parts) count r
      unfold drain
      revert hpulled
      cases pull w limit (.chunk bytes decoded :: parts) count r with
      | mk result r' =>
        cases result with
        | error error =>
          exact fun hpulled => ⟨hpulled.reads, hpulled.kept, hpulled.idle error rfl⟩
        | ok part =>
          intro hpulled
          obtain ⟨hreads, hkept⟩ := ih (count + bytes) (text ++ part) r'
          exact ⟨hpulled.reads.trans hreads, hkept⟩

theorem readText_idle (limit : ℕ) (h : Kept r) (hidle : Idle r) :
    Reads r (readText w limit r).2 ∧ Kept (readText w limit r).2 ∧ Idle (readText w limit r).2 := by
  have hreads := openReader_reads r
  have hkept := openReader_kept h hidle
  unfold readText
  revert hreads hkept
  cases openReader r with
  | mk result r' =>
    cases result with
    | error error => exact fun hreads hkept => ⟨hreads, hkept.1, hkept.2 error rfl⟩
    | ok rest =>
      intro hreads _
      obtain ⟨hdrain, hidle⟩ := drain_idle (w := w) limit rest 0 "" r'
      exact ⟨hreads.trans hdrain, hidle⟩

theorem runDecoder_kept (limit : ℕ) (decoder : Decoder) (h : Kept r) :
    Reads r (runDecoder w limit decoder r).2 ∧ Kept (runDecoder w limit decoder r).2 := by
  induction decoder generalizing r with
  | returns response usage => exact ⟨Reads.refl r, h⟩
  | throws error => exact ⟨Reads.refl r, h⟩
  | report data k ih =>
    cases data with
    | display =>
      unfold runDecoder
      exact ih true h
    | usage value =>
      unfold runDecoder
      cases reportedUsage value with
      | none => exact ih false h
      | some usage =>
        have hreported : Reads r { r with usage := some usage } := ⟨⟨_, _, _, _, _, rfl⟩, rfl⟩
        obtain ⟨hreads, hkept⟩ := ih true (show Kept { r with usage := some usage } from h)
        exact ⟨hreported.trans hreads, hkept⟩
  | read k ih =>
    have hnext := next_kept (w := w) limit h
    unfold runDecoder
    revert hnext
    cases next w limit r with
    | mk answer r' =>
      intro hnext
      obtain ⟨hreads, hkept⟩ := ih answer hnext.2
      exact ⟨hnext.1.trans hreads, hkept⟩

theorem cancelBody_kept (h : Kept r) (hidle : Idle r) :
    Reads r (cancelBody r).2 ∧ Kept (cancelBody r).2 ∧ Idle (cancelBody r).2 := by
  unfold cancelBody
  cases hbody : r.body with
  | none => exact ⟨Reads.refl r, h, hidle⟩
  | some held =>
    dsimp only
    split_ifs with hlocked
    · exact ⟨Reads.refl r, h, hidle⟩
    · refine ⟨⟨⟨_, _, _, _, _, rfl⟩, by simp [hbody]⟩, fun other hother hlock => ?_, hidle⟩
      simp only [Option.some.injEq] at hother
      rw [← hother] at hlock
      exact absurd hlock hlocked

end Frames

section Attempts

variable {w : World} {retry : Retry} {request : ModelRequest} {attempt : ℕ} {r r' : Run}

def TransportAnswer.response : TransportAnswer → Option Response
  | .throws _ => none
  | .responds response => some response

def TransportAnswer.body (call : TransportAnswer) : Option Body := call.response.bind Response.body

/-- A rejection of the client. -/
def Rejected (call : TransportAnswer) : Prop :=
  ∃ response, call = .responds response ∧ 400 ≤ response.status ∧ response.status < 500

/-- A rejection that the adapter classifies as a rate limit. -/
def RateLimited (w : World) (call : TransportAnswer) : Prop :=
  ∃ response text, call = .responds response ∧ response.status = 429 ∧
    w.classify 429 (w.parse text) = .ok .rateLimit

theorem RateLimited.rejected {call : TransportAnswer} (h : RateLimited w call) : Rejected call := by
  obtain ⟨response, _, hcall, hstatus, _⟩ := h
  exact ⟨response, hcall, by omega, by omega⟩

/-- What the work on a response leaves. The flags tell the kind of its status. -/
structure Answered (w : World) (attempt : ℕ) (response : Response) (r : Run)
    (result : Except Thrown ModelGeneration × Run) : Prop where
  same : ∃ tick aborted usage body reader attempts classified limited wait, result.2 =
    { r with
      tick := tick, aborted := aborted, usage := usage, body := body, reader := reader
      attempts := attempts, classifiedRejection := classified, rejectedForRateLimit := limited
      wait := wait }
  handed : result.2.body.map Held.handed = r.body.map Held.handed
  kept : Kept result.2
  idle : Idle result.2
  success : ∀ generation, result.1 = .ok generation → ∃ a : ModelAttempt,
    a.attempt = attempt ∧ a.clientRequestId = clientRequestId w attempt ∧ a.status = r.status ∧
      result.2.attempts = r.attempts ++ [a] ∧ generation.attempts = result.2.attempts
  failure : ∀ error, result.1 = .error error → result.2.attempts = r.attempts
  classified : result.2.classifiedRejection = true → 400 ≤ response.status ∧ response.status < 500
  limited : result.2.rejectedForRateLimit = true → response.status = 429 ∧
    ∃ text, w.classify 429 (w.parse text) = .ok .rateLimit

variable {response : Response}

/-- An error before the flags are set. -/
theorem Answered.of_reads (hr : r.classifiedRejection = false ∧ r.rejectedForRateLimit = false)
    {error : Thrown} (h : Reads r r') (hkept : Kept r') (hidle : Idle r') :
    Answered w attempt response r (.error error, r') := by
  obtain ⟨⟨tick, aborted, usage, body, reader, rfl⟩, hhanded⟩ := h
  refine ⟨⟨_, _, _, _, _, _, _, _, _, rfl⟩, hhanded, hkept, hidle, (by simp),
    fun _ _ => rfl, fun h => ?_, fun h => ?_⟩
  · exact absurd (hr.1.symm.trans h) (by simp)
  · exact absurd (hr.2.symm.trans h) (by simp)

theorem reject_answered (response : Response)
    (hr : r.classifiedRejection = false ∧ r.rejectedForRateLimit = false) (hkept : Kept r)
    (hidle : Idle r) : Answered w attempt response r
      (.error (reject w retry attempt response r).1, (reject w retry attempt response r).2) := by
  have hread := readText_idle (w := w) 65536 hkept hidle
  unfold reject
  revert hread
  cases readText w 65536 r with
  | mk result r1 =>
    rintro ⟨hreads, hkept1, hidle1⟩
    cases result with
    | error error => exact .of_reads hr hreads hkept1 hidle1
    | ok text =>
      have hreads2 := hreads.trans (Reads.check w retry r1)
      have hkept2 := Kept.check w retry hkept1
      have hidle2 := Idle.check w retry hidle1
      dsimp only at hreads2 hkept2 hidle2 ⊢
      revert hreads2 hkept2 hidle2
      cases check w retry r1 with
      | mk checked r2 =>
        intro hreads2 hkept2 hidle2
        cases checked with
        | error error => exact .of_reads hr hreads2 hkept2 hidle2
        | ok _ =>
          dsimp only at hreads2 hkept2 hidle2 ⊢
          cases hclass : w.classify response.status (w.parse text) with
          | error error => exact .of_reads hr hreads2 hkept2 hidle2
          | ok code =>
            obtain ⟨⟨tick, aborted, usage, body, reader, rfl⟩, hhanded⟩ := hreads2
            refine ⟨⟨_, _, _, _, _, _, _, _, _, rfl⟩, hhanded, hkept2, hidle2,
              (by simp), fun _ _ => rfl, fun h => of_decide_eq_true h,
              fun h => ?_⟩
            obtain ⟨hcode, hstatus⟩ := of_decide_eq_true h
            rw [hstatus] at hclass
            have hlimit : code = .rateLimit := by
              rw [if_neg (by simp [hstatus])] at hcode
              exact hcode
            exact ⟨hstatus, text, hlimit ▸ hclass⟩

theorem accept_answered (response : Response)
    (hr : r.classifiedRejection = false ∧ r.rejectedForRateLimit = false) (hkept : Kept r) :
    Answered w attempt response r (accept w retry attempt request r) := by
  have hdecoded := runDecoder_kept (w := w) 4194304 (w.decode attempt) hkept
  unfold accept
  revert hdecoded
  cases runDecoder w 4194304 (w.decode attempt) r with
  | mk decoded r1 =>
    rintro ⟨hreads1, hkept1⟩
    have hclosed := closeStream_idle hkept1
    dsimp only at hclosed ⊢
    revert hclosed
    cases closeStream r1 with
    | mk resolved r2 =>
      rintro ⟨hreads, hkept2, hidle2⟩
      have hreads2 : Reads r r2 := hreads1.trans hreads
      cases resolved with
      | false => exact .of_reads hr hreads2 hkept2 hidle2
      | true =>
        cases decoded with
        | error error => exact .of_reads hr hreads2 hkept2 hidle2
        | ok answer =>
          have hreads3 := hreads2.trans (Reads.check w retry r2)
          have hkept3 := Kept.check w retry hkept2
          have hidle3 := Idle.check w retry hidle2
          dsimp only at hreads3 hkept3 hidle3 ⊢
          revert hreads3 hkept3 hidle3
          cases check w retry r2 with
          | mk checked r3 =>
            intro hreads3 hkept3 hidle3
            cases checked with
            | error error => exact .of_reads hr hreads3 hkept3 hidle3
            | ok _ =>
              dsimp only at hreads3 hkept3 hidle3 ⊢
              split
              · exact .of_reads hr hreads3 hkept3 hidle3
              · split
                · exact .of_reads hr hreads3 hkept3 hidle3
                · obtain ⟨⟨tick, aborted, usage, body, reader, rfl⟩, hhanded⟩ := hreads3
                  refine ⟨⟨_, _, _, _, _, _, _, _, _, rfl⟩, hhanded, hkept3, hidle3,
                    fun generation h => ?_, (by simp), fun h => ?_, fun h => ?_⟩
                  · cases h
                    exact ⟨_, rfl, rfl, rfl, rfl, rfl⟩
                  · exact absurd (hr.1.symm.trans h) (by simp)
                  · exact absurd (hr.2.symm.trans h) (by simp)

theorem answer_answered (response : Response)
    (hr : r.classifiedRejection = false ∧ r.rejectedForRateLimit = false) (hkept : Kept r)
    (hidle : Idle r) : Answered w attempt response r (answer w retry attempt request response r) := by
  unfold answer
  split_ifs
  · exact accept_answered response hr hkept
  · exact reject_answered response hr hkept hidle

/-- What the `try` of an attempt leaves: its call is on the books, and nothing reads its body. -/
structure Sent (w : World) (attempt : ℕ) (r : Run) (result : Except Thrown ModelGeneration × Run) : Prop where
  sent : result.2.sent = true
  calls : result.2.calls = r.calls ++ [w.transport attempt]
  bodies : result.2.bodies = r.bodies ++ r.body.toList
  handed : result.2.body.map Held.handed = (w.transport attempt).body
  status : result.2.status = (w.transport attempt).response.map Response.status
  kept : Kept result.2
  idle : Idle result.2
  success : ∀ generation, result.1 = .ok generation → ∃ a : ModelAttempt,
    a.attempt = attempt ∧ a.clientRequestId = clientRequestId w attempt ∧
      a.status = (w.transport attempt).response.map Response.status ∧
      result.2.attempts = r.attempts ++ [a] ∧ generation.attempts = result.2.attempts
  failure : ∀ error, result.1 = .error error → result.2.attempts = r.attempts
  classified : result.2.classifiedRejection = true → Rejected (w.transport attempt)
  limited : result.2.rejectedForRateLimit = true → RateLimited w (w.transport attempt)

/-- The run after the transport answered with a response. -/
def Run.responded (w : World) (response : Response) (r : Run) : Run :=
  { r.begin with
    calls := r.calls ++ [.responds response]
    status := some response.status
    providerRequestId := response.remoteId.filter w.acceptsId
    body := response.hold }

theorem responded_idle (response : Response) (r : Run) :
    Kept (r.responded w response) ∧ Idle (r.responded w response) := by
  refine ⟨fun held hheld hlocked => .inl ?_, id⟩
  obtain ⟨body, _, rfl⟩ := Option.map_eq_some_iff.1 hheld
  exact hlocked

theorem responded_reads (h : Reads (r.responded w response) r') :
    r'.classifiedRejection = false ∧ r'.rejectedForRateLimit = false := by
  obtain ⟨⟨_, _, _, _, _, rfl⟩, _⟩ := h
  exact ⟨rfl, rfl⟩

theorem Sent.of_answered {result : Except Thrown ModelGeneration × Run}
    (htransport : w.transport attempt = .responds response)
    (hreads : Reads (r.responded w response) r') (h : Answered w attempt response r' result) :
    Sent w attempt r result := by
  obtain ⟨⟨_, _, _, _, _, rfl⟩, hhanded⟩ := hreads
  have hbody : (r.responded w response).body.map Held.handed = response.body := by
    unfold Run.responded Response.hold
    cases response.body <;> rfl
  have hanswer := h.handed.trans (hhanded.trans hbody)
  have hsuccess := h.success
  have hfailure := h.failure
  obtain ⟨_, _, _, _, _, _, _, _, _, hsame⟩ := h.same
  constructor
  · rw [hsame]
    rfl
  · rw [hsame, htransport]
    rfl
  · rw [hsame]
    rfl
  · rw [hanswer, htransport]
    rfl
  · rw [hsame, htransport]
    rfl
  · exact h.kept
  · exact h.idle
  · intro generation hgeneration
    rw [htransport]
    exact hsuccess generation hgeneration
  · exact hfailure
  · intro hclassified
    exact ⟨response, htransport, h.classified hclassified⟩
  · intro hlimited
    obtain ⟨hstatus, text, hclass⟩ := h.limited hlimited
    exact ⟨response, text, htransport, hstatus, hclass⟩

variable (w retry) in
theorem send_sent (attempt : ℕ) (request : ModelRequest) (r : Run) :
    Sent w attempt r (send w retry attempt request r) := by
  cases htransport : w.transport attempt with
  | throws error =>
    have hsend : send w retry attempt request r =
        (.error error, { r.begin with calls := r.calls ++ [.throws error] }) := by
      unfold send
      rw [htransport]
    rw [hsend]
    refine ⟨rfl, ?_, rfl, ?_, ?_, fun held hheld => (by cases hheld), id,
      fun _ h => (by cases h), fun _ _ => rfl, fun h => (by cases h), fun h => (by cases h)⟩
    · rw [htransport]
    · rw [htransport]
      rfl
    · rw [htransport]
      rfl
  | responds response =>
    unfold send
    rw [htransport]
    obtain ⟨hkept, hidle⟩ := responded_idle (w := w) response r
    have hlook : Reads (r.responded w response) (r.responded w response).look := Reads.look _
    change Sent w attempt r (if _ then _ else _)
    split_ifs
    · have hcancel := cancelBody_kept (r := (r.responded w response).look) hkept hidle
      revert hcancel
      generalize hcancelled : cancelBody (r.responded w response).look = cancelled
      unfold Run.responded at hcancelled
      rw [hcancelled]
      cases cancelled with
      | mk resolved r1 =>
        rintro ⟨hreads, hkept1, hidle1⟩
        have hreads1 := hlook.trans hreads
        cases resolved with
        | false =>
          exact .of_answered htransport hreads1 (.of_reads (responded_reads hreads1) (Reads.refl r1) hkept1 hidle1)
        | true =>
          have hreads2 := hreads1.trans (Reads.check w retry r1)
          have hkept2 := Kept.check w retry hkept1
          have hidle2 := Idle.check w retry hidle1
          dsimp only at hreads2 hkept2 hidle2 ⊢
          revert hreads2 hkept2 hidle2
          cases check w retry r1 with
          | mk checked r2 =>
            intro hreads2 hkept2 hidle2
            cases checked with
            | error error =>
              exact .of_answered htransport hreads2
                (.of_reads (responded_reads hreads2) (Reads.refl r2) hkept2 hidle2)
            | ok _ =>
              exact .of_answered htransport hreads2 (answer_answered response (responded_reads hreads2) hkept2 hidle2)
    · exact .of_answered htransport hlook (answer_answered response (responded_reads hlook) hkept hidle)

/-- What the `catch` of an attempt leaves. The request goes on only after a rate limit. -/
structure Settled (w : World) (retry : Retry) (attempt : ℕ) (r : Run)
    (result : Option ModelGatewayError × Run) : Prop where
  books : ∃ tick aborted a, result.2 =
      { r with tick := tick, aborted := aborted, attempts := r.attempts ++ [a] } ∧
    a.attempt = attempt ∧ a.clientRequestId = clientRequestId w attempt ∧ a.status = r.status ∧
    (result.1 = none → a.outcome = .failed .rateLimit ∧ a.effect = .noEffect)
  error : ∀ error, result.1 = some error → error.attempts = result.2.attempts ∧
    (error.effect = .noEffect → r.classifiedRejection = true)
  again : result.1 = none → r.rejectedForRateLimit = true ∧ attempt < retry.maxAttempts

theorem check_effectNow {error : ModelGatewayError}
    (h : (check w retry r).1 = .error (.gateway error)) : error.effect = effectNow r := by
  unfold check at h
  split_ifs at h <;> cases h <;> rfl

theorem check_effect (hsent : r.sent = true) {error : ModelGatewayError}
    (h : (check w retry r).1 = .error (.gateway error)) : error.effect = .unknown := by
  rw [check_effectNow h, effectNow, if_pos hsent]

variable (w retry) in
theorem check_same (r : Run) : ∃ tick aborted, (check w retry r).2 = { r with tick := tick, aborted := aborted } := by
  unfold check
  split_ifs
  · exact ⟨_, _, rfl⟩
  · exact ⟨_, _, rfl⟩
  · exact ⟨_, _, rfl⟩

theorem faultOf_effect {error : Thrown} (h : (faultOf error r).effect = .noEffect) :
    r.classifiedRejection = true := by
  unfold faultOf at h
  cases error with
  | other => cases h
  | gateway error =>
    dsimp only at h
    split_ifs at h with hflag
    by_contra hfalse
    exact hflag ⟨Bool.eq_false_of_not_eq_true hfalse, h⟩

variable (w retry attempt) in
theorem settle_settled (error : Thrown) (hsent : r.sent = true) :
    Settled w retry attempt r (settle w retry attempt error r) := by
  have heffect : ∀ fault, (check w retry r).1 = .error (.gateway fault) → fault.effect = .unknown :=
    fun fault h => check_effect hsent h
  obtain ⟨tick, aborted, hchecked⟩ := check_same w retry r
  unfold settle
  dsimp only
  generalize hfault : caught error (check w retry r).1 r = fault
  have hclassified : fault.effect = .noEffect → r.classifiedRejection = true := by
    intro hnone
    rw [← hfault] at hnone
    unfold caught at hnone
    split at hnone
    · next cancelled hcancelled =>
        rw [heffect cancelled hcancelled] at hnone
        cases hnone
    · exact faultOf_effect hnone
  rw [hchecked]
  split_ifs with hstop hlimit htime
  · exact ⟨⟨_, _, _, rfl, rfl, rfl, rfl, (by simp)⟩,
      fun _ h => (by cases h; exact ⟨rfl, hclassified⟩), (by simp)⟩
  · exact ⟨⟨_, _, _, rfl, rfl, rfl, rfl, (by simp)⟩,
      fun _ h => (by cases h; exact ⟨rfl, hclassified⟩), (by simp)⟩
  · exact ⟨⟨_, _, _, rfl, rfl, rfl, rfl, (by simp)⟩,
      fun _ h => (by cases h; exact ⟨rfl, hclassified⟩), (by simp)⟩
  · rw [not_or, not_or] at hstop
    obtain ⟨hcode, hnone, hlimited⟩ := hstop
    rw [ne_eq, not_not] at hcode hnone
    refine ⟨⟨_, _, _, rfl, rfl, rfl, rfl, fun _ => ⟨?_, ?_⟩⟩, (by simp), fun _ => ?_⟩
    · simp only [record, hcode]
    · simp only [record, hnone, effectOf]
    · exact ⟨Bool.eq_true_of_not_eq_false hlimited, not_le.1 hlimit⟩

theorem cleanup_released (hkept : Kept r) (hidle : Idle r) : Reads r (cleanup r).2 ∧
      ∀ held, (cleanup r).2.body = some held → held.handed.locked = false → held.closed = true := by
  unfold cleanup cancelBody
  cases hbody : r.body with
  | none => exact ⟨Reads.refl r, fun held hheld => by simp [hbody] at hheld⟩
  | some held =>
    dsimp only
    split_ifs with hlocked
    · refine ⟨Reads.refl r, fun other hother hfree => ?_⟩
      rw [hbody, Option.some.injEq] at hother
      have hcame := (hkept held hbody hlocked).resolve_right hidle
      rw [hother, hfree] at hcame
      cases hcame
    · refine ⟨⟨⟨_, _, _, _, _, rfl⟩, by simp [hbody]⟩, fun other hother _ => ?_⟩
      simp only [Option.some.injEq] at hother
      rw [← hother]

end Attempts

section Requests

variable {w : World} {retry : Retry} {request : ModelRequest} {n : ℕ} {r r' : Run}

/-- Every call has one record, in the order of the calls. -/
def Recorded (w : World) (attempts : List ModelAttempt) (calls : List TransportAnswer) : Prop :=
  attempts.map (fun a => (a.attempt, a.clientRequestId, a.status)) =
    calls.mapIdx fun i call =>
      (i + 1, clientRequestId w (i + 1), call.response.map Response.status)

/-- The record of a rate limit. -/
def Limited (a : ModelAttempt) : Prop :=
  a.outcome = .failed .rateLimit ∧ a.effect = .noEffect ∧ a.status = some 429

def Run.held (r : Run) : List Held := r.bodies ++ r.body.toList

/-- Every body that a call answered with is released, unless it came locked. -/
structure Released (r : Run) : Prop where
  handed : r.held.map Held.handed = r.calls.filterMap TransportAnswer.body
  closed : ∀ held ∈ r.held, held.handed.locked = false → held.closed = true

/-- The books between two attempts: every call so far ended with a rate limit. -/
structure Books (w : World) (n : ℕ) (r : Run) : Prop where
  count : r.calls.length = n
  limited : ∀ call ∈ r.calls, RateLimited w call
  recorded : Recorded w r.attempts r.calls
  refused : ∀ a ∈ r.attempts, Limited a
  released : Released r
  sent : r.calls ≠ [] → r.sent = true

/-- The books at the end. -/
structure Ended (w : World) (retry : Retry) (r : Run) : Prop where
  count : r.calls.length ≤ retry.maxAttempts
  limited : ∀ call ∈ r.calls.dropLast, RateLimited w call
  recorded : Recorded w r.attempts r.calls
  refused : ∀ a ∈ r.attempts.dropLast, Limited a
  released : Released r
  sent : r.calls ≠ [] → r.sent = true

theorem Books.ended (h : Books w n r) (hn : n ≤ retry.maxAttempts) : Ended w retry r where
  count := h.count ▸ hn
  limited call hcall := h.limited call (List.mem_of_mem_dropLast hcall)
  recorded := h.recorded
  refused a ha := h.refused a (List.mem_of_mem_dropLast ha)
  released := h.released
  sent := h.sent

/-- The clock's sleep may throw an error with attempts of its own. -/
def Slept (w : World) (error : ModelGatewayError) : Prop :=
  ∃ attempt, w.sleep attempt = some (.gateway error)

/-- The result of the loop: an error without effect follows rejections only. -/
structure Reports (w : World) (result : Except Thrown ModelGeneration) (r : Run) : Prop where
  success : ∀ generation, result = .ok generation → generation.attempts = r.attempts
  attempts : ∀ error, result = .error (.gateway error) →
    error.attempts = [] ∨ error.attempts = r.attempts ∨ Slept w error
  effect : ∀ error, result = .error (.gateway error) → error.effect = .noEffect →
    ∀ call ∈ r.calls, Rejected call

theorem Reports.other : Reports w (.error .other) r := ⟨nofun, nofun, nofun⟩

theorem Books.rejected (h : Books w n r) : ∀ call ∈ r.calls, Rejected call :=
  fun call hcall => (h.limited call hcall).rejected

theorem check_attempts {error : ModelGatewayError}
    (h : (check w retry r).1 = .error (.gateway error)) : error.attempts = [] := by
  unfold check at h
  split_ifs at h <;> cases h <;> rfl

variable (retry) in
theorem Books.check (h : Books w n r) : Books w n (check w retry r).2 := by
  obtain ⟨tick, aborted, hsame⟩ := check_same w retry r
  rw [hsame]
  exact ⟨h.count, h.limited, h.recorded, h.refused, ⟨h.released.handed, h.released.closed⟩, h.sent⟩

variable {error : Thrown}

theorem Books.check_reports (h : Books w n r) (hchecked : (ModelGateway.check w retry r).1 = .error error) :
    Reports w (.error error) (ModelGateway.check w retry r).2 := by
  cases error with
  | other => exact Reports.other
  | gateway error =>
    refine ⟨nofun, fun other hother => ?_, fun other _ _ => (h.check retry).rejected⟩
    cases hother
    exact .inl (check_attempts hchecked)

variable {call : TransportAnswer} {a : ModelAttempt}

theorem recorded_concat {attempts : List ModelAttempt} {calls : List TransportAnswer} (h : Recorded w attempts calls)
    (hcount : calls.length = n) (hattempt : a.attempt = n + 1) (hid : a.clientRequestId = clientRequestId w (n + 1))
    (hstatus : a.status = call.response.map Response.status) : Recorded w (attempts ++ [a]) (calls ++ [call]) := by
  unfold Recorded at *
  rw [List.map_append, h, List.mapIdx_append]
  simp [hcount, hattempt, hid, hstatus]

theorem Books.recorded_call (h : Books w n r) (hcalls : r'.calls = r.calls ++ [call]) (hbodies : r'.bodies = r.held)
    (hhanded : r'.body.map Held.handed = call.body)
    (hclosed : ∀ held, r'.body = some held → held.handed.locked = false → held.closed = true)
    (hattempts : r'.attempts = r.attempts ++ [a]) (hattempt : a.attempt = n + 1)
    (hid : a.clientRequestId = clientRequestId w (n + 1)) (hstatus : a.status = call.response.map Response.status) :
    Recorded w r'.attempts r'.calls ∧ Released r' := by
  refine ⟨?_, ?_, fun held hheld hfree => ?_⟩
  · rw [hattempts, hcalls]
    exact recorded_concat h.recorded h.count hattempt hid hstatus
  · unfold Run.held
    rw [hbodies, hcalls, List.map_append, h.released.handed, List.filterMap_append]
    congr 1
    rw [← Option.toList_map, hhanded]
    cases hbody : call.body <;> simp [hbody]
  · unfold Run.held at hheld
    rw [hbodies, List.mem_append] at hheld
    cases hheld with
    | inl hearlier => exact h.released.closed held hearlier hfree
    | inr hlast => exact hclosed held (Option.mem_toList.1 hlast) hfree

theorem Books.ended_call (h : Books w n r) (hn : n < retry.maxAttempts) (hcalls : r'.calls = r.calls ++ [call])
    (hattempts : r'.attempts = r.attempts ++ [a])
    (hbooks : Recorded w r'.attempts r'.calls ∧ Released r') (hsent : r'.sent = true) : Ended w retry r' where
  count := by
    rw [hcalls, List.length_append, h.count]
    exact hn
  limited other hother := by
    rw [hcalls, List.dropLast_concat] at hother
    exact h.limited other hother
  recorded := hbooks.1
  refused b hb := by
    rw [hattempts, List.dropLast_concat] at hb
    exact h.refused b hb
  released := hbooks.2
  sent := fun _ => hsent

theorem Books.next_call (h : Books w n r)
    (hcalls : r'.calls = r.calls ++ [call]) (hattempts : r'.attempts = r.attempts ++ [a])
    (hbooks : Recorded w r'.attempts r'.calls ∧ Released r') (hsent : r'.sent = true)
    (hlimited : RateLimited w call) (ha : Limited a) : Books w (n + 1) r' where
  count := by
    rw [hcalls, List.length_append, h.count]
    rfl
  limited other hother := by
    rw [hcalls, List.mem_append, List.mem_singleton] at hother
    rcases hother with hearlier | rfl
    · exact h.limited other hearlier
    · exact hlimited
  recorded := hbooks.1
  refused b hb := by
    rw [hattempts, List.mem_append, List.mem_singleton] at hb
    rcases hb with hearlier | rfl
    · exact h.refused b hearlier
    · exact ha
  released := hbooks.2
  sent := fun _ => hsent

/-- A turn of the loop ends the request, or leaves the books of one more rate limit. -/
structure Turned (w : World) (retry : Retry) (n : ℕ)
    (result : Option (Except Thrown ModelGeneration) × Run) : Prop where
  again : result.1 = none → Books w (n + 1) result.2
  ended : ∀ answer, result.1 = some answer → Ended w retry result.2 ∧ Reports w answer result.2

theorem Turned.of_ended {answer : Except Thrown ModelGeneration} (hended : Ended w retry r)
    (hreports : Reports w answer r) : Turned w retry n (some answer, r) :=
  ⟨nofun, fun _ h => (by cases h; exact ⟨hended, hreports⟩)⟩

theorem Sent.turned_ok (hbooks : Books w n r) (hn : n < retry.maxAttempts)
    {generation : ModelGeneration} (h : Sent w (n + 1) r (.ok generation, r')) :
    Turned w retry n (match cleanup r' with
      | (true, r) => (some (.ok generation), r)
      | (false, r) => (some (.error .other), r)) := by
  obtain ⟨hreads, hclosed⟩ := cleanup_released h.kept h.idle
  obtain ⟨a, hattempt, hid, hstatus, hattempts, hgeneration⟩ := h.success generation rfl
  have hsent := h.sent
  have hcalls := h.calls
  have hbodies := h.bodies
  have hhanded := hreads.handed.trans h.handed
  obtain ⟨_, _, _, _, _, hsame⟩ := hreads.same
  generalize cleanup r' = cleaned at *
  obtain ⟨resolved, r2⟩ := cleaned
  dsimp only at *
  have hattempts2 : r2.attempts = r.attempts ++ [a] := by
    rw [hsame]
    exact hattempts
  have hcalls2 : r2.calls = r.calls ++ [w.transport (n + 1)] := by
    rw [hsame]
    exact hcalls
  have hrecorded := hbooks.recorded_call hcalls2 (by rw [hsame]; exact hbodies) hhanded hclosed
    hattempts2 hattempt hid hstatus
  have hended : Ended w retry r2 := hbooks.ended_call hn hcalls2 hattempts2 hrecorded (by rw [hsame]; exact hsent)
  cases resolved with
  | false => exact .of_ended hended Reports.other
  | true =>
    refine .of_ended hended ⟨fun _ hok => ?_, (by simp), (by simp)⟩
    cases hok
    rw [hgeneration, hattempts, hattempts2]

theorem Sent.turned_error (hbooks : Books w n r) (hn : n < retry.maxAttempts)
    (h : Sent w (n + 1) r (.error error, r')) : Turned w retry n (match settle w retry (n + 1) error r' with
      | (failed, r) =>
        match cleanup r with
        | (false, r) => (some (.error .other), r)
        | (true, r) =>
          match failed with
          | some error => (some (.error (.gateway error)), r)
          | none =>
            match check w retry r with
            | (.error error, r) => (some (.error error), r)
            | (.ok _, r) => (w.sleep (n + 1) |>.map .error, r)) := by
  have hsettled := settle_settled w retry (n + 1) error h.sent
  obtain ⟨tick, aborted, a, hsame, hattempt, hid, hstatus, hlimited⟩ := hsettled.books
  have herror := hsettled.error
  have hagain := hsettled.again
  generalize settle w retry (n + 1) error r' = settled at *
  obtain ⟨failed, r1⟩ := settled
  dsimp only at *
  have hkept : Kept r1 := by
    rw [hsame]
    exact h.kept
  have hidle : Idle r1 := by
    rw [hsame]
    exact h.idle
  obtain ⟨hreads, hclosed⟩ := cleanup_released hkept hidle
  have hhanded : (cleanup r1).2.body.map Held.handed = (w.transport (n + 1)).body := by
    rw [hreads.handed, hsame]
    exact h.handed
  obtain ⟨_, _, _, _, _, hsame2⟩ := hreads.same
  generalize cleanup r1 = cleaned at *
  obtain ⟨resolved, r2⟩ := cleaned
  dsimp only at *
  have hattempts1 : r1.attempts = r.attempts ++ [a] := by
    rw [hsame]
    exact congrArg (· ++ [a]) (h.failure error rfl)
  have hattempts2 : r2.attempts = r.attempts ++ [a] := by
    rw [hsame2]
    exact hattempts1
  have hcalls2 : r2.calls = r.calls ++ [w.transport (n + 1)] := by
    rw [hsame2, hsame]
    exact h.calls
  have hsent2 : r2.sent = true := by
    rw [hsame2, hsame]
    exact h.sent
  have hrecorded := hbooks.recorded_call hcalls2 (by rw [hsame2, hsame]; exact h.bodies) hhanded
    hclosed hattempts2 hattempt hid (hstatus.trans h.status)
  have hended : Ended w retry r2 := hbooks.ended_call hn hcalls2 hattempts2 hrecorded hsent2
  cases resolved with
  | false => exact .of_ended hended Reports.other
  | true =>
    cases failed with
    | some failed =>
      obtain ⟨hlist, hnone⟩ := herror failed rfl
      refine .of_ended hended ⟨(by simp), fun _ hother => ?_, fun _ hother => ?_⟩
      · cases hother
        exact .inr (.inl (by rw [hlist, hattempts1, hattempts2]))
      · cases hother
        intro heffect call hcall
        rw [hcalls2, List.mem_append, List.mem_singleton] at hcall
        rcases hcall with hearlier | rfl
        · exact hbooks.rejected call hearlier
        · exact h.classified (hnone heffect)
    | none =>
      obtain ⟨hflag, hless⟩ := hagain rfl
      obtain ⟨houtcome, heffect⟩ := hlimited rfl
      have hlast : RateLimited w (w.transport (n + 1)) := h.limited hflag
      have hnumber : a.status = some 429 := by
        obtain ⟨response, _, htransport, hnumber, _⟩ := hlast
        rw [hstatus, h.status, htransport]
        exact congrArg some hnumber
      have hnext : Books w (n + 1) r2 := hbooks.next_call hcalls2 hattempts2 hrecorded hsent2 hlast
        ⟨houtcome, heffect, hnumber⟩
      have hchecked := hnext.check retry
      have hreports : ∀ error, (ModelGateway.check w retry r2).1 = .error error →
          Reports w (.error error) (ModelGateway.check w retry r2).2 := fun _ => hnext.check_reports
      dsimp only
      generalize check w retry r2 = checked at *
      obtain ⟨checked, r3⟩ := checked
      cases checked with
      | error error => exact .of_ended (hchecked.ended hn) (hreports error rfl)
      | ok _ =>
        cases hsleep : w.sleep (n + 1) with
        | none => exact ⟨fun _ => hchecked, (by simp)⟩
        | some error =>
          refine .of_ended (hchecked.ended hn)
            ⟨(by simp), fun _ hother => ?_, fun _ _ _ => hchecked.rejected⟩
          cases hother
          exact .inr (.inr ⟨n + 1, hsleep⟩)

variable (retry request) in
theorem attemptOnce_turned (hbooks : Books w n r) (hn : n < retry.maxAttempts) :
    Turned w retry n (attemptOnce w retry (n + 1) request r) := by
  have hchecked := hbooks.check retry
  have hreports : ∀ error, (ModelGateway.check w retry r).1 = .error error →
      Reports w (.error error) (ModelGateway.check w retry r).2 := fun _ => hbooks.check_reports
  unfold attemptOnce
  generalize check w retry r = checked at *
  obtain ⟨checked, r1⟩ := checked
  cases checked with
  | error error => exact .of_ended (hchecked.ended hn.le) (hreports error rfl)
  | ok _ =>
    have hsent := send_sent w retry (n + 1) request r1
    dsimp only
    generalize send w retry (n + 1) request r1 = sent at *
    obtain ⟨result, r2⟩ := sent
    cases result with
    | ok generation => exact hsent.turned_ok hchecked hn
    | error error => exact hsent.turned_error hchecked hn

theorem attemptsFrom_ended (left : ℕ) (hbooks : Books w n r) (hn : n + left = retry.maxAttempts) :
    Ended w retry (attemptsFrom w retry request left (n + 1) r).2 ∧
      Reports w (attemptsFrom w retry request left (n + 1) r).1 (attemptsFrom w retry request left (n + 1) r).2 := by
  induction left generalizing n r with
  | zero =>
    refine ⟨hbooks.ended (by omega), nofun, fun _ hother => ?_, fun _ _ _ => hbooks.rejected⟩
    cases hother
    exact .inr (.inl rfl)
  | succ left ih =>
    have hturned := attemptOnce_turned retry request hbooks (by omega)
    unfold attemptsFrom
    generalize attemptOnce w retry (n + 1) request r = turned at *
    obtain ⟨result, r1⟩ := turned
    cases result with
    | none => exact ih (hturned.again rfl) (by omega)
    | some answer => exact hturned.ended answer rfl

theorem initial_books (w : World) : Books w 0 (Run.initial w) where
  count := rfl
  limited _ h := by cases h
  recorded := rfl
  refused _ h := by cases h
  released := ⟨rfl, nofun⟩
  sent h := absurd rfl h

theorem generateOnce_ended (w : World) (retry : Retry) (request : ModelRequest) :
    Ended w retry (generateOnce w retry request (Run.initial w)).2 ∧
      Reports w (generateOnce w retry request (Run.initial w)).1
        (generateOnce w retry request (Run.initial w)).2 := by
  have hbooks := (initial_books w).check retry
  have hreports : ∀ error, (ModelGateway.check w retry (Run.initial w)).1 = .error error →
      Reports w (.error error) (ModelGateway.check w retry (Run.initial w)).2 :=
    fun _ => (initial_books w).check_reports
  unfold generateOnce
  generalize check w retry (Run.initial w) = checked at *
  obtain ⟨checked, r⟩ := checked
  cases checked with
  | error error => exact ⟨hbooks.ended (Nat.zero_le _), hreports error rfl⟩
  | ok _ =>
    dsimp only
    split_ifs
    · refine ⟨hbooks.ended (Nat.zero_le _), (by simp), fun _ hother => ?_,
        fun _ _ _ => hbooks.rejected⟩
      cases hother
      exact .inl rfl
    · exact attemptsFrom_ended retry.maxAttempts hbooks (by omega)

theorem Ended.check (h : Ended w retry r) : Ended w retry (ModelGateway.check w retry r).2 := by
  obtain ⟨tick, aborted, hsame⟩ := check_same w retry r
  rw [hsame]
  exact ⟨h.count, h.limited, h.recorded, h.refused, ⟨h.released.handed, h.released.closed⟩, h.sent⟩

/-- The outer `catch` gives the attempts of the request, and takes no effect back. -/
structure Reported (w : World) (error : ModelGatewayError) (r : Run) : Prop where
  attempts : error.attempts = r.attempts ∨
    ∃ slept, Slept w slept ∧ slept.attempts ≠ [] ∧ error.attempts = slept.attempts
  effect : error.effect = .noEffect → ∀ call ∈ r.calls, Rejected call

theorem outerError_reported (hended : Ended w retry r) (hreports : Reports w (.error error) r) :
    Ended w retry (outerError w retry error r).2 ∧
      Reported w (outerError w retry error r).1 (outerError w retry error r).2 := by
  cases error with
  | gateway error =>
    refine ⟨hended, ?_, hreports.effect error rfl⟩
    unfold outerError
    dsimp only
    split_ifs with hempty
    · exact .inl rfl
    · rcases hreports.attempts error rfl with hnil | hsame | hslept
      · exact absurd hnil hempty
      · exact .inl hsame
      · exact .inr ⟨error, hslept, hempty, rfl⟩
  | other =>
    have hunsent : effectNow r = .noEffect → ∀ call ∈ r.calls, Rejected call := by
      intro hnone call hcall
      unfold effectNow at hnone
      rw [if_pos (hended.sent (List.ne_nil_of_mem hcall))] at hnone
      cases hnone
    have hchecked := hended.check
    have heffect : ∀ fault, (ModelGateway.check w retry r).1 = .error (.gateway fault) →
        fault.effect = effectNow r := fun _ => check_effectNow
    obtain ⟨tick, aborted, hsame⟩ := check_same w retry r
    unfold outerError
    dsimp only
    generalize ModelGateway.check w retry r = checked at *
    obtain ⟨checked, r1⟩ := checked
    dsimp only at hchecked heffect hsame
    subst hsame
    split
    · next fault r2 hfault =>
        cases hfault
        refine ⟨hchecked, .inl rfl, fun hnone => ?_⟩
        rw [heffect fault rfl] at hnone
        exact hunsent hnone
    · next r2 _ hother =>
        cases hother
        exact ⟨hchecked, .inl rfl, fun hnone => hunsent hnone⟩

variable (w retry) in
/-- The request is sent again only after a rate limit, an error without effect follows rejections only,
every call has its record, and a body is released unless it came locked. -/
theorem generate_never_replays (input : ModelRequest) :
    let result := generate w retry input
    result.2.calls.length ≤ retry.maxAttempts ∧ (∀ call ∈ result.2.calls.dropLast, RateLimited w call) ∧
      (∀ a ∈ result.2.attempts.dropLast, Limited a) ∧ Recorded w result.2.attempts result.2.calls ∧
      (∀ generation, result.1 = .ok generation → generation.attempts = result.2.attempts) ∧
      (∀ error, result.1 = .error error → Reported w error result.2) ∧ Released result.2 := by
  suffices h : Ended w retry (generate w retry input).2 ∧
      (∀ generation, (generate w retry input).1 = .ok generation →
        generation.attempts = (generate w retry input).2.attempts) ∧
      ∀ error, (generate w retry input).1 = .error error →
        Reported w error (generate w retry input).2 by
    exact ⟨h.1.count, h.1.limited, h.1.refused, h.1.recorded, h.2.1, h.2.2, h.1.released⟩
  unfold generate
  split
  · refine ⟨(initial_books w).ended (Nat.zero_le _), (by simp), fun _ herror => ?_⟩
    cases herror
    exact ⟨.inl rfl, fun _ _ hcall => by cases hcall⟩
  · next request _ =>
      have hended := generateOnce_ended w retry request
      generalize generateOnce w retry request (Run.initial w) = once at *
      obtain ⟨result, r⟩ := once
      obtain ⟨hended, hreports⟩ := hended
      cases result with
      | ok generation =>
        refine ⟨hended, fun _ hok => ?_, (by simp)⟩
        cases hok
        exact hreports.success generation rfl
      | error error =>
        have hreported := outerError_reported hended hreports
        dsimp only
        generalize outerError w retry error r = outer at *
        obtain ⟨fault, r1⟩ := outer
        refine ⟨hreported.1, (by simp), fun _ herror => ?_⟩
        cases herror
        exact hreported.2

end Requests

/-- The transport hands over a body that it locked itself, and the adapter answers without it. -/
def lockedWorld : World where
  functionTools := true
  requestFits _ := true
  messageFits _ := true
  argumentsFit _ := true
  responseFits _ := true
  encodes _ := true
  parse _ := none
  classify _ _ := .ok .http
  decode _ := .returns (some (.final "")) none
  transport _ := .responds ⟨200, none, 0, some ⟨[], some "", true, false⟩⟩
  looks _ := ⟨false, false, 0⟩
  sleep _ := none
  acceptsId _ := true
  requestId := "r"

def sampleRequest : ModelRequest := ⟨"s", "t", 1, [.user "go"], []⟩

theorem locked_body_kept : ¬ ∀ (w : World) (retry : Retry) (input : ModelRequest),
    ∀ held ∈ (generate w retry input).2.held, held.closed = true := by
  intro h
  have hheld : (generate lockedWorld {} sampleRequest).2.held.map Held.closed = [false] := by decide +kernel
  obtain ⟨held, hmem, hopen⟩ := List.mem_map.1 (hheld ▸ List.mem_singleton.2 rfl)
  rw [h lockedWorld {} sampleRequest held hmem] at hopen
  cases hopen

end ModelGateway
