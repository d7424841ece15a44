import Yui.SessionStore

/-!
# The store as a log

What holds in every state of the store: the backend holds the logs that the history gives, a document that
an append has read is a beginning of the stored one, and the answer of a call tells whether its event was
written.
-/

open JsText Checked AppendLog

namespace Session

abbrev Entries := String → Option (List (ℕ × AgentEvent))

/-- The logs of the Sessions after the history. -/
def documentsOf (base : Entries) (history : List (Write String (ℕ × AgentEvent))) : Logs :=
  mapLogs Prod.snd (logsOf base history)

def Unwritten (history : List (Write String (ℕ × AgentEvent))) (c : ℕ) : Prop :=
  ∀ key expected event, Write.append key expected (c, event) ∉ history

/-- A document that was read and is a beginning of the stored one. -/
structure Read (logs : Logs) (id : String) (document : SessionDocument) : Prop where
  same : document.sessionId = id
  grown : ∃ events, logs id = some events ∧ document.events <+: events

/-- The answer of a call tells whether it wrote. -/
structure Reported (history : List (Write String (ℕ × AgentEvent))) (c : ℕ) (request : Request)
    (outcome : Outcome) : Prop where
  written : ∀ event expected author answer, request = .append event expected author →
    outcome = .ok answer → Write.append event.sessionId expected (c, event) ∈ history
  refused : ∀ error, outcome = .error error →
    (∀ id expected event, error ≠ .saveFailed id expected event) → Unwritten history c

section Invariant

variable (base : Entries) (history : List (Write String (ℕ × AgentEvent)))

def Call.Sound (c : ℕ) (call : Call) : Prop :=
  match call.phase with
  | .reading raw => Unwritten history c ∧
      ∀ document, raw = .ok (some document) →
        Read (documentsOf base history) call.request.sessionId document
  | .loaded found => Unwritten history c ∧
      ∀ document, found = .ok document →
        Read (documentsOf base history) call.request.sessionId document
  | .paged _ => Unwritten history c ∧
      ∀ event expected author, call.request ≠ .append event expected author
  | .returning outcome | .settled outcome => Reported history c call.request outcome

structure State.Sound {Text : Type} (codec : Codec Text) (limits : Limits) (s : State Text) : Prop where
  valid : Valid base s.history
  holds : s.backend.Holds codec (documentsOf base s.history)
  accepted : Accepted limits (documentsOf base s.history)
  authored : ∀ key expected c event, Write.append key expected (c, event) ∈ s.history →
    ∃ call author, s.calls c = some call ∧ call.request = .append event expected author ∧
      key = event.sessionId
  calls : ∀ c call, s.calls c = some call → call.Sound base s.history c

end Invariant

section Frames

variable {Text : Type} {codec : Codec Text} {limits : Limits} {base : Entries} {s : State Text}
variable {history : List (Write String (ℕ × AgentEvent))} {write : Write String (ℕ × AgentEvent)}
variable {c : ℕ} {call : Call}

theorem documentsOf_snoc (base : Entries) (history : List (Write String (ℕ × AgentEvent)))
    (write : Write String (ℕ × AgentEvent)) : documentsOf base (history ++ [write]) =
      AppendLog.perform (documentsOf base history) (write.mapEntry Prod.snd) := by
  unfold documentsOf
  rw [logsOf_snoc, mapLogs_perform]

theorem Read.grow {id : String} {document : SessionDocument} (h : Read (documentsOf base history) id document) :
    Read (documentsOf base (history ++ [write])) id document := by
  obtain ⟨events, hevents, hprefix⟩ := h.grown
  obtain ⟨more, hmore, hlonger⟩ := perform_prefix (write.mapEntry Prod.snd) hevents
  rw [documentsOf_snoc]
  exact ⟨h.same, more, hmore, hprefix.trans hlonger⟩

theorem Unwritten.grow (h : Unwritten history c)
    (hother : ∀ key expected event, write ≠ .append key expected (c, event)) : Unwritten (history ++ [write]) c := by
  intro key expected event hmem
  rcases List.mem_append.1 hmem with hold | hnew
  · exact h key expected event hold
  · exact hother key expected event (List.mem_singleton.1 hnew).symm

theorem Call.Sound.grow (h : call.Sound base history c)
    (hother : ∀ key expected event, write ≠ .append key expected (c, event)) :
    call.Sound base (history ++ [write]) c := by
  unfold Call.Sound at *
  cases hphase : call.phase with
  | reading raw =>
    rw [hphase] at h
    exact ⟨h.1.grow hother, fun document hraw => (h.2 document hraw).grow⟩
  | loaded found =>
    rw [hphase] at h
    exact ⟨h.1.grow hother, fun document hfound => (h.2 document hfound).grow⟩
  | paged page =>
    rw [hphase] at h
    exact ⟨h.1.grow hother, h.2⟩
  | returning outcome =>
    rw [hphase] at h
    refine ⟨fun event expected author answer hrequest hok => ?_, fun error herror hkind => ?_⟩
    · exact List.mem_append_left _ (h.written event expected author answer hrequest hok)
    · exact (h.refused error herror hkind).grow hother
  | settled outcome =>
    rw [hphase] at h
    refine ⟨fun event expected author answer hrequest hok => ?_, fun error herror hkind => ?_⟩
    · exact List.mem_append_left _ (h.written event expected author answer hrequest hok)
    · exact (h.refused error herror hkind).grow hother

theorem Reported.returning {store : ℕ} {request : Request} {outcome : Outcome}
    (h : Reported history c request outcome) :
    Call.Sound base history c ⟨store, request, .returning outcome⟩ := h

theorem Reported.settled {store : ℕ} {request : Request} {outcome : Outcome}
    (h : Reported history c request outcome) :
    Call.Sound base history c ⟨store, request, .settled outcome⟩ := h

@[simp] theorem setCall_self (s : State Text) (c : ℕ) (call : Call) :
    (s.setCall c call).calls c = some call := Function.update_self ..

theorem setCall_other {c' : ℕ} (s : State Text) (call : Call) (h : c' ≠ c) :
    (s.setCall c call).calls c' = s.calls c' := Function.update_of_ne h _ _

theorem State.Sound.unwritten (h : s.Sound base codec limits)
    (hrequest : ∀ call, s.calls c = some call → ∀ event expected author,
      call.request ≠ .append event expected author) : Unwritten s.history c := by
  intro key expected event hmem
  obtain ⟨call, author, hcall, happend, _⟩ := h.authored key expected c event hmem
  exact hrequest call hcall event expected author happend

theorem State.Sound.new_unwritten (h : s.Sound base codec limits) (hnew : s.calls c = none) :
    Unwritten s.history c := by
  apply h.unwritten
  intro call hcall
  rw [hnew] at hcall
  cases hcall

theorem State.Sound.setCall (h : s.Sound base codec limits) (hcall : call.Sound base s.history c)
    (hrequest : ∀ old, s.calls c = some old → call.request = old.request) :
    (s.setCall c call).Sound base codec limits := by
  refine ⟨h.valid, h.holds, h.accepted, fun key expected c' event hmem => ?_, fun c' other hother => ?_⟩
  · obtain ⟨old, author, hold, happend, hkey⟩ := h.authored key expected c' event hmem
    by_cases hsame : c' = c
    · subst hsame
      exact ⟨call, author, setCall_self s c' call, (hrequest old hold).trans happend, hkey⟩
    · exact ⟨old, author, (setCall_other s call hsame).trans hold, happend, hkey⟩
  · by_cases hsame : c' = c
    · subst hsame
      rw [setCall_self] at hother
      exact Option.some.inj hother ▸ hcall
    · rw [setCall_other s call hsame] at hother
      exact h.calls c' other hother

theorem State.Sound.setRecorder (h : s.Sound base codec limits) (r : ℕ) (recorder : Recorder) :
    (s.setRecorder r recorder).Sound base codec limits :=
  ⟨h.valid, h.holds, h.accepted, h.authored, h.calls⟩

end Frames

section Writes

variable {Text : Type} [DecidableEq Text] {codec : Codec Text} {limits : Limits} {base : Entries}
variable {s : State Text} {write : Write String (ℕ × AgentEvent)} {c : ℕ} {call : Call}

structure Writes (c : ℕ) (request : Request) (write : Write String (ℕ × AgentEvent)) : Prop where
  author : ∀ key expected c' event, write = .append key expected (c', event) →
    c' = c ∧ ∃ author, request = .append event expected author ∧ key = event.sessionId
  append : ∀ event expected author, request = .append event expected author →
    write = .append event.sessionId expected (c, event)

theorem State.Sound.commit (h : s.Sound base codec limits) {document : SessionDocument} {io : Io}
    {location : Option SessionLocation} {backend : Backend Text}
    (hunwritten : Unwritten s.history c) (hwrites : Writes c call.request write)
    (hkey : document.sessionId = write.key) (hnext : (write.mapEntry Prod.snd).Fits (documentsOf base s.history) →
      document = writtenDocument (documentsOf base s.history) (write.mapEntry Prod.snd))
    (hcommitted : (s.backend.write codec limits io document write.expected location).committed = some backend)
    (hcall : call.Sound base (s.history ++ [write]) c) :
    (State.setCall { s with backend := backend, history := s.history ++ [write] } c call).Sound
      base codec limits := by
  rw [← Write.mapEntry_expected Prod.snd] at hcommitted
  rw [← Write.mapEntry_key Prod.snd] at hkey
  obtain ⟨hfits, hisOk, hholds⟩ := Backend.write_holds h.holds hkey hnext hcommitted
  have hdocument := hnext hfits
  refine ⟨h.valid.snoc ((mapEntry_fits Prod.snd).1 hfits), ?_, ?_, ?_, ?_⟩
  · change backend.Holds codec (documentsOf base (s.history ++ [write]))
    rw [documentsOf_snoc]
    exact hholds
  · intro id events hevents
    change documentsOf base (s.history ++ [write]) id = some events at hevents
    rw [documentsOf_snoc] at hevents
    by_cases hid : id = (write.mapEntry Prod.snd).key
    · subst hid
      rw [perform_key] at hevents
      rw [hdocument] at hisOk
      rw [← Option.some.inj hevents]
      exact hisOk
    · rw [perform_other hid] at hevents
      exact h.accepted id events hevents
  · intro key expected c' event hmem
    rcases List.mem_append.1 hmem with hold | hnew
    · obtain ⟨old, author, hcalls, happend, hsession⟩ := h.authored key expected c' event hold
      have hne : c' ≠ c := by
        rintro rfl
        exact hunwritten key expected event hold
      exact ⟨old, author, (setCall_other _ call hne).trans hcalls, happend, hsession⟩
    · obtain ⟨rfl, author, hrequest, hsession⟩ :=
        hwrites.author key expected c' event (List.mem_singleton.1 hnew).symm
      exact ⟨call, author, setCall_self _ c' call, hrequest, hsession⟩
  · intro c' other hother
    by_cases hsame : c' = c
    · subst hsame
      rw [setCall_self] at hother
      exact Option.some.inj hother ▸ hcall
    · rw [setCall_other _ call hsame] at hother
      apply (h.calls c' other hother).grow
      intro key expected event hwrite
      exact hsame (hwrites.author key expected c' event hwrite).1

variable (call) in
theorem State.Sound.save (h : s.Sound base codec limits) {store : ℕ} {io : Io}
    {document : SessionDocument} {location : Option SessionLocation}
    (hrequest : ∀ old, s.calls c = some old → call.request = old.request)
    (hunwritten : Unwritten s.history c) (hwrites : Writes c call.request write)
    (hkey : document.sessionId = write.key) (hnext : (write.mapEntry Prod.snd).Fits (documentsOf base s.history) →
      document = writtenDocument (documentsOf base s.history) (write.mapEntry Prod.snd)) :
    ((s.save codec limits store io write document location).1.setCall c { call with
      phase := .returning (s.save codec limits store io write document location).2 }).Sound base codec limits := by
  unfold State.save
  cases hcheck : s.check store with
  | error error =>
    refine h.setCall ⟨(by simp), fun _ _ _ => hunwritten⟩ hrequest
  | ok _ =>
    dsimp only
    cases hresult : s.backend.write codec limits io document write.expected location with
    | thrown error =>
      refine h.setCall ⟨(by simp), fun _ _ _ => hunwritten⟩ hrequest
    | saved backend =>
      refine h.commit hunwritten hwrites hkey hnext (by rw [hresult]; rfl)
        ⟨fun event expected author answer happend _ => ?_, (by simp)⟩
      rw [hwrites.append event expected author happend]
      exact List.mem_append_right _ (List.mem_singleton_self _)
    | unconfirmed backend =>
      refine h.commit hunwritten hwrites hkey hnext (by rw [hresult]; rfl)
        ⟨(by simp), fun error herror hkind => ?_⟩
      exact absurd (Except.error.inj herror).symm (hkind _ _ _)

end Writes

end Session
