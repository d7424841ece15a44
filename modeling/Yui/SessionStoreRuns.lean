import Yui.FallibleRun
import Yui.SessionStoreLog

/-!
# Runs of the Session store

Any interleaving of the calls of stores and recorders keeps the store a log of conditional writes: an
append that succeeds has its event at the expected place, one that is refused has written nothing, and a
recorder that failed writes nothing more.
-/

open JsText Checked AppendLog FallibleRun

namespace Session

section Steps

variable {Text : Type} [DecidableEq Text] {codec : Codec Text} {limits : Limits} {base : Entries}
variable {s t : State Text} {c : ℕ} {call : Call}

variable {io : Io} {document : SessionDocument} {id : String}

omit [DecidableEq Text] in
theorem Backend.read_document {b : Backend Text}
    (h : b.read codec limits io id = .ok (some document)) : b.document codec id = some document := by
  unfold Backend.read at h
  cases b with
  | memory m =>
    obtain ⟨_, _, _, _, h⟩ := bind_ok₂ h
    exact Except.ok.inj h
  | sqlite db =>
    iterate 3 obtain ⟨_, _, h⟩ := bind_ok h
    cases hrow : db.sessions id with
    | none =>
      rw [hrow] at h
      cases Except.ok.inj h
    | some row =>
      rw [hrow] at h
      obtain ⟨found, hdecode, h⟩ := bind_ok h
      rw [← Option.some.inj (Except.ok.inj h), document_sqlite, hrow, Option.bind_some]
      exact decode_parse (mapError_ok hdecode)

variable {store : ℕ}

omit [DecidableEq Text] in
theorem State.Sound.startLoad (h : s.Sound base codec limits)
    (hraw : s.startLoad codec limits store io id = .ok (some document)) :
    Read (documentsOf base s.history) id document := by
  unfold State.startLoad at hraw
  obtain ⟨_, _, _, _, hraw⟩ := bind_ok₂ hraw
  obtain ⟨events, hevents, rfl⟩ := h.holds.of_document (Backend.read_document hraw)
  exact ⟨rfl, events, hevents, List.prefix_rfl⟩

omit [DecidableEq Text] in
theorem finishLoad_raw {raw : Except Thrown (Option SessionDocument)}
    (h : s.finishLoad limits store id raw = .ok document) : raw = .ok (some document) := by
  unfold State.finishLoad at h
  obtain ⟨found, hraw, _, _, h⟩ := bind_ok₂ h
  cases found with
  | none => cases h
  | some loaded =>
    obtain ⟨_, _, _, _, h⟩ := bind_ok₂ h
    rw [hraw, Except.ok.inj h]

/-- An answer of a call that wrote nothing. -/
theorem Reported.of_unwritten {history : List (Write String (ℕ × AgentEvent))} {request : Request}
    {outcome : Outcome} (hunwritten : Unwritten history c)
    (hrequest : ∀ event expected author answer, request = .append event expected author →
      outcome ≠ .ok answer) : Reported history c request outcome :=
  ⟨fun event expected author answer happend hok => absurd hok (hrequest event expected author answer happend),
    fun _ _ _ => hunwritten⟩

omit [DecidableEq Text] in
theorem State.Sound.startAppend (h : s.Sound base codec limits) (hnew : s.calls c = none) (store : ℕ)
    (io : Io) (event : AgentEvent) (expected : ℤ) (number : ℕ) (author : Option ℕ) : Call.Sound base s.history c
      ⟨store, .append event number author, s.startAppend codec limits store io event expected⟩ := by
  have hunwritten := h.new_unwritten hnew
  unfold State.startAppend
  dsimp only
  split
  · exact Reported.of_unwritten hunwritten fun _ _ _ _ _ hok => by cases hok
  · exact ⟨hunwritten, fun document hraw => h.startLoad hraw⟩

theorem State.Sound.create (h : s.Sound base codec limits) (hnew : s.calls c = none) (store : ℕ) (io : Io)
    (id : String) (location : Option SessionLocation) :
    (s.create codec limits c store io id location).Sound base codec limits := by
  have hunwritten := h.new_unwritten hnew
  have hrequest : ∀ (call : Call) old, s.calls c = some old → call.request = old.request := by
    intro call old hold
    rw [hnew] at hold
    cases hold
  unfold State.create
  dsimp only
  split
  · exact h.setCall (Reported.of_unwritten hunwritten fun _ _ _ _ hcreate => by cases hcreate) (hrequest _)
  · refine h.save ⟨store, .create id, .returning (.error .driver)⟩ (hrequest _) hunwritten
      ⟨(by simp), (by simp)⟩ rfl
      fun hfits => ?_
    have hnone : documentsOf base s.history id = none := Option.map_eq_none_iff.1 hfits
    simp [writtenDocument, Write.mapEntry, Write.key, Write.log, Write.entry, hnone]

theorem appended_ok {event : AgentEvent} {expected : ℕ} {found : Except Thrown SessionDocument}
    {next : SessionDocument} (h : appended limits event expected found = .ok next) :
    ∃ previous, found = .ok previous ∧ previous.events.length = expected ∧
      next = ⟨previous.sessionId, previous.events ++ [event]⟩ := by
  unfold appended at h
  obtain ⟨previous, hfound, _, hrefuse, _, _, h⟩ := bind_ok₃ h
  exact ⟨previous, hfound, not_not.1 (refuse_ok hrefuse), (Except.ok.inj h).symm⟩

theorem State.Sound.finishAppend (h : s.Sound base codec limits) (hcall : s.calls c = some call)
    {event : AgentEvent} {expected : ℕ} {author : Option ℕ} {found : Except Thrown SessionDocument}
    (hphase : call.phase = .loaded found) (hrequest : call.request = .append event expected author)
    (io : Io) : (s.finishAppend codec limits c call io event expected found).Sound base codec limits := by
  have hsound := h.calls c call hcall
  unfold Call.Sound at hsound
  rw [hphase] at hsound
  obtain ⟨hunwritten, hread⟩ := hsound
  have hsame : ∀ old, s.calls c = some old → call.request = old.request := by
    intro old hold
    rw [Option.some.inj (hcall.symm.trans hold)]
  unfold State.finishAppend
  cases hnext : appended limits event expected found with
  | error error =>
    exact h.setCall (Reported.of_unwritten hunwritten fun _ _ _ _ _ hok => by cases hok) hsame
  | ok next =>
    obtain ⟨previous, hfound, hlength, rfl⟩ := appended_ok hnext
    obtain ⟨hid, events, hevents, hprefix⟩ := hread previous hfound
    rw [hrequest] at hid hevents
    have hwrites : Writes c call.request (.append event.sessionId expected (c, event)) := by
      refine ⟨fun key number c' other hwrite => ?_, fun other number recorder happend => ?_⟩
      · cases hwrite
        exact ⟨rfl, author, hrequest, rfl⟩
      · rw [hrequest] at happend
        cases happend
        rfl
    refine h.save call hsame hunwritten hwrites hid fun hfits => ?_
    have hstored : events.length = expected := by
      have hlogs := Option.map_eq_some_iff.1 hfits
      obtain ⟨log, hlog, hfit⟩ := hlogs
      rw [Option.some.inj (hevents.symm.trans hlog)]
      exact hfit
    have hevery : previous.events = events := hprefix.eq_of_length (hlength.trans hstored.symm)
    have hlogs : documentsOf base s.history event.sessionId = some events := hevents
    unfold writtenDocument
    simp only [Write.mapEntry, Write.key, Write.log, Write.entry, hlogs, Option.getD_some, Option.toList_some, hevery]
    rw [show previous.sessionId = event.sessionId from hid]

omit [DecidableEq Text] in
theorem State.Sound.deliver (h : s.Sound base codec limits) (hcall : s.calls c = some call)
    {outcome : Outcome} (hphase : call.phase = .returning outcome) :
    (s.deliver limits c call outcome).Sound base codec limits := by
  have hsound := h.calls c call hcall
  unfold Call.Sound at hsound
  rw [hphase] at hsound
  have hsettled : ∀ result : Outcome, Reported s.history c call.request result →
      (s.setCall c { call with phase := .settled result }).Sound base codec limits := by
    refine fun result hreported => h.setCall hreported.settled fun old hold => ?_
    rw [Option.some.inj (hcall.symm.trans hold)]
  obtain ⟨store, request, phase⟩ := call
  dsimp only at hsound hsettled
  unfold State.deliver
  cases request with
  | append event expected author =>
    cases author with
    | none => exact hsettled outcome hsound
    | some r =>
      dsimp only
      cases hrecorder : s.recorders r with
      | none => exact hsettled outcome hsound
      | some recorder => exact (hsettled outcome hsound).setRecorder r _
  | recorder id =>
    have hunwritten : Unwritten s.history c := by
      apply h.unwritten
      intro other hother event expected author happend
      rw [← Option.some.inj (hcall.symm.trans hother)] at happend
      cases happend
    have hdone := hsettled (readyToRecord limits outcome)
      (Reported.of_unwritten hunwritten (by simp))
    dsimp only
    cases hanswer : readyToRecord limits outcome with
    | error error =>
      rw [hanswer] at hdone
      exact hdone
    | ok answer =>
      rw [hanswer] at hdone
      exact hdone.setRecorder c _
  | create id | load id | query id => exact hsettled outcome hsound

theorem State.Sound.proceed (h : s.Sound base codec limits) (hcall : s.calls c = some call)
    (hstep : s.proceed codec limits c call io = .ok t) : t.Sound base codec limits := by
  have hsound := h.calls c call hcall
  have hsame : ∀ (next : Call) old, next.request = call.request → s.calls c = some old →
      next.request = old.request := by
    intro next old hnext hold
    rw [hnext, Option.some.inj (hcall.symm.trans hold)]
  unfold Call.Sound at hsound
  unfold State.proceed at hstep
  cases hphase : call.phase with
  | reading raw =>
    rw [hphase] at hsound hstep
    rw [← Except.ok.inj hstep]
    refine h.setCall ⟨hsound.1, fun document hfound => ?_⟩ fun old => hsame _ old rfl
    exact hsound.2 document (finishLoad_raw hfound)
  | loaded found =>
    rw [hphase] at hsound hstep
    dsimp only at hstep
    have hother : (∀ event expected author, call.request ≠ .append event expected author) →
        (s.setCall c { call with phase := .returning (found.map .document) }).Sound
          base codec limits := by
      intro hkind
      refine h.setCall (Reported.of_unwritten hsound.1 fun event expected author _ happend => ?_)
        fun old => hsame _ old rfl
      exact absurd happend (hkind event expected author)
    cases hrequest : call.request with
    | append event expected author =>
      rw [hrequest] at hstep
      rw [← Except.ok.inj hstep]
      exact h.finishAppend hcall hphase hrequest io
    | create id | load id | query id | recorder id =>
      rw [hrequest] at hstep
      rw [← Except.ok.inj hstep, ← hrequest]
      apply hother
      rw [hrequest]
      intro event expected author happend
      cases happend
  | paged page =>
    rw [hphase] at hsound hstep
    rw [← Except.ok.inj hstep]
    refine h.setCall (Reported.of_unwritten hsound.1 fun event expected author _ happend => ?_)
      fun old => hsame _ old rfl
    exact absurd happend (hsound.2 event expected author)
  | returning outcome =>
    rw [hphase] at hstep
    rw [← Except.ok.inj hstep]
    exact h.deliver hcall hphase
  | settled outcome =>
    rw [hphase] at hstep
    cases hstep

omit [DecidableEq Text] in
theorem State.Sound.startRecord (h : s.Sound base codec limits) (hnew : s.calls c = none) (r : ℕ)
    (recorder : Recorder) (io : Io) (event : AgentEvent) :
    (s.startRecord codec limits c r recorder io event).Sound base codec limits := by
  have hunwritten := h.new_unwritten hnew
  have hrequest : ∀ (call : Call) old, s.calls c = some old → call.request = old.request := by
    intro call old hold
    rw [hnew] at hold
    cases hold
  have hrefused : ∀ (request : Request) (error : Thrown), Reported s.history c request (.error error) :=
    fun _ _ => Reported.of_unwritten hunwritten fun _ _ _ _ _ hok => by cases hok
  unfold State.startRecord
  dsimp only
  split_ifs
  · exact h.setCall (hrefused _ _).settled (hrequest _)
  · exact h.setCall (hrefused _ _).settled (hrequest _)
  · exact (h.setCall (hrefused _ _).returning (hrequest _)).setRecorder r _
  · exact (h.setCall (h.startAppend hnew _ io event _ _ _) (hrequest _)).setRecorder r _

omit [DecidableEq Text] in
theorem Backend.close_holds {b : Backend Text} {logs : Logs} (h : b.Holds codec logs) (io : Io) :
    (b.close io).Holds codec logs := by
  unfold Backend.close
  cases b with
  | memory m => exact ⟨(by simp), fun _ _ => rfl, (by simp)⟩
  | sqlite db =>
    dsimp only
    split_ifs
    · exact ⟨h.rows, h.history⟩
    · exact h

variable {op : Op}

theorem step_act (hstep : step codec limits s op = .ok t) :
    act codec limits s op = .ok t ∧ ∀ c, op.call = some c → s.calls c = none := by
  unfold step at hstep
  split_ifs at hstep with hnumber
  refine ⟨hstep, fun c hcall => ?_⟩
  rw [hcall, Option.any_some] at hnumber
  exact Option.not_isSome_iff_eq_none.1 hnumber

theorem step_sound (h : s.Sound base codec limits) (hstep : step codec limits s op = .ok t) :
    t.Sound base codec limits := by
  obtain ⟨hstep, hnew⟩ := step_act hstep
  have hrequest : ∀ c, op.call = some c → ∀ (call : Call) old, s.calls c = some old →
      call.request = old.request := by
    intro c hcall call old hold
    rw [hnew c hcall] at hold
    cases hold
  cases op with
  | create c store id location io =>
    rw [← Except.ok.inj hstep]
    exact h.create (hnew c rfl) store io id location
  | load c store id io | recorder c store id io =>
    rw [← Except.ok.inj hstep]
    exact h.setCall ⟨h.new_unwritten (hnew c rfl), fun document hraw => h.startLoad hraw⟩ (hrequest c rfl _)
  | query c store id after limit io =>
    rw [← Except.ok.inj hstep]
    exact h.setCall ⟨h.new_unwritten (hnew c rfl), (by simp)⟩ (hrequest c rfl _)
  | append c store event expected io =>
    rw [← Except.ok.inj hstep]
    exact h.setCall (h.startAppend (hnew c rfl) store io event expected _ _) (hrequest c rfl _)
  | record c r event io =>
    unfold act at hstep
    dsimp only at hstep
    cases hrecorder : s.recorders r with
    | none =>
      rw [hrecorder] at hstep
      cases hstep
    | some recorder =>
      rw [hrecorder] at hstep
      rw [← Except.ok.inj hstep]
      exact h.startRecord (hnew c rfl) r recorder io event
  | proceed c io =>
    unfold act at hstep
    dsimp only at hstep
    cases hcall : s.calls c with
    | none =>
      rw [hcall] at hstep
      cases hstep
    | some call =>
      rw [hcall] at hstep
      exact h.proceed hcall hstep
  | close store io =>
    rw [← Except.ok.inj hstep]
    exact ⟨h.valid, Backend.close_holds h.holds io, h.accepted, h.authored, h.calls⟩

def Originates (s : State Text) (write : Write String (ℕ × AgentEvent)) : Prop :=
  (∃ id, write = .create id) ∨ ∃ c call event expected author, s.calls c = some call ∧
    call.isSettled = false ∧ call.request = .append event expected author ∧
      write = .append event.sessionId expected (c, event)

/-- What a step does to the backend: nothing, a close, or one write. -/
inductive Effect (s t : State Text) : Prop
  | quiet (hbackend : t.backend = s.backend) (hhistory : t.history = s.history)
  | closes (io : Io) (hbackend : t.backend = s.backend.close io) (hhistory : t.history = s.history)
  | writes (write : Write String (ℕ × AgentEvent)) (horigin : Originates s write)
      (hopen : s.backend.cleared = false ∧ t.backend.cleared = false)
      (hhistory : t.history = s.history ++ [write])

theorem save_effect {write : Write String (ℕ × AgentEvent)}
    {location : Option SessionLocation} (horigin : Originates s write) (next : Call) :
    Effect s ((s.save codec limits store io write document location).1.setCall c next) := by
  unfold State.save
  cases hcheck : s.check store with
  | error error => exact .quiet rfl rfl
  | ok _ =>
    dsimp only
    cases hresult : s.backend.write codec limits io document write.expected location with
    | thrown error => exact .quiet rfl rfl
    | saved backend | unconfirmed backend =>
      exact .writes write horigin (Backend.write_open (by rw [hresult]; rfl)) rfl

theorem step_effect (hstep : step codec limits s op = .ok t) : Effect s t := by
  obtain ⟨hstep, _⟩ := step_act hstep
  cases op with
  | create c store id location io =>
    rw [← Except.ok.inj hstep]
    unfold State.create
    dsimp only
    split
    · exact .quiet rfl rfl
    · exact save_effect (.inl ⟨id, rfl⟩) _
  | load c store id io | recorder c store id io | query c store id after limit io
  | append c store event expected io =>
    rw [← Except.ok.inj hstep]
    exact .quiet rfl rfl
  | record c r event io =>
    unfold act at hstep
    dsimp only at hstep
    cases hrecorder : s.recorders r with
    | none =>
      rw [hrecorder] at hstep
      cases hstep
    | some recorder =>
      rw [hrecorder] at hstep
      rw [← Except.ok.inj hstep]
      unfold State.startRecord
      split_ifs
      · exact .quiet rfl rfl
      · exact .quiet rfl rfl
      · exact .quiet rfl rfl
      · exact .quiet rfl rfl
  | proceed c io =>
    unfold act at hstep
    dsimp only at hstep
    cases hcall : s.calls c with
    | none =>
      rw [hcall] at hstep
      cases hstep
    | some call =>
      rw [hcall] at hstep
      dsimp only at hstep
      unfold State.proceed at hstep
      cases hphase : call.phase with
      | reading raw | paged raw =>
        rw [hphase] at hstep
        rw [← Except.ok.inj hstep]
        exact .quiet rfl rfl
      | settled outcome =>
        rw [hphase] at hstep
        cases hstep
      | returning outcome =>
        rw [hphase] at hstep
        rw [← Except.ok.inj hstep]
        unfold State.deliver
        split
        · dsimp only
          split
          · exact .quiet rfl rfl
          · exact .quiet rfl rfl
        · dsimp only
          split
          · exact .quiet rfl rfl
          · exact .quiet rfl rfl
        · exact .quiet rfl rfl
      | loaded found =>
        rw [hphase] at hstep
        dsimp only at hstep
        cases hrequest : call.request with
        | append event expected author =>
          rw [hrequest] at hstep
          rw [← Except.ok.inj hstep]
          unfold State.finishAppend
          cases hnext : appended limits event expected found with
          | error error => exact .quiet rfl rfl
          | ok next =>
            apply save_effect
            exact .inr ⟨c, call, event, expected, author, hcall, by
              simp [Call.isSettled, hphase], hrequest, rfl⟩
        | create id | load id | query id | recorder id =>
          rw [hrequest] at hstep
          rw [← Except.ok.inj hstep]
          exact .quiet rfl rfl
  | close store io =>
    rw [← Except.ok.inj hstep]
    exact .closes io rfl rfl

end Steps

end Session
