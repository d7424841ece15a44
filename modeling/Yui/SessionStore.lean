import Yui.SessionBackendHolds

/-!
# The Session store

The calls of any number of stores and recorders over one backend. A call runs from one await to the next:
an append reads the document, checks it in a later step, and writes in another. `history` is a ghost: it
lists the writes that took effect, with the call of each appended event.
-/

open JsText Checked AppendLog

namespace Session

inductive Request where
  | create (sessionId : String)
  | load (sessionId : String)
  | query (sessionId : String)
  | append (event : AgentEvent) (expected : ℕ) (recorder : Option ℕ)
  | recorder (sessionId : String)

def Request.sessionId : Request → String
  | .create id | .load id | .query id | .recorder id => id
  | .append event _ _ => event.sessionId

def Request.author : Request → Option ℕ
  | .append _ _ author => author
  | _ => none

inductive StoreValue where
  | document (document : SessionDocument)
  | page (page : SessionPage)

def StoreValue.revision : StoreValue → ℕ
  | .document saved => Session.revision saved
  | .page loaded => loaded.revision

abbrev Outcome := Except Thrown StoreValue

/-- What a call goes on with after its await. -/
inductive CallPhase where
  | reading (raw : Except Thrown (Option SessionDocument))
  | loaded (found : Except Thrown SessionDocument)
  | paged (page : Except Thrown SessionPage)
  | returning (outcome : Outcome)
  | settled (outcome : Outcome)

structure Call where
  store : ℕ
  request : Request
  phase : CallPhase

def Call.isSettled (call : Call) : Bool :=
  match call.phase with
  | .settled _ => true
  | _ => false

/-- What the caller of a call has got, or is about to get. -/
def Call.outcome (call : Call) : Option Outcome :=
  match call.phase with
  | .returning outcome | .settled outcome => some outcome
  | _ => none

structure Recorder where
  store : ℕ
  sessionId : String
  lastRevision : ℕ
  failed : Bool
  busy : Bool

structure State (Text : Type) where
  backend : Backend Text
  closed : ℕ → Bool
  calls : ℕ → Option Call
  recorders : ℕ → Option Recorder
  history : List (Write String (ℕ × AgentEvent))

/-- An operation starts a call, lets a call go on, or closes a store. -/
inductive Op where
  | create (call store : ℕ) (sessionId : String) (location : Option SessionLocation) (io : Io)
  | load (call store : ℕ) (sessionId : String) (io : Io)
  | query (call store : ℕ) (sessionId : String) (after limit : ℤ) (io : Io)
  | append (call store : ℕ) (event : AgentEvent) (expected : ℤ) (io : Io)
  | recorder (call store : ℕ) (sessionId : String) (io : Io)
  | record (call recorder : ℕ) (event : AgentEvent) (io : Io)
  | proceed (call : ℕ) (io : Io)
  | close (store : ℕ) (io : Io)

section Steps

variable {Text : Type} [DecidableEq Text] (codec : Codec Text) (limits : Limits)

def State.check (s : State Text) (store : ℕ) : Except Thrown Unit :=
  refuse (s.closed store = true) (.session ⟨"closed", "Session store is closed"⟩)

def State.setCall (s : State Text) (c : ℕ) (call : Call) : State Text :=
  { s with calls := Function.update s.calls c (some call) }

def State.setRecorder (s : State Text) (r : ℕ) (recorder : Recorder) : State Text :=
  { s with recorders := Function.update s.recorders r (some recorder) }

def saveError (write : Write String (ℕ × AgentEvent)) : Thrown :=
  .saveFailed write.key write.expected (write.entry.map Prod.snd)

/-- The writes that took effect, after this one. -/
def State.commit (s : State Text) (write : Write String (ℕ × AgentEvent)) :
    WriteResult Text → State Text
  | .saved backend | .unconfirmed backend =>
    { s with backend := backend, history := s.history ++ [write] }
  | .thrown _ => s

def State.save (s : State Text) (store : ℕ) (io : Io) (write : Write String (ℕ × AgentEvent))
    (document : SessionDocument) (location : Option SessionLocation) : State Text × Outcome :=
  match s.check store with
  | .error error => (s, .error error)
  | .ok _ =>
    let result := s.backend.write codec limits io document write.expected location
    (s.commit write result,
      match result with
      | .saved _ => .ok (.document document)
      | .thrown _ | .unconfirmed _ => .error (saveError write))

def State.create (s : State Text) (c store : ℕ) (io : Io) (id : String)
    (location : Option SessionLocation) : State Text :=
  let admitted : Except Thrown Unit := do
    s.check store
    (checkIdentity id).mapError .session
    match location with
    | none => .ok ()
    | some location => (copyLocation codec location).mapError .session
  match admitted with
  | .error error => s.setCall c ⟨store, .create id, .returning (.error error)⟩
  | .ok _ =>
    let saved := s.save codec limits store io (.create id) ⟨id, []⟩ location
    saved.1.setCall c ⟨store, .create id, .returning saved.2⟩

/-- `load`, up to its await. -/
def State.startLoad (s : State Text) (store : ℕ) (io : Io) (id : String) :
    Except Thrown (Option SessionDocument) := do
  s.check store
  (checkIdentity id).mapError .session
  s.backend.read codec limits io id

def State.finishLoad (s : State Text) (store : ℕ) (id : String)
    (raw : Except Thrown (Option SessionDocument)) : Except Thrown SessionDocument := do
  let raw ← raw
  s.check store
  match raw with
  | none => .error (.session notFound)
  | some document => do
    let _ ← (inspect limits document).mapError .session
    refuse (document.sessionId ≠ id)
      (.session ⟨"invalid_session", "Backend returned another Session"⟩)
    .ok document

def State.startQuery (s : State Text) (store : ℕ) (io : Io) (id : String) (after limit : ℤ) :
    Except Thrown SessionPage := do
  (queryBounds after limit).mapError .session
  (checkIdentity id).mapError .session
  s.check store
  s.backend.query codec io id after.toNat limit.toNat

def readFailure : Thrown → Thrown
  | .session error => .session error
  | .saveFailed .. | .driver =>
    .session ⟨"read_failed", "Session query failed; no empty-page fallback"⟩

def State.finishQuery (s : State Text) (store : ℕ) (page : Except Thrown SessionPage) : Outcome := do
  let page ← page.mapError readFailure
  s.check store
  .ok (.page page)

/-- `append`, up to its await. -/
def State.startAppend (s : State Text) (store : ℕ) (io : Io) (event : AgentEvent) (expected : ℤ) : CallPhase :=
  let admitted : Except Thrown Unit := do
    s.check store
    refuse (expected < 0 ∨ (maxSafeInteger : ℤ) < expected)
      (.session ⟨"revision_conflict", "Expected revision must be a nonnegative integer"⟩)
    (copyEvent codec event).mapError .session
  match admitted with
  | .error error => .returning (.error error)
  | .ok _ => .reading (s.startLoad codec limits store io event.sessionId)

def staleRevision : SessionError :=
  ⟨"revision_conflict", "Session revision conflict; read current facts"⟩

def appended (event : AgentEvent) (expected : ℕ) (found : Except Thrown SessionDocument) :
    Except Thrown SessionDocument := do
  let previous ← found
  refuse (revision previous ≠ expected) (.session staleRevision)
  let next : SessionDocument := ⟨previous.sessionId, previous.events ++ [event]⟩
  let _ ← (inspect limits next).mapError .session
  .ok next

def State.finishAppend (s : State Text) (c : ℕ) (call : Call) (io : Io) (event : AgentEvent)
    (expected : ℕ) (found : Except Thrown SessionDocument) : State Text :=
  match appended limits event expected found with
  | .error error => s.setCall c { call with phase := .returning (.error error) }
  | .ok next =>
    let saved := s.save codec limits call.store io (.append event.sessionId expected (c, event)) next none
    saved.1.setCall c { call with phase := .returning saved.2 }

/-- The recorder goes on after its append. -/
def Recorder.after (recorder : Recorder) : Outcome → Recorder
  | .ok answer => { recorder with lastRevision := answer.revision, busy := false }
  | .error _ => { recorder with failed := true, busy := false }

def recoveryRequired : SessionError :=
  ⟨"recovery_required", "Session requires explicit recovery; automatic replay is forbidden"⟩

/-- The Session of a new recorder is ready. -/
def readyToRecord (outcome : Outcome) : Outcome := do
  let answer ← outcome
  match answer with
  | .page _ => .ok answer
  | .document document => do
    let replay ← (inspect limits document).mapError .session
    refuse (replay.disposition ≠ .ready) (.session recoveryRequired)
    .ok answer

/-- A call ends, and its caller goes on. -/
def State.deliver (s : State Text) (c : ℕ) (call : Call) (outcome : Outcome) : State Text :=
  match call.request with
  | .append _ _ (some r) =>
    let t := s.setCall c { call with phase := .settled outcome }
    match s.recorders r with
    | none => t
    | some recorder => t.setRecorder r (recorder.after outcome)
  | .recorder id =>
    let outcome := readyToRecord limits outcome
    let t := s.setCall c { call with phase := .settled outcome }
    match outcome with
    | .error _ => t
    | .ok answer => t.setRecorder c ⟨call.store, id, answer.revision, false, false⟩
  | _ => s.setCall c { call with phase := .settled outcome }

def State.proceed (s : State Text) (c : ℕ) (call : Call) (io : Io) : Except Unit (State Text) :=
  match call.phase with
  | .reading raw =>
    .ok (s.setCall c { call with
      phase := .loaded (s.finishLoad limits call.store call.request.sessionId raw) })
  | .loaded found =>
    match call.request with
    | .append event expected _ => .ok (s.finishAppend codec limits c call io event expected found)
    | _ => .ok (s.setCall c { call with phase := .returning (found.map .document) })
  | .paged page => .ok (s.setCall c { call with phase := .returning (s.finishQuery call.store page) })
  | .returning outcome => .ok (s.deliver limits c call outcome)
  | .settled _ => .error ()

/-- `record`, up to its await. -/
def State.startRecord (s : State Text) (c r : ℕ) (recorder : Recorder) (io : Io) (event : AgentEvent) : State Text :=
  let call (phase : CallPhase) : Call := ⟨recorder.store, .append event recorder.lastRevision (some r), phase⟩
  if recorder.failed = true then
    s.setCall c (call (.settled (.error (.session
      ⟨"recorder_failed", "Session recorder is stopped after failure"⟩))))
  else if recorder.busy = true then
    s.setCall c (call (.settled (.error (.session
      ⟨"recorder_busy", "Session recorder requires sequential facts"⟩))))
  else
    (s.setCall c (call (
      if event.sessionId ≠ recorder.sessionId then
        .returning (.error (.session ⟨"invalid_session", "Recorder Session mismatch"⟩))
      else s.startAppend codec limits recorder.store io event recorder.lastRevision))).setRecorder r
        { recorder with busy := true }

def Op.call : Op → Option ℕ
  | .create c .. | .load c .. | .query c .. | .append c .. | .recorder c .. | .record c .. => some c
  | .proceed .. | .close .. => none

/-- The second close of a backend changes nothing, so a store need not remember its own. -/
def act (s : State Text) : Op → Except Unit (State Text)
  | .create c store id location io => .ok (s.create codec limits c store io id location)
  | .load c store id io =>
    .ok (s.setCall c ⟨store, .load id, .reading (s.startLoad codec limits store io id)⟩)
  | .query c store id after limit io =>
    .ok (s.setCall c ⟨store, .query id, .paged (s.startQuery codec store io id after limit)⟩)
  | .append c store event expected io =>
    .ok (s.setCall c ⟨store, .append event expected.toNat none,
      s.startAppend codec limits store io event expected⟩)
  | .recorder c store id io =>
    .ok (s.setCall c ⟨store, .recorder id, .reading (s.startLoad codec limits store io id)⟩)
  | .record c r event io =>
    match s.recorders r with
    | none => .error ()
    | some recorder => .ok (s.startRecord codec limits c r recorder io event)
  | .proceed c io =>
    match s.calls c with
    | none => .error ()
    | some call => s.proceed codec limits c call io
  | .close store io =>
    .ok { s with closed := Function.update s.closed store true, backend := s.backend.close io }

/-- A new call has a new number. -/
def step (s : State Text) (op : Op) : Except Unit (State Text) :=
  if op.call.any (fun c => (s.calls c).isSome) = true then .error () else act codec limits s op

end Steps

end Session
