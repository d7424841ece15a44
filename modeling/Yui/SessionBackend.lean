import Yui.AppendLog
import Yui.SessionReplay

/-!
# The Session backends

A backend keeps one document for each Session: in memory, or as a row of an SQLite table beside the rows
of its events. A write creates an empty document or appends one event, and checks the stored revision
again before it takes effect.
-/

open JsText Checked

namespace Session

structure SessionError where
  code : String
  message : String

structure SessionLocation where
  root : String
  cwd : String

/-- What the store uses of `JSON`, of the hash and of the file paths. `copies` is the check of `copyEvent`
and `locates` the one of `copyLocation`. -/
structure Codec (Text : Type) where
  encode : SessionDocument → Text
  parse : Text → Option SessionDocument
  eventText : AgentEvent → Text
  parseEvent : Text → Option AgentEvent
  eventsText : List AgentEvent → Text
  locationText : SessionLocation → Text
  byteLength : Text → ℕ
  recordBytes : ℕ → AgentEvent → ℕ
  hash : Text → String
  copies : AgentEvent → Bool
  locates : SessionLocation → Bool
  parse_encode : ∀ document, parse (encode document) = some document

def revision (document : SessionDocument) : ℕ := document.events.length

section Backends

variable {Text : Type} [DecidableEq Text] (codec : Codec Text) (limits : Limits)

def inspect (document : SessionDocument) : Except SessionError Replay :=
  (inspectDocument limits document).mapError fun message => ⟨"invalid_session", message⟩

def checkIdentity (text : String) : Except SessionError Unit :=
  (requireIdentity text).mapError fun message => ⟨"invalid_session", message⟩

def copyEvent (event : AgentEvent) : Except SessionError Unit :=
  refuse (codec.copies event = false) ⟨"invalid_session", "Event byte limit exceeded"⟩

def copyLocation (location : SessionLocation) : Except SessionError Unit :=
  refuse (codec.locates location = false) ⟨"invalid_location",
    "Expected only resolved absolute root/cwd within root, each at most 4096 UTF-8 bytes"⟩

def digest (document : SessionDocument) : String := codec.hash (codec.encode document)

def increment (value : ℕ) : Except SessionError ℕ :=
  if maxSafeInteger ≤ value then
    .error ⟨"revision_exhausted", "Stored revision cannot be incremented safely"⟩
  else .ok (value + 1)

/-- The catalog counts the created Sessions. -/
def nextCatalogRevision (expected : Option ℕ) (catalogRevision : ℕ) : Except SessionError ℕ :=
  if expected = none then increment catalogRevision else .ok catalogRevision

def revisionConflict : SessionError :=
  ⟨"revision_conflict", "Session revision conflict; reload, do not replay uncertain effects"⟩

def invalidAppend : SessionError :=
  ⟨"invalid_append", "Write must create an empty Session or append exactly one immutable fact"⟩

def transition (previous : Option SessionDocument) (next : SessionDocument) (expected : Option ℕ) :
    Except SessionError Unit :=
  match expected, previous with
  | none, some _ => .error revisionConflict
  | none, none => refuse (next.events.length ≠ 0) invalidAppend
  | some _, none => .error revisionConflict
  | some expected, some previous => do
    refuse (revision previous ≠ expected) revisionConflict
    refuse (next.events.length ≠ expected + 1 ∨
      codec.eventsText next.events.dropLast ≠ codec.eventsText previous.events) invalidAppend

def backendClosed : SessionError := ⟨"closed", "Session backend is closed"⟩

structure StoredDocument where
  document : SessionDocument
  digest : String
  location : Option SessionLocation

structure MemoryBackend where
  documents : String → Option StoredDocument
  catalogRevision : ℕ
  closed : Bool

def MemoryBackend.write (m : MemoryBackend) (next : SessionDocument) (expected : Option ℕ)
    (location : Option SessionLocation) : Except SessionError MemoryBackend := do
  refuse (m.closed = true) backendClosed
  let _ ← inspect limits next
  let previous := m.documents next.sessionId
  transition codec (previous.map StoredDocument.document) next expected
  let catalogRevision ← nextCatalogRevision expected m.catalogRevision
  .ok { m with
    documents := Function.update m.documents next.sessionId
      (some ⟨next, digest codec next, (previous.bind StoredDocument.location).orElse fun _ => location⟩)
    catalogRevision := catalogRevision }

structure Row (Text : Type) where
  id : String
  revision : ℕ
  document : Text
  digest : String
  location : Option Text

structure EventRow (Text : Type) where
  sessionId : String
  revision : ℕ
  event : Text
  digest : String

structure SqliteBackend (Text : Type) where
  sessions : String → Option (Row Text)
  sessionEvents : List (EventRow Text)
  catalogRevision : ℕ
  closed : Bool

def corruptSession : SessionError :=
  ⟨"corrupt_session", "Stored Session is malformed; preserve the file for diagnosis"⟩

def decode (row : Row Text) : Except SessionError SessionDocument := do
  refuse (16 * 1024 * 1024 < codec.byteLength row.document) corruptSession
  match codec.parse row.document with
  | none => .error corruptSession
  | some document => do
    let _ ← (inspect limits document).mapError fun _ => corruptSession
    refuse (row.id ≠ document.sessionId ∨ row.revision ≠ revision document ∨
      row.digest ≠ digest codec document) corruptSession
    .ok document

def eventRow (id : String) (at_ : ℕ) (event : AgentEvent) : EventRow Text :=
  ⟨id, at_, codec.eventText event, codec.hash (codec.eventText event)⟩

/-- The transaction of a write. `none` is an error of the driver: the primary key of `session_events`
is taken. -/
def SqliteBackend.write (db : SqliteBackend Text) (next : SessionDocument) (expected : Option ℕ)
    (location : Option SessionLocation) : Except (Option SessionError) (SqliteBackend Text) := do
  refuse (db.closed = true) (some backendClosed)
  let _ ← (inspect limits next).mapError some
  match db.sessions next.sessionId with
  | some row => do
    let previous ← (decode codec limits row).mapError some
    (transition codec (some previous) next expected).mapError some
    match next.events.getLast? with
    | none => .error none
    | some event => do
      refuse (∃ other ∈ db.sessionEvents,
        other.sessionId = next.sessionId ∧ other.revision = revision next) none
      .ok { db with
        sessions := Function.update db.sessions next.sessionId (some { row with
          revision := revision next
          document := codec.encode next
          digest := digest codec next })
        sessionEvents := db.sessionEvents ++ [eventRow codec next.sessionId (revision next) event] }
  | none => do
    (transition codec none next expected).mapError some
    let catalogRevision ← (increment db.catalogRevision).mapError some
    .ok { db with
      sessions := Function.update db.sessions next.sessionId (some ⟨next.sessionId, revision next,
        codec.encode next, digest codec next, location.map codec.locationText⟩)
      catalogRevision := catalogRevision }

inductive Backend (Text : Type) where
  | memory (m : MemoryBackend)
  | sqlite (db : SqliteBackend Text)

/-- What the driver does to a transaction besides its statements: nothing, a failure that rolls it back, or
a failure after the commit. -/
inductive Io where
  | works | fails | unconfirmed
  deriving DecidableEq

inductive Thrown where
  | session (error : SessionError)
  | saveFailed (sessionId : String) (expected : Option ℕ) (event : Option AgentEvent)
  | driver

inductive WriteResult (Text : Type) where
  | saved (backend : Backend Text)
  | thrown (error : Thrown)
  | unconfirmed (backend : Backend Text)

def Thrown.ofTransaction : Option SessionError → Thrown
  | none => .driver
  | some error => .session error

def Backend.write (io : Io) (next : SessionDocument) (expected : Option ℕ)
    (location : Option SessionLocation) : Backend Text → WriteResult Text
  | .memory m =>
    match m.write codec limits next expected location with
    | .error error => .thrown (.session error)
    | .ok m => .saved (.memory m)
  | .sqlite db =>
    match db.write codec limits next expected location with
    | .error error => .thrown (.ofTransaction error)
    | .ok next =>
      match io with
      | .works => .saved (.sqlite next)
      | .fails => .thrown .driver
      | .unconfirmed => .unconfirmed (.sqlite next)

def Backend.read (io : Io) (id : String) : Backend Text → Except Thrown (Option SessionDocument)
  | .memory m => do
    refuse (m.closed = true) (.session backendClosed)
    (checkIdentity id).mapError .session
    .ok ((m.documents id).map StoredDocument.document)
  | .sqlite db => do
    refuse (db.closed = true) (.session backendClosed)
    (checkIdentity id).mapError .session
    refuse (io ≠ .works) .driver
    match db.sessions id with
    | none => .ok none
    | some row => do
      let document ← (decode codec limits row).mapError .session
      .ok (some document)

/-- `close`, which the driver may refuse. -/
def Backend.close (io : Io) : Backend Text → Backend Text
  | .memory m => .memory { m with documents := fun _ => none, closed := true }
  | .sqlite db => if io = .works then .sqlite { db with closed := true } else .sqlite db

end Backends

section Pages

variable {Text : Type} (codec : Codec Text)

structure SessionPage where
  sessionId : String
  revision : ℕ
  digest : String
  records : List (ℕ × AgentEvent)
  nextCursor : Option ℕ

def queryBounds (after limit : ℤ) : Except SessionError Unit :=
  refuse (after < 0 ∨ (maxSafeInteger : ℤ) < after ∨ limit < 1 ∨ 100 < limit)
    ⟨"invalid_query", "Cursor must be nonnegative; page limit must be 1..100"⟩

/-- The records of a page after `at_`, while they are fewer than `limit` and `bytes` holds them. -/
def historyRecords (read : ℕ → Except SessionError AgentEvent) (last : ℕ) :
    (limit : ℕ) → (at_ bytes : ℕ) → Except SessionError (List (ℕ × AgentEvent))
  | 0, _, _ => .ok []
  | limit + 1, at_, bytes =>
    if last < at_ then .ok []
    else do
      let event ← read at_
      let bytes := bytes + codec.recordBytes at_ event
      if 2 * 1024 * 1024 < bytes then .ok []
      else do
        let rest ← historyRecords read last limit (at_ + 1) bytes
        .ok ((at_, event) :: rest)

def pageOf (id : String) (revision : ℕ) (digest : String) (after limit : ℕ)
    (read : ℕ → Except SessionError AgentEvent) : Except SessionError SessionPage := do
  refuse (revision < after) ⟨"invalid_query", "Cursor exceeds the saved revision"⟩
  let records ← historyRecords codec read revision limit (after + 1) (64 * 1024)
  let last := (records.getLast?.map Prod.fst).getD after
  .ok ⟨id, revision, digest, records, if last < revision then some last else none⟩

def notFound : SessionError := ⟨"not_found", "Session not found"⟩

def missingHistory : SessionError :=
  ⟨"corrupt_session", "Missing or corrupt history projection; preserve the file"⟩

/-- An event of the history projection. -/
def SqliteBackend.readEvent [DecidableEq Text] (db : SqliteBackend Text) (id : String) (at_ : ℕ) :
    Except SessionError AgentEvent :=
  match db.sessionEvents.find? fun row => row.sessionId = id ∧ row.revision = at_ with
  | none => .error missingHistory
  | some row => do
    refuse (1024 * 1024 < codec.byteLength row.event ∨ codec.hash row.event ≠ row.digest) missingHistory
    match codec.parseEvent row.event with
    | none => .error missingHistory
    | some event => do
      copyEvent codec event
      refuse (event.sessionId ≠ id) ⟨"corrupt_session", "History identity mismatch"⟩
      .ok event

def Backend.query [DecidableEq Text] (io : Io) (id : String) (after limit : ℕ) :
    Backend Text → Except Thrown SessionPage
  | .memory m => do
    refuse (m.closed = true) (.session backendClosed)
    (checkIdentity id).mapError .session
    match m.documents id with
    | none => .error (.session notFound)
    | some stored =>
      (pageOf codec id (revision stored.document) stored.digest after limit fun at_ =>
        match stored.document.events[at_ - 1]? with
        | none => .error missingHistory
        | some event => .ok event).mapError .session
  | .sqlite db => do
    refuse (db.closed = true) (.session backendClosed)
    refuse (io ≠ .works) .driver
    (checkIdentity id).mapError .session
    match db.sessions id with
    | none => .error (.session notFound)
    | some row =>
      (pageOf codec id row.revision row.digest after limit fun at_ =>
        db.readEvent codec id at_).mapError .session

end Pages

end Session
