import Mathlib.Data.List.Basic
import Yui.SessionBackend

/-!
# What a backend holds

A backend holds the logs of its Sessions: a stored document for each log, with its digest, and in SQLite
a row of the history for each event. A write that takes effect is a conditional write on the logs.
-/

open JsText Checked AppendLog

namespace Session

abbrev Logs := String → Option (List AgentEvent)

section Holds

variable {Text : Type} (codec : Codec Text) (limits : Limits)

def Backend.document : Backend Text → String → Option SessionDocument
  | .memory m, id => (m.documents id).map StoredDocument.document
  | .sqlite db, id => (db.sessions id).bind fun row => codec.parse row.document

/-- A memory backend that is closed holds nothing. -/
def Backend.cleared : Backend Text → Bool
  | .memory m => m.closed
  | .sqlite _ => false

def sessionRow (document : SessionDocument) : Row Text :=
  ⟨document.sessionId, revision document, codec.encode document, digest codec document, none⟩

def eventRows (id : String) (events : List AgentEvent) : List (EventRow Text) :=
  events.mapIdx fun index event => eventRow codec id (index + 1) event

structure MemoryBackend.Holds (m : MemoryBackend) (logs : Logs) : Prop where
  documents : m.closed = false →
    ∀ id, (m.documents id).map StoredDocument.document = (logs id).map (SessionDocument.mk id)
  cleared : m.closed = true → ∀ id, m.documents id = none
  digests : ∀ id stored, m.documents id = some stored → stored.digest = digest codec stored.document

structure SqliteBackend.Holds (db : SqliteBackend Text) (logs : Logs) : Prop where
  rows : ∀ id, (db.sessions id).map (fun row => { row with location := none }) =
    (logs id).map fun events => sessionRow codec ⟨id, events⟩
  history : ∀ id, (db.sessionEvents.filter fun row => row.sessionId = id) =
    eventRows codec id ((logs id).getD [])

def Backend.Holds : Backend Text → Logs → Prop
  | .memory m, logs => m.Holds codec logs
  | .sqlite db, logs => db.Holds codec logs

def Accepted (logs : Logs) : Prop :=
  ∀ id events, logs id = some events → (inspectDocument limits ⟨id, events⟩).isOk = true

variable {codec limits} {logs : Logs}

@[simp] theorem document_memory (m : MemoryBackend) (id : String) :
    (Backend.memory m : Backend Text).document codec id =
      (m.documents id).map StoredDocument.document := rfl

@[simp] theorem document_sqlite (db : SqliteBackend Text) (id : String) :
    (Backend.sqlite db).document codec id =
      (db.sessions id).bind fun row => codec.parse row.document := rfl

theorem Backend.Holds.document {b : Backend Text} (h : b.Holds codec logs) (hopen : b.cleared = false)
    (id : String) : b.document codec id = (logs id).map (SessionDocument.mk id) := by
  cases b with
  | memory m => exact h.documents hopen id
  | sqlite db =>
    have hrow := h.rows id
    rw [document_sqlite]
    cases hlog : logs id with
    | none =>
      rw [hlog, Option.map_none, Option.map_eq_none_iff] at hrow
      rw [hrow]
      rfl
    | some events =>
      rw [hlog, Option.map_some] at hrow
      obtain ⟨row, hsome, heq⟩ := Option.map_eq_some_iff.1 hrow
      have htext : row.document = codec.encode ⟨id, events⟩ := congrArg Row.document heq
      rw [hsome, Option.bind_some, htext, codec.parse_encode]
      rfl

theorem Backend.Holds.of_document {b : Backend Text} (h : b.Holds codec logs) {id : String}
    {document : SessionDocument} (hdocument : b.document codec id = some document) :
    ∃ events, logs id = some events ∧ document = ⟨id, events⟩ := by
  by_cases hopen : b.cleared = true
  · cases b with
    | memory m =>
      rw [document_memory, h.cleared hopen] at hdocument
      cases hdocument
    | sqlite db => cases hopen
  · rw [h.document (Bool.eq_false_of_not_eq_true hopen)] at hdocument
    obtain ⟨events, hevents, rfl⟩ := Option.map_eq_some_iff.1 hdocument
    exact ⟨events, hevents, rfl⟩

theorem eventRows_snoc (id : String) (events : List AgentEvent) (event : AgentEvent) :
    eventRows codec id (events ++ [event]) =
      eventRows codec id events ++ [eventRow codec id (events.length + 1) event] := by
  unfold eventRows
  rw [List.mapIdx_append, List.mapIdx_singleton, Nat.zero_add]

end Holds

section Writes

variable {Text : Type} {codec : Codec Text} {limits : Limits} {logs : Logs}
variable {next : SessionDocument} {write : Write String AgentEvent}

def writtenDocument (logs : Logs) (write : Write String AgentEvent) : SessionDocument :=
  ⟨write.key, write.log (logs write.key)⟩

theorem perform_document (logs : Logs) (write : Write String AgentEvent) (id : String) :
    (perform logs write id).map (SessionDocument.mk id) =
      Function.update (fun id => (logs id).map (SessionDocument.mk id)) write.key
        (some (writtenDocument logs write)) id := by
  by_cases hid : id = write.key
  · subst hid
    rw [perform_key, Function.update_self]
    rfl
  · rw [perform_other hid, Function.update_of_ne hid]

theorem decode_parse {row : Row Text} {document : SessionDocument}
    (h : decode codec limits row = .ok document) : codec.parse row.document = some document := by
  unfold decode at h
  obtain ⟨_, _, h⟩ := bind_ok h
  cases hparse : codec.parse row.document with
  | none =>
    rw [hparse] at h
    cases h
  | some parsed =>
    rw [hparse] at h
    obtain ⟨_, _, _, _, h⟩ := bind_ok₂ h
    exact congrArg some (Except.ok.inj h)

theorem mapError_ok {ε ε' α : Type} {f : ε → ε'} {x : Except ε α} {a : α} (h : x.mapError f = .ok a) : x = .ok a := by
  cases x with
  | error error => cases h
  | ok b => exact congrArg Except.ok (Except.ok.inj h)

theorem SqliteBackend.Holds.row {db : SqliteBackend Text} (h : db.Holds codec logs) {id : String}
    {row : Row Text} (hrow : db.sessions id = some row) : ∃ events, logs id = some events ∧
      { row with location := none } = sessionRow codec ⟨id, events⟩ := by
  have hrows := h.rows id
  rw [hrow, Option.map_some] at hrows
  obtain ⟨events, hevents, heq⟩ := Option.map_eq_some_iff.1 hrows.symm
  exact ⟨events, hevents, heq.symm⟩

theorem SqliteBackend.Holds.missing {db : SqliteBackend Text} (h : db.Holds codec logs) {id : String}
    (hrow : db.sessions id = none) : logs id = none := by
  have hrows := h.rows id
  rw [hrow, Option.map_none] at hrows
  exact Option.map_eq_none_iff.1 hrows.symm

theorem rows_perform {db : SqliteBackend Text} (h : db.Holds codec logs) {row : Row Text}
    (hrow : { row with location := none } = sessionRow codec (writtenDocument logs write)) (id : String) :
    (Function.update db.sessions write.key (some row) id).map (fun row => { row with location := none }) =
      (perform logs write id).map fun events => sessionRow codec ⟨id, events⟩ := by
  by_cases hid : id = write.key
  · subst hid
    rw [Function.update_self, perform_key, Option.map_some, Option.map_some, hrow]
    rfl
  · rw [Function.update_of_ne hid, perform_other hid]
    exact h.rows id

variable [DecidableEq Text]

theorem inspect_isOk {replay : Replay} (h : inspect limits next = .ok replay) :
    (inspectDocument limits next).isOk = true := by
  unfold inspect at h
  cases hinspect : inspectDocument limits next with
  | error error =>
    rw [hinspect] at h
    cases h
  | ok replay => rfl

theorem transition_length {previous : Option SessionDocument} {expected : Option ℕ}
    (h : transition codec previous next expected = .ok ()) : previous.map revision = expected := by
  cases expected <;> cases previous
  · rfl
  · cases h
  · cases h
  · obtain ⟨_, hrefuse, _⟩ := bind_ok h
    exact congrArg some (not_not.mp (refuse_ok hrefuse))

theorem fits_of_documents {previous : Option SessionDocument}
    (hprevious : previous = (logs write.key).map (SessionDocument.mk write.key))
    (h : previous.map revision = write.expected) : write.Fits logs := by
  rw [hprevious, Option.map_map] at h
  exact h

theorem MemoryBackend.write_holds {m m' : MemoryBackend} (h : m.Holds codec logs) (hkey : next.sessionId = write.key)
    (hnext : write.Fits logs → next = writtenDocument logs write) {location : Option SessionLocation}
    (hwrite : m.write codec limits next write.expected location = .ok m') :
    write.Fits logs ∧ (inspectDocument limits next).isOk = true ∧ m'.Holds codec (perform logs write) := by
  unfold MemoryBackend.write at hwrite
  obtain ⟨_, hrefuse, replay, hinspect, _, htransition, catalogRevision, _, hwrite⟩ := bind_ok₄ hwrite
  have hopen : m.closed = false := Bool.eq_false_of_not_eq_true (refuse_ok hrefuse)
  have hfits : write.Fits logs := by
    apply fits_of_documents _ (transition_length htransition)
    rw [hkey]
    exact h.documents hopen _
  refine ⟨hfits, inspect_isOk hinspect, ?_⟩
  rw [← Except.ok.inj hwrite]
  refine ⟨fun _ id => ?_, fun hclosed => absurd (hopen.symm.trans hclosed) (by simp), fun id stored hid => ?_⟩
  · rw [perform_document, ← hnext hfits]
    dsimp only
    rw [hkey]
    by_cases hid : id = write.key
    · subst hid
      rw [Function.update_self, Function.update_self]
      rfl
    · rw [Function.update_of_ne hid, Function.update_of_ne hid]
      exact h.documents hopen id
  · dsimp only at hid
    by_cases hsame : id = next.sessionId
    · subst hsame
      rw [Function.update_self] at hid
      rw [← Option.some.inj hid]
    · rw [Function.update_of_ne hsame] at hid
      exact h.digests id stored hid

theorem SqliteBackend.write_holds {db db' : SqliteBackend Text} (h : db.Holds codec logs)
    (hkey : next.sessionId = write.key)
    (hnext : write.Fits logs → next = writtenDocument logs write) {location : Option SessionLocation}
    (hwrite : db.write codec limits next write.expected location = .ok db') :
    write.Fits logs ∧ (inspectDocument limits next).isOk = true ∧ db'.Holds codec (perform logs write) := by
  unfold SqliteBackend.write at hwrite
  obtain ⟨_, _, replay, hinspect, hwrite⟩ := bind_ok₂ hwrite
  have hisOk := inspect_isOk (mapError_ok hinspect)
  rw [hkey] at hwrite
  cases hsession : db.sessions write.key with
  | some row =>
    rw [hsession] at hwrite
    obtain ⟨previous, hdecode, _, htransition, hwrite⟩ := bind_ok₂ hwrite
    obtain ⟨events, hevents, hrow⟩ := h.row hsession
    have hprevious : previous = ⟨write.key, events⟩ := by
      have hparse := decode_parse (mapError_ok hdecode)
      have htext : row.document = codec.encode ⟨write.key, events⟩ := congrArg Row.document hrow
      rw [htext, codec.parse_encode] at hparse
      exact (Option.some.inj hparse).symm
    have hexpected := transition_length (mapError_ok htransition)
    have hfits : write.Fits logs := by
      apply fits_of_documents _ hexpected
      rw [hevents, hprevious]
      rfl
    refine ⟨hfits, hisOk, ?_⟩
    cases write with
    | create key => cases hexpected
    | append key expected entry =>
      have hwritten := hnext hfits
      have hlog : next.events = events ++ [entry] := by
        rw [hwritten]
        change (logs key).getD [] ++ [entry] = _
        rw [show logs key = some events from hevents, Option.getD_some]
      have hlast : next.events.getLast? = some entry := by rw [hlog, List.getLast?_concat]
      rw [hlast] at hwrite
      obtain ⟨_, _, hwrite⟩ := bind_ok hwrite
      rw [← Except.ok.inj hwrite]
      refine ⟨rows_perform h ?_, fun id => ?_⟩
      · rw [← hwritten]
        have hid : row.id = next.sessionId := (congrArg Row.id hrow).trans hkey.symm
        unfold sessionRow
        rw [← hid]
      · dsimp only
        rw [List.filter_append, h.history id]
        by_cases hid : id = key
        · subst hid
          have hlogs : logs id = some events := hevents
          rw [perform_append hlogs, hlogs, Option.getD_some, Option.getD_some, eventRows_snoc]
          unfold revision
          rw [hlog, List.length_append, List.length_singleton]
          simp [eventRow, Write.key]
        · rw [perform_other hid]
          simp [eventRow, Write.key, Ne.symm hid]
  | none =>
    rw [hsession] at hwrite
    obtain ⟨_, htransition, catalogRevision, _, hwrite⟩ := bind_ok₂ hwrite
    have hexpected := transition_length (mapError_ok htransition)
    have hmissing := h.missing hsession
    have hfits : write.Fits logs := by
      apply fits_of_documents _ hexpected
      rw [hmissing]
      rfl
    refine ⟨hfits, hisOk, ?_⟩
    have hwritten := hnext hfits
    cases write with
    | append key expected entry => cases hexpected
    | create key =>
      rw [← Except.ok.inj hwrite]
      refine ⟨rows_perform h ?_, fun id => ?_⟩
      · rw [← hwritten]
        unfold sessionRow
        rw [hkey]
      · dsimp only
        rw [h.history id]
        by_cases hid : id = key
        · subst hid
          have hlogs : logs id = none := hmissing
          rw [perform_create hlogs, hlogs]
          rfl
        · rw [perform_other hid]

def WriteResult.committed : WriteResult Text → Option (Backend Text)
  | .saved b | .unconfirmed b => some b
  | .thrown _ => none

theorem Backend.write_holds {b b' : Backend Text} (h : b.Holds codec logs) (hkey : next.sessionId = write.key)
    (hnext : write.Fits logs → next = writtenDocument logs write) {io : Io} {location : Option SessionLocation}
    (hwrite : (b.write codec limits io next write.expected location).committed = some b') :
    write.Fits logs ∧ (inspectDocument limits next).isOk = true ∧ b'.Holds codec (perform logs write) := by
  unfold Backend.write at hwrite
  cases b with
  | memory m =>
    dsimp only at hwrite
    cases hresult : m.write codec limits next write.expected location with
    | error error =>
      rw [hresult] at hwrite
      cases hwrite
    | ok m' =>
      rw [hresult] at hwrite
      rw [← Option.some.inj hwrite]
      exact MemoryBackend.write_holds h hkey hnext hresult
  | sqlite db =>
    dsimp only at hwrite
    cases hresult : db.write codec limits next write.expected location with
    | error error =>
      rw [hresult] at hwrite
      cases hwrite
    | ok db' =>
      rw [hresult] at hwrite
      have hholds := SqliteBackend.write_holds h hkey hnext hresult
      cases io with
      | works =>
        rw [← Option.some.inj hwrite]
        exact hholds
      | fails => cases hwrite
      | unconfirmed =>
        rw [← Option.some.inj hwrite]
        exact hholds

theorem Backend.write_open {b b' : Backend Text} {io : Io} {expected : Option ℕ} {location : Option SessionLocation}
    (hwrite : (b.write codec limits io next expected location).committed = some b') :
    b.cleared = false ∧ b'.cleared = false := by
  unfold Backend.write at hwrite
  cases b with
  | memory m =>
    dsimp only at hwrite
    cases hresult : m.write codec limits next expected location with
    | error error =>
      rw [hresult] at hwrite
      cases hwrite
    | ok m' =>
      rw [hresult] at hwrite
      unfold MemoryBackend.write at hresult
      obtain ⟨_, hrefuse, hresult⟩ := bind_ok hresult
      iterate 3 obtain ⟨_, _, hresult⟩ := bind_ok hresult
      have hopen : m.closed = false := Bool.eq_false_of_not_eq_true (refuse_ok hrefuse)
      rw [← Option.some.inj hwrite, ← Except.ok.inj hresult]
      exact ⟨hopen, hopen⟩
  | sqlite db =>
    dsimp only at hwrite
    cases hresult : db.write codec limits next expected location with
    | error error =>
      rw [hresult] at hwrite
      cases hwrite
    | ok db' =>
      rw [hresult] at hwrite
      cases io with
      | fails => cases hwrite
      | works | unconfirmed =>
        rw [← Option.some.inj hwrite]
        exact ⟨rfl, rfl⟩

end Writes

end Session
