import Yui.SessionLog
import Yui.SessionRecorder

/-!
# The Session store is a log of conditional appends

What a caller may rely on in every run over one backend: the stored documents are accepted, an append that
succeeds added its event at the revision it expected and nothing else, an append that is refused added
nothing, and a failed recorder adds nothing more.
-/

open JsText Checked AppendLog FallibleRun

namespace Session

section Runs

variable {Text : Type} [DecidableEq Text] (codec : Codec Text) (limits : Limits)

/-- A backend with the logs of its Sessions, all of them of accepted documents. -/
structure Opened where
  backend : Backend Text
  logs : Logs
  holds : backend.Holds codec logs
  accepted : Accepted limits logs

variable {codec limits}

/-- The logs before the first call. The calls of their events do not matter. -/
def Opened.base (start : Opened codec limits) : Entries := mapLogs (fun event => (0, event)) start.logs

def Opened.state (start : Opened codec limits) : State Text :=
  ⟨start.backend, fun _ => false, fun _ => none, fun _ => none, []⟩

omit [DecidableEq Text] in
theorem Opened.documents (start : Opened codec limits) : documentsOf start.base [] = start.logs := by
  funext id
  simp [documentsOf, logsOf, Opened.base, mapLogs, Option.map_map, Function.comp_def]

omit [DecidableEq Text] in
theorem Opened.sound (start : Opened codec limits) : start.state.Sound start.base codec limits where
  valid := .nil
  holds := by
    change start.backend.Holds codec (documentsOf start.base [])
    rw [start.documents]
    exact start.holds
  accepted := by
    change Accepted limits (documentsOf start.base [])
    rw [start.documents]
    exact start.accepted
  authored _ _ _ _ h := by cases h
  calls _ _ h := by cases h

omit [DecidableEq Text] in
theorem Opened.recording (start : Opened codec limits) : start.state.Recording where
  opened _ _ h := by cases h
  busy _ _ _ h := by cases h
  single _ _ _ _ _ h := by cases h

/-- The revision and the digest that the backend lists for a Session. -/
def Backend.summary : Backend Text → String → Option (ℕ × String)
  | .memory m, id => (m.documents id).map fun stored => (revision stored.document, stored.digest)
  | .sqlite db, id => (db.sessions id).map fun row => (row.revision, row.digest)

def Backend.rowsOf : Backend Text → String → Option (List (EventRow Text))
  | .memory _, _ => none
  | .sqlite db, id => some (db.sessionEvents.filter fun row => row.sessionId = id)

def succeeded (s : State Text) (c : ℕ) (event : AgentEvent) (expected : ℕ) : Prop :=
  ∃ call author answer, s.calls c = some call ∧ call.request = .append event expected author ∧
    call.outcome = some (.ok answer)

structure Linear (codec : Codec Text) (limits : Limits) (s : State Text) : Prop where
  accepted : ∀ id document, s.backend.document codec id = some document →
    document.sessionId = id ∧ (inspectDocument limits document).isOk = true
  summary : ∀ id, s.backend.summary id =
    (s.backend.document codec id).map fun document => (revision document, digest codec document)
  rows : ∀ id rows, s.backend.rowsOf id = some rows → rows =
    eventRows codec id (((s.backend.document codec id).map SessionDocument.events).getD [])
  written : ∀ c event expected, succeeded s c event expected →
    s.history.Nodup ∧ Write.append event.sessionId expected (c, event) ∈ s.history
  single : ∀ c c' event event' expected, succeeded s c event expected → succeeded s c' event' expected →
    event.sessionId = event'.sessionId → c = c'
  refused : ∀ c call error, s.calls c = some call → call.outcome = some (.error error) →
    (∀ id expected event, error ≠ .saveFailed id expected event) → Unwritten s.history c

/-- What one step does to the documents: nothing, the close of a memory backend, a new empty Session, or
one event at the end of a document, at its revision. -/
inductive Advance (codec : Codec Text) (s t : State Text) : Prop
  | stays (hhistory : t.history = s.history)
      (hdocuments : t.backend.document codec = s.backend.document codec)
  | closes (hhistory : t.history = s.history) (hdocuments : t.backend.document codec = fun _ => none)
  | creates (id : String) (hmissing : s.backend.document codec id = none)
      (hhistory : t.history = s.history ++ [Write.create id])
      (hdocuments : t.backend.document codec =
        Function.update (s.backend.document codec) id (some ⟨id, []⟩))
  | appends (c : ℕ) (event : AgentEvent) (events : List AgentEvent)
      (hstored : s.backend.document codec event.sessionId = some ⟨event.sessionId, events⟩)
      (hhistory : t.history = s.history ++ [Write.append event.sessionId events.length (c, event)])
      (hdocuments : t.backend.document codec = Function.update (s.backend.document codec)
        event.sessionId (some ⟨event.sessionId, events ++ [event]⟩))

def State.recorded (s : State Text) (r : ℕ) : List (Write String (ℕ × AgentEvent)) :=
  s.history.filter fun write =>
    (write.entry.bind fun entry => (s.calls entry.1).bind fun call => call.request.author) = some r

variable {base : Entries} {s t : State Text}

theorem Call.Sound.reported {c : ℕ} {call : Call} {history : List (Write String (ℕ × AgentEvent))}
    (h : call.Sound base history c) {outcome : Outcome} (houtcome : call.outcome = some outcome) :
    Reported history c call.request outcome := by
  unfold Call.Sound at h
  unfold Call.outcome at houtcome
  cases hphase : call.phase with
  | reading raw | loaded raw | paged raw =>
    rw [hphase] at houtcome
    cases houtcome
  | returning result | settled result =>
    rw [hphase] at h houtcome
    exact Option.some.inj houtcome ▸ h

omit [DecidableEq Text] in
theorem State.Sound.written (h : s.Sound base codec limits) {c : ℕ} {event : AgentEvent} {expected : ℕ}
    (hdone : succeeded s c event expected) : Write.append event.sessionId expected (c, event) ∈ s.history := by
  obtain ⟨call, author, answer, hcall, hrequest, houtcome⟩ := hdone
  exact ((h.calls c call hcall).reported houtcome).written event expected author answer hrequest rfl

omit [DecidableEq Text] in
theorem State.Sound.linear (h : s.Sound base codec limits) : Linear codec limits s := by
  refine ⟨fun id document hdocument => ?_, fun id => ?_, fun id rows hrows => ?_,
    fun c event expected hdone => ⟨h.valid.nodup, h.written hdone⟩,
    fun c c' event event' expected hdone hdone' hsame => ?_,
    fun c call error hcall houtcome hkind =>
      ((h.calls c call hcall).reported houtcome).refused error rfl hkind⟩
  · obtain ⟨events, hevents, rfl⟩ := h.holds.of_document hdocument
    exact ⟨rfl, h.accepted id events hevents⟩
  · have hholds := h.holds
    cases hbackend : s.backend with
    | memory m =>
      rw [hbackend] at hholds
      unfold Backend.summary
      rw [document_memory, Option.map_map]
      apply Option.map_congr
      intro stored hstored
      rw [hholds.digests id stored hstored]
      rfl
    | sqlite db =>
      rw [hbackend] at hholds
      rw [Backend.Holds.document hholds rfl, Option.map_map]
      have hrow := congrArg (Option.map fun row : Row Text => (row.revision, row.digest)) (hholds.rows id)
      rw [Option.map_map, Option.map_map] at hrow
      exact hrow
  · have hholds := h.holds
    cases hbackend : s.backend with
    | memory m =>
      rw [hbackend] at hrows
      cases hrows
    | sqlite db =>
      rw [hbackend] at hholds hrows
      rw [Backend.Holds.document hholds rfl, Option.map_map, ← Option.some.inj hrows, hholds.history id]
      congr 2
      cases documentsOf base s.history id <;> rfl
  · have hmem := h.written hdone
    have hmem' := h.written hdone'
    rw [← hsame] at hmem'
    exact congrArg Prod.fst (h.valid.append_unique hmem hmem')

omit [DecidableEq Text] in
theorem State.Sound.document_update (ht : t.Sound base codec limits)
    {write : Write String (ℕ × AgentEvent)} (hs : s.Sound base codec limits)
    (hopen : s.backend.cleared = false ∧ t.backend.cleared = false) (hhistory : t.history = s.history ++ [write]) :
    t.backend.document codec = Function.update (s.backend.document codec) write.key
      (some (writtenDocument (documentsOf base s.history) (write.mapEntry Prod.snd))) := by
  funext id
  rw [ht.holds.document hopen.2, hhistory, documentsOf_snoc, perform_document, Write.mapEntry_key]
  congr 1
  funext other
  exact (hs.holds.document hopen.1 other).symm

theorem State.Sound.advance (hs : s.Sound base codec limits) {op : Op}
    (hstep : step codec limits s op = .ok t) : Advance codec s t := by
  have ht := step_sound hs hstep
  cases step_effect hstep with
  | quiet hbackend hhistory => exact .stays hhistory (by rw [hbackend])
  | closes io hbackend hhistory =>
    cases hold : s.backend with
    | memory m =>
      refine .closes hhistory ?_
      rw [hbackend, hold]
      rfl
    | sqlite db =>
      refine .stays hhistory ?_
      rw [hbackend, hold]
      unfold Backend.close
      dsimp only
      split_ifs
      · rfl
      · rfl
  | writes write horigin hopen hhistory =>
    have hdocuments := ht.document_update hs hopen hhistory
    have hfits : write.Fits (logsOf base s.history) := by
      have hvalid := ht.valid
      rw [hhistory] at hvalid
      exact hvalid.fits
    rw [← mapEntry_fits Prod.snd] at hfits
    rcases horigin with ⟨id, rfl⟩ | ⟨c, call, event, expected, author, hcall, hpending, hrequest, rfl⟩
    · have hmissing : documentsOf base s.history id = none := Option.map_eq_none_iff.1 hfits
      refine .creates id ?_ hhistory ?_
      · rw [hs.holds.document hopen.1, hmissing]
        rfl
      · rw [hdocuments]
        simp [writtenDocument, Write.mapEntry, Write.key, Write.log, Write.entry, hmissing]
    · obtain ⟨events, hevents, hlength⟩ := Option.map_eq_some_iff.1 hfits
      have hlog : documentsOf base s.history event.sessionId = some events := hevents
      have hexpected : events.length = expected := hlength
      subst hexpected
      refine .appends c event events ?_ hhistory ?_
      · rw [hs.holds.document hopen.1, hlog]
        rfl
      · rw [hdocuments]
        simp [writtenDocument, Write.mapEntry, Write.key, Write.log, Write.entry, hlog]

theorem State.Sound.recorded_step (hs : s.Sound base codec limits) (hrecording : s.Recording) {op : Op}
    (hstep : step codec limits s op = .ok t) {r : ℕ} {recorder : Recorder}
    (hrecorder : s.recorders r = some recorder) (hfailed : recorder.failed = true) : t.recorded r = s.recorded r := by
  have hlasts := step_lasts hrecording hstep
  have hold : ∀ write ∈ s.history,
      (write.entry.bind fun entry => (t.calls entry.1).bind fun call => call.request.author) =
        write.entry.bind fun entry => (s.calls entry.1).bind fun call => call.request.author := by
    intro write hwrite
    cases write with
    | create id => rfl
    | append key expected entry =>
      obtain ⟨call, author, hcall, _, _⟩ := hs.authored key expected entry.1 entry.2 hwrite
      obtain ⟨next, hnext, hrequest⟩ := hlasts.requests entry.1 call hcall
      simp [Write.entry, hcall, hnext, hrequest]
  have hsame : (s.history.filter fun write => decide ((write.entry.bind fun entry =>
      (t.calls entry.1).bind fun call => call.request.author) = some r)) = s.recorded r := by
    apply List.filter_congr
    intro write hwrite
    rw [hold write hwrite]
  cases step_effect hstep with
  | quiet _ hhistory | closes _ _ hhistory =>
    unfold State.recorded
    rw [hhistory]
    exact hsame
  | writes write horigin _ hhistory =>
    have hother : (write.entry.bind fun entry =>
        (t.calls entry.1).bind fun call => call.request.author) ≠ some r := by
      rcases horigin with ⟨id, rfl⟩ | ⟨c, call, event, expected, author, hcall, hpending, hrequest, rfl⟩
      · simp [Write.entry]
      · obtain ⟨next, hnext, hkept⟩ := hlasts.requests c call hcall
        intro hauthor
        have hmine : call.request.author = some r := by simpa [Write.entry, hnext, hkept] using hauthor
        obtain ⟨other, hbusy, hworks, _⟩ := hrecording.busy c call r hcall hmine hpending
        rw [← Option.some.inj (hrecorder.symm.trans hbusy), hfailed] at hworks
        cases hworks
    unfold State.recorded
    rw [hhistory, List.filter_append]
    rw [show (s.history.filter fun write => decide ((write.entry.bind fun entry =>
      (t.calls entry.1).bind fun call => call.request.author) = some r)) = s.recorded r from hsame]
    simp [hother, State.recorded]

structure Steady (base : Entries) (codec : Codec Text) (limits : Limits) (s : State Text) : Prop where
  sound : s.Sound base codec limits
  recording : s.Recording

theorem run_steady (start : Opened codec limits) (ops : List Op) :
    Steady start.base codec limits (run (step codec limits) start.state ops) :=
  run_preserves ops ⟨start.sound, start.recording⟩ fun _ _ _ _ hs hstep =>
    ⟨step_sound hs.sound hstep, step_recording hs.recording hstep⟩

theorem recorded_run (hs : Steady base codec limits s) {r : ℕ} {recorder : Recorder}
    (hrecorder : s.recorders r = some recorder) (hfailed : recorder.failed = true) (ops : List Op) :
    (run (step codec limits) s ops).recorded r = s.recorded r := by
  induction ops generalizing s with
  | nil => rfl
  | cons op ops ih =>
    rw [run_cons]
    cases hstep : step codec limits s op with
    | error error =>
      rw [attempt_error hstep]
      exact ih hs hrecorder
    | ok t =>
      rw [attempt_ok hstep]
      have ht : Steady base codec limits t := ⟨step_sound hs.sound hstep, step_recording hs.recording hstep⟩
      rw [ih ht ((step_lasts hs.recording hstep).failed r recorder hrecorder hfailed)]
      exact hs.sound.recorded_step hs.recording hstep hrecorder hfailed

/-- In every interleaving over one backend, the store is a log of conditional appends. -/
theorem append_is_linear (start : Opened codec limits) (ops : List Op) :
    Linear codec limits (run (step codec limits) start.state ops) ∧
      (∀ op, Advance codec (run (step codec limits) start.state ops)
        (run (step codec limits) start.state (ops ++ [op]))) ∧
      ∀ r recorder, (run (step codec limits) start.state ops).recorders r = some recorder →
        recorder.failed = true → ∀ more, (run (step codec limits) start.state (ops ++ more)).recorded r =
            (run (step codec limits) start.state ops).recorded r := by
  have hs := run_steady start ops
  refine ⟨hs.sound.linear, fun op => ?_, fun r recorder hrecorder hfailed more => ?_⟩
  · rw [run_snoc]
    cases hstep : step codec limits (run (step codec limits) start.state ops) op with
    | error error =>
      rw [attempt_error hstep]
      exact .stays rfl rfl
    | ok t =>
      rw [attempt_ok hstep]
      exact hs.sound.advance hstep
  · rw [run_append]
    exact recorded_run hs hrecorder hfailed more

/-- An effect is stored after the start of its call, and only quiet events after an unknown outcome or a failed
cleanup. -/
def EffectsFenced (codec : Codec Text) (s : State Text) : Prop :=
  ∀ id document before event after result, s.backend.document codec id = some document →
    document.events = before ++ event :: after → result ∈ event.data.results →
      (result.outcome.isHarmless = false → result.key ∈ startsOf before) ∧
        (result.outcome.isUnknown = true ∨ result.failedCleanup = true → ∀ later ∈ after, later.data.quiet = true)

theorem stored_effects_fenced (start : Opened codec limits) (ops : List Op) :
    EffectsFenced codec (run (step codec limits) start.state ops) := by
  intro id document before event after result hstored hevents hresult
  obtain ⟨s, hs⟩ := exists_of_isOk ((run_steady start ops).sound.linear.accepted id document hstored).2
  have hreplay := (inspectDocument_iff.1 hs).2
  rw [hevents] at hreplay
  obtain ⟨mid, next, hmid, hnext, _⟩ := replay_at hreplay
  refine ⟨replayEvent_intended (replay_logged hmid) hnext hresult, fun hbad later hlater => ?_⟩
  obtain ⟨between, rest, rfl⟩ := List.append_of_mem hlater
  rw [← List.cons_append, ← List.append_assoc] at hreplay
  obtain ⟨mid, next, hmid, hnext, _⟩ := replay_at hreplay
  exact replayEvent_quiet ((replay_logged hmid).fenced (by simp [resultsOf, hresult]) hbad) hnext

end Runs

section Starts

variable {Text : Type} (codec : Codec Text) (limits : Limits)

/-- A memory backend before its first Session. -/
def Opened.memory : Opened codec limits where
  backend := .memory ⟨fun _ => none, 0, false⟩
  logs _ := none
  holds := ⟨fun _ _ => rfl, fun _ _ => rfl, nofun⟩
  accepted _ _ h := by cases h

/-- An SQLite backend before its first Session. -/
def Opened.sqlite : Opened codec limits where
  backend := .sqlite ⟨fun _ => none, [], 0, false⟩
  logs _ := none
  holds := ⟨fun _ => rfl, fun _ => rfl⟩
  accepted _ _ h := by cases h

/-- A memory backend that holds one accepted document. -/
def Opened.stored (document : SessionDocument) (h : (inspectDocument limits document).isOk = true) :
    Opened codec limits where
  backend := .memory ⟨fun id => if id = document.sessionId then some ⟨document, digest codec document, none⟩
    else none, 1, false⟩
  logs id := if id = document.sessionId then some document.events else none
  holds := by
    refine ⟨fun _ id => ?_, fun hclosed => absurd hclosed Bool.false_ne_true, fun id stored hstored => ?_⟩
    · by_cases hid : id = document.sessionId <;> simp [hid]
    · dsimp only at hstored
      split_ifs at hstored
      rw [← Option.some.inj hstored]
  accepted id events hevents := by
    dsimp only at hevents
    split_ifs at hevents with hid
    rw [hid, ← Option.some.inj hevents]
    exact h

end Starts

section Samples

/-- A text is what it stands for. -/
inductive SampleText where
  | document (document : SessionDocument)
  | event (event : AgentEvent)
  | events (events : List AgentEvent)
  | location (location : SessionLocation)

noncomputable instance : DecidableEq SampleText
  | .events [], .events [] => .isTrue rfl
  | first, second => Classical.dec (first = second)

def sampleCodec : Codec SampleText where
  encode := .document
  parse
    | .document document => some document
    | _ => none
  eventText := .event
  parseEvent
    | .event event => some event
    | _ => none
  eventsText := .events
  locationText := .location
  byteLength _ := 0
  recordBytes _ _ := 0
  hash
    | .document document => toString (revision document)
    | _ => ""
  copies _ := true
  locates _ := true
  parse_encode _ := rfl

def turnStart (turnId : String) : AgentEvent := ⟨"session", turnId, 1, .turnStarted⟩

/-- A Session is created, and two stores append to it at its revision. -/
def competingOps : List Op :=
  [.create 0 0 "session" none .works, .append 1 0 (turnStart "turn-1") 0 .works,
    .append 2 1 (turnStart "turn-2") 0 .works, .proceed 1 .works, .proceed 2 .works, .proceed 2 .works,
    .proceed 1 .works]

noncomputable def competed : State SampleText :=
  run (step sampleCodec unlimited) (Opened.memory sampleCodec unlimited).state competingOps

/-- The first of them to write is appended, and the other one is not. -/
theorem append_is_linear_competing :
    competed.backend.document sampleCodec "session" = some ⟨"session", [turnStart "turn-2"]⟩ ∧
      Write.append "session" 0 (2, turnStart "turn-2") ∈ competed.history ∧
      ¬ succeeded competed 1 (turnStart "turn-1") 0 := by
  have hlinear := (append_is_linear (Opened.memory sampleCodec unlimited) competingOps).1
  have hsecond : succeeded competed 2 (turnStart "turn-2") 0 := ⟨_, none, _, rfl, rfl, rfl⟩
  refine ⟨rfl, (hlinear.written _ _ _ hsecond).2, fun hfirst => ?_⟩
  exact absurd (hlinear.single _ _ _ _ _ hfirst hsecond rfl) (by decide)

/-- The outcome of the call of the interrupted Session is not known. -/
def unknownSession : SessionDocument :=
  ⟨"session", interruptedSession.events ++ [
    ⟨"session", "turn", 5, .toolStarted 1 "c1" "read"⟩,
    ⟨"session", "turn", 6, .messageAppended (some 1) (.tool "c1" "read" (.error ⟨"lost", "No answer.", .unknown⟩))
      none⟩]⟩

/-- An append that starts the call again. -/
def startOps : List Op :=
  [.append 0 0 ⟨"session", "turn", 7, .toolStarted 1 "c1" "read"⟩ 6 .works, .proceed 0 .works, .proceed 0 .works,
    .proceed 0 .works]

noncomputable def started : State SampleText :=
  run (step sampleCodec unlimited) (Opened.stored sampleCodec unlimited unknownSession rfl).state startOps

/-- It is refused: the unknown result stays the last event of the document. -/
theorem stored_effects_fenced_unknown :
    EffectsFenced sampleCodec started ∧ ∃ document, started.backend.document sampleCodec "session" = some document ∧
      document.events.length = 6 ∧ ∃ result ∈ resultsOf document.events, result.outcome.isUnknown = true :=
  ⟨stored_effects_fenced _ startOps, _, rfl, rfl, by decide⟩

end Samples
end Session
