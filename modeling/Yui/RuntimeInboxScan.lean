import Yui.RuntimeInbox
import Yui.RuntimeObservationJson

/-!
# Listing the inbox

`list` reads every `.json` file of the directory, collects the events and moves the files that do not
hold one to quarantine. A file is moved only for the inbox's own error, so an observation that the
normalizer refuses stops the whole listing.
-/

open JsText Checked Runtime

/-- The inbox directory and its quarantine, by file name. A content is the JSON value of the text. -/
structure InboxFiles where
  files : List (String × Option JsonData)
  quarantined : List (String × Option JsonData)
  files_nodup : (files.map Prod.fst).Nodup

namespace RuntimeInbox

/-- The name without `.json`, when it ends so. -/
def stem (name : String) : Option String :=
  if ".json".toList <:+ name.toList then
    some (String.ofList (name.toList.take (name.toList.length - 5)))
  else none

def eventPath (id : String) : String := id ++ ".json"

theorem eventPath_stem {name id : String} (h : stem name = some id) : eventPath id = name := by
  unfold stem at h
  split_ifs at h with hsuffix
  obtain ⟨front, hfront⟩ := hsuffix
  have hid := (Option.some.inj h).symm
  have hlength : name.toList.length - 5 = front.length := by
    rw [← hfront, List.length_append]
    simp
  apply String.toList_inj.1
  rw [hid, eventPath, String.toList_append, String.toList_ofList, hlength, ← hfront, List.take_left]

/-- `^turn-[a-f0-9]{64}$`. -/
def isEventId (id : String) : Bool :=
  "turn-".toList.isPrefixOf id.toList && isHexDigest (String.ofList (id.toList.drop 5))

def assertEventId (id : String) : Except InboxFailure Unit :=
  if isEventId id = true then .ok () else invalidEvent "Runtime event id is invalid."

section Scan

variable {O H : Type} (N : ObservationNormalizer O H) [InboxHost]

def fileAt (inbox : InboxFiles) (path : String) : Option (Option JsonData) :=
  (inbox.files.find? fun file => file.1 = path).map Prod.snd

/-- The event of a file, `none` when the file is gone. -/
def read (inbox : InboxFiles) (id : String) :
    Except InboxFailure (Option (RuntimeLifecycleEvent O H)) := do
  assertEventId id
  match fileAt inbox (eventPath id) with
  | none => .ok none
  | some content => do
    let event ← parseEventFile N content id
    .ok (some event)

/-- The file is linked into the quarantine, unless one of its name is there, and unlinked. -/
def quarantine (inbox : InboxFiles) (name : String) : InboxFiles where
  files := inbox.files.filter fun file => file.1 ≠ name
  quarantined :=
    if name ∈ inbox.quarantined.map Prod.fst then inbox.quarantined
    else inbox.quarantined ++ inbox.files.filter fun file => file.1 = name
  files_nodup := inbox.files_nodup.sublist ((List.filter_sublist).map Prod.fst)

/-- One pass of the loop of `list`; an error of another code leaves the loop. -/
def listFile (state : InboxFiles × List (RuntimeLifecycleEvent O H)) (name : String) :
    Except String (InboxFiles × List (RuntimeLifecycleEvent O H)) :=
  match stem name with
  | none => .ok state
  | some id =>
    match (do
      assertEventId id
      read N state.1 id) with
    | .ok (some event) => .ok (state.1, state.2 ++ [event])
    | .ok none => .ok state
    | .error (.invalid _) => .ok (quarantine state.1 name, state.2)
    | .error (.other message) => .error message

/-- One pass of the loop of `listAsync`, which reads the file in place. -/
def listFileAsync (state : InboxFiles × List (RuntimeLifecycleEvent O H)) (name : String) :
    Except String (InboxFiles × List (RuntimeLifecycleEvent O H)) :=
  match stem name with
  | none => .ok state
  | some id =>
    match assertEventId id with
    | .error _ => .ok (quarantine state.1 name, state.2)
    | .ok () =>
      match fileAt state.1 (eventPath id) with
      | none => .ok state
      | some content =>
        match parseEventFile N content id with
        | .ok event => .ok (state.1, state.2 ++ [event])
        | .error (.invalid _) => .ok (quarantine state.1 name, state.2)
        | .error (.other message) => .error message

def receivedAt : RuntimeLifecycleEvent O H → String
  | .observation _ receivedAt _ _ _ _ => receivedAt
  | .runTerminal _ receivedAt _ => receivedAt
  | .jobTerminal _ receivedAt _ => receivedAt

def sequenceOf : RuntimeLifecycleEvent O H → ℚ
  | .observation _ _ _ _ observation _ => (N.sequence observation).getD (-1)
  | _ => -1

def ordinalOf : RuntimeLifecycleEvent O H → ℚ
  | .observation _ _ _ _ observation _ => (N.ordinal observation).getD (-1)
  | _ => -1

def compareRuntimeEvents (left right : RuntimeLifecycleEvent O H) : Ordering :=
  (InboxHost.localeCompare (receivedAt left) (receivedAt right)).then <|
    (compare (sequenceOf N left) (sequenceOf N right)).then <|
      (compare (ordinalOf N left) (ordinalOf N right)).then <|
        InboxHost.localeCompare (eventId left) (eventId right)

def sortEvents (events : List (RuntimeLifecycleEvent O H)) : List (RuntimeLifecycleEvent O H) :=
  events.mergeSort fun left right => (compareRuntimeEvents N left right).isLE

/-- The loop over the names that the directory has when it starts. -/
def scan (step : InboxFiles × List (RuntimeLifecycleEvent O H) → String →
      Except String (InboxFiles × List (RuntimeLifecycleEvent O H)))
    (names : List String) (state : InboxFiles × List (RuntimeLifecycleEvent O H)) :
    Except String (InboxFiles × List (RuntimeLifecycleEvent O H)) :=
  match names with
  | [] => .ok state
  | name :: names => do
    let next ← step state name
    scan step names next

def list (inbox : InboxFiles) : Except String (InboxFiles × List (RuntimeLifecycleEvent O H)) := do
  let state ← scan (listFile N) (inbox.files.map Prod.fst) (inbox, [])
  .ok (state.1, sortEvents N state.2)

def listAsync (inbox : InboxFiles) :
    Except String (InboxFiles × List (RuntimeLifecycleEvent O H)) := do
  let state ← scan (listFileAsync N) (inbox.files.map Prod.fst) (inbox, [])
  .ok (state.1, sortEvents N state.2)

/-- The event a file holds: its name is an event id and its content is the event of that id. -/
def eventOf (file : String × Option JsonData) : Option (RuntimeLifecycleEvent O H) := do
  let id ← stem file.1
  if isEventId id = true then (parseEventFile N file.2 id).toOption else none

/-- A file that stays: it is no `.json` file, or it holds an event. -/
def stays (file : String × Option JsonData) : Bool :=
  (stem file.1).isNone || (eventOf N file).isSome

/-- If the content is a current observation envelope, the normalizer takes its observation. -/
def observationAccepted (content : Option JsonData) : Prop :=
  ∀ value ∈ content, ∀ decoded, decodeInboxV1 value = .ok decoded →
    decoded.hasText "type" "runtime-observation" = true →
      decoded.hasNumber "schemaVersion" 1 = true →
        hasExactKeys decoded (observationKeys decoded) = true →
          ∃ observation, N.create ((decoded.member? "observation").getD .null) = .ok observation

def Accepted (file : String × Option JsonData) : Prop :=
  ∀ id, stem file.1 = some id → isEventId id = true → observationAccepted N file.2

/-- What a listing should do: every event of the directory is returned once, in order, and every
other `.json` file is moved to quarantine. -/
structure Isolated (inbox next : InboxFiles) (events : List (RuntimeLifecycleEvent O H)) : Prop where
  events_perm : events.Perm (inbox.files.filterMap (eventOf N))
  sorted : events.Pairwise fun left right => (compareRuntimeEvents N left right).isLE = true
  files : next.files = inbox.files.filter (stays N)
  quarantined : inbox.quarantined <+: next.quarantined
  moved : ∀ file ∈ inbox.files, stays N file = false → file.1 ∈ next.quarantined.map Prod.fst ∧
    (file.1 ∉ inbox.quarantined.map Prod.fst → file ∈ next.quarantined)

end Scan

/-! ## Errors of the checks -/

/-- The computation throws no error but the inbox's own. -/
def Contained {α : Type} (result : Except InboxFailure α) : Prop :=
  ∀ message, result ≠ .error (.other message)

section Contained

variable {α β : Type}

theorem contained_ok (value : α) : Contained (.ok value) := by
  intro message h
  cases h

theorem contained_invalid (message : String) : Contained (invalidEvent message : Except InboxFailure α) := by
  intro other h
  cases h

theorem Contained.bind {result : Except InboxFailure α} {next : α → Except InboxFailure β}
    (h : Contained result) (hnext : ∀ value, result = .ok value → Contained (next value)) :
    Contained (result >>= next) := by
  intro message heq
  cases hresult : result with
  | error failure =>
    rw [hresult] at heq
    exact h message (hresult.trans (congrArg Except.error (Except.error.inj heq)))
  | ok value =>
    rw [hresult] at heq
    exact hnext value hresult message heq

theorem contained_refuse {p : Prop} [Decidable p] (message : String) :
    Contained (refuse p (InboxFailure.invalid message) : Except InboxFailure Unit) := by
  intro other h
  unfold refuse at h
  split_ifs at h
  cases h

theorem contained_onSome {check : α → Except InboxFailure β} (h : ∀ value, Contained (check value))
    (value : Option α) : Contained (onSome check value) := by
  cases value with
  | none => exact contained_ok _
  | some value => exact (h value).bind fun _ _ => contained_ok _

theorem contained_requireIdentityText (value : Option JsonData) (label : String) :
    Contained (requireIdentityText value label) := by
  unfold requireIdentityText
  split
  · split_ifs
    · exact contained_invalid _
    · exact contained_invalid _
    · exact contained_ok _
  · exact contained_invalid _

theorem contained_named (all : List α) (text : α → String) (value : Option JsonData)
    (message : String) : Contained (named all text value message) := by
  unfold named
  split
  · split
    · exact contained_ok _
    · exact contained_invalid _
  · exact contained_invalid _

theorem contained_requireReceivedAt [InboxHost] (value : Option JsonData) : Contained (requireReceivedAt value) := by
  apply (contained_requireIdentityText value _).bind
  intro timestamp _
  split_ifs
  · exact contained_invalid _
  · exact contained_ok _

theorem contained_outcome (input : Option JsonData) : Contained (normalizeRuntimeRunTerminalOutcome input) := by
  unfold normalizeRuntimeRunTerminalOutcome
  split
  · dsimp only
    split_ifs
    · exact contained_ok _
    · exact contained_invalid _
    · exact (contained_named _ _ _ _).bind fun _ _ => contained_ok _
  · exact contained_invalid _

theorem contained_runTerminal (input : RunTerminalFields) : Contained (normalizeNativeTurnTerminalInput input) := by
  apply (contained_named _ _ _ _).bind
  intro scope _
  apply (contained_named _ _ _ _).bind
  intro providerStatus _
  apply (contained_outcome _).bind
  intro outcome _
  apply (contained_refuse _).bind
  intro _ _
  apply (contained_requireIdentityText _ _).bind
  intro roleName _
  apply (contained_requireIdentityText _ _).bind
  intro agentId _
  apply (contained_requireIdentityText _ _).bind
  intro nativeSessionId _
  apply (contained_requireIdentityText _ _).bind
  intro nativeTurnId _
  apply (contained_onSome (fun _ => contained_requireIdentityText _ _) _).bind
  intro runId _
  apply (contained_onSome (fun _ => contained_requireIdentityText _ _) _).bind
  intro title _
  apply (contained_named _ _ _ _).bind
  intro adapterId _
  cases scope with
  | task => exact (contained_requireIdentityText _ _).bind fun _ _ => contained_ok _
  | global => exact contained_ok _

theorem contained_jobTerminal (input : JobTerminalFields) : Contained (normalizeDurableJobTerminalInput input) := by
  apply (contained_named _ _ _ _).bind
  intro _ _
  apply (contained_named _ _ _ _).bind
  intro status _
  apply (contained_requireIdentityText _ _).bind
  intro taskId _
  apply (contained_requireIdentityText _ _).bind
  intro jobId _
  exact (contained_requireIdentityText _ _).bind fun _ _ => contained_ok _

theorem contained_reference (source target : String) (value : JsonData) :
    Contained (inboxReference source target value) := by
  unfold inboxReference
  split_ifs
  · exact contained_invalid _
  · exact contained_ok _

theorem contained_decode (value : JsonData) : Contained (decodeInboxV1 value) := by
  unfold decodeInboxV1 inboxEnvelope
  split_ifs
  · exact contained_invalid _
  · exact contained_reference _ _ _
  · exact contained_ok _
  · split
    · split
      · split_ifs
        · exact contained_invalid _
        · exact (contained_reference _ _ _).bind fun _ _ => contained_ok _
      · exact contained_invalid _
    · exact contained_invalid _

theorem contained_parseHostSource {O H : Type} (N : ObservationNormalizer O H) (value : JsonData) : Contained (parseHostSource N value) := by
  unfold parseHostSource
  split
  · exact contained_ok _
  · exact contained_invalid _

theorem contained_parseObservation_iff {O H : Type} (N : ObservationNormalizer O H) (value : JsonData) :
    Contained (parseRuntimeObservationEvent N value) ↔
      (value.hasNumber "schemaVersion" 1 = true → hasExactKeys value (observationKeys value) = true →
        ∃ observation, N.create ((value.member? "observation").getD .null) = .ok observation) := by
  constructor
  · intro hcontained hversion hkeys
    cases hcreate : N.create ((value.member? "observation").getD .null) with
    | ok observation => exact ⟨observation, rfl⟩
    | error message =>
      exfalso
      apply hcontained message
      unfold parseRuntimeObservationEvent
      rw [refuse_of_not (by simp [hversion, hkeys]), ok_bind]
      simp only [createObservation, hcreate, error_bind]
  · intro haccepted
    apply (contained_refuse _).bind
    intro _ hrefuse
    have hshape := refuse_ok hrefuse
    simp only [not_or, Bool.not_eq_false] at hshape
    obtain ⟨observation, hobservation⟩ := haccepted hshape.1 hshape.2
    have hcreate : createObservation N ((value.member? "observation").getD .null) =
        .ok observation := by
      simp only [createObservation, hobservation]
    rw [hcreate, ok_bind]
    apply (contained_refuse _).bind
    intro _ _
    apply (contained_requireIdentityText _ _).bind
    intro id _
    exact (contained_onSome (contained_parseHostSource N) _).bind fun _ _ => contained_ok _

section Parse

variable {O H : Type} (N : ObservationNormalizer O H) [InboxHost]

theorem contained_parseJob (value : JsonData) : Contained (parseDurableJobTerminalEvent (O := O) (H := H) value) := by
  apply (contained_refuse _).bind
  intro _ _
  apply (contained_jobTerminal _).bind
  intro normalized _
  apply (contained_requireIdentityText _ _).bind
  intro id _
  exact (contained_requireReceivedAt _).bind fun _ _ => contained_ok _

theorem contained_parseRun (value : JsonData) : Contained (parseNativeTurnTerminalEvent (O := O) (H := H) value) := by
  apply (contained_named _ _ _ _).bind
  intro scope _
  apply (contained_refuse _).bind
  intro _ _
  apply (contained_requireReceivedAt _).bind
  intro receivedAt _
  apply (contained_runTerminal _).bind
  intro normalized _
  exact (contained_requireIdentityText _ _).bind fun _ _ => contained_ok _

theorem contained_parseEvent_iff (value : JsonData) :
    Contained (parseRuntimeEvent N value) ↔
      (value.hasText "type" "runtime-observation" = true →
        Contained (parseRuntimeObservationEvent N value)) := by
  unfold parseRuntimeEvent
  by_cases htype : value.hasText "type" "runtime-observation" = true
  · simp only [htype, if_true, forall_const]
  · simp only [htype, Bool.false_eq_true, if_false, false_implies, iff_true]
    split_ifs
    · exact contained_parseRun value
    · exact contained_parseJob value
    · exact contained_invalid _

theorem contained_parseEventFile_iff (content : Option JsonData) (id : String) :
    Contained (parseEventFile N content id) ↔ observationAccepted N content := by
  cases content with
  | none =>
    constructor
    · intro _ value hvalue
      cases hvalue
    · intro _
      exact contained_invalid _
  | some value =>
    have hfinish : ∀ event : RuntimeLifecycleEvent O H, Contained
        (if eventId event ≠ id ∨ runtimeEventId N event ≠ id then
          invalidEvent ("Runtime event identity is invalid: " ++ id) else .ok event) := by
      intro event
      split_ifs
      · exact contained_invalid _
      · exact contained_ok _
    constructor
    · intro hcontained other hother decoded hdecoded htype hversion hkeys
      cases hother
      have hparse : Contained (parseRuntimeEvent N decoded) := by
        intro message hmessage
        apply hcontained message
        simp only [parseEventFile, hdecoded, ok_bind, hmessage, error_bind]
      exact (contained_parseObservation_iff N decoded).1
        ((contained_parseEvent_iff N decoded).1 hparse htype) hversion hkeys
    · intro haccepted
      apply (contained_decode value).bind
      intro decoded hdecoded
      apply Contained.bind
      · apply (contained_parseEvent_iff N decoded).2
        intro htype
        apply (contained_parseObservation_iff N decoded).2
        exact haccepted value rfl decoded hdecoded htype
      · intro event _
        exact hfinish event

end Parse

end Contained

/-! ## One pass and the whole scan -/

section Passes

variable {state : InboxFiles} {done rest : List (String × Option JsonData)}
  {file : String × Option JsonData}

theorem fileAt_of_mem (h : file ∈ state.files) : fileAt state file.1 = some file.2 := by
  unfold fileAt
  cases hfind : state.files.find? (fun other => decide (other.1 = file.1)) with
  | none =>
    have hnot := List.find?_eq_none.1 hfind file h
    simp at hnot
  | some other =>
    have hsame : other.1 = file.1 := by simpa using List.find?_some hfind
    have heq : other = file := List.inj_on_of_nodup_map state.files_nodup (List.mem_of_find?_eq_some hfind) h hsame
    rw [heq]
    rfl

theorem quarantine_files (h : state.files = done ++ file :: rest) :
    (quarantine state file.1).files = done ++ rest := by
  have hnodup := state.files_nodup
  rw [h, List.map_append, List.map_cons, List.nodup_append, List.nodup_cons] at hnodup
  obtain ⟨-, ⟨hrest, -⟩, hdone⟩ := hnodup
  have hkept : ∀ other ∈ done ++ rest, other.1 ≠ file.1 := by
    intro other hother heq
    rcases List.mem_append.1 hother with hother | hother
    · exact hdone other.1 (List.mem_map_of_mem hother) file.1 List.mem_cons_self heq
    · exact hrest (heq ▸ List.mem_map_of_mem hother)
  unfold quarantine
  dsimp only
  rw [h, List.filter_append, List.filter_cons_of_neg (by simp), ← List.filter_append]
  exact List.filter_eq_self.2 fun other hother => by simpa using hkept other hother

theorem quarantine_moved (h : file ∈ state.files) : state.quarantined <+: (quarantine state file.1).quarantined ∧
      file.1 ∈ (quarantine state file.1).quarantined.map Prod.fst ∧
        (file.1 ∉ state.quarantined.map Prod.fst → file ∈ (quarantine state file.1).quarantined) := by
  unfold quarantine
  dsimp only
  split_ifs with hthere
  · exact ⟨List.prefix_rfl, hthere, fun hnot => absurd hthere hnot⟩
  · have hfile : file ∈ state.quarantined ++ state.files.filter fun other => other.1 = file.1 := by
      apply List.mem_append_right
      simp [h]
    exact ⟨List.prefix_append _ _, List.mem_map_of_mem hfile, fun _ => hfile⟩

theorem quarantine_other {other : String × Option JsonData} (hname : other.1 ≠ file.1)
    (hnot : other.1 ∉ state.quarantined.map Prod.fst) :
    other.1 ∉ (quarantine state file.1).quarantined.map Prod.fst := by
  unfold quarantine
  dsimp only
  split_ifs with hthere
  · exact hnot
  · rw [List.map_append, List.mem_append, not_or]
    refine ⟨hnot, ?_⟩
    rintro hmoved
    obtain ⟨moved, hmoved, heq⟩ := List.mem_map.1 hmoved
    rw [List.mem_filter] at hmoved
    exact hname (heq.symm.trans (by simpa using hmoved.2))

variable {O H : Type} (N : ObservationNormalizer O H) [InboxHost]
  (events : List (RuntimeLifecycleEvent O H))

theorem listFileAsync_eq : listFileAsync N = listFile (O := O) (H := H) N := by
  funext state name
  unfold listFileAsync listFile
  cases hstem : stem name with
  | none => rfl
  | some id =>
    dsimp only
    unfold assertEventId read
    by_cases hid : isEventId id = true
    · simp only [assertEventId, hid, if_true, ok_bind]
      cases fileAt state.1 (eventPath id) with
      | none => rfl
      | some content =>
        dsimp only
        cases parseEventFile N content id with
        | ok event => rfl
        | error failure => cases failure <;> rfl
    · simp only [hid]
      rfl

theorem listFile_eq (h : file ∈ state.files) : listFile N (state, events) file.1 =
    match stem file.1 with
    | none => .ok (state, events)
    | some id =>
      if isEventId id = true then
        match parseEventFile N file.2 id with
        | .ok event => .ok (state, events ++ [event])
        | .error (.invalid _) => .ok (quarantine state file.1, events)
        | .error (.other message) => .error message else .ok (quarantine state file.1, events) := by
  rw [← listFileAsync_eq]
  unfold listFileAsync
  cases hstem : stem file.1 with
  | none => rfl
  | some id =>
    dsimp only
    unfold assertEventId
    by_cases hid : isEventId id = true
    · simp only [hid, if_true, eventPath_stem hstem, fileAt_of_mem h]
    · simp only [hid]
      rfl

theorem listFile_accepted (h : file ∈ state.files) (haccepted : Accepted N file) :
    (stays N file = true ∧ listFile N (state, events) file.1 = .ok (state, events ++ (eventOf N file).toList)) ∨
    (stays N file = false ∧ eventOf N file = none ∧
      listFile N (state, events) file.1 = .ok (quarantine state file.1, events)) := by
  rw [listFile_eq N events h]
  unfold stays eventOf
  cases hstem : stem file.1 with
  | none => simp
  | some id =>
    by_cases hid : isEventId id = true
    · have hcontained := (contained_parseEventFile_iff N file.2 id).2 (haccepted id hstem hid)
      cases hparse : parseEventFile N file.2 id with
      | ok event => simp [hid, hparse, Except.toOption]
      | error failure =>
        cases failure with
        | invalid message => simp [hid, hparse, Except.toOption]
        | other message => exact absurd hparse (hcontained message)
    · simp [hid]

theorem listFile_refused (h : file ∈ state.files) (hrefused : ¬ Accepted N file) :
    ∃ message, listFile N (state, events) file.1 = .error message := by
  unfold Accepted at hrefused
  push Not at hrefused
  obtain ⟨id, hstem, hid, hnot⟩ := hrefused
  rw [← contained_parseEventFile_iff N file.2 id] at hnot
  unfold Contained at hnot
  push Not at hnot
  obtain ⟨message, hparse⟩ := hnot
  rw [listFile_eq N events h, hstem]
  exact ⟨message, by simp [hid, hparse]⟩

/-- What the scan leaves of the directory, of the files it still has to read. -/
structure Scanned (state next : InboxFiles) (done rest : List (String × Option JsonData)) : Prop where
  files : next.files = done ++ rest.filter (stays N)
  quarantined : state.quarantined <+: next.quarantined
  moved : ∀ file ∈ rest, stays N file = false → file.1 ∈ next.quarantined.map Prod.fst ∧
    (file.1 ∉ state.quarantined.map Prod.fst → file ∈ next.quarantined)

theorem scan_accepted (rest : List (String × Option JsonData)) :
    ∀ (state : InboxFiles) (done : List (String × Option JsonData))
      (events : List (RuntimeLifecycleEvent O H)), state.files = done ++ rest → (∀ file ∈ rest, Accepted N file) →
      ∃ next, scan (listFile N) (rest.map Prod.fst) (state, events) =
        .ok (next, events ++ rest.filterMap (eventOf N)) ∧ Scanned N state next done rest := by
  induction rest with
  | nil =>
    intro state done events hfiles _
    exact ⟨state, by simp [scan], by simpa using hfiles, List.prefix_rfl, by simp⟩
  | cons file rest ih =>
    intro state done events hfiles haccepted
    have hmem : file ∈ state.files := by simp [hfiles]
    have hlater : ∀ other ∈ rest, Accepted N other :=
      fun other hother => haccepted other (List.mem_cons_of_mem _ hother)
    rcases listFile_accepted N events hmem (haccepted file List.mem_cons_self) with
      ⟨hstays, hstep⟩ | ⟨hstays, hevent, hstep⟩
    · -- the file stays, and its event is taken if it holds one
      obtain ⟨next, hscan, hscanned⟩ := ih state (done ++ [file])
        (events ++ (eventOf N file).toList) (by simp [hfiles]) hlater
      refine ⟨next, ?_, ?_, hscanned.quarantined, ?_⟩
      · rw [List.map_cons, scan, hstep, ok_bind, hscan, List.append_assoc]
        cases hevent : eventOf N file with
        | none => rw [List.filterMap_cons_none hevent, Option.toList_none, List.nil_append]
        | some event =>
          rw [List.filterMap_cons_some hevent, Option.toList_some, List.singleton_append]
      · rw [hscanned.files, List.filter_cons_of_pos hstays, List.append_assoc, List.singleton_append]
      · intro other hother hgone
        rcases List.mem_cons.1 hother with rfl | hother
        · rw [hstays] at hgone
          cases hgone
        · exact hscanned.moved other hother hgone
    · -- the file is moved to quarantine
      have hnodup := state.files_nodup
      rw [hfiles, List.map_append, List.map_cons, List.nodup_append, List.nodup_cons] at hnodup
      obtain ⟨hkept, hnamed, hheld⟩ := quarantine_moved hmem
      obtain ⟨next, hscan, hscanned⟩ := ih (quarantine state file.1) done events (quarantine_files hfiles) hlater
      refine ⟨next, ?_, ?_, hkept.trans hscanned.quarantined, ?_⟩
      · rw [List.map_cons, scan, hstep, ok_bind, hscan, List.filterMap_cons_none hevent]
      · rw [hscanned.files, List.filter_cons_of_neg (by simp [hstays])]
      · intro other hother hgone
        rcases List.mem_cons.1 hother with rfl | hother
        · have hsub := hscanned.quarantined.subset
          exact ⟨List.map_subset Prod.fst hsub hnamed, fun hnot => hsub (hheld hnot)⟩
        · have hname : other.1 ≠ file.1 := fun heq => hnodup.2.1.1 (heq ▸ List.mem_map_of_mem hother)
          obtain ⟨hin, hcontent⟩ := hscanned.moved other hother hgone
          exact ⟨hin, fun hnot => hcontent (quarantine_other hname hnot)⟩

theorem scan_refused (rest : List (String × Option JsonData)) :
    ∀ (state : InboxFiles) (done : List (String × Option JsonData))
      (events : List (RuntimeLifecycleEvent O H)), state.files = done ++ rest → (∃ file ∈ rest, ¬ Accepted N file) →
      ∃ message, scan (listFile N) (rest.map Prod.fst) (state, events) = .error message := by
  induction rest with
  | nil =>
    rintro state done events - ⟨file, hfile, -⟩
    cases hfile
  | cons file rest ih =>
    rintro state done events hfiles ⟨refused, hmember, hrefused⟩
    have hmem : file ∈ state.files := by simp [hfiles]
    rw [List.map_cons, scan]
    by_cases haccepted : Accepted N file
    · have hlater : refused ∈ rest := by
        rcases List.mem_cons.1 hmember with rfl | hlater
        · exact absurd haccepted hrefused
        · exact hlater
      rcases listFile_accepted N events hmem haccepted with
        ⟨-, hstep⟩ | ⟨-, -, hstep⟩
      · rw [hstep, ok_bind]
        exact ih state (done ++ [file]) _ (by simp [hfiles]) ⟨refused, hlater, hrefused⟩
      · rw [hstep, ok_bind]
        exact ih _ done events (quarantine_files hfiles) ⟨refused, hlater, hrefused⟩
    · obtain ⟨message, hstep⟩ := listFile_refused N events hmem haccepted
      exact ⟨message, by rw [hstep, error_bind]⟩

end Passes

section Listing

variable {O H : Type} (N : ObservationNormalizer O H) [InboxHost]

theorem compareRuntimeEvents_trans : Std.TransCmp (compareRuntimeEvents (O := O) (H := H) N) := by
  have := InboxHost.localeCompare_trans
  have hreceived : Std.TransCmp fun left right : RuntimeLifecycleEvent O H =>
      InboxHost.localeCompare (receivedAt left) (receivedAt right) :=
    { eq_swap := Std.OrientedCmp.eq_swap
      isLE_trans := Std.TransCmp.isLE_trans }
  have hid : Std.TransCmp fun left right : RuntimeLifecycleEvent O H =>
      InboxHost.localeCompare (eventId left) (eventId right) :=
    { eq_swap := Std.OrientedCmp.eq_swap
      isLE_trans := Std.TransCmp.isLE_trans }
  exact inferInstanceAs (Std.TransCmp (compareLex _ (compareLex (compareOn (sequenceOf N))
    (compareLex (compareOn (ordinalOf N)) _))))

theorem sortEvents_sorted (events : List (RuntimeLifecycleEvent O H)) :
    (sortEvents N events).Pairwise fun left right =>
      (compareRuntimeEvents N left right).isLE = true := by
  have := compareRuntimeEvents_trans (O := O) (H := H) N
  apply List.pairwise_mergeSort
  · intro a b c hab hbc
    exact Std.TransCmp.isLE_trans hab hbc
  · intro a b
    have hswap : compareRuntimeEvents N b a = (compareRuntimeEvents N a b).swap := Std.OrientedCmp.eq_swap
    rw [hswap]
    cases compareRuntimeEvents N a b <;> rfl

theorem listAsync_eq (inbox : InboxFiles) : listAsync N inbox = list N inbox := by
  unfold listAsync list
  rw [listFileAsync_eq]

theorem list_accepted {inbox : InboxFiles} (haccepted : ∀ file ∈ inbox.files, Accepted N file) :
    ∃ next events, list N inbox = .ok (next, events) ∧ Isolated N inbox next events := by
  obtain ⟨next, hscan, hscanned⟩ := scan_accepted N inbox.files inbox [] [] rfl haccepted
  refine ⟨next, sortEvents N (inbox.files.filterMap (eventOf N)), ?_, ?_⟩
  · unfold list
    rw [hscan, ok_bind]
    rfl
  · exact ⟨List.mergeSort_perm _ _, sortEvents_sorted N _, by simpa using hscanned.files,
      hscanned.quarantined, hscanned.moved⟩

theorem accepted_of_list {inbox : InboxFiles}
    {listed : InboxFiles × List (RuntimeLifecycleEvent O H)} (hlist : list N inbox = .ok listed) :
    ∀ file ∈ inbox.files, Accepted N file := by
  by_contra hrefused
  push Not at hrefused
  obtain ⟨message, hscan⟩ := scan_refused N inbox.files inbox [] [] rfl hrefused
  unfold list at hlist
  rw [hscan, error_bind] at hlist
  cases hlist

/-- A listing isolates every bad file exactly when no file holds an observation that the normalizer
refuses. -/
theorem listing_isolates_iff (inbox : InboxFiles) :
    ((∃ next events, list N inbox = .ok (next, events) ∧ Isolated N inbox next events) ∧
      ∃ next events, listAsync N inbox = .ok (next, events) ∧ Isolated N inbox next events) ↔
      ∀ file ∈ inbox.files, Accepted N file := by
  rw [listAsync_eq, and_self]
  constructor
  · rintro ⟨next, events, hlist, -⟩
    exact accepted_of_list N hlist
  · exact list_accepted N

end Listing

/-! ## A poisoned file -/

/-- The normalizer on data that holds an observation, with a reader of Host sources. -/
def jsonNormalizer [JsHost] {H : Type} (readHost : JsonData → Except String H) :
    ObservationNormalizer RuntimeObservation H where
  create data :=
    match observationCodec.read data with
    | none => .error "Runtime observation is invalid."
    | some observation => createRuntimeObservation observation
  taskId observation := observation.fence.taskId
  roleName observation := observation.fence.roleName
  semanticKey observation := observation.semanticKey
  receivedAt observation := observation.receivedAt
  sequence observation := match observation.sequence with
    | some (.finite value) => some value
    | _ => none
  ordinal observation := match observation.ordinal with
    | some (.finite value) => some value
    | _ => none
  readHost := readHost

def jobDigest : String := "6e19a650732496fb12305e4af9ca34bd7a895a45946268af30d727cbcb9ea128"

@[reducible] def sampleInboxHost : InboxHost where
  toRuntimeHost := Binding.sampleRetryHost
  digest _ := jobDigest
  digest_hex _ := by decide
  localeCompare left right := compare left right
  localeCompare_trans := inferInstance
  contentBytes _ := 512

def jobFile : String × Option JsonData :=
  ("turn-" ++ jobDigest ++ ".json", some (.obj [("schemaVersion", .num 1),
    ("id", .str ("turn-" ++ jobDigest)), ("type", .str "durable-job-terminal"),
    ("receivedAt", .str sampleInstant), ("scope", .str "task"), ("taskId", .str "task-1"),
    ("jobId", .str "job-1"), ("status", .str "succeeded"), ("outcome", .str "done")]))

def poisonId : String := "turn-" ++ String.ofList (List.replicate 64 'a')

/-- An observation of another schema version. -/
def poisonFile : String × Option JsonData :=
  (poisonId ++ ".json", some (.obj [("schemaVersion", .num 1), ("id", .str poisonId),
    ("type", .str "runtime-observation"), ("receivedAt", .str sampleInstant), ("scope", .str "global"),
    ("observation", .obj [("schemaVersion", .num 2), ("eventId", .str "event-1"),
      ("semanticKey", .str "host-1"), ("kind", .str "host.observed"), ("authority", .str "host"),
      ("receivedAt", .str sampleInstant), ("fence", .obj [("roleName", .str "writer"),
        ("agentId", .str "agent-1"), ("driverId", .str "builtin/codex")]),
      ("payload", .obj [("alive", .bool true)])])]))

def poisonedInbox : InboxFiles where
  files := [poisonFile, jobFile]
  quarantined := []
  files_nodup := by decide

/-- The poisoned inbox: its job is known, and it cannot be listed. -/
def poisonedListing :
    let _ := sampleInboxHost
    { inbox : InboxFiles // (eventOf (jsonNormalizer Except.ok) jobFile).isSome = true ∧
      (list (jsonNormalizer Except.ok) inbox).isOk = false ∧ inbox = poisonedInbox } :=
  ⟨poisonedInbox, by decide +kernel, by decide +kernel, rfl⟩

/-- One observation of another version keeps the end of a job from being listed. -/
theorem poisoned_file_blocks :
    let _ := sampleInboxHost
    (eventOf (jsonNormalizer Except.ok) jobFile).isSome = true ∧ jobFile ∈ poisonedInbox.files ∧
      ¬ ∃ next events, list (jsonNormalizer Except.ok) poisonedInbox = .ok (next, events) := by
  let _ := sampleInboxHost
  obtain ⟨inbox, hjob, hstops, rfl⟩ := poisonedListing
  refine ⟨hjob, List.mem_cons_of_mem _ List.mem_cons_self, ?_⟩
  rintro ⟨next, events, hlist⟩
  rw [hlist] at hstops
  cases hstops

end RuntimeInbox
