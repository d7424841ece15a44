import Yui.RuntimeInboxEvents

/-!
# Publishing inbox events

An event is stored once under its id. Publishing it again reads the stored file and returns its event;
usage evidence is looked up among all listed events first.
-/

open JsText Checked Runtime HostSource

namespace RuntimeInbox

section Wire

end Wire

theorem notMem_of_fileAt {inbox : InboxFiles} {path : String} (h : fileAt inbox path = none) :
    path ∉ inbox.files.map Prod.fst := by
  intro hmem
  obtain ⟨file, hfile, rfl⟩ := List.mem_map.1 hmem
  rw [fileAt_of_mem hfile] at h
  cases h

section Publish

variable [InboxHost]

def maxRuntimeEventFileBytes : ℕ := 16 * 1024 * 1024

def isRuntimeUsageEvidence (observation : RuntimeObservation) : Bool :=
  isRuntimeTokenEvidence observation ||
    (observation.kind = .activityObserved && observation.payload.cost.isSome)

/-- The two events are one fact: the whole observation of a Turn's end, and the identities of the
others. -/
def hasSameIdentity (left right : InboxEvent) : Bool :=
  match left, right with
  | .observation leftId _ leftScope leftTask leftObservation leftHost,
    .observation rightId _ rightScope rightTask rightObservation rightHost =>
      leftHost = rightHost && leftId = rightId &&
        (if isTurnEnd leftObservation.kind = true then
          leftObservation.kind = rightObservation.kind &&
            leftObservation.fence = rightObservation.fence &&
              leftObservation.payload = rightObservation.payload
        else leftScope = rightScope && leftTask = rightTask)
  | .runTerminal leftId _ left, .runTerminal rightId _ right =>
    leftId = rightId && left.scope = right.scope && left.taskId = right.taskId &&
      left.roleName = right.roleName && left.agentId = right.agentId &&
        left.adapterId = right.adapterId && left.nativeSessionId = right.nativeSessionId &&
          (left.runId.isNone || right.runId.isNone || left.runId = right.runId)
  | .jobTerminal leftId _ left, .jobTerminal rightId _ right =>
    leftId = rightId && left.taskId = right.taskId && left.jobId = right.jobId
  | _, _ => false

/-- The file linked under its name. -/
def addFile (inbox : InboxFiles) (path : String) (content : JsonData)
    (h : fileAt inbox path = none) : InboxFiles where
  files := inbox.files ++ [(path, some content)]
  quarantined := inbox.quarantined
  files_nodup := by
    rw [List.map_append, List.nodup_append]
    refine ⟨inbox.files_nodup, by simp, ?_⟩
    intro name hname other hother heq
    have hother : other = path := by simpa using hother
    exact notMem_of_fileAt h (hother ▸ heq ▸ hname)

def publishUnlocked (inbox : InboxFiles) (event : InboxEvent) : Except String (InboxFiles × InboxEvent × Bool) :=
  match encodeInboxV1 (writeEvent event) with
  | .error _ => .error "Inbox v1 reference uses the wrong wire shape."
  | .ok content =>
    if maxRuntimeEventFileBytes < InboxHost.contentBytes content then
      .error "Runtime event exceeds the durable inbox limit."
    else if h : fileAt inbox (eventPath (eventId event)) = none then
      .ok (addFile inbox (eventPath (eventId event)) content h, event, true)
    else
      match read inboxNormalizer inbox (eventId event) with
      | .error _ => .error "Runtime event is invalid."
      | .ok none => .ok (inbox, event, false)
      | .ok (some existing) =>
        if hasSameIdentity existing event = true then .ok (inbox, existing, false)
        else .error ("Runtime event id conflicts with an existing file: " ++ eventId event)

def sameEvidence (event candidate : InboxEvent) : Bool :=
  match event, candidate with
  | .observation _ _ _ taskId observation _, .observation _ _ _ otherTask other _ =>
    otherTask = taskId && other.eventId = observation.eventId
  | _, _ => false

def isUsageEvent : InboxEvent → Bool
  | .observation _ _ _ _ observation _ => isRuntimeUsageEvidence observation
  | _ => false

def publish (inbox : InboxFiles) (event : InboxEvent) : Except String (InboxFiles × InboxEvent × Bool) :=
  if isUsageEvent event = true then do
    let listed ← list inboxNormalizer inbox
    match listed.2.find? (sameEvidence event) with
    | some existing => .ok (listed.1, existing, false)
    | none => publishUnlocked listed.1 event
  else publishUnlocked inbox event

/-- The file of the event is within the limit. -/
def Fits (event : InboxEvent) : Prop :=
  ∀ content, encodeInboxV1 (writeEvent event) = .ok content →
    InboxHost.contentBytes content ≤ maxRuntimeEventFileBytes

section Again

variable {inbox next : InboxFiles} {event again : InboxEvent} {wire : JsonData}

end Again

section Stored

variable {event again : InboxEvent}

end Stored

end Publish

section Samples

@[reducible] def sampleTime : @IsoInstant sampleInboxHost.toRuntimeHost.toJsHost :=
  @IsoInstant.mk sampleInboxHost.toRuntimeHost.toJsHost sampleInstant (by decide +kernel)
    ⟨by decide +kernel, by decide +kernel, by decide +kernel⟩

def failedTurn (diagnostic : String) : RunTerminalFields where
  scope := some (.str "task")
  taskId := some (.str "task-1")
  roleName := some (.str "writer")
  agentId := some (.str "agent-1")
  adapterId := some (.str "codex")
  nativeSessionId := some (.str "native-1")
  nativeTurnId := some (.str "turn-1")
  runId := some (.str "run-1")
  title := none
  providerStatus := some (.str "failed")
  outcome := some (.obj [("status", .str "failed"), ("diagnostic", .str diagnostic),
    ("failureReason", .str "runtime-failed")])

theorem decodePrefix_spaces (n : ℕ) (rest : List Char) :
    decodePrefix n (List.replicate n ' ' ++ rest) = List.replicate n ' ' := by
  induction n with
  | zero =>
    cases rest with
    | nil => rfl
    | cons c rest => rfl
  | succ n ih =>
    have hsize : (' ' : Char).utf8Size = 1 := by decide
    rw [List.replicate_succ, List.cons_append, decodePrefix, hsize, if_neg (by omega),
      if_pos (by omega), Nat.add_sub_cancel, ih]

/-- A diagnostic that starts with 16 KiB of spaces. -/
def indentedDiagnostic : String :=
  String.ofList (List.replicate maxRunFailureDiagnosticBytes ' ' ++ ['x'])

theorem not_kept_indented : ¬ outcomeKept (failedTurn indentedDiagnostic).outcome := by
  intro hkept
  have hkept := hkept _ rfl
  rw [if_neg (by decide)] at hkept
  have hplain : withoutNul indentedDiagnostic.toList =
      List.replicate maxRunFailureDiagnosticBytes ' ' ++ ['x'] := by
    rw [indentedDiagnostic, String.toList_ofList]
    apply withoutNul_eq_self
    intro hnul
    rcases List.mem_append.1 hnul with hnul | hnul
    · exact absurd (List.eq_of_mem_replicate hnul) (by decide)
    · exact absurd (List.mem_singleton.1 hnul) (by decide)
  have hsize : (' ' : Char).utf8Size = 1 := by decide
  have hsize' : ('x' : Char).utf8Size = 1 := by decide
  have hclip : clip (List.replicate maxRunFailureDiagnosticBytes ' ' ++ ['x']) =
      List.replicate maxRunFailureDiagnosticBytes ' ' := by
    unfold clip
    dsimp only
    rw [decodePrefix_spaces, if_neg]
    intro hlast
    have hmem := List.mem_of_getLast? hlast
    exact absurd (List.eq_of_mem_replicate hmem) (by decide)
  have hblank := hkept indentedDiagnostic rfl
    (trim_ne_empty (c := 'x') (by simp [indentedDiagnostic]) (by decide)) (by
      rw [hplain, byteLength_append]
      simp [byteLength, hsize, hsize'])
  rw [hplain, hclip] at hblank
  obtain ⟨c, hc, hspace⟩ := exists_of_trim_ne hblank
  rw [String.toList_ofList] at hc
  rw [List.eq_of_mem_replicate hc] at hspace
  exact absurd hspace (by decide)

end Samples

end RuntimeInbox
