import Yui.ProviderBinding
import Yui.JobRecord
import Yui.JsonCodec

/-!
# The runtime event inbox

An inbox file holds one lifecycle event in the v1 wire shape: a runtime observation, the end of a
Provider Turn or the end of a DurableJob. Reading it renames the wire keys back, checks every field and
recomputes the event id. What an observation and its Host source are is a parameter here: the inbox
reads six fields of a normalized observation and leaves the rest to the normalizer.
-/

open JsText Checked Runtime

/-- What a check throws: the inbox error with code `RUNTIME_EVENT_INVALID`, or any other error. -/
inductive InboxFailure where
  | invalid (message : String)
  | other (message : String)

namespace JsonData

def isObject : JsonData → Bool
  | .obj _ => true
  | _ => false

def members : JsonData → List (String × JsonData)
  | .obj members => members
  | _ => []

/-- `Object.keys`. -/
def keys (value : JsonData) : List String := value.members.map Prod.fst

/-- `value[key] === text`. -/
def hasText (value : JsonData) (key text : String) : Bool :=
  match value.member? key with
  | some (.str other) => other == text
  | _ => false

/-- `value[key] === number`. -/
def hasNumber (value : JsonData) (key : String) (number : ℚ) : Bool :=
  match value.member? key with
  | some (.num other) => other == number
  | _ => false

/-- The object with the key `source` called `target`. The order of the members is not observable. Of two members
called `target` then the first is read, where the source keeps the one that was called `source`. -/
def rename (source target : String) (value : JsonData) : JsonData :=
  .obj (value.members.map fun member => if member.1 = source then (target, member.2) else member)

/-- The object with the value under `key` changed, if there is one. -/
def update (key : String) (change : JsonData → JsonData) (value : JsonData) : JsonData :=
  .obj (value.members.map fun member => if member.1 = key then (key, change member.2) else member)

end JsonData

/-- The host of the inbox. `digest` is the hexadecimal SHA-256 of the JSON text of a list, the
comparison of texts is a total preorder, and `contentBytes` is the size of a file. -/
class InboxHost extends RuntimeHost where
  digest : List JsonData → String
  digest_hex : ∀ values, isHexDigest (digest values) = true
  localeCompare : String → String → Ordering
  localeCompare_trans : Std.TransCmp localeCompare
  contentBytes : JsonData → ℕ

inductive InboxScope where
  | task | global
  deriving DecidableEq

def InboxScope.text : InboxScope → String
  | .task => "task"
  | .global => "global"

inductive AgentRunFailureReason where
  | startupFailed | runtimeFailed | deliveryUnknown | missingResult | workspaceUnavailable
  | workspaceDirty | workspaceBranchMismatch | cancelled

namespace AgentRunFailureReason

def text : AgentRunFailureReason → String
  | .startupFailed => "startup-failed"
  | .runtimeFailed => "runtime-failed"
  | .deliveryUnknown => "delivery-unknown"
  | .missingResult => "missing-result"
  | .workspaceUnavailable => "workspace-unavailable"
  | .workspaceDirty => "workspace-dirty"
  | .workspaceBranchMismatch => "workspace-branch-mismatch"
  | .cancelled => "cancelled"

def all : List AgentRunFailureReason :=
  [startupFailed, runtimeFailed, deliveryUnknown, missingResult, workspaceUnavailable, workspaceDirty,
    workspaceBranchMismatch, cancelled]

end AgentRunFailureReason

inductive RuntimeRunTerminalOutcome where
  | completed (output : String)
  | failed (diagnostic : String) (failureReason : AgentRunFailureReason) (output : Option String)

inductive InboxAdapter where
  | codex | claude
  deriving DecidableEq

def InboxAdapter.text : InboxAdapter → String
  | .codex => "codex"
  | .claude => "claude"

inductive InboxTurnStatus where
  | completed | failed | cancelled
  deriving DecidableEq

def InboxTurnStatus.text : InboxTurnStatus → String
  | .completed => "completed"
  | .failed => "failed"
  | .cancelled => "cancelled"

structure RuntimeRunTerminalInput where
  scope : InboxScope
  taskId : Option String
  roleName : String
  agentId : String
  adapterId : InboxAdapter
  nativeSessionId : String
  nativeTurnId : String
  runId : Option String
  title : Option String
  providerStatus : InboxTurnStatus
  outcome : RuntimeRunTerminalOutcome

/-- The `scope` of the end of a job is always `task`. -/
structure RuntimeDurableJobTerminalInput where
  taskId : String
  jobId : String
  status : DurableJobStatus
  outcome : String

/-- The events of the inbox over a type of observations and one of Host sources. -/
inductive RuntimeLifecycleEvent (O H : Type) where
  | observation (id receivedAt : String) (scope : InboxScope) (taskId : Option String)
      (observation : O) (host : Option H)
  | runTerminal (id receivedAt : String) (input : RuntimeRunTerminalInput)
  | jobTerminal (id receivedAt : String) (input : RuntimeDurableJobTerminalInput)

/-- The normalizers of observations and Host sources, and what the inbox reads of an observation. -/
structure ObservationNormalizer (O H : Type) where
  create : JsonData → Except String O
  taskId : O → Option String
  roleName : O → String
  semanticKey : O → String
  receivedAt : O → String
  sequence : O → Option ℚ
  ordinal : O → Option ℚ
  readHost : JsonData → Except String H

namespace RuntimeInbox

def invalidEvent {α : Type} (message : String := "Runtime event is invalid.") :
    Except InboxFailure α := .error (.invalid message)

section Transport

def maxRunResultOutputBytes : ℕ := 512 * 1024
def maxRunFailureDiagnosticBytes : ℕ := 16 * 1024

def replacement : Char := Char.ofNat 0xFFFD

/-- `Buffer.byteLength(value, "utf8")`. -/
def byteLength (value : List Char) : ℕ := (value.map Char.utf8Size).sum

/-- The output of a transported result, or the diagnostic and reason of a refused one. A text read from a file has no
lone surrogate; `AgentResultTransport` has the function on all texts. -/
def transportAgentResult (value : Option JsonData) : RuntimeRunTerminalOutcome :=
  match value with
  | some (.str text) =>
    if includesNul text = true then
      .failed "Provider terminal event included an Agent result with an invalid NUL byte."
        .runtimeFailed none
    else if trim text = "" then
      .failed "Provider terminal event included an empty Agent result." .missingResult none
    else if maxRunResultOutputBytes < byteLength text.toList then
      .failed ("Provider Agent result is " ++ toString (byteLength text.toList) ++
        " bytes and exceeds the " ++ toString maxRunResultOutputBytes ++
        "-byte durable result limit; the result was not stored.") .runtimeFailed none
    else .completed text
  | _ => .failed "Provider terminal event did not include an Agent result." .missingResult none

/-- The first bytes of the text, decoded: a character that is cut in its middle is decoded as one
replacement character. -/
def decodePrefix (limit : ℕ) : List Char → List Char
  | [] => []
  | c :: rest =>
    if limit = 0 then []
    else if c.utf8Size ≤ limit then c :: decodePrefix (limit - c.utf8Size) rest
    else [replacement]

def clip (text : List Char) : List Char :=
  let head := decodePrefix maxRunFailureDiagnosticBytes text
  if head.getLast? = some replacement then head.dropLast else head

def withoutNul (text : List Char) : List Char :=
  text.map fun c => if c = nul then replacement else c

def failureFallback : String := "Provider reported a failed Agent AgentRun."

def boundedRunFailureDiagnostic (value : Option JsonData) : String :=
  let candidate := match value with
    | some (.str text) => if trim text = "" then failureFallback else text
    | _ => failureFallback
  let safe := withoutNul candidate.toList
  if byteLength safe ≤ maxRunFailureDiagnosticBytes then String.ofList safe
  else String.ofList (clip safe)

end Transport

section Normalize

def requireIdentityText (value : Option JsonData) (label : String) : Except InboxFailure String :=
  match value with
  | some (.str text) =>
    if includesNul text = true then invalidEvent
    else if length16 (trim text) = 0 ∨ 1024 < length16 (trim text) then
      invalidEvent (label ++ " is invalid.")
    else .ok (trim text)
  | _ => invalidEvent

/-- `requireIdentityText` of a field that may be `undefined`. -/
def optionalIdentityText (value : Option JsonData) (label : String) : Except InboxFailure (Option String) :=
  onSome (fun value => requireIdentityText (some value) label) value

def requireReceivedAt [InboxHost] (value : Option JsonData) : Except InboxFailure String := do
  let timestamp ← requireIdentityText value "Received at"
  if JsHost.dateParse timestamp = none then invalidEvent else .ok timestamp

/-- The member of an enumeration that has the text. -/
def named {α : Type} (all : List α) (text : α → String) (value : Option JsonData)
    (message : String := "Runtime event is invalid.") : Except InboxFailure α :=
  match value with
  | some (.str name) =>
    match all.find? fun member => text member = name with
    | some member => .ok member
    | none => invalidEvent message
  | _ => invalidEvent message

def normalizeRuntimeRunTerminalOutcome (input : Option JsonData) : Except InboxFailure RuntimeRunTerminalOutcome :=
  match input with
  | some (.obj fields) =>
    let input := JsonData.obj fields
    if input.hasText "status" "completed" = true then
      .ok (transportAgentResult (input.member? "output"))
    else if input.hasText "status" "failed" = false then
      invalidEvent "Runtime AgentRun failure outcome is invalid."
    else do
      let failureReason ← named AgentRunFailureReason.all AgentRunFailureReason.text
        (input.member? "failureReason") "Runtime AgentRun failure outcome is invalid."
      .ok (.failed (boundedRunFailureDiagnostic (input.member? "diagnostic")) failureReason
        (match transportAgentResult (input.member? "output") with
          | .completed output => some output
          | .failed _ _ _ => none))
  | _ => invalidEvent "Runtime AgentRun terminal outcome is invalid."

/-- The fields of the end of a Provider Turn, before they are checked. -/
structure RunTerminalFields where
  scope : Option JsonData
  taskId : Option JsonData
  roleName : Option JsonData
  agentId : Option JsonData
  adapterId : Option JsonData
  nativeSessionId : Option JsonData
  nativeTurnId : Option JsonData
  runId : Option JsonData
  title : Option JsonData
  providerStatus : Option JsonData
  outcome : Option JsonData

def RuntimeRunTerminalOutcome.isCompleted : RuntimeRunTerminalOutcome → Bool
  | .completed _ => true
  | .failed _ _ _ => false

def normalizeNativeTurnTerminalInput (input : RunTerminalFields) :
    Except InboxFailure RuntimeRunTerminalInput := do
  let scope ← named [InboxScope.task, .global] InboxScope.text input.scope
  let providerStatus ← named [InboxTurnStatus.completed, .failed, .cancelled]
    InboxTurnStatus.text input.providerStatus
  let outcome ← normalizeRuntimeRunTerminalOutcome input.outcome
  refuse (RuntimeRunTerminalOutcome.isCompleted outcome = true ∧ providerStatus ≠ .completed)
    (InboxFailure.invalid "Only a completed Provider Turn may carry a completed Agent result.")
  let roleName ← requireIdentityText input.roleName "Role name"
  let agentId ← requireIdentityText input.agentId "Agent id"
  let nativeSessionId ← requireIdentityText input.nativeSessionId "Native session id"
  let nativeTurnId ← requireIdentityText input.nativeTurnId "Provider native Turn id"
  let runId ← optionalIdentityText input.runId "AgentRun id"
  let title ← optionalIdentityText input.title "Session title"
  let adapterId ← named [InboxAdapter.codex, .claude] InboxAdapter.text input.adapterId
  match scope with
  | .task => do
    let taskId ← requireIdentityText input.taskId "Task id"
    .ok ⟨scope, some taskId, roleName, agentId, adapterId, nativeSessionId, nativeTurnId, runId, title,
      providerStatus, outcome⟩
  | .global =>
    .ok ⟨scope, none, roleName, agentId, adapterId, nativeSessionId, nativeTurnId, runId, title,
      providerStatus, outcome⟩

/-- The fields of the end of a job, before they are checked. -/
structure JobTerminalFields where
  scope : Option JsonData
  taskId : Option JsonData
  jobId : Option JsonData
  status : Option JsonData
  outcome : Option JsonData

def normalizeDurableJobTerminalInput (input : JobTerminalFields) :
    Except InboxFailure RuntimeDurableJobTerminalInput := do
  let _ ← named [InboxScope.task] InboxScope.text input.scope
  let status ← named [DurableJobStatus.succeeded, .failed, .timedOut, .cancelled,
    .unknownNeedsAttention] DurableJobStatus.text input.status
  let taskId ← requireIdentityText input.taskId "Task id"
  let jobId ← requireIdentityText input.jobId "Job id"
  let outcome ← requireIdentityText input.outcome "Job outcome"
  .ok ⟨taskId, jobId, status, outcome⟩

end Normalize

section Wire

/-- One reference field moved between its name in the program and on the wire. -/
def inboxReference (source target : String) (value : JsonData) : Except InboxFailure JsonData :=
  if (value.member? target).isSome = true then
    invalidEvent "Inbox v1 reference uses the wrong wire shape."
  else .ok (value.rename source target)

/-- The payload with the end-of-Turn flag of its failure moved. -/
def inboxPayload (source target : String) (payload : JsonData) : JsonData :=
  match payload.member? "failure" with
  | some (.obj _) => payload.update "failure" (JsonData.rename source target)
  | _ => payload

/-- `inboxEnvelope`, by the names the reference and the flag have before and after. -/
def inboxEnvelope (reference flag : String × String) (value : JsonData) : Except InboxFailure JsonData :=
  if value.isObject = false then invalidEvent
  else if value.hasText "type" "native-turn-terminal" = true then
    inboxReference reference.1 reference.2 value
  else if value.hasText "type" "runtime-observation" = false then .ok value
  else
    match value.member? "observation" with
    | some observation =>
      match observation.member? "fence" with
      | some fence =>
        if fence.isObject = false then invalidEvent
        else do
          let renamed ← inboxReference reference.1 reference.2 fence
          .ok (value.update "observation" fun _ =>
            (observation.update "payload" (inboxPayload flag.1 flag.2)).update "fence"
              fun _ => renamed)
      | none => invalidEvent
    | none => invalidEvent

def encodeInboxV1 (value : JsonData) : Except InboxFailure JsonData :=
  inboxEnvelope ("runId", "turnId") ("runTerminal", "turnTerminal") value

def decodeInboxV1 (value : JsonData) : Except InboxFailure JsonData :=
  inboxEnvelope ("turnId", "runId") ("turnTerminal", "runTerminal") value

/-- The keys of the object are the expected ones, in any order. -/
def hasExactKeys (value : JsonData) (expected : List String) : Bool := value.keys.isPerm expected

/-- The names of the fields that are there. -/
def presentKeys (value : JsonData) (names : List String) : List String :=
  names.filter fun name => (value.member? name).isSome

end Wire

section Parse

variable {O H : Type} (N : ObservationNormalizer O H) [InboxHost]

def textOrNull (value : Option String) : JsonData := (value.map JsonData.str).getD .null

def digestId (values : List JsonData) : String := "turn-" ++ InboxHost.digest values

def observationEventId (observation : O) : String :=
  digestId [.num 2, .str "runtime-observation", textOrNull (N.taskId observation),
    .str (N.roleName observation), .str (N.semanticKey observation)]

def runTerminalEventId (input : RuntimeRunTerminalInput) : String :=
  digestId [.num 1, .str "native-turn-terminal", .str input.scope.text, textOrNull input.taskId,
    .str input.roleName, .str input.agentId, .str input.adapterId.text, .str input.nativeSessionId,
    .str input.nativeTurnId, textOrNull input.runId]

def jobTerminalEventId (input : RuntimeDurableJobTerminalInput) : String :=
  digestId [.num 1, .str "durable-job-terminal", .str "task", .str input.taskId, .str input.jobId,
    .str input.status.text, .str input.outcome]

def runtimeEventId : RuntimeLifecycleEvent O H → String
  | .observation _ _ _ _ observation _ => observationEventId N observation
  | .runTerminal _ _ input => runTerminalEventId input
  | .jobTerminal _ _ input => jobTerminalEventId input

def eventId : RuntimeLifecycleEvent O H → String
  | .observation id _ _ _ _ _ => id
  | .runTerminal id _ _ => id
  | .jobTerminal id _ _ => id

def observationKeys (value : JsonData) : List String :=
  ["schemaVersion", "id", "type", "receivedAt", "scope", "observation"] ++
    presentKeys value ["host", "taskId"]

/-- An error of the normalizer is not one of the inbox. -/
def createObservation (value : JsonData) : Except InboxFailure O :=
  match N.create value with
  | .ok observation => .ok observation
  | .error message => .error (.other message)

def parseHostSource (value : JsonData) : Except InboxFailure H :=
  match N.readHost value with
  | .ok host => .ok host
  | .error message => invalidEvent message

def scopeOf (observation : O) : InboxScope :=
  if N.taskId observation = none then .global else .task

def parseRuntimeObservationEvent (value : JsonData) :
    Except InboxFailure (RuntimeLifecycleEvent O H) := do
  refuse (value.hasNumber "schemaVersion" 1 = false ∨ hasExactKeys value (observationKeys value) = false)
    (InboxFailure.invalid "Runtime event is invalid.")
  let observation ← createObservation N ((value.member? "observation").getD .null)
  refuse (value.hasText "scope" (scopeOf N observation).text = false ∨
      (∃ taskId ∈ N.taskId observation, value.hasText "taskId" taskId = false) ∨
      value.hasText "receivedAt" (N.receivedAt observation) = false)
    (InboxFailure.invalid "Runtime observation envelope does not match its canonical fence.")
  let id ← requireIdentityText (value.member? "id") "Event id"
  let host ← onSome (parseHostSource N) (value.member? "host")
  .ok (.observation id (N.receivedAt observation) (scopeOf N observation) (N.taskId observation)
    observation host)

def jobTerminalKeys : List String :=
  ["schemaVersion", "id", "type", "receivedAt", "scope", "taskId", "jobId", "status", "outcome"]

def parseDurableJobTerminalEvent (value : JsonData) :
    Except InboxFailure (RuntimeLifecycleEvent O H) := do
  refuse (value.hasNumber "schemaVersion" 1 = false ∨ hasExactKeys value jobTerminalKeys = false)
    (InboxFailure.invalid "Runtime event is invalid.")
  let normalized ← normalizeDurableJobTerminalInput ⟨value.member? "scope", value.member? "taskId",
    value.member? "jobId", value.member? "status", value.member? "outcome"⟩
  let id ← requireIdentityText (value.member? "id") "Event id"
  let receivedAt ← requireReceivedAt (value.member? "receivedAt")
  .ok (.jobTerminal id receivedAt normalized)

def runTerminalKeys (scope : InboxScope) (value : JsonData) : List String :=
  ["schemaVersion", "id", "type", "receivedAt", "scope"] ++
    (if scope = .task then ["taskId"] else []) ++
    ["roleName", "agentId", "adapterId", "nativeSessionId", "nativeTurnId", "providerStatus",
      "outcome"] ++ presentKeys value ["runId", "title"]

def parseNativeTurnTerminalEvent (value : JsonData) :
    Except InboxFailure (RuntimeLifecycleEvent O H) := do
  let scope ← named [InboxScope.task, .global] InboxScope.text (value.member? "scope")
  refuse (value.hasNumber "schemaVersion" 1 = false ∨
      hasExactKeys value (runTerminalKeys scope value) = false)
    (InboxFailure.invalid "Runtime event is invalid.")
  let receivedAt ← requireReceivedAt (value.member? "receivedAt")
  let normalized ← normalizeNativeTurnTerminalInput {
    scope := value.member? "scope"
    taskId := if scope = .task then value.member? "taskId" else none
    roleName := value.member? "roleName"
    agentId := value.member? "agentId"
    adapterId := value.member? "adapterId"
    nativeSessionId := value.member? "nativeSessionId"
    nativeTurnId := value.member? "nativeTurnId"
    runId := value.member? "runId"
    title := value.member? "title"
    providerStatus := value.member? "providerStatus"
    outcome := value.member? "outcome" }
  let id ← requireIdentityText (value.member? "id") "Event id"
  .ok (.runTerminal id receivedAt normalized)

def parseRuntimeEvent (value : JsonData) : Except InboxFailure (RuntimeLifecycleEvent O H) :=
  if value.hasText "type" "runtime-observation" = true then parseRuntimeObservationEvent N value
  else if value.hasText "type" "native-turn-terminal" = true then parseNativeTurnTerminalEvent value
  else if value.hasText "type" "durable-job-terminal" = true then parseDurableJobTerminalEvent value
  else invalidEvent

/-- Reading a file. The content is the JSON value of its text, or `none` when the text is not JSON. -/
def parseEventFile (content : Option JsonData) (id : String) : Except InboxFailure (RuntimeLifecycleEvent O H) :=
  match content with
  | none => invalidEvent ("Runtime event JSON is invalid: " ++ id)
  | some value => do
    let decoded ← decodeInboxV1 value
    let event ← parseRuntimeEvent N decoded
    if eventId event ≠ id ∨ runtimeEventId N event ≠ id then
      invalidEvent ("Runtime event identity is invalid: " ++ id)
    else .ok event

end Parse

end RuntimeInbox
