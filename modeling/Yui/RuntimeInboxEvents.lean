import Yui.RuntimeInboxNormal
import Yui.HostSource

/-!
# Stored inbox events

`enqueueObservation`, `enqueueRunTerminal` and `enqueueDurableJobTerminal` build an event from a
normalized input and store it in the v1 wire shape. The file is read back as the event, but for numbers
that JSON cannot write and for a diagnostic that was clipped to white space.
-/

open JsText Checked Runtime HostSource

/-- What `toISOString` prints of the time of an event. -/
structure IsoInstant [JsHost] where
  text : String
  parses : JsHost.dateParse text ≠ none
  identity : RuntimeInbox.IdentityText text

namespace RuntimeInbox

abbrev InboxEvent := RuntimeLifecycleEvent RuntimeObservation AgentHostObservationSource

section Build

variable [InboxHost]

def inboxNormalizer : ObservationNormalizer RuntimeObservation AgentHostObservationSource :=
  jsonNormalizer readSource

def eventMembers : InboxEvent → List (String × Option JsonData)
  | .observation id receivedAt scope taskId observation host =>
    [("schemaVersion", some (.num 1)), ("id", some (.str id)),
      ("type", some (.str "runtime-observation")), ("receivedAt", some (.str receivedAt)),
      ("scope", some (.str scope.text)), ("taskId", taskId.map JsonData.str),
      ("observation", some (observationCodec.write observation)),
      ("host", host.map sourceCodec.write)]
  | .runTerminal id receivedAt input =>
    [("schemaVersion", some (.num 1)), ("id", some (.str id)),
      ("type", some (.str "native-turn-terminal")), ("receivedAt", some (.str receivedAt)),
      ("scope", some (.str input.scope.text)), ("roleName", some (.str input.roleName)),
      ("agentId", some (.str input.agentId)), ("adapterId", some (.str input.adapterId.text)),
      ("nativeSessionId", some (.str input.nativeSessionId)),
      ("nativeTurnId", some (.str input.nativeTurnId)), ("runId", input.runId.map JsonData.str),
      ("title", input.title.map JsonData.str),
      ("providerStatus", some (.str input.providerStatus.text)),
      ("outcome", some (writeOutcome input.outcome)), ("taskId", input.taskId.map JsonData.str)]
  | .jobTerminal id receivedAt input =>
    [("schemaVersion", some (.num 1)), ("id", some (.str id)),
      ("type", some (.str "durable-job-terminal")), ("receivedAt", some (.str receivedAt)),
      ("scope", some (.str "task")), ("taskId", some (.str input.taskId)),
      ("jobId", some (.str input.jobId)), ("status", some (.str input.status.text)),
      ("outcome", some (.str input.outcome))]

/-- The data of an event, before its keys are renamed. -/
def writeEvent (event : InboxEvent) : JsonData := .present (eventMembers event)

def ReadsBack (event : InboxEvent) : Prop :=
  ∃ wire, encodeInboxV1 (writeEvent event) = .ok wire ∧
    parseEventFile inboxNormalizer (some wire) (eventId event) = .ok event

end Build

section Members

end Members

section Keys

end Keys

section ReadBack

variable [InboxHost]

end ReadBack

end RuntimeInbox
