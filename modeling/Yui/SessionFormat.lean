import Yui.RuntimeFacts
import Yui.JsonCodec

/-!
# The Session format

A Session document is a list of recorded events. `inspectDocument` replays them: Turns and Steps open and
close in order, every tool call is answered once and in order, an effect needs its recorded start, and a
Turn that leaves an unknown effect or an unreleased resource ends as an error.
-/

open JsText Checked

namespace Session

inductive ToolEffect where
  | noEffect | unknown
  deriving DecidableEq

structure ToolError where
  code : String
  message : String
  effect : ToolEffect
  deriving DecidableEq

inductive ToolOutcome where
  | ok (content : String)
  | error (error : ToolError)
  deriving DecidableEq

/-- A tool call with the names of its other fields. -/
structure ToolCall where
  id : String
  name : String
  arguments : JsonData
  otherFields : List String

inductive Message where
  | system (content : String)
  | user (content : String)
  | assistant (content : String) (toolCalls : List ToolCall)
  | tool (toolCallId name : String) (outcome : ToolOutcome)

inductive CleanupStatus where
  | notAcquired | released | failed | acquireFailed
  deriving DecidableEq

/-- How the resources of a call were settled, with the code and message of a failure. -/
structure Cleanup where
  status : CleanupStatus
  error : Option (String × String)
  deriving DecidableEq

inductive SettlementStatus where
  | succeeded | notExecuted | cancelled | failed | unknown
  deriving DecidableEq

structure ToolSettlementEvidence where
  started : Bool
  status : SettlementStatus
  cancellationRequested : Bool
  cleanup : Cleanup
  deriving DecidableEq

inductive EndReason where
  | completed | cancelled | budgetExhausted | error
  deriving DecidableEq

inductive EventData where
  | turnStarted
  | stepStarted (step : ℕ)
  | messageAppended (step : Option ℕ) (message : Message) (settlement : Option ToolSettlementEvidence)
  | toolStarted (step : ℕ) (toolCallId name : String)
  | stepEnded (step : ℕ)
  | turnEnded (reason : EndReason) (errorCode : Option String)

structure AgentEvent where
  sessionId : String
  turnId : String
  seq : ℕ
  data : EventData

inductive CallStatus where
  | notStarted | unknown | settled
  deriving DecidableEq

/-- A call on record. `started` says that its start was recorded. -/
structure CallRecovery where
  id : String
  name : String
  started : Bool
  status : CallStatus
  deriving DecidableEq

structure TurnRecovery where
  turnId : String
  lastSequence : ℕ
  lastStep : ℕ
  openStep : Option ℕ
  deriving DecidableEq

/-- What the replay knows after some events. The calls on record are the settled ones and then the
pending ones. -/
structure Replay where
  messages : List Message
  turnIds : List String
  callIds : List String
  settled : List CallRecovery
  active : Option TurnRecovery
  pending : List CallRecovery
  userSeen : Bool
  responseSeen : Bool
  finalSeen : Bool
  uncertain : Bool
  cleanupRequired : Bool

def Replay.empty : Replay := ⟨[], [], [], [], none, [], false, false, false, false, false⟩

section Checks

def requireFact (p : Prop) [Decidable p] (message : String) : Except String Unit := refuse (¬ p) message

/-- `identity`: not blank and at most 256 characters. -/
def identity (text : String) : Bool := trim text != "" && decide (Runtime.length16 text ≤ 256)

def requireIdentity (text : String) : Except String Unit :=
  requireFact (identity text = true)
    "Session, Turn and call identities must be nonempty and at most 256 characters"

def checkOutcome : ToolOutcome → Except String Unit
  | .ok _ => .ok ()
  | .error error => requireIdentity error.code

def checkCall (call : ToolCall) : Except String Unit := do
  requireFact (call.otherFields = []) "Invalid record fields"
  requireIdentity call.id
  requireIdentity call.name

def checkMessage : Message → Except String Unit
  | .tool toolCallId name outcome => do
    requireIdentity toolCallId
    requireIdentity name
    checkOutcome outcome
  | .assistant _ toolCalls => do
    requireFact (toolCalls.length ≤ 8) "Invalid tool batch"
    checkAll toolCalls checkCall
  | .system _ | .user _ => .ok ()

def ToolOutcome.isHarmless : ToolOutcome → Bool
  | .error failure => failure.effect = .noEffect
  | .ok _ => false

def ToolOutcome.isUnknown : ToolOutcome → Bool
  | .error failure => failure.effect = .unknown
  | .ok _ => false

def expectedStatus (started : Bool) : ToolOutcome → SettlementStatus
  | .ok _ => if started = true then .succeeded else .notExecuted
  | .error error =>
    if started = false then .notExecuted
    else if error.effect = .unknown then .unknown
    else if error.code = "cancelled" then .cancelled else .failed

def Cleanup.isFailure (cleanup : Cleanup) : Bool :=
  cleanup.status = .failed || cleanup.status = .acquireFailed

def checkSettlement (call : CallRecovery) (outcome : ToolOutcome)
    (settlement : ToolSettlementEvidence) : Except String Unit := do
  requireFact (settlement.status = expectedStatus settlement.started outcome ∧
      (settlement.started = false ∨ call.started = true) ∧
      (settlement.started = true ∨ outcome.isHarmless = true))
    "Settlement contradicts outcome or intent"
  if settlement.cleanup.isFailure = true then
    match settlement.cleanup.error with
    | none => .error "Invalid record fields"
    | some error => requireIdentity error.1
  else requireFact (settlement.cleanup.error = none) "Unexpected cleanup diagnostic"
  requireFact (settlement.started = false ∨ settlement.cleanup.status = .released ∨
      settlement.cleanup.status = .failed)
    "Started tool must retain acquired-resource settlement"

end Checks

section Steps

def startTurn (s : Replay) (turnId : String) (seq : ℕ) : Except String Replay := do
  requireFact (s.active = none ∧ turnId ∉ s.turnIds ∧ seq = 1 ∧ s.uncertain = false ∧
      s.cleanupRequired = false)
    "Cannot start Turn: active, repeated, noninitial sequence or unknown effects require recovery"
  .ok { s with
    active := some ⟨turnId, 1, 0, none⟩
    turnIds := s.turnIds ++ [turnId]
    userSeen := false
    finalSeen := false }

def startStep (s : Replay) (turn : TurnRecovery) (step : ℕ) : Except String Replay := do
  requireFact (s.userSeen = true ∧ s.finalSeen = false ∧ s.uncertain = false ∧
      s.cleanupRequired = false ∧ turn.openStep = none ∧ s.pending = [] ∧ step = turn.lastStep + 1)
    "Invalid Step start or unsettled calls"
  .ok { s with
    active := some { turn with lastStep := step, openStep := some step }
    responseSeen := false }

def addCalls (s : Replay) : List ToolCall → Except String Replay
  | [] => .ok s
  | call :: calls => do
    requireFact (call.id ∉ s.callIds) "Repeated tool call identity"
    addCalls { s with
      callIds := s.callIds ++ [call.id]
      pending := s.pending ++ [⟨call.id, call.name, false, .notStarted⟩] } calls

def addInput (s : Replay) (turn : TurnRecovery) (step : Option ℕ) (isUser : Bool) :
    Except String Replay := do
  requireFact (step = none ∧ turn.lastStep = 0 ∧ s.userSeen = false)
    "Input messages must precede Steps and occur only once per Turn"
  .ok { s with userSeen := isUser || s.userSeen }

def addResponse (s : Replay) (toolCalls : List ToolCall) : Except String Replay := do
  requireFact (s.responseSeen = false ∧ s.pending = []) "Repeated model response or unsettled calls"
  addCalls { s with responseSeen := true, finalSeen := toolCalls.isEmpty } toolCalls

def addResult (s : Replay) (toolCallId name : String) (outcome : ToolOutcome)
    (settlement : Option ToolSettlementEvidence) : Except String Replay :=
  match s.pending with
  | [] => .error "Tool result must pair with exactly the next pending call"
  | call :: pending => do
    requireFact (call.id = toolCallId ∧ call.name = name)
      "Tool result must pair with exactly the next pending call"
    requireFact (outcome.isHarmless = true ∨ call.started = true)
      "Effectful result requires a confirmed write-ahead start"
    requireFact (s.uncertain = false ∨ outcome.isHarmless = true ∧ call.started = false)
      "Cannot report new effects after uncertainty"
    whenPresent settlement (checkSettlement call outcome)
    .ok { s with
      settled := s.settled ++
        [{ call with status := if outcome.isUnknown = true then .unknown else .settled }]
      pending := pending
      uncertain := s.uncertain || outcome.isUnknown
      cleanupRequired := s.cleanupRequired ||
        (settlement.any fun settlement => settlement.cleanup.isFailure) }

def isToolMessage : Message → Bool
  | .tool _ _ _ => true
  | _ => false

def acceptMessage (s : Replay) (turn : TurnRecovery) (step : Option ℕ)
    (settlement : Option ToolSettlementEvidence) : Message → Except String Replay
  | .system _ => addInput s turn step false
  | .user _ => addInput s turn step true
  | .assistant _ toolCalls => do
    requireFact (turn.openStep ≠ none ∧ step = turn.openStep)
      "Model/tool message must belong to the open Step"
    addResponse s toolCalls
  | .tool toolCallId name outcome => do
    requireFact (turn.openStep ≠ none ∧ step = turn.openStep)
      "Model/tool message must belong to the open Step"
    addResult s toolCallId name outcome settlement

def appendMessage (s : Replay) (turn : TurnRecovery) (step : Option ℕ) (message : Message)
    (settlement : Option ToolSettlementEvidence) : Except String Replay := do
  checkMessage message
  requireFact (settlement = none ∨ isToolMessage message = true) "Settlement requires a tool result"
  let next ← acceptMessage s turn step settlement message
  .ok { next with messages := next.messages ++ [message] }

def startTool (s : Replay) (turn : TurnRecovery) (step : ℕ) (toolCallId name : String) : Except String Replay :=
  match s.pending with
  | [] => .error "Tool start must match the next unstarted call in the open Step"
  | call :: pending => do
    requireFact (s.uncertain = false ∧ s.cleanupRequired = false ∧ turn.openStep = some step ∧
        call.id = toolCallId ∧ call.name = name ∧ call.started = false)
      "Tool start must match the next unstarted call in the open Step"
    .ok { s with pending := { call with started := true, status := .unknown } :: pending }

def endStep (s : Replay) (turn : TurnRecovery) (step : ℕ) : Except String Replay := do
  requireFact (turn.openStep = some step ∧ s.pending = [])
    "Cannot end Step with unsettled calls or without an open Step"
  .ok { s with active := some { turn with openStep := none } }

def endTurn (s : Replay) (turn : TurnRecovery) (reason : EndReason) : Except String Replay := do
  requireFact (turn.openStep = none ∧ s.pending = [])
    "Cannot end Turn with open Step or unsettled calls"
  requireFact (reason = .completed → s.finalSeen = true) "Completed Turn requires final model response"
  requireFact (s.uncertain = true → reason = .error) "Unknown effects require error terminal"
  requireFact (s.cleanupRequired = true → reason = .error)
    "Unreleased resources require error terminal"
  .ok { s with active := none }

/-- A fact of the active Turn, whose sequence already counts it. -/
def extendTurn (s : Replay) (turn : TurnRecovery) : EventData → Except String Replay
  | .turnStarted => .ok s
  | .stepStarted step => startStep s turn step
  | .messageAppended step message settlement => appendMessage s turn step message settlement
  | .toolStarted step toolCallId name => startTool s turn step toolCallId name
  | .stepEnded step => endStep s turn step
  | .turnEnded reason _ => endTurn s turn reason

def replayEvent (sessionId : String) (s : Replay) (event : AgentEvent) : Except String Replay := do
  requireIdentity event.turnId
  requireFact (event.sessionId = sessionId) "Event identity or sequence mismatch"
  match event.data with
  | .turnStarted => startTurn s event.turnId event.seq
  | data =>
    match s.active with
    | none => .error "Fact must extend the active Turn sequence"
    | some active => do
      requireFact (active.turnId = event.turnId ∧ event.seq = active.lastSequence + 1)
        "Fact must extend the active Turn sequence"
      let turn := { active with lastSequence := event.seq }
      extendTurn { s with active := some turn } turn data

def replayEvents (sessionId : String) : Replay → List AgentEvent → Except String Replay
  | s, [] => .ok s
  | s, event :: events => do
    let next ← replayEvent sessionId s event
    replayEvents sessionId next events

structure SessionDocument where
  sessionId : String
  events : List AgentEvent

/-- What the limits say about JSON texts: `admits` is the check of one event (its bytes, its nesting and
the bytes of its arguments), `bytes` the length of its text and `envelope` that of the other fields. -/
structure Limits where
  admits : AgentEvent → Bool
  bytes : AgentEvent → ℕ
  envelope : String → ℕ

def documentBytes (limits : Limits) (document : SessionDocument) : ℕ :=
  limits.envelope document.sessionId + (document.events.map limits.bytes).sum +
    (document.events.length - 1)

def inspectDocument (limits : Limits) (document : SessionDocument) : Except String Replay := do
  requireIdentity document.sessionId
  requireFact (document.events.length ≤ 10000) "Event count limit exceeded"
  requireFact (documentBytes limits document ≤ 16 * 1024 * 1024) "Session byte limit exceeded"
  requireFact (∀ event ∈ document.events, limits.admits event = true) "Event byte limit exceeded"
  replayEvents document.sessionId Replay.empty document.events

inductive Disposition where
  | unknownEffects | cleanupRequired | interrupted | ready
  deriving DecidableEq

def Replay.disposition (s : Replay) : Disposition :=
  if (s.settled ++ s.pending).any (fun call => call.status = .unknown) = true then .unknownEffects
  else if s.cleanupRequired = true then .cleanupRequired
  else if s.active ≠ none then .interrupted
  else .ready

end Steps

end Session
