import Yui.SessionReplay
import Yui.ToolExecutor

/-!
# One Turn of the agent

`runTurn` asks the model, runs the tool calls it answers with through the built-in executor and records
what happens. Everything outside is a world: what the model, the context builder, the tools, the
permission and the environment do, and after how many looks at the signal the Turn is cancelled. The
recorder confirms every event here.
-/

open JsText Checked ToolExecutor

namespace Session

/-- A request that the builder changed is rejected at one more look at the signal. -/
inductive ContextAnswer where
  | built (tooLarge : Bool)
  | rejected
  | fails

/-- What is outside of the Turn. `argumentsFit` is the check of size and depth that the format makes again of the
whole event, in `Limits.admits`. -/
structure TurnWorld where
  cancelAt : Option ℕ
  pack : Pack
  context : ℕ → ContextAnswer
  provider : ℕ → Answer
  call : ℕ → ℕ → CallWorld
  argumentsFit : JsonData → Bool

structure TurnInput where
  sessionId : String
  turnId : String
  maxSteps : ℤ
  input : String
  history : List Message

/-- The Turn so far; `clock` counts the looks at the signal. -/
structure Turn where
  clock : ℕ
  events : List AgentEvent
  messages : List Message
  usedIds : List String
  steps : ℕ
  errorCode : Option String

def stoppedCode : Stopped → String
  | .cancelled => "cancelled"
  | .capabilityFailed => "capability_failed"
  | .cleanupFailed => "cleanup_failed"
  | .unknownEffect => "unknown_effect"

section Emit

variable (w : TurnWorld) (input : TurnInput)

/-- `signal.aborted`. -/
def aborted (t : Turn) : Bool :=
  match w.cancelAt with
  | none => false
  | some at_ => decide (at_ ≤ t.clock)

def Turn.look (t : Turn) : Turn := { t with clock := t.clock + 1 }

def emit (t : Turn) (data : EventData) : Turn :=
  { t with events := t.events ++ [⟨input.sessionId, input.turnId, t.events.length + 1, data⟩] }

def append (t : Turn) (message : Message) (step : Option ℕ) (settlement : Option ToolSettlementEvidence) : Turn :=
  emit input { t with messages := t.messages ++ [message] } (.messageAppended step message settlement)

/-- `error ??= …`, by its code. -/
def Turn.noteError (t : Turn) (code : String) : Turn := { t with errorCode := t.errorCode.or (some code) }

end Emit

section Hooks

variable (w : TurnWorld) (input : TurnInput)

/-- `beforeExecute`: the intent is recorded unless the Turn is cancelled. -/
def beforeExecute (step : ℕ) (t : Turn) (call : ToolCall) : Turn :=
  if aborted w t = true then t.look else emit input t.look (.toolStarted step call.id call.name)

/-- `afterExecute`. -/
def acceptSettlement (step : ℕ) (t : Turn) (call : ToolCall) (outcome : ToolOutcome)
    (evidence : ToolSettlementEvidence) : Turn :=
  append input t (.tool call.id call.name outcome) (some step) (some evidence)

/-- The Turn as the caller of the executor. -/
def turnHost (step : ℕ) : Host Turn where
  aborted := aborted w
  look := Turn.look
  beforeExecute t call := (beforeExecute w input step t call, true)
  afterExecute t call outcome evidence := (acceptSettlement input step t call outcome evidence, true)

end Hooks

section Model

variable (w : TurnWorld) (input : TurnInput)

inductive ModelResponse where
  | final (content : String)
  | toolCalls (content : String) (calls : List ToolCall)

def readCall (data : JsonData) : Option ToolCall :=
  match data with
  | .obj members =>
    match data.member? "id", data.member? "name", data.member? "arguments" with
    | some (.str id), some (.str name), some arguments =>
      if isNonempty id = true ∧ isNonempty name = true ∧ w.argumentsFit arguments = true then
        some ⟨id, name, arguments,
          (members.map Prod.fst).filter fun key => key ∉ ["id", "name", "arguments"]⟩
      else none
    | _, _, _ => none
  | _ => none

def readCalls : List JsonData → Option (List ToolCall)
  | [] => some []
  | item :: items => do
    let call ← readCall w item
    let calls ← readCalls items
    some (call :: calls)

/-- `response`: the model's answer, or none for a `provider_protocol` fault. -/
def response (raw : Option JsonData) (usedIds : List String) : Option ModelResponse := do
  let value ← raw
  if w.pack.fits value = false then none
  else
    match value.member? "content", value.member? "kind" with
    | some (.str content), some (.str "final") => some (.final content)
    | some (.str content), some (.str "tool_calls") =>
      match value.member? "calls" with
      | some (.arr items) => do
        let calls ← readCalls w items
        if items.length ≤ 8 ∧ (calls.map ToolCall.id).Nodup ∧ calls ≠ [] ∧
            ∀ call ∈ calls, call.id ∉ usedIds then
          some (.toolCalls content calls)
        else none
      | _ => none
    | _, _ => none

/-- How a Step ends: the loop goes on, breaks with a reason, or throws. -/
inductive StepEnd where
  | next
  | stop (reason : EndReason)
  | fault (code : String)

/-- The tool messages of a batch that was not started. -/
def skipCalls (step : ℕ) : List ToolCall → Turn → Turn
  | [], t => t
  | call :: calls, t =>
    let outcome := failure (if aborted w t = true then "cancelled_before_start" else "not_started")
      "Tool was not started"
    skipCalls step calls (append input t.look (.tool call.id call.name outcome) (some step) none)

def unknownCode (results : List Settlement) : Option String :=
  (results.find? fun settlement => settlement.outcome.isUnknown).bind fun settlement =>
    match settlement.outcome with
    | .error toolError => some toolError.code
    | .ok _ => none

def runCalls (step : ℕ) (calls : List ToolCall) (t : Turn) : StepEnd × Turn :=
  if aborted w t = true then
    let t := skipCalls w input step calls t.look
    let t := { t with usedIds := t.usedIds ++ calls.map ToolCall.id }
    if aborted w t = true then (.stop .cancelled, t.look) else (.next, t.look)
  else
    let batch := executeBatch (turnHost w input step) w.pack (w.call step) calls t.look
    let t := { batch.host with usedIds := batch.host.usedIds ++ calls.map ToolCall.id }
    let batchFailed := batch.stopped ≠ none ∧ batch.stopped ≠ some .cancelled
    let uncertain := batch.results.any fun settlement => settlement.outcome.isUnknown
    let t := if batchFailed then
        t.noteError ((unknownCode batch.results).getD ((batch.stopped.map stoppedCode).getD ""))
      else t
    if uncertain = true ∨ batchFailed then (.stop .error, t)
    else if aborted w t = true then (.stop .cancelled, t.look) else (.next, t.look)

def answer (step : ℕ) (t : Turn) (raw : Option JsonData) : StepEnd × Turn :=
  match response w raw t.usedIds with
  | none => (.fault "provider_protocol", t)
  | some (.final content) =>
    let t := append input t (.assistant content []) (some step) none
    (.stop (if aborted w t = true then .cancelled else .completed), t.look)
  | some (.toolCalls content calls) =>
    runCalls w input step calls (append input t (.assistant content calls) (some step) none)

/-- The body of a Step, from the check after `step_started` on. -/
def stepBody (step : ℕ) (t : Turn) : StepEnd × Turn :=
  if aborted w t = true then (.stop .cancelled, t.look)
  else if aborted w t.look = true then (.stop .cancelled, t.look.look)
  else
    let t := t.look.look
    match w.context step with
    | .fails => (.fault "context_error", t)
    | .rejected =>
      if aborted w t = true then (.stop .cancelled, t.look) else (.fault "context_error", t.look)
    | .built true => (.fault "context_limit", t)
    | .built false =>
      if aborted w t = true then (.stop .cancelled, t.look)
      else
        match w.provider step with
        | .throws => (.fault "provider_error", t.look)
        | .returns raw => answer w input step t.look raw

/-- The loop, with the Steps that the budget still allows. -/
def loop : ℕ → Turn → EndReason × Turn
  | budget, t =>
    if aborted w t = true then (.cancelled, t.look)
    else
      match budget with
      | 0 => (.budgetExhausted, t.look)
      | budget + 1 =>
        let step := t.steps + 1
        let t := emit input { t.look with steps := step } (.stepStarted step)
        let (ending, t) := stepBody w input step t
        let t := emit input t (.stepEnded step)
        match ending with
        | .next => loop budget t
        | .stop reason => (reason, t)
        | .fault code => (.error, t.noteError code)

/-- `history`: the checks of the messages of earlier Turns. -/
def acceptsHistory : List Message → List (String × String) → List String → Bool
  | [], pending, _ => pending.isEmpty
  | message :: messages, pending, used =>
    w.pack.messageFits message &&
      match message with
      | .tool toolCallId name outcome =>
        isNonempty toolCallId && isNonempty name &&
          (match outcome with
            | .ok _ => true
            | .error toolError => isNonempty toolError.code) &&
          pending.contains (toolCallId, name) &&
          acceptsHistory messages (pending.filter fun entry => entry.1 ≠ toolCallId) used
      | .assistant _ toolCalls =>
        pending.isEmpty && decide (toolCalls.length ≤ 8) &&
          (toolCalls.all fun call => isNonempty call.id && isNonempty call.name &&
            w.argumentsFit call.arguments) &&
          decide ((toolCalls.map ToolCall.id).Nodup) &&
          (toolCalls.all fun call => !used.contains call.id) &&
          acceptsHistory messages (toolCalls.map fun call => (call.id, call.name))
            (used ++ toolCalls.map ToolCall.id)
      | .system _ | .user _ => pending.isEmpty && acceptsHistory messages [] used

def hasUnknown : Message → Bool
  | .tool _ _ outcome => outcome.isUnknown
  | _ => false

def validInput : Bool :=
  isNonempty input.sessionId && isNonempty input.turnId && decide (1 ≤ input.maxSteps) &&
    decide (input.maxSteps ≤ maxSafeInteger) && w.pack.messageFits (.user input.input)

/-- `runTurn`, by the events it records. -/
def runTurn : List AgentEvent :=
  let t : Turn := emit input ⟨0, [], [], input.history.flatMap messageIds, 0, none⟩ .turnStarted
  let (reason, t) :=
    if validInput w input = false then (.error, t.noteError "invalid_input")
    else if acceptsHistory w input.history [] [] = false then (.error, t.noteError "invalid_history")
    else if input.history.any hasUnknown = true then (.error, t.noteError "unresolved_effect")
    else loop w input input.maxSteps.toNat (append input t (.user input.input) none none)
  (emit input t (.turnEnded reason t.errorCode)).events

end Model

end Session
