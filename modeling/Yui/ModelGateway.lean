import Yui.AgentTurn

/-!
# The model gateway

`generate` sends one model request, reads the answer under a limit and decides whether it may be sent
again. The transport, the adapter, the clock and the signals are a `World`: what each call of the transport
answers, what the adapter does with a body, and what a look at the signals and the clock finds. The `Run`
keeps the local variables of an attempt and, for the proofs, the calls and the bodies.
-/

open JsText Checked Session ToolExecutor

namespace ModelGateway

inductive ErrorCode where
  | configuration | request | protocol | incomplete | authentication | quota | rateLimit | http
  | transport | cancelled | deadline
  deriving DecidableEq

inductive StopReason where
  | attemptLimit | timeLimit

inductive Classified where
  | authentication | quota | rateLimit | http
  deriving DecidableEq

def Classified.code : Classified → ErrorCode
  | .authentication => .authentication
  | .quota => .quota
  | .rateLimit => .rateLimit
  | .http => .http

/-- The reported counts under their names. -/
abbrev Usage := List (String × ℕ)

inductive Outcome where
  | success
  | failed (code : ErrorCode)

inductive AttemptEffect where
  | noEffect | unknown | completed

def effectOf : ToolEffect → AttemptEffect
  | .noEffect => .noEffect
  | .unknown => .unknown

structure ModelAttempt where
  attempt : ℕ
  clientRequestId : String
  elapsedMs : ℚ
  status : Option ℕ
  providerRequestId : Option String
  usage : Option Usage
  outcome : Outcome
  effect : AttemptEffect

structure ModelGatewayError where
  code : ErrorCode
  effect : ToolEffect := .unknown
  attempts : List ModelAttempt := []
  stopReason : Option StopReason := none
  requestId : Option String := none

/-- A thrown value: an error of the gateway's own class, or another one. -/
inductive Thrown where
  | gateway (error : ModelGatewayError)
  | other

/-- What one read of a body gives. The text is none when the bytes are no UTF-8. -/
inductive Part where
  | chunk (bytes : ℕ) (text : Option String)
  | fails

structure Body where
  parts : List Part
  flushed : Option String
  locked : Bool
  cancelFails : Bool

/-- `retryAfterMs` is what `retryAfter` reads from the header. -/
structure Response where
  status : ℕ
  remoteId : Option String
  retryAfterMs : ℚ
  body : Option Body

/-- `response.ok`. -/
def Response.ok (response : Response) : Bool := decide (200 ≤ response.status ∧ response.status ≤ 299)

inductive TransportAnswer where
  | throws (error : Thrown)
  | responds (response : Response)

inductive ModelProgress where
  | usage (usage : JsonData)
  | display

/-- What an adapter does with the stream of a body: it reads, reports, and returns or throws. -/
inductive Decoder where
  | read (next : Except Thrown (Option String) → Decoder)
  | report (data : ModelProgress) (next : Bool → Decoder)
  | returns (response : Option ModelResponse) (usage : Option JsonData)
  | throws (error : Thrown)

structure ModelRequest where
  sessionId : String
  turnId : String
  step : ℕ
  messages : List Message
  tools : List String

structure Look where
  external : Bool
  controller : Bool
  now : ℚ

/-- `bytes` and `json` of a value are the `fits` predicates. The clock does not throw. `encodes` tells whether the adapter encodes
the request within its limit, `parse` is `JSON.parse`. -/
structure World where
  functionTools : Bool
  requestFits : ModelRequest → Bool
  messageFits : Message → Bool
  argumentsFit : JsonData → Bool
  responseFits : ModelResponse → Bool
  encodes : ModelRequest → Bool
  parse : String → Option JsonData
  classify : ℕ → Option JsonData → Except Thrown Classified
  decode : ℕ → Decoder
  transport : ℕ → TransportAnswer
  looks : ℕ → Look
  sleep : ℕ → Option Thrown
  acceptsId : String → Bool
  requestId : String

structure Retry where
  maxAttempts : ℕ := 3
  maxElapsedMs : ℚ := 30000
  baseDelayMs : ℚ := 250

section Requests

variable (w : World)

def validCalls (calls : List ToolCall) : Bool :=
  decide (calls.length ≤ 8) && calls.all (fun call => isNonempty call.id && isNonempty call.name &&
    decide (call.otherFields = []) && w.argumentsFit call.arguments) &&
    decide (calls.map ToolCall.id).Nodup

/-- One message of `requestSnapshot`: the used ids and the pending calls after it. -/
def snapshotMessage (state : List String × List (String × String)) (message : Message) :
    Option (List String × List (String × String)) :=
  if w.messageFits message = false then none
  else
    match message with
    | .tool id name outcome =>
      let named := match outcome with
        | .ok _ => true
        | .error error => isNonempty error.code
      if isNonempty id = true ∧ (state.2.find? fun call => call.1 = id) = some (id, name) ∧
          named = true then
        some (state.1, state.2.filter fun call => call.1 ≠ id)
      else none
    | .assistant _ calls =>
      if state.2 = [] ∧ validCalls w calls = true ∧ ∀ call ∈ calls, call.id ∉ state.1 then
        some (state.1 ++ calls.map ToolCall.id, calls.map fun call => (call.id, call.name))
      else none
    | .system _ | .user _ => if state.2 = [] then some state else none

/-- `requestSnapshot`. -/
def requestSnapshot (input : ModelRequest) : Option ModelRequest := do
  let (_, pending) ← input.messages.foldlM (snapshotMessage w) ([], [])
  if w.requestFits input = true ∧ isNonempty input.sessionId = true ∧ isNonempty input.turnId = true ∧
      1 ≤ input.step ∧ pending = [] ∧ (∀ tool ∈ input.tools, isNonempty tool = true) ∧
      input.tools.Nodup then
    some input
  else none

def usesTools (request : ModelRequest) : Bool :=
  decide (request.tools ≠ []) || request.messages.any fun message =>
    match message with
    | .tool _ _ _ => true
    | .assistant _ calls => decide (calls.length ≠ 0)
    | _ => false

def usedIds (request : ModelRequest) : List String :=
  request.messages.flatMap fun message =>
    match message with
    | .assistant _ calls => calls.map ToolCall.id
    | _ => []

def validateResponse (response : ModelResponse) (request : ModelRequest) : Bool :=
  w.responseFits response &&
    match response with
    | .final _ => true
    | .toolCalls _ calls => validCalls w calls && decide (calls.length ≠ 0) &&
        calls.all fun call => decide (call.name ∈ request.tools) && decide (call.id ∉ usedIds request)

def usageKeys : List String :=
  ["inputTokens", "outputTokens", "totalTokens", "cachedInputTokens", "cacheWriteInputTokens"]

def reportedCount (value : JsonData) (key : String) : Option (Option (String × ℕ)) :=
  match value.member? key with
  | none => some none
  | some (.num count) =>
    if count.den = 1 ∧ 0 ≤ count ∧ count ≤ 9007199254740991 then some (some (key, count.num.toNat))
    else none
  | some _ => none

/-- `reportedUsage`, none when it throws. -/
def reportedUsage (value : JsonData) : Option Usage :=
  match value with
  | .obj members =>
    (usageKeys.mapM (reportedCount value)).bind fun counts =>
      let usage := counts.reduceOption
      if usage ≠ [] ∧ ∀ member ∈ members, member.1 ∈ usage.map Prod.fst then some usage else none
  | _ => none

end Requests

inductive Reader where
  | fresh
  | reading (rest : List Part) (count : ℕ)
  | flushed
  | ended

/-- A body in the hands of the gateway. -/
structure Held where
  handed : Body
  locked : Bool
  closed : Bool

def Response.hold (response : Response) : Option Held :=
  response.body.map fun body => ⟨body, body.locked, false⟩

/-- The variables of `generate`, those of the attempt under way, and the record of all calls and bodies. -/
structure Run where
  tick : ℕ
  start : ℚ
  aborted : Bool
  sent : Bool
  attempts : List ModelAttempt
  status : Option ℕ
  providerRequestId : Option String
  usage : Option Usage
  wait : ℚ
  rejectedForRateLimit : Bool
  classifiedRejection : Bool
  body : Option Held
  reader : Reader
  calls : List TransportAnswer
  bodies : List Held

section Looks

variable (w : World) (retry : Retry)

def Run.look (r : Run) : Run := { r with tick := r.tick + 1 }

def elapsed (r : Run) : ℚ := max 0 ((w.looks r.tick).now - r.start)

def effectNow (r : Run) : ToolEffect := if r.sent = true then .unknown else .noEffect

def check (r : Run) : Except Thrown Unit × Run :=
  if (w.looks r.tick).external = true then
    (.error (.gateway { code := .cancelled, effect := effectNow r }), r.look)
  else if r.aborted = true ∨ (w.looks r.tick).controller = true ∨ retry.maxElapsedMs ≤ elapsed w r then
    (.error (.gateway { code := .deadline, effect := effectNow r }), { r.look with aborted := true })
  else (.ok (), r.look)

/-- `signal.throwIfAborted`. -/
def signalAborted (r : Run) : Bool := r.aborted || (w.looks r.tick).controller

end Looks

section Bodies

variable (w : World)

/-- `body.cancel()`, which rejects on a locked body. -/
def cancelBody (r : Run) : Bool × Run :=
  match r.body with
  | none => (true, r)
  | some held =>
    if held.locked = true then (false, r)
    else (!held.handed.cancelFails, { r with body := some { held with closed := true } })

/-- The `finally` of `readBody`: the reader is cancelled and its lock released. -/
def endReader (r : Run) : Bool × Run :=
  match r.body with
  | none => (true, { r with reader := .ended })
  | some held => (!held.handed.cancelFails,
      { r with body := some { held with closed := true, locked := false }, reader := .ended })

def failReader (error : Thrown) (r : Run) : Except Thrown String × Run :=
  match endReader r with
  | (true, r) => (.error error, r)
  | (false, r) => (.error .other, r)

def protocolError : Thrown := .gateway { code := .protocol }

/-- One turn of the loop in `readBody`, up to its `yield`. -/
def pull (limit : ℕ) (rest : List Part) (count : ℕ) (r : Run) : Except Thrown String × Run :=
  if signalAborted w r = true then failReader .other r.look
  else
    match rest with
    | .fails :: _ => failReader .other r.look
    | [] =>
      if signalAborted w r.look = true then failReader .other r.look.look
      else
        match r.body.bind fun held => held.handed.flushed with
        | none => failReader protocolError r.look.look
        | some text => (.ok text, { r.look.look with reader := .flushed })
    | .chunk bytes decoded :: rest =>
      if signalAborted w r.look = true then failReader .other r.look.look
      else if limit < count + bytes then failReader protocolError r.look.look
      else
        match decoded with
        | none => failReader protocolError r.look.look
        | some text => (.ok text, { r.look.look with reader := .reading rest (count + bytes) })

/-- The first steps of `readBody`: the body must be there, and unlocked. -/
def openReader (r : Run) : Except Thrown (List Part) × Run :=
  match r.body with
  | none => (.error protocolError, { r with reader := .ended })
  | some held =>
    if held.locked = true then (.error .other, { r with reader := .ended })
    else (.ok held.handed.parts, { r with
      body := some { held with locked := true }, reader := .reading held.handed.parts 0 })

/-- `next` of the stream of a body. -/
def next (limit : ℕ) (r : Run) : Except Thrown (Option String) × Run :=
  match r.reader with
  | .ended => (.ok none, r)
  | .flushed =>
    match endReader r with
    | (true, r) => (.ok none, r)
    | (false, r) => (.error .other, r)
  | .reading rest count =>
    match pull w limit rest count r with
    | (.ok text, r) => (.ok (some text), r)
    | (.error error, r) => (.error error, r)
  | .fresh =>
    match openReader r with
    | (.error error, r) => (.error error, r)
    | (.ok rest, r) =>
      match pull w limit rest 0 r with
      | (.ok text, r) => (.ok (some text), r)
      | (.error error, r) => (.error error, r)

/-- `return` of the stream of a body. A stream that nothing read yet never opens it. -/
def closeStream (r : Run) : Bool × Run :=
  match r.reader with
  | .fresh | .ended => (true, { r with reader := .ended })
  | .flushed | .reading _ _ => endReader r

/-- `for await` over the stream, once it is open. -/
def drain (limit : ℕ) : List Part → ℕ → String → Run → Except Thrown String × Run
  | [], count, text, r =>
    match pull w limit [] count r with
    | (.error error, r) => (.error error, r)
    | (.ok last, r) =>
      match endReader r with
      | (true, r) => (.ok (text ++ last), r)
      | (false, r) => (.error .other, r)
  | .fails :: rest, count, _, r =>
    match pull w limit (.fails :: rest) count r with
    | (.error error, r) => (.error error, r)
    | (.ok _, r) => failReader .other r
  | .chunk bytes decoded :: rest, count, text, r =>
    match pull w limit (.chunk bytes decoded :: rest) count r with
    | (.error error, r) => (.error error, r)
    | (.ok part, r) => drain limit rest (count + bytes) (text ++ part) r

def readText (limit : ℕ) (r : Run) : Except Thrown String × Run :=
  match openReader r with
  | (.error error, r) => (.error error, r)
  | (.ok rest, r) => drain w limit rest 0 "" r

/-- The adapter at work. A report of a malformed usage throws into the adapter. -/
def runDecoder (limit : ℕ) :
    Decoder → Run → Except Thrown (Option ModelResponse × Option JsonData) × Run
  | .returns response usage, r => (.ok (response, usage), r)
  | .throws error, r => (.error error, r)
  | .report .display k, r => runDecoder limit (k true) r
  | .report (.usage value) k, r =>
    match reportedUsage value with
    | some usage => runDecoder limit (k true) { r with usage := some usage }
    | none => runDecoder limit (k false) r
  | .read k, r =>
    match next w limit r with
    | (answer, r) => runDecoder limit (k answer) r

end Bodies

section Attempts

variable (w : World) (retry : Retry)

structure ModelGeneration where
  requestId : String
  response : ModelResponse
  usage : Option Usage
  attempts : List ModelAttempt

def clientRequestId (attempt : ℕ) : String := w.requestId ++ "-" ++ Nat.repr attempt

/-- The variables of an attempt, declared anew. -/
def Run.begin (r : Run) : Run :=
  { r with
    sent := true
    status := none
    providerRequestId := none
    usage := none
    wait := 0
    rejectedForRateLimit := false
    classifiedRejection := false
    body := none
    reader := .fresh
    bodies := r.bodies ++ r.body.toList }

def record (r : Run) (attempt : ℕ) (outcome : Outcome) (effect : AttemptEffect) : ModelAttempt where
  attempt := attempt
  clientRequestId := clientRequestId w attempt
  elapsedMs := elapsed w r
  status := r.status
  providerRequestId := r.providerRequestId
  usage := r.usage
  outcome := outcome
  effect := effect

/-- A response that is not ok: its classification decides whether the request may be sent again. -/
def reject (attempt : ℕ) (response : Response) (r : Run) : Thrown × Run :=
  match readText w 65536 r with
  | (.error error, r) => (error, r)
  | (.ok text, r) =>
    match check w retry r with
    | (.error error, r) => (error, r)
    | (.ok _, r) =>
      match w.classify response.status (w.parse text) with
      | .error error => (error, r)
      | .ok code =>
        let safe := decide (400 ≤ response.status ∧ response.status < 500)
        let classified := if code = .rateLimit ∧ response.status ≠ 429 then .http else code
        (.gateway { code := classified.code, effect := if safe = true then .noEffect else .unknown },
          { r with
            classifiedRejection := safe
            rejectedForRateLimit := decide (classified = .rateLimit ∧ response.status = 429)
            wait := max (retry.baseDelayMs * 2 ^ (attempt - 1)) response.retryAfterMs })

/-- A response that is ok: decoded, validated and recorded. -/
def accept (attempt : ℕ) (request : ModelRequest) (r : Run) : Except Thrown ModelGeneration × Run :=
  match runDecoder w 4194304 (w.decode attempt) r with
  | (decoded, r) =>
    match closeStream r with
    | (false, r) => (.error .other, r)
    | (true, r) =>
      match decoded with
      | .error error => (.error error, r)
      | .ok (response, usage) =>
        match check w retry r with
        | (.error error, r) => (.error error, r)
        | (.ok _, r) =>
          match response.filter fun response => validateResponse w response request with
          | none => (.error protocolError, r)
          | some response =>
            match usage.map reportedUsage with
            | some none => (.error protocolError, r)
            | reported =>
              let r := { r with usage := (reported.bind id).or r.usage }
              let attempts := r.attempts ++ [record w r attempt .success .completed]
              (.ok ⟨w.requestId, response, r.usage, attempts⟩,
                { r.look with attempts := attempts })

def answer (attempt : ℕ) (request : ModelRequest) (response : Response) (r : Run) :
    Except Thrown ModelGeneration × Run :=
  if response.ok = true then accept w retry attempt request r
  else
    match reject w retry attempt response r with
    | (error, r) => (.error error, r)

/-- The `try` of an attempt. -/
def send (attempt : ℕ) (request : ModelRequest) (r : Run) : Except Thrown ModelGeneration × Run :=
  match w.transport attempt with
  | .throws error => (.error error, { r.begin with calls := r.calls ++ [.throws error] })
  | .responds response =>
    let r : Run := { r.begin with
      calls := r.calls ++ [.responds response]
      status := some response.status
      providerRequestId := response.remoteId.filter w.acceptsId
      body := response.hold }
    -- The transport may return after the cancellation.
    if signalAborted w r = true ∨ (w.looks r.tick).external = true ∨
        retry.maxElapsedMs ≤ elapsed w r then
      match cancelBody r.look with
      | (false, r) => (.error .other, r)
      | (true, r) =>
        match check w retry r with
        | (.error error, r) => (.error error, r)
        | (.ok _, r) => answer w retry attempt request response r
    else answer w retry attempt request response r.look

/-- The fault that the `catch` of an attempt starts from. -/
def faultOf (error : Thrown) (r : Run) : ModelGatewayError :=
  match error with
  | .other => { code := .transport }
  | .gateway error =>
    if r.classifiedRejection = false ∧ error.effect = .noEffect then { code := error.code }
    else error

/-- A cancellation or a deadline found in the `catch` replaces the fault. -/
def caught (error : Thrown) (checked : Except Thrown Unit) (r : Run) : ModelGatewayError :=
  match checked with
  | .error (.gateway cancelled) => cancelled
  | _ => faultOf error r

/-- The `catch` of an attempt: the error that ends the request, or none when it may be sent again. -/
def settle (attempt : ℕ) (error : Thrown) (r : Run) : Option ModelGatewayError × Run :=
  let checked := check w retry r
  let fault := caught error checked.1 r
  let r : Run := { checked.2.look with
    attempts := r.attempts ++
      [record w checked.2 attempt (.failed fault.code) (effectOf fault.effect)] }
  if fault.code ≠ .rateLimit ∨ fault.effect ≠ .noEffect ∨ r.rejectedForRateLimit = false then
    (some ⟨fault.code, fault.effect, r.attempts, none, none⟩, r)
  else if retry.maxAttempts ≤ attempt then
    (some ⟨fault.code, fault.effect, r.attempts, some .attemptLimit, none⟩, r)
  else if retry.maxElapsedMs ≤ elapsed w r + r.wait then
    (some ⟨fault.code, fault.effect, r.attempts, some .timeLimit, none⟩, r.look)
  else (none, r.look)

/-- The `finally` of an attempt: a body that nothing reads is cancelled. -/
def cleanup (r : Run) : Bool × Run :=
  match r.body with
  | none => (true, r)
  | some held => if held.locked = true then (true, r) else cancelBody r

/-- One turn of the loop of `generate`, none when there is a next one. -/
def attemptOnce (attempt : ℕ) (request : ModelRequest) (r : Run) : Option (Except Thrown ModelGeneration) × Run :=
  match check w retry r with
  | (.error error, r) => (some (.error error), r)
  | (.ok _, r) =>
    match send w retry attempt request r with
    | (.ok generation, r) =>
      match cleanup r with
      | (true, r) => (some (.ok generation), r)
      | (false, r) => (some (.error .other), r)
    | (.error error, r) =>
      match settle w retry attempt error r with
      | (failed, r) =>
        match cleanup r with
        | (false, r) => (some (.error .other), r)
        | (true, r) =>
          match failed with
          | some error => (some (.error (.gateway error)), r)
          | none =>
            match check w retry r with
            | (.error error, r) => (some (.error error), r)
            | (.ok _, r) => (w.sleep attempt |>.map .error, r)

def attemptsFrom (request : ModelRequest) : ℕ → ℕ → Run → Except Thrown ModelGeneration × Run
  | 0, _, r => (.error (.gateway { code := .deadline, attempts := r.attempts }), r)
  | left + 1, attempt, r =>
    match attemptOnce w retry attempt request r with
    | (some result, r) => (result, r)
    | (none, r) => attemptsFrom request left (attempt + 1) r

/-- The outer `catch`. -/
def outerError (error : Thrown) (r : Run) : ModelGatewayError × Run :=
  match error with
  | .gateway error =>
    (⟨error.code, error.effect, if error.attempts = [] then r.attempts else error.attempts,
      error.stopReason, some w.requestId⟩, r)
  | .other =>
    match check w retry r with
    | (.error (.gateway fault), r) =>
      (⟨fault.code, fault.effect, r.attempts, none, some w.requestId⟩, r)
    | (_, r) => (⟨.transport, effectNow r, r.attempts, none, some w.requestId⟩, r)

def Run.initial : Run where
  tick := 1
  start := (w.looks 0).now
  aborted := (w.looks 0).external
  sent := false
  attempts := []
  status := none
  providerRequestId := none
  usage := none
  wait := 0
  rejectedForRateLimit := false
  classifiedRejection := false
  body := none
  reader := .fresh
  calls := []
  bodies := []

def generateOnce (request : ModelRequest) (r : Run) : Except Thrown ModelGeneration × Run :=
  match check w retry r with
  | (.error error, r) => (.error error, r)
  | (.ok _, r) =>
    if w.encodes request = false then
      (.error (.gateway { code := .request, effect := .noEffect }), r)
    else attemptsFrom w retry request retry.maxAttempts 1 r

def generate (input : ModelRequest) : Except ModelGatewayError ModelGeneration × Run :=
  match (requestSnapshot w input).filter fun request => w.functionTools || !usesTools request with
  | none =>
    (.error ⟨.request, .noEffect, [], none, some w.requestId⟩, Run.initial w)
  | some request =>
    match generateOnce w retry request (Run.initial w) with
    | (.ok generation, r) => (.ok generation, r)
    | (.error error, r) =>
      match outerError w retry error r with
      | (error, r) => (.error error, r)

end Attempts

end ModelGateway
