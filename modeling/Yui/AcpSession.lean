import Mathlib.Data.Nat.Basic
import Yui.EventJournal

/-!
# Turns of an ACP Session

A Turn is one `session/prompt` request. `submitTurn` reserves the only slot before it writes the request, the
response with the id of the request frees it and is the terminal of the Turn, and the text that the Agent
streams in between is the answer.
-/

open EventJournal

namespace AcpSession

inductive StopReason where
  | endTurn | maxTokens | maxTurnRequests | refusal | cancelled

inductive TerminalStatus where
  | completed | failed | cancelled
  deriving DecidableEq

/-- The body of a response to a prompt: an error, or a result with the stop reason that it names. -/
inductive PromptResponse where
  | error (message : Option String) (raw : String)
  | result (reason : Option StopReason)

structure Terminal where
  attemptId : String
  status : TerminalStatus
  output : Option String
  error : Option String
  rawError : Option String
  deriving DecidableEq

def acpTerminalStatus : StopReason → TerminalStatus
  | .endTurn => .completed
  | .cancelled => .cancelled
  | _ => .failed

def acpStopReasonDetail : StopReason → String
  | .maxTokens => "ACP Agent stopped at its token limit (stopReason=max_tokens)."
  | .maxTurnRequests => "ACP Agent stopped at its per-Turn model request limit (stopReason=max_turn_requests)."
  | .refusal => "ACP Agent refused to continue the Turn (stopReason=refusal)."
  | .cancelled => "ACP Agent reported the Turn as cancelled (stopReason=cancelled)."
  | .endTurn => "ACP Agent completed the Turn (stopReason=end_turn)."

/-- The terminal of a response. Only a recognized stop reason carries the answer. -/
def terminalOf (attemptId : String) (answer : Option String) : PromptResponse → Terminal
  | .error message raw => ⟨attemptId, .failed, none, some (message.getD "ACP prompt failed."), some raw⟩
  | .result none =>
    ⟨attemptId, .failed, none, some "ACP prompt response carried no recognized stopReason.", none⟩
  | .result (some reason) =>
    ⟨attemptId, acpTerminalStatus reason, answer,
      if acpTerminalStatus reason = .completed then none else some (acpStopReasonDetail reason), none⟩

def maxRunResultOutputBytes : ℕ := 512 * 1024

inductive Entry where
  | reserved (requestId : ℕ) (attemptId : String)
  | refused (attemptId : String)
  /-- An `agent_message_chunk` of this Session. -/
  | chunk (text : String)
  | answered (requestId : ℕ) (terminal : Terminal)
  /-- The call of `submitTurn` returned a receipt, or threw that the delivery is unknown. -/
  | ended (requestId : ℕ) (accepted : Bool)
  deriving DecidableEq

structure Session where
  nextRequestId : ℕ := 1
  activeAttemptId : Option String := none
  promptRequestId : Option ℕ := none
  /-- The request whose submission the callback settles. -/
  promptSettle : Option ℕ := none
  answer : List String := []
  answerBytes : ℕ := 0
  answerOverflowed : Bool := false
  pending : List ℕ := []
  closed : Bool := false
  channelClosed : Bool := false
  /-- The prompts whose pipe write is not complete. -/
  writing : List ℕ := []
  /-- The settled submissions that still wait for their write. -/
  resolved : List (ℕ × Bool) := []
  journal : List Entry := []

inductive Event where
  | submitTurn (attemptId : String)
  | writeDone (requestId : ℕ) (succeeded : Bool)
  /-- A request other than a prompt, and the failure of its write. -/
  | request
  | requestFailed (requestId : ℕ)
  | response (id : Option ℕ) (body : PromptResponse)
  | agentMessage (text : String)
  /-- Another notification, or a request of the Agent. -/
  | otherMessage
  /-- The reply to a request of the Agent cannot be written. -/
  | replyFailed
  | transportClosed

namespace Session

variable (s : Session)

def log (entry : Entry) : Session := { s with journal := s.journal ++ [entry] }

def resetAnswer : Session := { s with answer := [], answerBytes := 0, answerOverflowed := false }

/-- The submission goes on once its write is complete. -/
def settle (requestId : ℕ) (accepted : Bool) : Session :=
  if requestId ∈ s.writing then { s with resolved := (requestId, accepted) :: s.resolved }
  else s.log (.ended requestId accepted)

def fail : Session :=
  let s := { s with closed := true, pending := [] }
  match s.promptSettle with
  | none => s
  | some requestId => ({ s with promptSettle := none }.resetAnswer).settle requestId false

def takeAnswer : Option String :=
  if s.answerOverflowed = true ∨ s.answer = [] then none
  else if String.join s.answer = "" then none
  else some (String.join s.answer)

/-- `#settlePrompt`. -/
def settlePrompt (requestId : ℕ) (body : PromptResponse) : Session :=
  match s.activeAttemptId with
  | none => s
  | some attemptId =>
    let released := { s with activeAttemptId := none, promptRequestId := none, promptSettle := none }.resetAnswer
    let settled := match s.promptSettle with
      | none => released
      | some owner => released.settle owner true
    settled.log (.answered requestId (terminalOf attemptId s.takeAnswer body))

/-- The failed write of a prompt leaves the slot occupied. -/
def writeFailed (requestId : ℕ) : Session :=
  { s with promptSettle := none, writing := s.writing.erase requestId }.log (.ended requestId false)

def submitTurn (attemptId : String) : Session :=
  if s.activeAttemptId.isSome = true then s.log (.refused attemptId)
  else
    let reserved := ({ s with
      nextRequestId := s.nextRequestId + 1
      activeAttemptId := some attemptId
      promptRequestId := some s.nextRequestId
      promptSettle := some s.nextRequestId
      writing := s.nextRequestId :: s.writing }.resetAnswer).log (.reserved s.nextRequestId attemptId)
    -- A closed channel refuses the write at once.
    if s.channelClosed = true then reserved.writeFailed s.nextRequestId else reserved

def writeDone (requestId : ℕ) (succeeded : Bool) : Session :=
  if requestId ∉ s.writing then s
  else if succeeded = false then s.writeFailed requestId
  else
    let written := { s with writing := s.writing.erase requestId }
    match s.resolved.lookup requestId with
    | none => written
    | some accepted => written.log (.ended requestId accepted)

def response (id : Option ℕ) (body : PromptResponse) : Session :=
  match id with
  | none => s
  | some id =>
    if s.promptRequestId = some id then s.settlePrompt id body
    else { s with pending := s.pending.erase id }

/-- The text of the Turn in flight, or nothing once it is past the limit. -/
def adopt (text : String) : Session :=
  if s.activeAttemptId = none ∨ s.answerOverflowed = true then s
  else if maxRunResultOutputBytes < s.answerBytes + text.utf8ByteSize then
    { s with answerOverflowed := true, answer := [], answerBytes := 0 }
  else { s with answer := s.answer ++ [text], answerBytes := s.answerBytes + text.utf8ByteSize }

def request : Session :=
  if s.closed = true then s
  else { s with nextRequestId := s.nextRequestId + 1, pending := s.nextRequestId :: s.pending }

/-- A closed channel delivers no message. -/
def step : Event → Session
  | .submitTurn attemptId => s.submitTurn attemptId
  | .writeDone requestId succeeded => s.writeDone requestId succeeded
  | .request => s.request
  | .requestFailed requestId => { s with pending := s.pending.erase requestId }
  | .response id body => if s.channelClosed = true then s else s.response id body
  | .agentMessage text => if s.channelClosed = true then s else (s.adopt text).log (.chunk text)
  | .otherMessage => s
  | .replyFailed => s.fail
  | .transportClosed => if s.channelClosed = true then s else { s with channelClosed := true }.fail

def run (events : List Event) : Session := events.foldl step {}

end Session

end AcpSession
