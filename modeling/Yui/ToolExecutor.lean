import Yui.SessionFormat

/-!
# The tool executor

`executeBatch` takes the calls of one model response through validation, a leased environment, the
caller's write-ahead record, permission and the tool itself, and settles each of them. The caller and its
signal are a `Host`; what the capabilities do with a call is a `CallWorld`. The phases of a call are kept
in a trace.
-/

open JsText Checked Session

namespace ToolExecutor

/-- The caller of the executor. `look` is the time between two looks at `signal.aborted`, with what the
capabilities do in it; the hooks also tell whether they resolved. -/
structure Host (σ : Type) where
  aborted : σ → Bool
  look : σ → σ
  beforeExecute : σ → ToolCall → σ × Bool
  afterExecute : σ → ToolCall → ToolOutcome → ToolSettlementEvidence → σ × Bool

inductive Validation where
  | valid
  | invalid (error : Option JsonData)
  | throws

inductive Acquisition where
  | throws | malformed
  | lease (valueThrows : Bool)

inductive Permission where
  | fails | allowed
  | denied (reason : String)

/-- What a capability returns, `none` for a value that is no JSON. -/
inductive Answer where
  | returns (raw : Option JsonData)
  | throws

structure CallWorld where
  validation : Validation
  acquisition : Acquisition
  permission : Permission
  execution : Answer
  releases : Bool

/-- The registered tools, and the checks of size and nesting. -/
structure Pack where
  tools : List String
  fits : JsonData → Bool
  messageFits : Message → Bool

inductive Stopped where
  | cancelled | capabilityFailed | cleanupFailed | unknownEffect
  deriving DecidableEq

structure Settlement where
  call : ToolCall
  outcome : ToolOutcome
  evidence : ToolSettlementEvidence

/-- What happens to a call. `acquired` is a lease with a release capability, `failed` a capability that
threw or returned a malformed value, `unrecorded` a hook that threw, `cancelled` a look that found the
signal aborted. -/
inductive Phase where
  | acquired | recorded | allowed | executed | released
  | failed | unrecorded | cancelled
  | settled (settlement : Settlement)

section Results

def failure (code message : String) (effect : ToolEffect := .noEffect) : ToolOutcome :=
  .error ⟨code, message, effect⟩

def isNonempty (text : String) : Bool := trim text != ""

/-- The checks of `outcome` on plain JSON. -/
def readOutcome (value : JsonData) (beforeStart : Bool) : Option ToolOutcome :=
  match value.member? "ok" with
  | some (.bool true) =>
    match beforeStart, value.member? "content" with
    | false, some (.str content) => some (.ok content)
    | _, _ => none
  | some (.bool false) => do
    let error ← value.member? "error"
    match error.member? "code", error.member? "message", error.member? "effect" with
    | some (.str code), some (.str message), some (.str effect) =>
      if isNonempty code = false then none
      else if effect = "none" then some (.error ⟨code, message, .noEffect⟩)
      else if beforeStart = false ∧ effect = "unknown" then some (.error ⟨code, message, .unknown⟩)
      else none
    | _, _, _ => none
  | _ => none

/-- The normal form of a result, none when it is malformed or oversized. -/
def readResult (pack : Pack) (call : ToolCall) (raw : Option JsonData) (beforeStart : Bool) : Option ToolOutcome :=
  raw.bind fun value =>
    if pack.fits value = true then
      (readOutcome value beforeStart).filter fun outcome =>
        pack.messageFits (.tool call.id call.name outcome)
    else none

/-- `outcome`. -/
def normalizeResult (pack : Pack) (call : ToolCall) (raw : Option JsonData) (beforeStart : Bool) : ToolOutcome :=
  (readResult pack call raw beforeStart).getD
    (failure "tool_protocol" "Invalid or oversized tool result"
      (if beforeStart = true then .noEffect else .unknown))

def status (started : Bool) (value : ToolOutcome) : SettlementStatus :=
  if started = false then .notExecuted
  else
    match value with
    | .ok _ => .succeeded
    | .error error =>
      if error.effect = .unknown then .unknown
      else if error.code = "cancelled" then .cancelled else .failed

theorem status_eq_expectedStatus (started : Bool) (value : ToolOutcome) :
    status started value = expectedStatus started value := by
  cases started <;> cases value <;> rfl

end Results

section Call

variable {σ : Type} (h : Host σ) (pack : Pack)

/-- One call on its way through the executor. -/
structure CallRun (σ : Type) where
  host : σ
  phases : List Phase
  stopped : Option Stopped
  started : Bool
  value : ToolOutcome
  cleanup : Cleanup

namespace CallRun

variable (r : CallRun σ)

def note (phase : Phase) : CallRun σ := { r with phases := r.phases ++ [phase] }

def look : CallRun σ := { r with host := h.look r.host }

def fail (value : ToolOutcome) (stopped : Stopped := .capabilityFailed) : CallRun σ :=
  { r.note .failed with stopped := some stopped, value := value }

/-- `cancelled()` when the signal is aborted. -/
def cancel : CallRun σ :=
  { r.note .cancelled with
    stopped := r.stopped.or (some .cancelled)
    value := failure "cancelled_before_start" "Cancelled before tool execution" }

end CallRun

def execute (call : ToolCall) (b : CallWorld) (r : CallRun σ) : CallRun σ :=
  { r.note .executed with
    started := true
    value := match b.execution with
      | .returns raw => normalizeResult pack call raw false
      | .throws => failure "tool_exception" "Tool threw; actual effects are unknown" .unknown }

/-- From the permission on. -/
def runPermitted (call : ToolCall) (b : CallWorld) (r : CallRun σ) : CallRun σ :=
  match b.permission with
  | .fails => r.fail
      (failure "permission_failed" "Permission capability failed or returned an invalid decision")
  | .denied reason =>
    if h.aborted r.host = true then (r.look h).cancel
    else { r.look h with value := failure "permission_denied" reason }
  | .allowed =>
    if h.aborted r.host = true then ((r.note .allowed).look h).cancel
    else execute pack call b ((r.note .allowed).look h)

/-- From the record of the intent on. -/
def runRecorded (call : ToolCall) (b : CallWorld) (r : CallRun σ) : CallRun σ :=
  let recorded := h.beforeExecute r.host call
  if recorded.2 = false then
    { r.note .unrecorded with
      host := recorded.1
      stopped := some .capabilityFailed
      value := failure "record_failed" "Required execution-intent recording failed" }
  else
    let r := { r.note .recorded with host := recorded.1 }
    if h.aborted r.host = true then (r.look h).cancel
    else runPermitted h pack call b (r.look h)

/-- The work under a lease, before it is released. -/
def runLease (call : ToolCall) (b : CallWorld) (valueThrows : Bool) (r : CallRun σ) : CallRun σ :=
  if valueThrows = true then r.fail (failure "environment_failed" "Environment value is unavailable")
  else if h.aborted r.host = true then (r.look h).cancel
  else runRecorded h pack call b (r.look h)

/-- The `finally` of a leased call. -/
def release (b : CallWorld) (r : CallRun σ) : CallRun σ :=
  if b.releases = true then { r.note .released with cleanup := ⟨.released, none⟩ }
  else { r.note .released with
    cleanup := ⟨.failed, some ("release_failed", "Resource release failed; inspect this invocation")⟩
    stopped := some .cleanupFailed }

def runAcquired (call : ToolCall) (b : CallWorld) (r : CallRun σ) : CallRun σ :=
  match b.acquisition with
  | .throws =>
    { r.fail (failure "environment_failed" "Environment acquisition failed") with
      cleanup := ⟨.acquireFailed, some ("acquire_failed",
        "Environment provider owns partial-resource cleanup; no lease was returned")⟩ }
  | .malformed =>
    { r.fail (failure "environment_protocol" "Environment returned an invalid resource lease")
        .cleanupFailed with
      cleanup := ⟨.failed, some ("invalid_lease",
        "No release capability; resource effects unknown")⟩ }
  | .lease valueThrows => release b (runLease h pack call b valueThrows (r.note .acquired))

def attempt (call : ToolCall) (b : CallWorld) (r : CallRun σ) : CallRun σ :=
  if h.aborted r.host = true then (r.look h).cancel
  else if call.name ∉ pack.tools then { r.look h with value := failure "unknown_tool" "Unknown tool" }
  else
    match b.validation with
    | .throws => (r.look h).fail (failure "tool_validation" "Tool validation capability failed")
    | .invalid error =>
      let value := normalizeResult pack call
        (error.map fun error => .obj [("ok", .bool false), ("error", error)]) true
      match value with
      | .error ⟨"tool_protocol", _, _⟩ => (r.look h).fail value
      | _ => { r.look h with value := value }
    | .valid =>
      let r := r.look h
      if h.aborted r.host = true then (r.look h).cancel else runAcquired h pack call b (r.look h)

/-- A call in its place in the batch, before it is settled. -/
def beginCall (call : ToolCall) (b : CallWorld) (host : σ) (stopped : Option Stopped) : CallRun σ :=
  let r : CallRun σ :=
    ⟨host, [], stopped, false, failure "not_started" "Tool was not started", ⟨.notAcquired, none⟩⟩
  if stopped = none then attempt h pack call b r
  else if stopped = some .cancelled then
    if h.aborted r.host = true then (r.look h).cancel else r.look h
  else r

end Call

section Batch

variable {σ : Type} (h : Host σ) (pack : Pack)

structure Batch (σ : Type) where
  host : σ
  stopped : Option Stopped
  recordingError : Bool
  results : List Settlement
  trace : List (ℕ × Phase)

/-- What the batch knows of `stopped` when the outcome of a call is there. -/
def stoppedAfter (value : ToolOutcome) (stopped : Option Stopped) (aborted : Bool) : Option Stopped :=
  let stopped := if value.isUnknown = true then some .unknownEffect else stopped
  if aborted = true then stopped.or (some .cancelled) else stopped

def settlementOf (call : ToolCall) (r : CallRun σ) : Settlement :=
  ⟨call, r.value, ⟨r.started, status r.started r.value, h.aborted r.host, r.cleanup⟩⟩

/-- The settlement given to the caller, unless it failed to take one before. -/
def record (call : ToolCall) (r : CallRun σ) (recordingError : Bool) : σ × Bool :=
  if recordingError = true then (h.look r.host, true)
  else h.afterExecute (h.look r.host) call r.value (settlementOf h call r).evidence

def lastPhases (call : ToolCall) (r : CallRun σ) (recorded : Bool) : List Phase :=
  (if h.aborted r.host = true then [Phase.cancelled] else []) ++
    Phase.settled (settlementOf h call r) :: if recorded = true then [] else [Phase.unrecorded]

/-- One turn of the loop over the calls. -/
def runCall (index : ℕ) (call : ToolCall) (b : CallWorld) (batch : Batch σ) : Batch σ :=
  let r := beginCall h pack call b batch.host batch.stopped
  let stopped := stoppedAfter r.value r.stopped (h.aborted r.host)
  let recorded := record h call r batch.recordingError
  ⟨recorded.1,
    if recorded.2 = true then stopped else stopped.or (some .capabilityFailed),
    batch.recordingError || !recorded.2,
    batch.results ++ [settlementOf h call r],
    batch.trace ++ (r.phases ++ lastPhases h call r recorded.2).map fun phase => (index, phase)⟩

def runCallsFrom (world : ℕ → CallWorld) : ℕ → List ToolCall → Batch σ → Batch σ
  | _, [], batch => batch
  | index, call :: calls, batch =>
    runCallsFrom world (index + 1) calls (runCall h pack index call (world index) batch)

/-- `executeBatch` after its admission of the calls. -/
def executeBatch (world : ℕ → CallWorld) (calls : List ToolCall) (host : σ) : Batch σ :=
  runCallsFrom h pack world 0 calls ⟨host, none, false, [], []⟩

end Batch

end ToolExecutor
