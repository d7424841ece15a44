import Yui.CommandProgram

/-!
# The handover of the Controller to a new release

`activateRelease` fences the old Controller, starts the new one as a candidate, switches the pointer to the active
release, commits the old Controller and waits until the candidate has promoted itself. A fence that an earlier
activation left is recovered first.
-/

open Program

namespace ReleaseHandover

structure ActiveReleasePointer where
  releaseId : String
  version : String
  buildId : String
  packageDigest : String
  activatedAt : String
  deriving DecidableEq

structure RuntimeReleaseManifest where
  version : String
  buildId : String
  packageDigest : String

variable (manifest : RuntimeReleaseManifest)

def RuntimeReleaseManifest.releaseId : String :=
  s!"{manifest.version}-{manifest.packageDigest}"

def RuntimeReleaseManifest.pointer (manifest : RuntimeReleaseManifest) (now : String) : ActiveReleasePointer :=
  ⟨manifest.releaseId, manifest.version, manifest.buildId, manifest.packageDigest, now⟩

structure HandoverOwner where
  pid : ℕ
  processStartIdentity : String
  buildId : String
  version : String
  deriving DecidableEq

inductive HandoverFencePhase where
  | fenced | candidateReady | committed | rolledBack
  deriving DecidableEq

structure HandoverFence where
  handoverId : String
  phase : HandoverFencePhase
  old : HandoverOwner
  candidate : Option HandoverOwner
  fromReleaseId : Option String
  toReleaseId : String
  createdAt : String
  updatedAt : String

inductive ReceiptOutcome where
  | completed | rolledBack

structure HandoverReceipt where
  handoverId : String
  outcome : ReceiptOutcome
  old : Option HandoverOwner
  candidate : Option HandoverOwner
  previousReleaseId : Option String
  activatedReleaseId : String
  startedAt : String
  completedAt : String

structure CandidateDiscovery where
  pid : ℕ
  processStartIdentity : String

def CandidateDiscovery.owner (discovery : CandidateDiscovery) : HandoverOwner :=
  ⟨discovery.pid, discovery.processStartIdentity, "candidate", "candidate"⟩

structure ControllerIdentity where
  pid : Option ℕ
  releaseDrifted : Bool
  processStartIdentity : Option String
  buildId : Option String
  version : Option String

inductive Promotion where
  | promoted | dualOwner | timeout

inductive FailureCode where
  | controllerNotRunning | connectionLost | startUnconfirmed (pid : ℕ) | other
  deriving DecidableEq

structure Failure where
  code : FailureCode
  message : String

def isControllerNotRunning (failure : Failure) : Bool := failure.code = .controllerNotRunning

def isConnectionError (failure : Failure) : Bool :=
  failure.code = .controllerNotRunning || failure.code = .connectionLost

/-- The ports and the files. The two waits poll files that the candidate writes, up to a deadline. -/
inductive Command where
  | readPointer | readFence | readDiscovery
  | runPreflight
  | acquireLock | releaseLock
  | newHandoverId | now
  | identity
  | beginHandover (handoverId : String) (fromReleaseId : Option String) (toReleaseId : String)
  | commitHandover (handoverId : String)
  | rollbackHandover (handoverId : String)
  | spawnCandidate (handoverId : String)
  | startController
  | waitForCandidateReady
  | waitForPromotion (handoverId : String)
  | isOwnerLive (owner : HandoverOwner)
  | killOwnedProcess (owner : HandoverOwner)
  | sleep
  | writePointer (pointer : ActiveReleasePointer) | removePointer
  | writeFence (fence : HandoverFence) | removeFence
  | removeDiscovery
  | writeReceipt (receipt : HandoverReceipt)

abbrev Answer : Command → Type
  | .readPointer => Option ActiveReleasePointer
  | .readFence => Option HandoverFence
  | .readDiscovery => Option CandidateDiscovery
  | .newHandoverId | .now => String
  | .identity => ControllerIdentity
  | .waitForCandidateReady => Bool
  | .waitForPromotion _ => Promotion
  | .isOwnerLive _ => Bool
  | _ => Unit

abbrev Activator (α : Type) := Program Command Answer Failure α

def ask (command : Command) : Activator (Answer command) := issue command

/-- `try { program } finally { cleanup }`. -/
def finish {α : Type} : Activator α → Activator Unit → Activator α
  | .done value, cleanup => cleanup.bind fun _ => .done value
  | .raise failure, cleanup => cleanup.bind fun _ => .raise failure
  | .call command next, cleanup => .call command fun answer => finish (next answer) cleanup

structure Abort where
  phase : String
  message : String
  action : String
  recoverable : Bool

inductive ReleaseActivateResult where
  | activated (releaseId handoverId : String) (oldPid : Option ℕ)
  | alreadyActive (releaseId : String)
  | aborted (abort : Abort)
  | dualOwner (releaseId handoverId message action : String)

section Old

def invalidIdentity : Failure :=
  ⟨.other, "Running Controller returned an invalid identity; handover cannot be fenced."⟩

def driftedRelease : Failure :=
  ⟨.other, "The old Controller's release has drifted from its installed manifest; refusing to hand over. Reinstall or restore the active release before activating."⟩

def missingGeneration : Failure :=
  ⟨.other, "Running Controller did not provide a process-generation identity; handover cannot be fenced."⟩

def ownerOf (identity : ControllerIdentity) : Except Failure HandoverOwner :=
  match identity.pid with
  | none => .error invalidIdentity
  | some pid =>
    if identity.releaseDrifted = true then .error driftedRelease
    else
      match identity.processStartIdentity with
      | none => .error missingGeneration
      | some startIdentity =>
        .ok ⟨pid, startIdentity, identity.buildId.getD "unknown", identity.version.getD "unknown"⟩

def readOldController : Activator (Option HandoverOwner) :=
  handle (do
    let identity ← ask .identity
    let owner ← ofExcept (ownerOf identity)
    return some owner)
  fun failure => if isControllerNotRunning failure = true then .done none else .raise failure

end Old

section Rollback

/-- The candidate is asked to exit, for a second. -/
def awaitExit (owner : HandoverOwner) : ℕ → Activator Unit
  | 0 => .done ()
  | attempts + 1 => do
    let live ← ask (.isOwnerLive owner)
    if live = false then return ()
    else
      ask .sleep
      awaitExit owner attempts

def stopCandidate (discovery : CandidateDiscovery) : Activator (Option String) :=
  handle (do
    let live ← ask (.isOwnerLive discovery.owner)
    if live = true then
      ask (.killOwnedProcess discovery.owner)
      awaitExit discovery.owner 20
    let still ← ask (.isOwnerLive discovery.owner)
    return (if still = true then some s!"candidate PID {discovery.pid} is still live" else none))
  fun failure => .done (some s!"candidate PID {discovery.pid}: {failure.message}")

/-- The RPC of a rollback; a failure is its message. -/
def callRollback (handoverId : String) : Activator (Option Failure) :=
  handle (do
    ask (.rollbackHandover handoverId)
    return none)
  fun failure => .done (some failure)

def recordRollback (fence : HandoverFence) : Activator (Option String) := do
  let updatedAt ← ask .now
  ask (.writeFence { fence with phase := .rolledBack, updatedAt := updatedAt })
  let completedAt ← ask .now
  ask (.writeReceipt ⟨fence.handoverId, .rolledBack, some fence.old, fence.candidate, fence.fromReleaseId,
    fence.toReleaseId, fence.createdAt, completedAt⟩)
  return none

def rollbackOld (fence : HandoverFence) : Activator (Option String) := do
  match ← callRollback fence.handoverId with
  | some failure => return some s!"old Controller rollback: {failure.message}"
  | none => recordRollback fence

/-- Nothing, or why the rollback is not confirmed. -/
def rollbackHandover (fence : HandoverFence) : Activator (Option String) := do
  match ← ask .readDiscovery with
  | none => rollbackOld fence
  | some discovery =>
    match ← stopCandidate discovery with
    | some problem => return some problem
    | none =>
      ask .removeDiscovery
      rollbackOld fence

end Rollback

section Recovery

/-- The commit RPC. The old Controller may be gone before it answers. -/
def commitOld (handoverId : String) : Activator Unit :=
  handle (ask (.commitHandover handoverId))
  fun failure => if isConnectionError failure = true then .done () else .raise failure

def switchPointer : Activator Unit := do
  let now ← ask .now
  ask (.writePointer (manifest.pointer now))

/-- Without a live candidate there is nothing to wait for. -/
def awaitPromotion (handoverId : String) (candidateLive : Bool) : Activator Promotion :=
  if candidateLive = true then ask (.waitForPromotion handoverId) else .done .timeout

def recoverCommitted (fence : HandoverFence) (candidateLive oldLive : Bool) :
    Activator (Option ReleaseActivateResult) := do
  match ← awaitPromotion fence.handoverId candidateLive with
  | .promoted => return some (.activated fence.toReleaseId fence.handoverId (some fence.old.pid))
  | .dualOwner => return some (.dualOwner fence.toReleaseId fence.handoverId
      "The old Controller did not exit after the handover commit; the candidate is read-only and no Controller is writing."
      "Stop the old Controller with a fenced `controller stop`; the candidate will then promote itself.")
  | .timeout =>
    if oldLive = false then
      ask .removeFence
      return none
    else return some (.dualOwner fence.toReleaseId fence.handoverId
      "The handover was committed but the candidate is gone and the old Controller is still live."
      "Stop the old Controller with a fenced `controller stop`, then retry the activation.")

def recoverUnready (fence : HandoverFence) : Activator (Option ReleaseActivateResult) := do
  match ← rollbackHandover fence with
  | some problem => return some (.aborted ⟨"recovery",
      s!"Interrupted handover rollback is unconfirmed: {problem}",
      "Preserve the handover fence and candidate discovery; inspect process owners before retrying.", false⟩)
  | none => return none

/-- The candidate of the interrupted handover is live: go on from its readiness. -/
def resume (fence : HandoverFence) :
    Activator (Option ReleaseActivateResult) := do
  switchPointer manifest
  commitOld fence.handoverId
  match ← ask (.waitForPromotion fence.handoverId) with
  | .promoted => return some (.activated manifest.releaseId fence.handoverId (some fence.old.pid))
  | _ => return none

def recoverLive (fence : HandoverFence) :
    Activator (Option ReleaseActivateResult) := do
  let ready ← ask .waitForCandidateReady
  if ready = true then resume manifest fence else recoverUnready fence

def dropCandidate : Activator (Option ReleaseActivateResult) := do
  let discovery ← ask .readDiscovery
  if discovery.isSome = true then ask .removeDiscovery
  ask .removeFence
  return none

def recoverDead (fence : HandoverFence) (oldLive : Bool) : Activator (Option ReleaseActivateResult) := do
  if oldLive = true then
    match ← callRollback fence.handoverId with
    | some failure => return some (.aborted ⟨"recovery",
        s!"Old Controller rollback is unconfirmed: {failure.message}",
        "Preserve the handover fence; inspect the old Controller before retrying.", false⟩)
    | none => dropCandidate
  else dropCandidate

/-- The discovery is read a second time before its owner is looked up. -/
def candidateIsLive : Activator Bool := do
  match ← ask .readDiscovery with
  | none => return false
  | some _ =>
    match ← ask .readDiscovery with
    | none => return false
    | some discovery => ask (.isOwnerLive discovery.owner)

def recoverFence (fence : HandoverFence) :
    Activator (Option ReleaseActivateResult) := do
  let candidateLive ← candidateIsLive
  let oldLive ← ask (.isOwnerLive fence.old)
  if fence.phase = .committed then recoverCommitted fence candidateLive oldLive
  else if candidateLive = true then recoverLive manifest fence
  else recoverDead fence oldLive

def recoverInterruptedHandover : Activator (Option ReleaseActivateResult) := do
  match ← ask .readFence with
  | none => return none
  | some fence =>
    if fence.phase = .rolledBack then
      ask .removeFence
      return none
    else recoverFence manifest fence

end Recovery

section Activate

def restorePointer : Option ActiveReleasePointer → Activator Unit
  | some pointer => ask (.writePointer pointer)
  | none => ask .removePointer

def startFailed (active : Option ActiveReleasePointer) (failure : Failure) : Activator ReleaseActivateResult :=
  match failure.code with
  | .startUnconfirmed pid => .done (.aborted ⟨"start-controller",
      s!"New Controller startup is unconfirmed (PID {pid}): {failure.message}",
      "Preserve the new release pointer and inspect the exact Controller process before retrying.", false⟩)
  | _ => do
    restorePointer active
    return .aborted ⟨"start-controller", s!"The new Controller did not start: {failure.message}",
      "The active release pointer was restored; the old release is unchanged.", true⟩

def recordStart (active : Option ActiveReleasePointer) (handoverId : String) :
    Activator ReleaseActivateResult := do
  let startedAt ← ask .now
  let completedAt ← ask .now
  ask (.writeReceipt ⟨handoverId, .completed, none, none, active.map (·.releaseId), manifest.releaseId, startedAt,
    completedAt⟩)
  return .activated manifest.releaseId handoverId none

/-- The start of the Controller; a failure is caught. -/
def startRelease : Activator (Option Failure) :=
  handle (do
    ask .startController
    return none)
  fun failure => .done (some failure)

def activateWithoutOldController (manifest : RuntimeReleaseManifest) (active : Option ActiveReleasePointer) :
    Activator ReleaseActivateResult := do
  let handoverId ← ask .newHandoverId
  switchPointer manifest
  match ← startRelease with
  | some failure => startFailed active failure
  | none => recordStart manifest active handoverId

def commitAndPromote (old : HandoverOwner) (handoverId : String) :
    Activator ReleaseActivateResult := do
  switchPointer manifest
  commitOld handoverId
  match ← ask (.waitForPromotion handoverId) with
  | .promoted => return .activated manifest.releaseId handoverId (some old.pid)
  | .dualOwner => return (.dualOwner manifest.releaseId handoverId
      "The old Controller did not exit after the handover commit; the candidate is read-only and no Controller is writing."
      s!"Stop the old Controller with a fenced `controller stop` (PID {old.pid}); the candidate will then promote itself.")
  | .timeout => return .aborted ⟨"promotion", "The candidate did not promote within the timeout.",
      "Inspect the handover fence and receipt; the old Controller may still be running or the candidate may have exited.",
      false⟩

def abandonCandidate (fence : HandoverFence) : Activator ReleaseActivateResult := do
  match ← rollbackHandover fence with
  | none => return .aborted ⟨"candidate-ready", "The new Controller candidate did not become ready in time.",
      "The old Controller has resumed accepting mutations; retry the activation.", true⟩
  | some problem => return .aborted ⟨"candidate-ready",
      s!"The new Controller candidate did not become ready; rollback is unconfirmed: {problem}",
      "Preserve the handover fence and candidate discovery; inspect process owners before retrying.", false⟩

def startCandidate (old : HandoverOwner) (fence : HandoverFence) :
    Activator ReleaseActivateResult := do
  ask (.spawnCandidate fence.handoverId)
  let ready ← ask .waitForCandidateReady
  if ready = true then commitAndPromote manifest old fence.handoverId else abandonCandidate fence

def preflightFailed (handoverId : String) (failure : Failure) : Activator ReleaseActivateResult := do
  match ← callRollback handoverId with
  | some rollbackFailure => return .aborted ⟨"preflight",
      s!"Storage preflight failed: {failure.message}; rollback failed: {rollbackFailure.message}",
      "No candidate was started and the release pointer is unchanged. Preserve the fence and inspect the old Controller.",
      true⟩
  | none => return .aborted ⟨"preflight", s!"Fenced storage preflight failed: {failure.message}",
      "The old Controller is serving again; the active release and Home are unchanged.", true⟩

/-- The preflight; a failure is caught. -/
def preflight : Activator (Option Failure) :=
  handle (do
    ask .runPreflight
    return none)
  fun failure => .done (some failure)

def begunHandover (old : HandoverOwner) (handoverId : String) :
    Activator ReleaseActivateResult := do
  let fence ← ask .readFence
  match fence.filter fun fence => fence.handoverId = handoverId with
  | none => return .aborted ⟨"begin-handover", "Old Controller did not record the handover fence.",
      "The old Controller is still serving; inspect it and retry.", true⟩
  | some fence =>
    match ← preflight with
    | some failure => preflightFailed handoverId failure
    | none => startCandidate manifest old fence

def callBegin (active : Option ActiveReleasePointer) (handoverId : String) :
    Activator (Option Failure) :=
  handle (do
    ask (.beginHandover handoverId (active.map (·.releaseId)) manifest.releaseId)
    return none)
  fun failure => .done (some failure)

def activateWithOldController (active : Option ActiveReleasePointer)
    (old : HandoverOwner) : Activator ReleaseActivateResult := do
  let handoverId ← ask .newHandoverId
  match ← callBegin manifest active handoverId with
  | some failure => return .aborted ⟨"begin-handover", s!"Old Controller rejected the handover: {failure.message}",
      "The old Controller is still serving; inspect it and retry.", true⟩
  | none => begunHandover manifest old handoverId

def activateFresh (active : Option ActiveReleasePointer) :
    Activator ReleaseActivateResult := do
  match ← readOldController with
  | none => activateWithoutOldController manifest active
  | some old => activateWithOldController manifest active old

def activateLocked (active : Option ActiveReleasePointer) :
    Activator ReleaseActivateResult := do
  match ← recoverInterruptedHandover manifest with
  | some result => return result
  | none => activateFresh manifest active

def lockAndActivate (active : Option ActiveReleasePointer) :
    Activator ReleaseActivateResult := do
  match ← preflight with
  | some failure => return .aborted ⟨"preflight", s!"Storage compatibility preflight failed: {failure.message}",
      "The current Controller and active release pointer are unchanged.", true⟩
  | none =>
    ask .acquireLock
    finish (activateLocked manifest active) (ask .releaseLock)

def activateRelease (manifest : RuntimeReleaseManifest) : Activator ReleaseActivateResult := do
  let active ← ask .readPointer
  if (active.any fun pointer => pointer.releaseId = manifest.releaseId) = true then
    let fence ← ask .readFence
    if fence = none then return .alreadyActive manifest.releaseId
    else lockAndActivate manifest active
  else lockAndActivate manifest active

end Activate

end ReleaseHandover
