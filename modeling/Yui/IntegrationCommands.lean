import Yui.CommandProgram
import Yui.IntegrationAttempt

/-!
# The effects of the Integration service

What a call of the service reads and does: the stored attempts, the target ref, the worktree of the
candidate with the Git operation that may be under way in it, and the Jobs and artifacts that prove a
candidate. The checks of records that other modules own are one command each.
-/

open Program (issue)

namespace GitIntegration

/-- The Git operation under way in a worktree, or the way in which a source is applied. -/
inductive OperationKind where
  | rebase | ff | merge | cherryPick
  deriving DecidableEq

/-- The commands that may move the branch of the candidate. -/
inductive GitCommand where
  | rebaseContinue
  | commitNoEdit
  | cherryPickSkip
  | cherryPickContinue
  | rebaseOnto (commit base : String)
  | mergeNoFf (commit : String)
  | mergeFfOnly (commit : String)
  | cherryPick (commit : String)

structure VerificationStep where
  argv : List String
  shell : Bool
  cwd : Option String

/-- The resolved verification plan of a Project. A plan has an L2 step. -/
structure Gate where
  planDigest : String
  toolchainDigest : String
  bootstrap : List VerificationStep
  l2 : List VerificationStep
  hasStep : l2 ≠ []

structure StepResult where
  name : String
  head : String
  exitCode : Option ℤ
  signal : Option String
  timedOut : Bool

/-- `!timedOut && signal === null && exitCode === 0`. -/
def StepResult.passed (result : StepResult) : Bool :=
  !result.timedOut && result.signal.isNone && decide (result.exitCode = some 0)

inductive CheckJobStatus where
  | queued | running | succeeded | failed | cancelled | timedOut | unknown
  deriving DecidableEq

def CheckJobStatus.active : CheckJobStatus → Bool
  | .queued | .running => true
  | _ => false

def CheckJobStatus.text : CheckJobStatus → String
  | .queued => "queued"
  | .running => "running"
  | .succeeded => "succeeded"
  | .failed => "failed"
  | .cancelled => "cancelled"
  | .timedOut => "timed-out"
  | .unknown => "unknown-needs-attention"

structure JobResult where
  outcome : CheckJobStatus
  steps : List StepResult
  unknownReason : Option String

/-- The `DurableJob` of a check. A stored Job has a step, and its result has its status. -/
structure CheckJob where
  id : String
  taskId : String
  spec : CheckSpec
  delegation : Bool
  status : CheckJobStatus
  result : Option JobResult
  hasStep : spec.steps ≠ []
  agrees : ∀ outcome, result.map JobResult.outcome = some outcome → outcome = status

/-- The texts of commands and paths are those of the platform. The reference of an artifact is made of the
key of the gate at the commit. -/
class CheckHost where
  shellQuote : List String → String
  resolve : String → String → String
  artifactReference : String → String

/-- The root and the environment of the checks of an attempt. -/
structure Runtime where
  workspace : String
  environment : List (String × String)

/-- The record of a gate run. Its key is the candidate under the plan of the gate. -/
structure GateArtifact where
  steps : List CheckResult
  complete : Bool
  succeeded : Bool
  commit : String
  reference : String

structure Worktree where
  path : String
  branch : String

inductive Command where
  /-- `requireIntegration` before the lock is held. -/
  | preview (id : String)
  /-- `requireIntegration` under the lock of `integrate`. -/
  | load (id : String)
  /-- `requireIntegration` under the lock of `abort`. -/
  | inspect (id : String)
  /-- `saveIntegrationAttempt`, alone or as the write of a transaction that may refuse. -/
  | save (attempt : IntegrationAttempt)
  /-- A transaction that writes only over the record that it expects. -/
  | replace (expected next : IntegrationAttempt)
  /-- The maintenance lock of the Project, taken by `integrate` for the attempt or by `abort`. -/
  | acquire (integrating : Option String)
  | release
  /-- The lookups that refuse a Task, Project or workspace. -/
  | lookup (id : String)
  | ensureWorktree (id : String)
  | registerWorkspace (id : String)
  | resolveRef (target : Target)
  | updateRef (id : String) (target : Target) (candidate expected : String)
  /-- `assertTargetCheckout`: whether the target is checked out. -/
  | targetCheckout (target : Target)
  | targetClean (target : Target)
  | checkoutHead (target : Target)
  | readTree (target : Target) (commit : String)
  | worktreeClean
  | head
  | symbolicRef
  | activeOperation
  /-- The metadata of the operation that `assertOperation` compares: source commit, HEAD or the old head, branch. -/
  | operationFacts
  | isAncestor (ancestor commit : String)
  | revList (first last : String)
  | fetchUpstream (branch : String)
  | conflicts
  | unstaged
  | untracked
  | nothingStaged
  /-- The newest reflog entry of the branch: the old head, the new head and the text of the action. -/
  | lastReflog (branch : String)
  | git (command : GitCommand) (action : String)
  | newAction
  | settlementWorkspace (id : String)
  | gate
  | hasJobPort
  | runtime (id : String)
  | prepareRuntime
  | releaseRuntime
  | runChecks (commands : List String)
  | unsettledElsewhere (id : String)
  | beginGate (head : String)
  | findArtifact (head : String)
  | touchArtifact (artifact : GateArtifact)
  | runGateSteps (steps : List CheckStep)
  | publishArtifact (artifact : GateArtifact)
  | startCheckJob (spec : CheckSpec)
  | portJob (jobId : String)
  | storedJob (jobId : String)
  | listJobs (id : String)
  | cancelJob (jobId : String)

abbrev Command.Answer : Command → Type
  | .preview _ | .load _ | .inspect _ => IntegrationAttempt
  | .ensureWorktree _ | .settlementWorkspace _ => Worktree
  | .resolveRef _ | .checkoutHead _ | .head | .symbolicRef | .fetchUpstream _ | .newAction => String
  | .targetCheckout _ | .isAncestor _ _ | .unstaged | .untracked | .nothingStaged | .hasJobPort
  | .worktreeClean => Bool
  | .activeOperation => Option OperationKind
  | .operationFacts => String × String × String
  | .revList _ _ | .conflicts => List String
  | .lastReflog _ => String × String × String
  | .gate => Option Gate
  | .runtime _ => Runtime
  | .runChecks _ => List CheckResult
  | .findArtifact _ => Option GateArtifact
  | .runGateSteps _ => List StepResult
  | .startCheckJob _ | .portJob _ => CheckJob
  | .storedJob _ => Option CheckJob
  | .listJobs _ => List CheckJob
  | _ => Unit

abbrev Call (α : Type) := Program Command Command.Answer String α

/-- `if (!condition) throw new Error(message)`. -/
def require (condition : Bool) (message : String) : Call Unit :=
  if condition = true then pure () else .raise message

def provided (condition : Prop) [Decidable condition] (p : Call Unit) : Call Unit :=
  if condition then p else pure ()

/-- `updateIntegrationAttempt` and `saveIntegrationAttempt`. -/
def saveUpdate (attempt : IntegrationAttempt) (patch : IntegrationAttempt → IntegrationAttempt) :
    Call IntegrationAttempt := do
  let next ← Program.ofExcept (updateIntegrationAttempt attempt patch)
  let _ ← issue (.save next)
  pure next

/-- `try { p } finally { cleanup }`. A failure of the cleanup is the failure of the whole. -/
def finallyDo {α : Type} (p : Call α) (cleanup : Call Unit) : Call α := do
  let value ← p.handle fun error => do
    cleanup
    .raise error
  cleanup
  pure value

def fullBranch (branch : String) : String :=
  if "refs/".toList.isPrefixOf branch.toList = true then branch else "refs/heads/" ++ branch

section Asserts

def assertClean : Call Unit := do
  let active ← issue .activeOperation
  let clean ← issue .worktreeClean
  require (decide (active = none) && clean)
    "Integration candidate must be clean, with no unfinished Git operation."

/-- `assertIntegrationCandidate`. -/
def assertIntegrationCandidate (expectedHead expectedBranch : Option String) : Call Unit := do
  assertClean
  let head ← issue .head
  require (decide (expectedHead = none ∨ expectedHead = some head)) "Integration candidate moved."
  match expectedBranch with
  | none => pure ()
  | some branch => do
    let current ← issue .symbolicRef
    require (decide (current = fullBranch branch)) "Integration candidate changed its owned branch."

def assertTargetReadyForChecks (target : Target) (expected : String) : Call Unit := do
  let current ← issue (.resolveRef target)
  require (decide (current = expected)) "Target moved."
  let _ ← issue (.targetCheckout target)
  issue (Command.targetClean target)

/-- `advanceTargetRef`. A checked-out target is brought to the candidate after its ref. -/
def advanceTargetRef (id : String) (target : Target) (candidate expected : String) : Call Unit := do
  let checkedOut ← issue (.targetCheckout target)
  if checkedOut = false then issue (Command.updateRef id target candidate expected)
  else do
    let _ ← issue (.targetClean target)
    let current ← issue (.checkoutHead target)
    require (decide (current = expected)) "Target moved."
    let _ ← issue (.targetCheckout target)
    let _ ← issue (.updateRef id target candidate expected)
    let _ ← issue (.targetCheckout target)
    let _ ← issue (.readTree target candidate)
    let advanced ← issue (.resolveRef target)
    require (decide (advanced = candidate)) "Integration target did not advance to candidate."
    issue (Command.targetClean target)

end Asserts

end GitIntegration
