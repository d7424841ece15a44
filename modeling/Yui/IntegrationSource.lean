import Yui.IntegrationCommands

/-!
# Applying the source of an Integration

`applyIntegrationSource` as a program. Each command that may move the branch is preceded by a save of its
action, and a later call goes on from the stored cursor, the operation under way and the newest reflog
entry.
-/

open Program (issue)

namespace GitIntegration

def OperationKind.text : OperationKind → String
  | .rebase => "rebase"
  | .ff => "ff"
  | .merge => "merge"
  | .cherryPick => "cherry-pick"

def Source.kind : Source → OperationKind
  | .upstream _ _ _ => .rebase
  | .workItem _ _ _ .merge => .merge
  | .workItem _ _ _ .ff => .ff
  | .workItem _ _ _ _ => .cherryPick

/-- What the steps of one application share. -/
structure Application where
  source : Source
  branch : String
  worktree : Worktree
  digest : SourceIdentity
  continueOwnedOperation : Bool

structure Cursor where
  attempt : IntegrationAttempt
  progress : SourceProgress

/-- How a step leaves the application. -/
inductive StepEnd where
  | paused (attempt : IntegrationAttempt)
  | moved (cursor : Cursor)

/-- A read whose failure counts as false. -/
def succeeds (p : Call Bool) : Call Bool := p.handle fun _ => pure false

def saveProgress (attempt : IntegrationAttempt) (progress : SourceProgress) : Call Cursor := do
  let next ← saveUpdate attempt fun attempt => { attempt with sourceProgress := some progress }
  pure ⟨next, progress⟩

def pause (attempt : IntegrationAttempt) (affectedPaths : List String) : Call IntegrationAttempt := do
  let pending ← Program.ofExcept (recordIntegrationConflict attempt
    ⟨affectedPaths, s!"{attempt.source.kind.text} conflicts in {attempt.targetRef}; resolve files and continue."⟩)
  let _ ← issue (.save pending)
  pure pending

variable (app : Application)

/-- `assertOperation`. -/
def assertOperation (commit before : String) : Call Unit := do
  let active ← issue .activeOperation
  require (decide (active = some app.source.kind)) "Integration expected another Git operation."
  let facts ← issue .operationFacts
  require (decide (facts = (commit, before, app.branch)))
    "Active Git operation does not belong to this Integration step."

def isReceipt (action message : String) : Bool :=
  decide (message = action) || (action ++ ":").toList.isPrefixOf message.toList ||
    (action ++ " (finish):").toList.isPrefixOf message.toList

/-- `hasExactRefReceipt`. -/
def hasExactRefReceipt (branch before action : String) : Call Bool := do
  let current ← issue .symbolicRef
  if current ≠ branch then pure false
  else do
    let head ← issue .head
    let entry : String × String × String ← issue (Command.lastReflog branch)
    pure (decide (entry.1 = before) && decide (entry.2.1 = head) && isReceipt action entry.2.2)

/-- The resolution of a cherry-pick was empty and nothing has moved since. -/
def provenEmpty (progress : SourceProgress) : Call Bool := do
  if app.source.kind ≠ .cherryPick ∨ progress.emptyResolution = false then pure false
  else do
    let head ← issue .head
    if head ≠ progress.head then pure false
    else do
      let current ← issue .symbolicRef
      pure (decide (current = app.branch))

def assertUpstream (source : Source) (commit : String) : Call Unit := do
  match source with
  | .upstream branch _ _ => do
    let fetched : String ← issue (Command.fetchUpstream branch)
    require (decide (fetched = commit)) "Upstream moved."
  | .workItem _ _ _ _ => pure ()

/-- The cursor of a new step is stored before its command. -/
def openStep (cursor : Cursor) (commit : String) : Call Cursor := do
  assertUpstream app.source commit
  let action ← issue .newAction
  saveProgress cursor.attempt { cursor.progress with activeAction := some action }

/-- The catch block around the command of a step. -/
def recoverCommand (cursor : Cursor) (commit action error : String) :
    Call StepEnd := do
  let affected ← issue .conflicts
  if affected ≠ [] then do
    let pending ← pause cursor.attempt affected
    pure (.paused pending)
  else if app.source.kind ≠ .cherryPick then .raise error
  else do
    let active ← issue .activeOperation
    if active ≠ some .cherryPick then .raise error
    else do
      let empty ← succeeds (issue Command.nothingStaged)
      if empty = false then .raise error
      else do
        assertOperation app commit cursor.progress.head
        let next ← saveProgress cursor.attempt { cursor.progress with emptyResolution := true }
        let _ ← issue (.git .cherryPickSkip action)
        pure (.moved next)

/-- The command that continues the operation under way, or starts the step. -/
def selectCommand (cursor : Cursor) (commit : String) (operation : Bool) :
    Call (Cursor × GitCommand) := do
  match operation, app.source.kind, app.source with
  | true, .rebase, _ => pure (cursor, .rebaseContinue)
  | true, .merge, _ => pure (cursor, .commitNoEdit)
  | true, _, _ => do
    let empty ← succeeds (issue Command.nothingStaged)
    if empty = true then do
      let next ← saveProgress cursor.attempt { cursor.progress with emptyResolution := true }
      pure (next, .cherryPickSkip)
    else pure (cursor, .cherryPickContinue)
  | false, _, .upstream _ _ base => pure (cursor, .rebaseOnto commit base)
  | false, .merge, _ => pure (cursor, .mergeNoFf commit)
  | false, .ff, _ => pure (cursor, .mergeFfOnly commit)
  | false, _, _ => do
    let fastForward ← succeeds (issue (Command.isAncestor cursor.progress.head commit))
    pure (cursor, if fastForward = true then .mergeFfOnly commit else .cherryPick commit)

/-- The `try` of a step: the handler of a failure takes the cursor as it stands by then. -/
def tryCommand (cursor : Cursor) (commit action : String) (operation : Bool) :
    Call StepEnd := do
  let selected ← ((do
      let selected ← selectCommand app cursor commit operation
      pure (.inl selected)) : Call ((Cursor × GitCommand) ⊕ StepEnd)).handle fun error => do
    let recovered ← recoverCommand app cursor commit action error
    pure (.inr recovered)
  match selected with
  | .inr recovered => pure recovered
  | .inl (cursor, command) =>
    ((do
      let _ ← issue (.git command action)
      pure (.moved cursor)) : Call StepEnd).handle fun error =>
        recoverCommand app cursor commit action error

/-- An operation that Git left behind may be continued on an explicit request. -/
def assertOwnedResolution : Call Unit := do
  require app.continueOwnedOperation
    "Git operation is present but no paused conflict is recorded; inspect its execution before continuing."
  let unchanged ← succeeds (issue Command.unstaged)
  let empty ← succeeds (issue Command.nothingStaged)
  let untracked ← issue .untracked
  require (unchanged && !empty && !untracked)
    "Owned Git recovery requires a fully staged resolution with no unstaged or untracked files."

/-- The command of a step that no earlier call has completed. -/
def runStep (cursor : Cursor) (commit action : String) (fresh : Bool)
    (operation : Option OperationKind) : Call StepEnd := do
  provided (operation ≠ none) (assertOperation app commit cursor.progress.head)
  let unresolved : List String ← issue Command.conflicts
  if unresolved ≠ [] then do
    let pending ← pause cursor.attempt unresolved
    pure (.paused pending)
  else do
    provided (fresh = false ∧ cursor.attempt.status ≠ .conflicted) (assertOwnedResolution app)
    tryCommand app cursor commit action (decide (operation ≠ none))

/-- An earlier call has run the command of the step: its effect is proved, or the step stays open. -/
def proveStep (cursor : Cursor) (action : String) : Call StepEnd := do
  assertClean
  let empty ← provenEmpty app cursor.progress
  if empty = true then pure (.moved cursor)
  else do
    let receipt ← hasExactRefReceipt app.branch cursor.progress.head action
    require receipt "Git application outcome is unproven: exact attempt reflog receipt is missing; inspect or abort, never blindly replay."
    pure (.moved cursor)

def settleStep (cursor : Cursor) (commit action : String) (fresh : Bool) :
    Call StepEnd := do
  let operation : Option OperationKind ← issue Command.activeOperation
  if fresh = false ∧ operation = none then proveStep app cursor action
  else runStep app cursor commit action fresh operation

/-- The cursor after a step: its number and the head of the branch. -/
def closeStep (cursor : Cursor) (index : ℕ) : Call Cursor := do
  assertClean
  let head ← issue .head
  let progress : SourceProgress := ⟨cursor.progress.workspace, app.branch, app.digest, index + 1, head, none, false⟩
  let next ← saveUpdate cursor.attempt fun attempt =>
    { attempt with status := .running, conflict := none, sourceProgress := some progress }
  pure ⟨next, progress⟩

/-- One round of the loop. -/
def applyStep (cursor : Cursor) (index : ℕ) (commit : String) : Call StepEnd := do
  match cursor.progress.activeAction with
  | some action => do
    let ended ← settleStep app cursor commit action false
    match ended with
    | .paused attempt => pure (.paused attempt)
    | .moved cursor => do
      let next ← closeStep app cursor index
      pure (.moved next)
  | none => do
    assertIntegrationCandidate (some cursor.progress.head) none
    let represented ← succeeds (issue (Command.isAncestor commit cursor.progress.head))
    if represented = true then do
      let next ← saveProgress cursor.attempt { cursor.progress with completedSteps := index + 1 }
      pure (.moved next)
    else do
      let opened ← openStep app cursor commit
      let ended ← settleStep app opened commit (opened.progress.activeAction.getD "") true
      match ended with
      | .paused attempt => pure (.paused attempt)
      | .moved cursor => do
        let next ← closeStep app cursor index
        pure (.moved next)

/-- The loop over the commits that are left. -/
def applySteps (app : Application) : ℕ → List String → Cursor → Call StepEnd
  | _, [], cursor => pure (.moved cursor)
  | index, commit :: commits, cursor => do
    let ended ← applyStep app cursor index commit
    match ended with
    | .paused attempt => pure (.paused attempt)
    | .moved cursor => applySteps app (index + 1) commits cursor

/-- The manual strategy: a decision of the Task, and then the candidate as it stands. -/
def applyManual (attempt : IntegrationAttempt) : Call IntegrationAttempt := do
  match attempt.candidateCommit with
  | some candidate => do
    assertIntegrationCandidate (some candidate) none
    pure attempt
  | none =>
    if attempt.manuallyResolved = false then do
      let pending ← Program.ofExcept (requireResolutionDecision attempt
        ⟨[], "Manual WorkItem integration; apply the result and record its rationale."⟩)
      let _ ← issue (.save pending)
      pure pending
    else do
      assertClean
      let head ← issue .head
      saveUpdate attempt fun attempt => { attempt with status := .running, candidateCommit := some head }

/-- The commits of a source, oldest first. -/
def sourceCommits : Source → Call (List String)
  | .workItem _ startCommit resultCommit .cherryPick => issue (Command.revList startCommit resultCommit)
  | .workItem _ _ resultCommit _ => pure [resultCommit]
  | .upstream _ remoteCommit _ => pure [remoteCommit]

/-- The first receipt of an attempt needs a pristine candidate. -/
def firstProgress (attempt : IntegrationAttempt) (active : Option OperationKind) :
    Call Cursor := do
  let head ← issue .head
  require (decide (active = none))
    "Active Git operation has no attempt-owned progress receipt; preserve it and choose explicit recovery."
  require (decide (head = attempt.beforeCommit) && decide (attempt.status ≠ .conflicted))
    "Integration source completion is unproven: no attempt-owned Git receipt. Preserve the candidate; do not replay."
  assertIntegrationCandidate (some attempt.beforeCommit) none
  saveProgress attempt ⟨app.worktree.path, app.branch, app.digest, 0, attempt.beforeCommit, none, false⟩

def currentProgress (attempt : IntegrationAttempt) (active : Option OperationKind) :
    Call Cursor :=
  match attempt.sourceProgress with
  | some progress => pure ⟨attempt, progress⟩
  | none => firstProgress app attempt active

/-- What is left of the source, and then the candidate. -/
def applyRest (commits : List String) (cursor : Cursor) : Call IntegrationAttempt := do
  let ended ← applySteps app cursor.progress.completedSteps
    (commits.drop cursor.progress.completedSteps) cursor
  match ended with
  | .paused attempt => pure attempt
  | .moved cursor => do
    assertIntegrationCandidate (some cursor.progress.head) none
    saveUpdate cursor.attempt fun attempt =>
      { attempt with
        status := .running
        conflict := none
        candidateCommit := some cursor.progress.head }

def applyIntegrationSource (attempt : IntegrationAttempt) (worktree : Worktree)
    (continueOwnedOperation : Bool) : Call IntegrationAttempt := do
  if attempt.source.isManual = true then applyManual attempt
  else do
    let app : Application := ⟨attempt.source, fullBranch worktree.branch, worktree,
      attempt.identity worktree.path worktree.branch, continueOwnedOperation⟩
    let commits ← sourceCommits attempt.source
    let active : Option OperationKind ← issue Command.activeOperation
    let cursor ← currentProgress app attempt active
    require (decide (cursor.progress.workspace = worktree.path ∧ cursor.progress.branch = app.branch ∧
      cursor.progress.sourceDigest = app.digest ∧ cursor.progress.completedSteps ≤ commits.length))
      "Integration source/workspace identity changed; no Git operation or check was started."
    match cursor.attempt.candidateCommit with
    | some candidate => do
      require (decide (cursor.progress.completedSteps = commits.length ∧
        cursor.progress.activeAction = none ∧ cursor.progress.head = candidate))
        "Integration candidate does not match its source application receipt."
      assertIntegrationCandidate (some candidate) none
      pure cursor.attempt
    | none => applyRest app commits cursor

end GitIntegration
