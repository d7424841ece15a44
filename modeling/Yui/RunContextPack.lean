import Yui.ContextSnapshot

/-!
# The frozen context of an AgentRun

`freezeRunContextSnapshot` merges what is collected for a Run with a baseline and the required resources, and stores
the Snapshot. A Run reads its Snapshot back pointer by pointer, or as a patch of the parent Snapshot.
-/

open JsText Checked

namespace RunContext

abbrev MaterializedRef := ContextSnapshotResource

inductive RequiredPolicy where
  | current | frozen
  deriving DecidableEq

inductive RunPurpose where
  | execution | review | planning
  deriving DecidableEq

def RunPurpose.text : RunPurpose → String
  | .execution => "execution"
  | .review => "review"
  | .planning => "planning"

structure RunInput where
  json : Json
  contextSnapshotRef : Option ContextSnapshotRef
  deltaRefIds : List String

/-- What the context reads of an AgentRun. -/
structure ContextRun where
  taskId : String
  id : String
  roleName : String
  purpose : RunPurpose
  agentId : String
  adapterId : String
  workspace : String
  /-- Its execution authority is `planning`. -/
  planning : Bool
  writeProjectIds : List String
  skillPackages : Option Json
  input : RunInput

structure ContextStore where
  tasks : List String
  runs : List ContextRun
  snapshots : List ContextSnapshot

namespace ContextStore

variable (store : ContextStore)

def getRun (taskId runId : String) : Option ContextRun :=
  store.runs.find? fun run => run.taskId = taskId && run.id = runId

def getContextSnapshot (taskId id : String) : Option ContextSnapshot :=
  store.snapshots.find? fun snapshot => snapshot.taskId = taskId && snapshot.id = id

def listContextSnapshots (taskId : String) : List ContextSnapshot :=
  store.snapshots.filter fun snapshot => snapshot.taskId = taskId

/-- A Snapshot is immutable, and its sequence is taken once in its scope. -/
def saveContextSnapshot [JobHost] (snapshot : ContextSnapshot) : Except String ContextStore := do
  let stored ← validateContextSnapshot snapshot
  refuse (stored.taskId ∉ store.tasks) s!"Task not found: {stored.taskId}."
  match store.getContextSnapshot stored.taskId stored.id with
  | some existing => if existing = stored then .ok store else .error s!"Context Snapshot is immutable: {stored.id}."
  | none =>
    if store.snapshots.any (fun other => other.taskId = stored.taskId && other.scope = stored.scope &&
        other.scopeRef.getD "" = stored.scopeRef.getD "" && other.sequence = stored.sequence) = true then
      .error s!"Context Snapshot sequence already exists: {stored.taskId}/{stored.scope.text}/{stored.sequence}."
    else .ok { store with snapshots := store.snapshots ++ [stored] }

end ContextStore

section Freeze

variable [JobHost]

def entryKey (entry : MaterializedRef) : String := s!"{entry.ref.store}/{entry.ref.refId}"

def contextRefIdentity (ref : ContextRef) : String :=
  ref.store ++ separator ++ ref.refId ++ separator ++ ref.revision

def mergeRequired (policy : RequiredPolicy) (entries : List MaterializedRef) (entry : MaterializedRef) :
    Except String (List MaterializedRef) :=
  let existing := entries.find? fun existing => entryKey existing = entryKey entry
  if policy = .current ∧ existing.any (fun existing => existing.ref.digest ≠ entry.ref.digest) = true then
    .error s!"Required Context changed during dispatch: {entryKey entry}. Read its current reference and dispatch again."
  else .ok (KeyedMap.set entryKey entries entry)

def mergeRequiredContext (automatic required : List MaterializedRef) (policy : RequiredPolicy) :
    Except String (List MaterializedRef) :=
  required.foldlM (mergeRequired policy) (KeyedMap.ofList entryKey automatic)

/-- The Run for which a Snapshot is frozen, what the collectors found for it in the store, and what is required of it.
`authorized` is the result of `collectAuthorizedContext`; `overlays` is that of `collectRunContextOverlays` and then
`collectSourceRunContext`. -/
structure FreezeRequest where
  taskId : String
  workItemId : Option String
  reviewRoundId : Option String
  snapshotId : String
  frozenAt : String
  frozenBy : FrozenBy
  baselineRef : Option ContextSnapshotRef
  authorized : Except String (List MaterializedRef)
  overlays : Except String (List MaterializedRef)
  requiredResources : List MaterializedRef
  requiredPolicy : RequiredPolicy

variable (store : ContextStore)

def latestSnapshot (taskId : String) (scope : ContextSnapshotScope) (scopeRef : Option String) :
    Option ContextSnapshot :=
  (((store.listContextSnapshots taskId).filter fun candidate =>
    candidate.scope = scope && candidate.scopeRef = scopeRef).insertionSort fun left right =>
      left.sequence ≤ right.sequence).getLast?

def FreezeRequest.scope (request : FreezeRequest) : ContextSnapshotScope :=
  if request.reviewRoundId ≠ none then .stage else if request.workItemId ≠ none then .workitem else .task

def FreezeRequest.scopeRef (request : FreezeRequest) : Option String :=
  request.reviewRoundId.orElse fun _ => request.workItemId

def freezeContent (identity : ContextSnapshotIdentity) (content : ContextSnapshotContent) :
    Except String (ContextSnapshot × ContextStore) := do
  let snapshot ← createContextSnapshot identity content
  let saved ← store.saveContextSnapshot snapshot
  .ok (snapshot, saved)

def readBaseline (taskId : String) (baselineRef : ContextSnapshotRef) :
    Except String ContextSnapshot :=
  match store.getContextSnapshot taskId baselineRef.id with
  | none => .error s!"AgentRun Context baseline is missing or drifted: {baselineRef.id}."
  | some baseline =>
    if baseline.taskId ≠ taskId ∨ baselineRef.taskId ≠ taskId ∨ baseline.digest ≠ baselineRef.digest ∨
        baseline.sequence ≠ baselineRef.sequence ∨ baseline.scope ≠ .stage ∨ baselineRef.scope ≠ baseline.scope ∨
        baseline.scopeRef ≠ baselineRef.scopeRef then
      .error s!"AgentRun Context baseline is missing or drifted: {baselineRef.id}."
    else validateContextSnapshot baseline

/-- A lane of a stage: its overlays over the immutable baseline. -/
def freezeOverBaseline (request : FreezeRequest) (baselineRef : ContextSnapshotRef) :
    Except String (ContextSnapshot × ContextStore) := do
  let baseline ← readBaseline store request.taskId baselineRef
  let overlays ← request.overlays
  let merged ← mergeRequiredContext (baseline.resources ++ overlays) request.requiredResources request.requiredPolicy
  let resources := sortBy (fun entry => contextRefIdentity entry.ref)
    (KeyedMap.ofList (fun entry => contextRefIdentity entry.ref) merged)
  let previous := latestSnapshot store request.taskId baseline.scope baseline.scopeRef
  let parentRef ← contextSnapshotRef baseline
  freezeContent store
    ⟨request.snapshotId, request.taskId, baseline.scope, baseline.scopeRef,
      (previous.elim baseline.sequence fun previous => previous.sequence) + 1⟩
    ⟨resources.map ContextSnapshotResource.ref, resources, baseline.repoCommit, baseline.acceptRefs, some parentRef,
      request.frozenAt, request.frozenBy⟩

def freezeAuthorized (request : FreezeRequest) :
    Except String (ContextSnapshot × ContextStore) := do
  let authorized ← request.authorized
  let materialized ← mergeRequiredContext authorized request.requiredResources request.requiredPolicy
  let previous := latestSnapshot store request.taskId request.scope request.scopeRef
  let parentRef ← onSome contextSnapshotRef previous
  freezeContent store
    ⟨request.snapshotId, request.taskId, request.scope, request.scopeRef,
      (previous.elim 0 fun previous => previous.sequence) + 1⟩
    ⟨materialized.map ContextSnapshotResource.ref, materialized, none,
      request.workItemId.toList.map fun workItemId => s!"work-item:{workItemId}:acceptance", parentRef,
      request.frozenAt, request.frozenBy⟩

def freezeRunContextSnapshot (request : FreezeRequest) :
    Except String (ContextSnapshot × ContextStore) :=
  match request.baselineRef with
  | some baselineRef => freezeOverBaseline store request baselineRef
  | none => freezeAuthorized store request

end Freeze

section Read

variable [JobHost]

def requireExactRun (store : ContextStore) (taskId runId : String) : Except String ContextRun :=
  match store.getRun taskId runId with
  | none => .error s!"AgentRun not found: {taskId}/{runId}."
  | some run => .ok run

def requireRunContextSnapshotRef (input : RunInput) : Except String ContextSnapshotRef :=
  match input.contextSnapshotRef with
  | none => .error "AgentRun Context Snapshot is required for this execution. Inspect the Run and retire or explicitly retry it; original evidence is never reconstructed."
  | some ref => validateContextSnapshotRef ref

def readRunContextSnapshot (store : ContextStore) (run : ContextRun) : Except String ContextSnapshot := do
  let expected ← requireRunContextSnapshotRef run.input
  match store.getContextSnapshot run.taskId expected.id with
  | none => .error s!"AgentRun Context Snapshot is missing: {expected.id}."
  | some snapshot =>
    if snapshot.id ≠ expected.id ∨ snapshot.taskId ≠ run.taskId ∨ expected.taskId ≠ run.taskId ∨
        snapshot.digest ≠ expected.digest ∨ snapshot.sequence ≠ expected.sequence ∨
        snapshot.scope ≠ expected.scope ∨ snapshot.scopeRef ≠ expected.scopeRef then
      .error s!"AgentRun Context Snapshot identity drifted: {expected.id}."
    else validateContextSnapshot snapshot

inductive ContextView where
  | operator | leader | worker | reviewer

def ContextView.text : ContextView → String
  | .operator => "operator"
  | .leader => "leader"
  | .worker => "worker"
  | .reviewer => "reviewer"

def contextView (run : ContextRun) : ContextView :=
  if run.purpose = .review then .reviewer
  else if run.roleName = "leader" then .leader
  else if run.roleName = "operator" then .operator
  else .worker

def completionActions (view : ContextView) (planning : Bool) : List String :=
  if planning = true then ["finish-turn", "request-input", "request-activation"]
  else match view with
    | .leader => ["finish-turn", "complete-task", "request-input"]
    | .reviewer => ["checkpoint", "finish-turn"]
    | .operator => ["answer-input", "recover"]
    | .worker => ["checkpoint", "finish-turn"]

def refPair (ref : ContextRef) : String × String := (ref.store, ref.refId)

def pairJson (ref : ContextRef) : Json := .obj [("store", .str ref.store), ("refId", .str ref.refId)]

/-- What the digest of a pack is taken of. -/
def packBody (run : ContextRun) (snapshot : ContextSnapshot) : Json :=
  .present [("schemaVersion", some (.num "1")),
    ("identity", some (.obj [("taskId", .str run.taskId), ("runId", .str run.id), ("roleName", .str run.roleName),
      ("purpose", .str run.purpose.text), ("agentId", .str run.agentId), ("adapterId", .str run.adapterId),
      ("workspace", .str run.workspace)])),
    ("snapshot", some snapshot.toContextSnapshotRef.json),
    ("skillPackages", some (run.skillPackages.getD .null)),
    ("input", some run.input.json),
    ("authority", some (.obj [("view", .str (contextView run).text),
      ("writableProjectIds", .arr (if run.planning = true then [] else run.writeProjectIds.map .str))])),
    ("pointers", some (.arr (snapshot.refs.map ContextRef.json))),
    ("deltaRefs", some (.arr ((snapshot.refs.filter fun ref => ref.refId ∈ run.input.deltaRefIds).map pairJson))),
    ("completion", some (.obj [("allowedActions", .arr ((completionActions (contextView run) run.planning).map .str)),
      ("exactRunRef", .str s!"{run.taskId}/{run.id}")]))]

structure AgentRunContextPack where
  snapshot : ContextSnapshotRef
  pointers : List ContextRef
  digest : String

def buildRunContextPack (store : ContextStore) (taskId runId : String) : Except String AgentRunContextPack := do
  let run ← requireExactRun store taskId runId
  let snapshot ← readRunContextSnapshot store run
  let ref ← contextSnapshotRef snapshot
  .ok ⟨ref, snapshot.refs, contextContentDigest (packBody run snapshot)⟩

structure ContextSelector where
  store : String
  refId : String
  digest : Option String

def ContextRef.selector (ref : ContextRef) : ContextSelector := ⟨ref.store, ref.refId, some ref.digest⟩

structure ExpandedRef where
  ref : ContextRef
  value : Json
  digest : String

def expandSnapshotRef (snapshot : ContextSnapshot) (refId refStore : String) : Except String ExpandedRef :=
  match snapshot.refs.filter fun ref => ref.refId = refId && ref.store = refStore with
  | [authorized] =>
    match snapshot.resources.find? fun resource =>
      contextRefIdentity resource.ref = contextRefIdentity authorized with
    | none => .error s!"AgentRun Context ref is unavailable or drifted: {refStore}/{refId}."
    | some materialized =>
      if materialized.ref.digest ≠ authorized.digest then
        .error s!"AgentRun Context ref is unavailable or drifted: {refStore}/{refId}."
      else .ok ⟨materialized.ref, materialized.value, contextContentDigest materialized.json⟩
  | _ => .error s!"AgentRun Context ref is not uniquely authorized: {refStore}/{refId}."

def checkSelector (seen : List (String × String)) (selector : ContextSelector) :
    Except String (List (String × String)) := do
  let _ ← Validation.requireIdentity selector.store "Context ref store"
  let _ ← Validation.requireIdentity selector.refId "Context ref id"
  refuse (selector.digest.any (fun digest => isHexDigest digest = false) = true)
    "An explicit Run Context digest must be exact."
  refuse ((selector.store, selector.refId) ∈ seen) "Duplicate Run Context batch reference."
  .ok ((selector.store, selector.refId) :: seen)

def expandSelector (snapshot : ContextSnapshot) (selector : ContextSelector) : Except String ExpandedRef := do
  let expanded ← expandSnapshotRef snapshot selector.refId selector.store
  refuse (selector.digest.any (fun digest => expanded.ref.digest ≠ digest) = true)
    s!"Run Context reference digest does not match its frozen Snapshot: {selector.store}/{selector.refId}."
  .ok expanded

def expandRunContextRefs (store : ContextStore) (taskId runId : String) (selectors : List ContextSelector) :
    Except String (List ExpandedRef) := do
  refuse (selectors.length < 1 ∨ 8 < selectors.length) "Run Context batch requires 1..8 exact references."
  let _ ← selectors.foldlM checkSelector []
  let run ← requireExactRun store taskId runId
  let snapshot ← readRunContextSnapshot store run
  mapIndexed (fun selector _ => expandSelector snapshot selector) 0 selectors

structure RunContextDelta where
  after : String
  cursor : String
  refs : List ContextRef
  removedRefs : List (String × String)

def deltaIdentity (ref : ContextRef) : String := s!"{ref.store}:{ref.refId}"

def readParent (store : ContextStore) (taskId : String) : Option ContextSnapshotRef →
    Except String (Option ContextSnapshot)
  | none => .ok none
  | some parentRef =>
    match store.getContextSnapshot taskId parentRef.id with
    | none => .error "AgentRun Context parent changed or is unavailable; reload the exact current pack."
    | some parent =>
      if parent.digest ≠ parentRef.digest ∨ parent.sequence ≠ parentRef.sequence then
        .error "AgentRun Context parent changed or is unavailable; reload the exact current pack."
      else do
        let parent ← validateContextSnapshot parent
        .ok (some parent)

def deltaOf (pack : AgentRunContextPack) (after : String) (before : List ContextRef) : RunContextDelta where
  after := after
  cursor := pack.digest
  refs := pack.pointers.filter fun ref =>
    (KeyedMap.lastOf deltaIdentity before (deltaIdentity ref)).all fun earlier =>
      contextContentDigest earlier.json ≠ contextContentDigest ref.json
  removedRefs := (before.filter fun ref => deltaIdentity ref ∉ pack.pointers.map deltaIdentity).map refPair

def buildRunContextDelta (store : ContextStore) (taskId runId after : String) : Except String RunContextDelta := do
  let pack ← buildRunContextPack store taskId runId
  if after = pack.digest ∨ after = pack.snapshot.digest then .ok ⟨after, pack.digest, [], []⟩
  else do
    let run ← requireExactRun store taskId runId
    let snapshot ← readRunContextSnapshot store run
    refuse (after ≠ snapshot.parentRef.elim "none" fun parent => parent.digest)
      "AgentRun Context delta cursor is outside the frozen Snapshot lineage."
    let parent ← readParent store taskId snapshot.parentRef
    .ok (deltaOf pack after (parent.elim [] fun parent => parent.refs))

end Read

end RunContext
