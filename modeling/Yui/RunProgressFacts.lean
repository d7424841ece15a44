import Mathlib.Data.List.Induction
import Mathlib.Logic.Function.Basic
import Yui.JsText

/-!
# Progress facts of agent runs

The scheduler reads three facts about a run off the events of its Task: the latest checkpoint, the
latest activity and the latest stall. `scheduler/roleRunStall.ts` computes each by a scan of its own,
and all three for every run at once by one fold. Both take the first of two values with the same time,
and neither moves away from a first value that is no time.
-/

namespace RoleRunStall

section Events

def runProgressEvent : String := "run.progress"

def runStalledEvent : String := "run.stalled"

def runRecoveredEvent : String := "run.recovered"

def activityEventTypes : List String :=
  [runProgressEvent, "message.sent", "input.answered", "input.auto-answered", "input.cancelled",
    "work.accepted", "work.updated", "review.completed", "review.failed", "integration.updated",
    "integration.completed", "integration.failed"]

/-- The payload maps field names to strings. -/
structure TaskEvent where
  type : String
  payload : List (String × String)
  createdAt : String

namespace TaskEvent

variable (event : TaskEvent)

def runId : Option String := event.payload.lookup "runId"

def progressAt : Option String := event.payload.lookup "progressAt"

def evidenceKey : Option String := event.payload.lookup "evidenceKey"

end TaskEvent

structure StallEvidence where
  progressAt : String
  evidenceKey : String

structure AgentRunProgressFacts where
  latestCheckpointAt : Option String
  latestActivityAt : Option String
  latestStall : Option StallEvidence

/-- What a missing entry of the fold stands for. -/
def AgentRunProgressFacts.empty : AgentRunProgressFacts := ⟨none, none, none⟩

end Events

variable [JsHost]

section Scans

/-- `Date.parse(value) > Date.parse(latest)`; a comparison with `NaN` fails. -/
def isLater (value latest : String) : Bool :=
  match JsHost.dateParse value, JsHost.dateParse latest with
  | some time, some latestTime => decide (latestTime < time)
  | _, _ => false

/-- `Number.isFinite(Date.parse(value))`. -/
def isTime (value : String) : Bool := (JsHost.dateParse value).isSome

def latestOf (latest : Option String) (value : String) : Option String :=
  match latest with
  | none => some value
  | some latest => if isLater value latest then some value else some latest

def TaskEvent.semanticTime (event : TaskEvent) : String :=
  match event.progressAt with
  | some progressAt => if isTime progressAt then progressAt else event.createdAt
  | none => event.createdAt

variable (events : List TaskEvent)

def latestRunProgressAt (runId : String) : Option String :=
  events.foldl (fun latest event =>
    if event.type ≠ runProgressEvent then latest
    else if event.runId ≠ some runId then latest
    else latestOf latest event.semanticTime) none

def latestRunActivityAt (runId : String) : Option String :=
  events.foldl (fun latest event =>
    if event.type ∉ activityEventTypes ∨ event.runId ≠ some runId ∨ event.type = runStalledEvent ∨
        event.type = runRecoveredEvent then latest
    else latestOf latest
      (if event.type = runProgressEvent then event.semanticTime else event.createdAt)) none

def latestStallEvent (runId : String) : Option TaskEvent :=
  events.foldl (fun latest event =>
    if event.type ≠ runStalledEvent ∨ event.runId ≠ some runId then latest
    else
      match latest with
      | none => some event
      | some other => if isLater event.createdAt other.createdAt then some event else some other) none

/-- The episode that a stall event records, if it names its progress point. -/
def TaskEvent.stallEvidence (event : TaskEvent) : Option StallEvidence :=
  event.progressAt.map fun progressAt =>
    ⟨progressAt, event.evidenceKey.getD "live-pane-no-progress"⟩

def latestStallEvidenceKey (runId : String) : Option StallEvidence :=
  (latestStallEvent events runId).bind TaskEvent.stallEvidence

end Scans

section Fold

structure FoldState where
  byRun : String → Option AgentRunProgressFacts
  latestStallCreatedAt : String → Option String

def FoldState.init : FoldState := ⟨fun _ => none, fun _ => none⟩

/-- One turn of the loop of `foldRunProgressFacts`. -/
def foldEvent (state : FoldState) (event : TaskEvent) : FoldState :=
  match event.runId with
  | none => state
  | some runId =>
    let facts := (state.byRun runId).getD .empty
    let put := fun facts : AgentRunProgressFacts => Function.update state.byRun runId (some facts)
    if event.type = runProgressEvent then
      { state with byRun := put { facts with
          latestCheckpointAt := latestOf facts.latestCheckpointAt event.semanticTime
          latestActivityAt := latestOf facts.latestActivityAt event.semanticTime } }
    else if event.type = runStalledEvent then
      let moves := match state.latestStallCreatedAt runId with
        | none => true
        | some previous => isLater event.createdAt previous
      if moves then
        ⟨put { facts with latestStall := event.stallEvidence },
          Function.update state.latestStallCreatedAt runId (some event.createdAt)⟩
      else { state with byRun := put facts }
    else if event.type ∈ activityEventTypes ∧ event.type ≠ runStalledEvent ∧
        event.type ≠ runRecoveredEvent then
      { state with byRun := put { facts with
          latestActivityAt := latestOf facts.latestActivityAt event.createdAt } }
    else { state with byRun := put facts }

def foldRunProgressFacts (events : List TaskEvent) : String → Option AgentRunProgressFacts :=
  (events.foldl foldEvent .init).byRun

end Fold

section Fence

structure Run where
  id : String
  taskId : String
  roleName : String
  createdAt : String
  workItemId : Option String

structure WorkItemTimes where
  updatedAt : String
  candidates : List String

structure ReviewRoundTimes where
  workItemId : Option String
  createdAt : String
  endedAt : Option String

structure ChangeSetTimes where
  workItemId : String
  createdAt : String

inductive IntegrationSource where
  | workItem (workItemId : String)
  | upstream
  deriving DecidableEq

structure IntegrationTimes where
  updatedAt : String
  source : IntegrationSource

structure InputRequestTimes where
  updatedAt : String
  requesterRunId : Option String
  blockedRefs : List (String × String)

/-- The readers of one store. A run is read by its id. -/
structure ProgressStore where
  getRun : String → String → Option Run
  getRun_id : ∀ taskId runId run, getRun taskId runId = some run → run.id = runId
  listEvents : String → List TaskEvent
  getWorkItem : String → String → Option WorkItemTimes
  listReviewRounds : String → List ReviewRoundTimes
  listChangeSets : String → List ChangeSetTimes
  listIntegrationAttempts : String → List IntegrationTimes
  listInputRequests : String → List InputRequestTimes

structure ProgressFence where
  progressAt : String
  evidence : Option String

def latestDurableProgressAt (startedAt : String) (latestCheckpointAt latestActivityAt : Option String) :
    Except String String :=
  match ([some startedAt, latestCheckpointAt, latestActivityAt].filterMap id).filter isTime with
  | [] => .error "No durable progress timestamp is available for the AgentRun."
  | first :: later =>
    .ok (later.foldl (fun latest value => if isLater value latest then value else latest) first)

def ProgressStore.related (store : ProgressStore) (taskId workItemId runId : String) : List String :=
  let workItem := store.getWorkItem taskId workItemId
  (workItem.toList.map WorkItemTimes.updatedAt ++
    ((store.listReviewRounds taskId).filter fun round => round.workItemId = some workItemId).map
      (fun round => round.endedAt.getD round.createdAt) ++
    ((store.listChangeSets taskId).filter fun changeSet => changeSet.workItemId = workItemId).map
      ChangeSetTimes.createdAt ++
    ((store.listIntegrationAttempts taskId).filter fun attempt =>
      attempt.source = .workItem workItemId).map IntegrationTimes.updatedAt ++
    ((store.listInputRequests taskId).filter fun request =>
      request.requesterRunId = some runId ∨ request.blockedRefs.contains ("run", runId)).map
      InputRequestTimes.updatedAt ++
    (workItem.map WorkItemTimes.candidates).getD []).filter isTime

/-- `null` is `none`; `precomputed` are the facts that the scheduler folded before. -/
def latestRunDurableProgressAt (store : ProgressStore) (taskId roleName runId : String)
    (precomputed : Option AgentRunProgressFacts) : Except String (Option ProgressFence) :=
  match store.getRun taskId runId with
  | none => .ok none
  | some run =>
    if run.taskId ≠ taskId ∨ run.roleName ≠ roleName then .ok none
    else do
      let events := store.listEvents taskId
      let latestCheckpointAt := match precomputed with
        | some facts => facts.latestCheckpointAt
        | none => latestRunProgressAt events run.id
      let latestActivityAt := match precomputed with
        | some facts => facts.latestActivityAt
        | none => latestRunActivityAt events run.id
      let baseline ← latestDurableProgressAt run.createdAt latestCheckpointAt latestActivityAt
      match run.workItemId with
      | none => .ok (some ⟨baseline, none⟩)
      | some workItemId =>
        match (store.related taskId workItemId run.id).foldl latestOf none with
        | none => .ok (some ⟨baseline, none⟩)
        | some latest =>
          .ok (some ⟨if isLater latest baseline then latest else baseline,
            some "work-review-integration"⟩)

/-- The fence as the scheduler reads it: a missing entry of the fold is empty evidence. -/
def getRunDurableProgress (store : ProgressStore) (taskId roleName runId : String) :
    Except String (Option ProgressFence) :=
  latestRunDurableProgressAt store taskId roleName runId
    (some ((foldRunProgressFacts (store.listEvents taskId) runId).getD .empty))

end Fence

section Agreement

variable {events : List TaskEvent} {state : FoldState} {event : TaskEvent} {runId : String}

/-- What the scans of one run have found in the events so far is what the fold holds for it. -/
structure Agrees (events : List TaskEvent) (state : FoldState) (runId : String) : Prop where
  facts : (state.byRun runId).getD .empty = ⟨latestRunProgressAt events runId,
    latestRunActivityAt events runId, latestStallEvidenceKey events runId⟩
  stall : state.latestStallCreatedAt runId =
    (latestStallEvent events runId).map TaskEvent.createdAt

theorem latestRunProgressAt_snoc : latestRunProgressAt (events ++ [event]) runId =
      if event.type = runProgressEvent ∧ event.runId = some runId then
        latestOf (latestRunProgressAt events runId) event.semanticTime else latestRunProgressAt events runId := by
  unfold latestRunProgressAt
  rw [List.foldl_append, List.foldl_cons, List.foldl_nil]
  by_cases htype : event.type = runProgressEvent
  · by_cases hrun : event.runId = some runId
    · simp [htype, hrun]
    · simp [htype, hrun]
  · simp [htype]

theorem latestRunActivityAt_snoc : latestRunActivityAt (events ++ [event]) runId =
      if event.type ∈ activityEventTypes ∧ event.runId = some runId then
        latestOf (latestRunActivityAt events runId)
          (if event.type = runProgressEvent then event.semanticTime else event.createdAt)
      else latestRunActivityAt events runId := by
  have hstalled : ∀ h : event.type = runStalledEvent, event.type ∉ activityEventTypes := fun h => by
    rw [h]
    decide
  have hrecovered : ∀ h : event.type = runRecoveredEvent, event.type ∉ activityEventTypes := fun h => by
    rw [h]
    decide
  unfold latestRunActivityAt
  rw [List.foldl_append, List.foldl_cons, List.foldl_nil]
  by_cases htype : event.type ∈ activityEventTypes
  · by_cases hrun : event.runId = some runId
    · have hseen : ¬ (event.type ∉ activityEventTypes ∨ event.runId ≠ some runId ∨
          event.type = runStalledEvent ∨ event.type = runRecoveredEvent) := by
        rintro (h | h | h | h)
        · exact h htype
        · exact h hrun
        · exact hstalled h htype
        · exact hrecovered h htype
      have hcounted : event.type ∈ activityEventTypes ∧ event.runId = some runId := ⟨htype, hrun⟩
      rw [if_neg hseen, if_pos hcounted]
    · rw [if_pos (.inr (.inl hrun)), if_neg fun h => hrun h.2]
  · rw [if_pos (.inl htype), if_neg fun h => htype h.1]

theorem latestStallEvent_snoc : latestStallEvent (events ++ [event]) runId =
      if event.type = runStalledEvent ∧ event.runId = some runId then
        match latestStallEvent events runId with
        | none => some event
        | some other => if isLater event.createdAt other.createdAt then some event else some other
      else latestStallEvent events runId := by
  unfold latestStallEvent
  rw [List.foldl_append, List.foldl_cons, List.foldl_nil]
  by_cases h : event.type = runStalledEvent ∧ event.runId = some runId
  · rw [if_pos h, if_neg (by simp [h])]
  · rw [if_neg h, if_pos (by rwa [not_and_or] at h)]

theorem latestStallEvidenceKey_same (hrun : event.runId ≠ some runId ∨ event.type ≠ runStalledEvent) :
    latestStallEvent (events ++ [event]) runId = latestStallEvent events runId ∧
      latestStallEvidenceKey (events ++ [event]) runId = latestStallEvidenceKey events runId := by
  have hsame : latestStallEvent (events ++ [event]) runId = latestStallEvent events runId := by
    rw [latestStallEvent_snoc, if_neg fun h => hrun.elim (fun hne => hne h.2) fun hne => hne h.1]
  refine ⟨hsame, ?_⟩
  unfold latestStallEvidenceKey
  rw [hsame]

theorem Agrees.other (h : Agrees events state runId) (hrun : event.runId ≠ some runId) :
    Agrees (events ++ [event]) (foldEvent state event) runId := by
  have hsame : (foldEvent state event).byRun runId = state.byRun runId ∧
      (foldEvent state event).latestStallCreatedAt runId = state.latestStallCreatedAt runId := by
    unfold foldEvent
    cases hother : event.runId with
    | none => exact ⟨rfl, rfl⟩
    | some other =>
      have hne : runId ≠ other := fun heq => hrun (heq ▸ hother)
      dsimp only
      split_ifs <;> simp [Function.update_of_ne hne]
  refine ⟨?_, ?_⟩
  · rw [hsame.1, h.facts, latestRunProgressAt_snoc, latestRunActivityAt_snoc,
      (latestStallEvidenceKey_same (.inl hrun)).2, if_neg fun h => hrun h.2, if_neg fun h => hrun h.2]
  · rw [hsame.2, h.stall, (latestStallEvidenceKey_same (.inl hrun)).1]

omit [JsHost] in
theorem getD_update (byRun : String → Option AgentRunProgressFacts) (facts : AgentRunProgressFacts) :
    (Function.update byRun runId (some facts) runId).getD .empty = facts := by
  rw [Function.update_self]
  rfl

theorem Agrees.own (h : Agrees events state runId) (hrun : event.runId = some runId) :
    Agrees (events ++ [event]) (foldEvent state event) runId := by
  have hfacts := h.facts
  have hstall := h.stall
  unfold foldEvent
  rw [hrun]
  dsimp only
  split_ifs with hprogress hstalled hmoves hactivity
  · have hnot : event.type ≠ runStalledEvent := by
      rw [hprogress]
      decide
    have hcounted : event.type ∈ activityEventTypes ∧ event.runId = some runId := by
      rw [hprogress]
      exact ⟨by decide, hrun⟩
    have hkey := @latestStallEvidenceKey_same _ events event runId (.inr hnot)
    refine ⟨?_, by rw [hstall, hkey.1]⟩
    rw [getD_update, hfacts, latestRunProgressAt_snoc, if_pos ⟨hprogress, hrun⟩,
      latestRunActivityAt_snoc, if_pos hcounted, if_pos hprogress, hkey.2]
  · have hquiet : event.type ∉ activityEventTypes := by
      rw [hstalled]
      decide
    have hevent : latestStallEvent (events ++ [event]) runId = some event := by
      rw [latestStallEvent_snoc, if_pos ⟨hstalled, hrun⟩]
      rw [hstall] at hmoves
      cases hlatest : latestStallEvent events runId with
      | none => rfl
      | some other =>
        rw [hlatest] at hmoves
        exact if_pos hmoves
    have hkey : latestStallEvidenceKey (events ++ [event]) runId = event.stallEvidence := by
      unfold latestStallEvidenceKey
      rw [hevent]
      rfl
    have hcreated : Function.update state.latestStallCreatedAt runId (some event.createdAt) runId =
        some event.createdAt := Function.update_self _ _ _
    refine ⟨?_, hcreated.trans (by rw [hevent]; rfl)⟩
    rw [getD_update, hfacts, latestRunProgressAt_snoc, if_neg fun h => hprogress h.1,
      latestRunActivityAt_snoc, if_neg fun h => hquiet h.1, hkey]
  · have hquiet : event.type ∉ activityEventTypes := by
      rw [hstalled]
      decide
    have hevent : latestStallEvent (events ++ [event]) runId = latestStallEvent events runId := by
      rw [latestStallEvent_snoc, if_pos ⟨hstalled, hrun⟩]
      rw [hstall] at hmoves
      cases hlatest : latestStallEvent events runId with
      | none =>
        rw [hlatest] at hmoves
        exact absurd rfl hmoves
      | some other =>
        rw [hlatest] at hmoves
        exact if_neg hmoves
    have hkey : latestStallEvidenceKey (events ++ [event]) runId = latestStallEvidenceKey events runId := by
      unfold latestStallEvidenceKey
      rw [hevent]
    refine ⟨?_, by rw [hstall, hevent]⟩
    rw [getD_update, hfacts, latestRunProgressAt_snoc, if_neg fun h => hprogress h.1,
      latestRunActivityAt_snoc, if_neg fun h => hquiet h.1, hkey]
  · have hkey := @latestStallEvidenceKey_same _ events event runId (.inr hstalled)
    have hcounted : event.type ∈ activityEventTypes ∧ event.runId = some runId := ⟨hactivity.1, hrun⟩
    refine ⟨?_, by rw [hstall, hkey.1]⟩
    rw [getD_update, hfacts, latestRunProgressAt_snoc, if_neg fun h => hprogress h.1,
      latestRunActivityAt_snoc, if_pos hcounted, if_neg hprogress, hkey.2]
  · have hquiet : event.type ∉ activityEventTypes := fun hmem => by
      refine hactivity ⟨hmem, hstalled, fun hrecovered => ?_⟩
      rw [hrecovered] at hmem
      exact absurd hmem (by decide)
    have hkey := @latestStallEvidenceKey_same _ events event runId (.inr hstalled)
    refine ⟨?_, by rw [hstall, hkey.1]⟩
    rw [getD_update, hfacts, latestRunProgressAt_snoc, if_neg fun h => hprogress h.1,
      latestRunActivityAt_snoc, if_neg fun h => hquiet h.1, hkey.2]

theorem Agrees.step (h : Agrees events state runId) (event : TaskEvent) :
    Agrees (events ++ [event]) (foldEvent state event) runId := by
  by_cases hrun : event.runId = some runId
  · exact h.own hrun
  · exact h.other hrun

theorem agrees_foldl (events : List TaskEvent) (runId : String) :
    Agrees events (events.foldl foldEvent .init) runId := by
  induction events using List.reverseRecOn with
  | nil => exact ⟨rfl, rfl⟩
  | append_singleton events event ih =>
    rw [List.foldl_append]
    exact ih.step event

theorem foldRunProgressFacts_eq (events : List TaskEvent) (runId : String) :
    (foldRunProgressFacts events runId).getD .empty = ⟨latestRunProgressAt events runId,
      latestRunActivityAt events runId, latestStallEvidenceKey events runId⟩ :=
  (agrees_foldl events runId).facts

/-- The fold holds for every run what the three scans find, and the scheduler's fence is the one that is
computed without it. -/
theorem progress_fold_equals_scans : (∀ (events : List TaskEvent) (runId : String),
      (foldRunProgressFacts events runId).getD .empty = ⟨latestRunProgressAt events runId,
        latestRunActivityAt events runId, latestStallEvidenceKey events runId⟩) ∧
    ∀ (store : ProgressStore) (taskId roleName runId : String), getRunDurableProgress store taskId roleName runId =
        latestRunDurableProgressAt store taskId roleName runId none := by
  refine ⟨foldRunProgressFacts_eq, fun store taskId roleName runId => ?_⟩
  unfold getRunDurableProgress latestRunDurableProgressAt
  cases hrun : store.getRun taskId runId with
  | none => rfl
  | some run =>
    dsimp only
    rw [foldRunProgressFacts_eq, store.getRun_id taskId runId run hrun]

end Agreement

def sampleStore : ProgressStore where
  getRun _ runId := if runId = "run-1" then some ⟨"run-1", "task-1", "worker", "t1", none⟩ else none
  getRun_id _ runId run h := by
    split_ifs at h with hid
    cases h
    exact hid.symm
  listEvents _ := [⟨runProgressEvent, [("runId", "run-1")], "t2"⟩]
  getWorkItem _ _ := none
  listReviewRounds _ := []
  listChangeSets _ := []
  listIntegrationAttempts _ := []
  listInputRequests _ := []

example : let _ : JsHost := ⟨fun text => if text = "t1" then some 1 else if text = "t2" then some 2 else none⟩
    getRunDurableProgress sampleStore "task-1" "worker" "run-1" = .ok (some ⟨"t2", none⟩) := by rfl

end RoleRunStall
