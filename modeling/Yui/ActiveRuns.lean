import Mathlib.Logic.Function.Basic
import Yui.Checked
import Yui.FallibleRun

/-!
# Active AgentRun pointers

A Task has one table of pointers to its active Runs. A Role has a pointer, and so has each lane of an
execution group: a Run of a lane holds the pointer of its lane, and that of its Role when no other Run
does.
-/

open Checked FallibleRun

namespace ActiveRuns

inductive TaskStatus where
  | draft | active | completed | cancelled
  deriving DecidableEq

structure Task where
  status : TaskStatus
  enabled : Bool
  retirementIsolation : Bool

structure AgentRun where
  id : String
  taskId : String
  roleName : String
  planning : Bool
  active : Bool
  executionGroupId : Option String
  executionLaneId : Option String
  deriving DecidableEq

/-- A key of `active_turns`. A Role name has no slash, so it is never the key of a lane. -/
inductive Pointer where
  | role (roleName : String)
  | lane (executionGroupId executionLaneId : String)
  deriving DecidableEq

structure Store where
  tasks : String → Option Task
  runs : String × String → Option AgentRun
  pointers : String × Pointer → Option String

def Store.initial (tasks : String → Option Task) : Store := ⟨tasks, fun _ => none, fun _ => none⟩

/-- `runPurposeAdmitsTaskState`. -/
def AgentRun.admittedBy (run : AgentRun) (task : Task) : Bool :=
  task.enabled && if run.planning = true then task.status = .draft || task.status = .active
    else task.status = .active

def assertRunAdmission (task : Option Task) (run : AgentRun) : Except String Unit :=
  refuse (task.any run.admittedBy = false) s!"Task execution is not enabled: {run.taskId}."

/-- A retired Task keeps its pointers as history. -/
def Task.isolated (task : Task) : Bool := task.status = .cancelled && task.retirementIsolation

section Reads

variable (s : Store)

def Store.getRun (taskId : String) (runId : String) : Option AgentRun := s.runs (taskId, runId)

/-- `#readActiveRunPointer`. -/
def Store.readActiveRunPointer (taskId : String) (pointer : Pointer) : Option (String × Option AgentRun) :=
  (s.pointers (taskId, pointer)).map fun runId => (runId, s.getRun taskId runId)

/-- A pointer resolved to its Run, with the check of its reader. -/
def Store.resolve (taskId : String) (pointer : Pointer) (text : String) (valid : AgentRun → Bool) :
    Except String (Option AgentRun) :=
  match s.readActiveRunPointer taskId pointer with
  | none => .ok none
  | some (runId, found) =>
    match s.tasks taskId, found with
    | none, _ => .error s!"Active AgentRun Task is missing: {taskId}/{text}"
    | some task, none =>
      if task.isolated = true then .ok none
      else .error s!"Active AgentRun pointer is dangling: {taskId}/{text}"
    | some task, some run =>
      if task.isolated = true then .ok (some run)
      else if (run.id == runId && run.taskId == taskId && run.active && valid run) = true then
        .ok (some run)
      else .error s!"Active AgentRun pointer is invalid: {taskId}/{text}"

/-- `getActiveRun`. -/
def Store.getActiveRun (taskId roleName : String) : Except String (Option AgentRun) :=
  s.resolve taskId (.role roleName) roleName fun run =>
    run.roleName == roleName && run.executionGroupId.isSome == run.executionLaneId.isSome

/-- `getActiveExecutionLaneRun`. `laneKey` stands for the text of the key. -/
def Store.getActiveExecutionLaneRun (taskId executionGroupId executionLaneId : String) :
    Except String (Option AgentRun) :=
  s.resolve taskId (.lane executionGroupId executionLaneId)
    s!"/execution-lane/{executionGroupId}:{executionLaneId}" fun run =>
      run.executionGroupId == some executionGroupId && run.executionLaneId == some executionLaneId

end Reads

section Writes

variable (s : Store)

/-- `saveRun`. `refused` says that it does not match its ReviewRound. -/
def Store.saveRun (run : AgentRun) (refused : Bool) : Except String Store := do
  refuse (s.tasks run.taskId = none) s!"Task not found: {run.taskId}"
  refuse (refused = true) s!"AgentRun does not match ReviewRound: {run.id}."
  .ok { s with runs := Function.update s.runs (run.taskId, run.id) (some run) }

def Store.setPointer (taskId : String) (pointer : Pointer) (runId : String) : Store :=
  { s with pointers := Function.update s.pointers (taskId, pointer) (some runId) }

def Store.deletePointer (taskId : String) (pointer : Pointer) : Store :=
  { s with pointers := Function.update s.pointers (taskId, pointer) none }

def assertActiveRunForWrite (run : AgentRun) (lane : Option (String × String)) : Except String Unit := do
  refuse (run.active = false) s!"Active AgentRun must have active status: {run.id}"
  refuse (run.executionGroupId.isSome ≠ run.executionLaneId.isSome)
    s!"AgentRun execution lineage is incomplete: {run.id}."
  refuse (lane.any (fun lane => run.executionGroupId ≠ some lane.1 ∨ run.executionLaneId ≠ some lane.2) = true)
    s!"Active AgentRun execution lineage does not match its Lane: {run.id}"

def refuseOther (current : Option AgentRun) (run : AgentRun) (message : String) : Except String Unit :=
  refuse (current.any (fun other => other.id ≠ run.id) = true) message

def Store.saveActiveExecutionLaneRun (run : AgentRun) (refused : Bool) : Except String Store :=
  match run.executionGroupId, run.executionLaneId with
  | some groupId, some laneId => do
    refuse ((s.tasks run.taskId).any (fun task => task.status = .active ∧ task.enabled = true) = false)
      s!"Task execution is not enabled: {run.taskId}."
    assertActiveRunForWrite run (some (groupId, laneId))
    let current ← s.getActiveExecutionLaneRun run.taskId groupId laneId
    refuseOther current run
      s!"Execution Lane already has an active AgentRun: {run.taskId}/{groupId}:{laneId}"
    let saved ← s.saveRun run refused
    let pointed := saved.setPointer run.taskId (.lane groupId laneId) run.id
    -- the Role pointer is read before the write
    .ok (match s.readActiveRunPointer run.taskId (.role run.roleName) with
      | none => pointed.setPointer run.taskId (.role run.roleName) run.id
      | some _ => pointed)
  | _, _ => .error s!"Active execution-lane AgentRun requires group and lane ids: {run.id}"

def Store.saveActiveRun (run : AgentRun) (refused : Bool) : Except String Store :=
  if run.executionGroupId ≠ none ∨ run.executionLaneId ≠ none then
    s.saveActiveExecutionLaneRun run refused
  else do
    assertRunAdmission (s.tasks run.taskId) run
    assertActiveRunForWrite run none
    let current ← s.getActiveRun run.taskId run.roleName
    refuseOther current run s!"Role already has an active AgentRun: {run.taskId}/{run.roleName}"
    let saved ← s.saveRun run refused
    .ok (saved.setPointer run.taskId (.role run.roleName) run.id)

/-- The pointers of the other kind that refer to the same Run go with the cleared one. -/
def Store.clear (taskId : String) (pointer : Pointer) (other : Pointer → Bool) : Store :=
  match s.pointers (taskId, pointer) with
  | none => s.deletePointer taskId pointer
  | some runId =>
    let deleted := s.deletePointer taskId pointer
    { deleted with pointers := fun key =>
        if key.1 = taskId ∧ other key.2 = true ∧ deleted.pointers key = some runId then none
        else deleted.pointers key }

def Pointer.isLane : Pointer → Bool
  | .lane _ _ => true
  | .role _ => false

def Store.clearActiveRun (taskId roleName : String) : Store :=
  s.clear taskId (.role roleName) Pointer.isLane

def Store.clearActiveExecutionLaneRun (taskId executionGroupId executionLaneId : String) : Store :=
  s.clear taskId (.lane executionGroupId executionLaneId) fun pointer => !pointer.isLane

/-- The Run of a pointer, stored as ended. -/
def Store.endRun (taskId : String) (runId : Option String) : Store :=
  match runId with
  | none => s
  | some runId =>
    let ended := (s.runs (taskId, runId)).map fun run => { run with active := false }
    { s with runs := Function.update s.runs (taskId, runId) ended }

end Writes

/-- `ends` says that the same transaction ends the Run of the cleared pointer. -/
inductive Op where
  | setTask (taskId : String) (task : Task)
  | saveActiveRun (run : AgentRun) (refused : Bool)
  | saveActiveExecutionLaneRun (run : AgentRun) (refused : Bool)
  | clearActiveRun (taskId roleName : String) (ends : Bool)
  | clearActiveExecutionLaneRun (taskId executionGroupId executionLaneId : String) (ends : Bool)

def step (s : Store) : Op → Except String Store
  | .setTask taskId task => .ok { s with tasks := Function.update s.tasks taskId (some task) }
  | .saveActiveRun run refused => s.saveActiveRun run refused
  | .saveActiveExecutionLaneRun run refused => s.saveActiveExecutionLaneRun run refused
  | .clearActiveRun taskId roleName ends =>
    .ok ((s.clearActiveRun taskId roleName).endRun taskId
      (if ends = true then s.pointers (taskId, .role roleName) else none))
  | .clearActiveExecutionLaneRun taskId groupId laneId ends =>
    .ok ((s.clearActiveExecutionLaneRun taskId groupId laneId).endRun taskId
      (if ends = true then s.pointers (taskId, .lane groupId laneId) else none))

end ActiveRuns
