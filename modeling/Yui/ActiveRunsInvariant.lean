import Yui.ActiveRuns

/-!
# What the active pointers refer to

A pointer refers to a stored active Run of its Role or lane, a lane has one Run, and a Role without a
pointer has no Run in a lane, as long as the Role pointer of a lane is not cleared before its sibling lanes.
-/

open Checked FallibleRun

namespace ActiveRuns

def Pointer.Names : Pointer → AgentRun → Prop
  | .role roleName, run => run.roleName = roleName ∧
      run.executionGroupId.isSome = run.executionLaneId.isSome
  | .lane groupId laneId, run => run.executionGroupId = some groupId ∧ run.executionLaneId = some laneId

def AgentRun.lane? (run : AgentRun) : Option Pointer :=
  run.executionGroupId.bind fun groupId => run.executionLaneId.map fun laneId => .lane groupId laneId

def Store.Points (s : Store) (taskId : String) (pointer : Pointer) (run : AgentRun) : Prop :=
  s.pointers (taskId, pointer) = some run.id ∧ s.runs (taskId, run.id) = some run

theorem Store.Points.eq {s : Store} {taskId runId : String} {pointer : Pointer} {run found : AgentRun}
    (h : s.Points taskId pointer run) (hpointer : s.pointers (taskId, pointer) = some runId)
    (hfound : s.runs (taskId, runId) = some found) : run = found := by
  obtain rfl := Option.some.inj (h.1.symm.trans hpointer)
  exact Option.some.inj (h.2.symm.trans hfound)

/-- What the pointers of a state refer to. -/
structure Sound (s : Store) : Prop where
  refers : ∀ taskId pointer runId, s.pointers (taskId, pointer) = some runId →
    (s.tasks taskId).isSome = true ∧ ∃ run, s.runs (taskId, runId) = some run ∧ run.id = runId ∧
      run.taskId = taskId ∧ run.active = true ∧ pointer.Names run
  held : ∀ taskId roleName run lane, s.Points taskId (.role roleName) run → run.lane? = some lane →
    s.pointers (taskId, lane) = some run.id
  covered : ∀ taskId groupId laneId run, s.Points taskId (.lane groupId laneId) run →
    (s.pointers (taskId, .role run.roleName)).isSome = true
  alone : ∀ taskId roleName run, s.Points taskId (.role roleName) run → run.lane? = none →
    ∀ groupId laneId other, s.Points taskId (.lane groupId laneId) other → other.roleName ≠ roleName

/-- A stored Run keeps its Role and lane. -/
def Store.keeps (s : Store) (run : AgentRun) : Prop :=
  ∀ stored, s.runs (run.taskId, run.id) = some stored → stored.roleName = run.roleName ∧
    stored.executionGroupId = run.executionGroupId ∧ stored.executionLaneId = run.executionLaneId

/-- The cleared Run does not hold the Role of another lane. -/
def Store.last (s : Store) (taskId : String) (pointer : Pointer) : Prop :=
  ∀ run, s.Points taskId pointer run → s.pointers (taskId, .role run.roleName) = some run.id →
    ∀ groupId laneId other, s.Points taskId (.lane groupId laneId) other →
      other.roleName = run.roleName → other.id = run.id

/-- A stored Run keeps its Role and lane, a lane starts while no Run without a lane holds its Role, and the
lane that holds the Role pointer ends last. -/
def Orderly (s : Store) : Op → Prop
  | .setTask _ _ => True
  | .saveActiveRun run _ | .saveActiveExecutionLaneRun run _ => s.keeps run ∧
      (run.executionLaneId ≠ none → ∀ holder, s.Points run.taskId (.role run.roleName) holder →
        holder.lane? ≠ none)
  | .clearActiveRun taskId roleName _ => s.last taskId (.role roleName)
  | .clearActiveExecutionLaneRun taskId groupId laneId _ => s.last taskId (.lane groupId laneId)

section Reads

variable {s t : Store} {run : AgentRun} {taskId : String} {pointer : Pointer}

theorem Sound.resolve (h : Sound s) {text : String} {valid : AgentRun → Bool}
    (hvalid : ∀ run, pointer.Names run → valid run = true) : s.resolve taskId pointer text valid =
      .ok ((s.pointers (taskId, pointer)).bind fun runId => s.runs (taskId, runId)) := by
  unfold Store.resolve Store.readActiveRunPointer Store.getRun
  cases hpointer : s.pointers (taskId, pointer) with
  | none => rfl
  | some runId =>
    obtain ⟨htask, run, hrun, hid, hown, hactive, hnames⟩ := h.refers taskId pointer runId hpointer
    obtain ⟨task, htask⟩ := Option.isSome_iff_exists.1 htask
    rw [Option.map_some, Option.bind_some, htask, hrun]
    dsimp only
    split_ifs with hisolated hfits
    · rfl
    · rfl
    · simp [hid, hown, hactive, hvalid run hnames] at hfits

theorem Sound.getActiveRun (h : Sound s) (taskId roleName : String) : s.getActiveRun taskId roleName =
      .ok ((s.pointers (taskId, .role roleName)).bind fun runId => s.runs (taskId, runId)) := by
  apply h.resolve
  intro run hnames
  simp [hnames.1, hnames.2]

theorem Sound.getActiveExecutionLaneRun (h : Sound s) (taskId groupId laneId : String) :
    s.getActiveExecutionLaneRun taskId groupId laneId =
      .ok ((s.pointers (taskId, .lane groupId laneId)).bind fun runId => s.runs (taskId, runId)) := by
  apply h.resolve
  intro run hnames
  simp [hnames.1, hnames.2]

/-- A pointer that a save accepts refers to no other Run. -/
theorem Sound.current_same (h : Sound s) {message : String}
    (hother : refuseOther ((s.pointers (taskId, pointer)).bind fun runId => s.runs (taskId, runId))
      run message = .ok ()) {runId : String} (hpointer : s.pointers (taskId, pointer) = some runId) :
    runId = run.id := by
  obtain ⟨_, stored, hstored, hid, _⟩ := h.refers taskId pointer runId hpointer
  have hsame := refuse_ok hother
  rw [hpointer, Option.bind_some, hstored, Option.any_some] at hsame
  simpa [hid] using hsame

theorem lane?_some {lane : Pointer} (h : run.lane? = some lane) :
    ∃ groupId laneId, lane = .lane groupId laneId ∧ run.executionGroupId = some groupId ∧
      run.executionLaneId = some laneId := by
  obtain ⟨groupId, hgroup, hlane⟩ := Option.bind_eq_some_iff.1 h
  obtain ⟨laneId, hlaneId, rfl⟩ := Option.map_eq_some_iff.1 hlane
  exact ⟨groupId, laneId, rfl, hgroup, hlaneId⟩

theorem lane?_of_names {groupId laneId : String} (h : (Pointer.lane groupId laneId).Names run) :
    run.lane? = some (.lane groupId laneId) := by
  unfold AgentRun.lane?
  rw [h.1, h.2]
  rfl

end Reads

section Saves

variable {s t : Store} {run : AgentRun}

def Store.withRun (s : Store) (run : AgentRun) : Store :=
  { s with runs := Function.update s.runs (run.taskId, run.id) (some run) }

theorem points_withRun {taskId : String} {pointer : Pointer} {other : AgentRun} (h : Sound s)
    (hkeeps : s.keeps run) (hpoints : (s.withRun run).Points taskId pointer other) :
    ∃ old, s.Points taskId pointer old ∧ old.id = other.id ∧ old.roleName = other.roleName ∧
      old.lane? = other.lane? := by
  obtain ⟨hpointer, hrun⟩ := hpoints
  obtain ⟨_, old, hold, hid, _⟩ := h.refers taskId pointer other.id hpointer
  refine ⟨old, ⟨by rw [hid]; exact hpointer, by rw [hid]; exact hold⟩, hid, ?_⟩
  by_cases hsame : (taskId, other.id) = (run.taskId, run.id)
  · have hother : other = run := by
      have hupdated : (s.withRun run).runs (taskId, other.id) = some run := by
        rw [hsame]
        exact Function.update_self ..
      exact Option.some.inj (hrun.symm.trans hupdated)
    rw [hsame] at hold
    obtain ⟨hrole, hgroup, hlane⟩ := hkeeps old hold
    rw [hother]
    unfold AgentRun.lane?
    rw [hgroup, hlane]
    exact ⟨hrole, rfl⟩
  · have hkept : (s.withRun run).runs (taskId, other.id) = s.runs (taskId, other.id) :=
      Function.update_of_ne hsame _ _
    rw [Option.some.inj (hold.symm.trans (hkept.symm.trans hrun))]
    exact ⟨rfl, rfl⟩

theorem Sound.withRun (h : Sound s) (hkeeps : s.keeps run) (hactive : run.active = true) : Sound (s.withRun run) := by
  refine ⟨fun taskId pointer runId hpointer => ?_, fun taskId roleName other lane hpoints hlane => ?_,
    fun taskId groupId laneId other hpoints => ?_,
    fun taskId roleName other hpoints hlane groupId laneId lane hlanes => ?_⟩
  · obtain ⟨htask, old, hold, hid, hown, hrunning, hnames⟩ := h.refers taskId pointer runId hpointer
    refine ⟨htask, ?_⟩
    by_cases hsame : (taskId, runId) = (run.taskId, run.id)
    · refine ⟨run, ?_, congrArg Prod.snd hsame.symm, congrArg Prod.fst hsame.symm, hactive, ?_⟩
      · rw [hsame]
        exact Function.update_self ..
      · rw [hsame] at hold
        obtain ⟨hrole, hgroup, hlane⟩ := hkeeps old hold
        cases pointer with
        | role roleName => exact ⟨hrole ▸ hnames.1, hgroup ▸ hlane ▸ hnames.2⟩
        | lane groupId laneId => exact ⟨hgroup ▸ hnames.1, hlane ▸ hnames.2⟩
    · exact ⟨old, (Function.update_of_ne hsame _ _).trans hold, hid, hown, hrunning, hnames⟩
  · obtain ⟨old, hold, hid, _, hlane'⟩ := points_withRun h hkeeps hpoints
    rw [← hid]
    exact h.held taskId roleName old lane hold (hlane'.trans hlane)
  · obtain ⟨old, hold, _, hrole, _⟩ := points_withRun h hkeeps hpoints
    rw [← hrole]
    exact h.covered taskId groupId laneId old hold
  · obtain ⟨old, hold, _, _, hlane'⟩ := points_withRun h hkeeps hpoints
    obtain ⟨olds, holds, _, hrole, _⟩ := points_withRun h hkeeps hlanes
    rw [← hrole]
    exact h.alone taskId roleName old hold (hlane'.trans hlane) groupId laneId olds holds

theorem Sound.setRole (h : Sound s) (hstored : s.runs (run.taskId, run.id) = some run)
    (htask : (s.tasks run.taskId).isSome = true) (hactive : run.active = true)
    (hgroup : run.executionGroupId = none) (hlane : run.executionLaneId = none)
    (hfree : ∀ groupId laneId other, s.Points run.taskId (.lane groupId laneId) other →
      other.roleName ≠ run.roleName) : Sound (s.setPointer run.taskId (.role run.roleName) run.id) := by
  have hself : (s.setPointer run.taskId (.role run.roleName) run.id).pointers
      (run.taskId, .role run.roleName) = some run.id := Function.update_self ..
  have hother : ∀ key, key ≠ (run.taskId, Pointer.role run.roleName) →
      (s.setPointer run.taskId (.role run.roleName) run.id).pointers key = s.pointers key :=
    fun key hne => Function.update_of_ne hne _ _
  have hlanes : ∀ taskId groupId laneId, (s.setPointer run.taskId (.role run.roleName) run.id).pointers
      (taskId, .lane groupId laneId) = s.pointers (taskId, .lane groupId laneId) :=
    fun taskId groupId laneId => hother _ (by simp)
  have hnone : run.lane? = none := by
    unfold AgentRun.lane?
    rw [hgroup]
    rfl
  have hmine : ∀ other, (s.setPointer run.taskId (.role run.roleName) run.id).Points run.taskId
      (.role run.roleName) other → other = run := by
    rintro other ⟨hpointer, hrun⟩
    rw [hself] at hpointer
    rw [← Option.some.inj hpointer] at hrun
    exact (Option.some.inj (hstored.symm.trans hrun)).symm
  refine ⟨fun taskId pointer runId hpointer => ?_, fun taskId roleName other lane hpoints hsome => ?_,
    fun taskId groupId laneId other hpoints => ?_,
    fun taskId roleName other hpoints hother? groupId laneId lane hlanePoints => ?_⟩
  · by_cases hkey : (taskId, pointer) = (run.taskId, Pointer.role run.roleName)
    · cases hkey
      rw [hself] at hpointer
      refine ⟨htask, run, ?_, Option.some.inj hpointer, rfl, hactive, rfl, by rw [hgroup, hlane]⟩
      rw [← Option.some.inj hpointer]
      exact hstored
    · rw [hother _ hkey] at hpointer
      exact h.refers taskId pointer runId hpointer
  · obtain ⟨groupId, laneId, rfl, _, _⟩ := lane?_some hsome
    rw [hlanes]
    by_cases hkey : (taskId, Pointer.role roleName) = (run.taskId, Pointer.role run.roleName)
    · cases hkey
      rw [hmine other hpoints, hnone] at hsome
      cases hsome
    · have hold : s.Points taskId (.role roleName) other := ⟨(hother _ hkey).symm.trans hpoints.1, hpoints.2⟩
      exact h.held taskId roleName other _ hold hsome
  · have hold : s.Points taskId (.lane groupId laneId) other :=
      ⟨(hlanes taskId groupId laneId).symm.trans hpoints.1, hpoints.2⟩
    by_cases hkey : (taskId, Pointer.role other.roleName) = (run.taskId, Pointer.role run.roleName)
    · rw [hkey, hself]
      rfl
    · rw [hother _ hkey]
      exact h.covered taskId groupId laneId other hold
  · have hold : s.Points taskId (.lane groupId laneId) lane :=
      ⟨(hlanes taskId groupId laneId).symm.trans hlanePoints.1, hlanePoints.2⟩
    by_cases hkey : (taskId, Pointer.role roleName) = (run.taskId, Pointer.role run.roleName)
    · cases hkey
      exact hfree groupId laneId lane hold
    · have hrole : s.Points taskId (.role roleName) other := ⟨(hother _ hkey).symm.trans hpoints.1, hpoints.2⟩
      exact h.alone taskId roleName other hrole hother? groupId laneId lane hold

/-- The pointers after a lane was saved. -/
def Store.pointLane (s : Store) (run : AgentRun) (groupId laneId : String) : Store :=
  { s with pointers := fun key =>
      if key = (run.taskId, .lane groupId laneId) then some run.id
      else if key = (run.taskId, .role run.roleName) then
        some ((s.pointers key).getD run.id)
      else s.pointers key }

theorem Sound.pointLane (h : Sound s) (hstored : s.runs (run.taskId, run.id) = some run)
    (htask : (s.tasks run.taskId).isSome = true) (hactive : run.active = true) {groupId laneId : String}
    (hgroup : run.executionGroupId = some groupId) (hlane : run.executionLaneId = some laneId)
    (hsame : ∀ runId, s.pointers (run.taskId, .lane groupId laneId) = some runId → runId = run.id)
    (hholder : ∀ holder, s.Points run.taskId (.role run.roleName) holder → holder.lane? ≠ none) :
    Sound (s.pointLane run groupId laneId) := by
  have hself : (s.pointLane run groupId laneId).pointers (run.taskId, .lane groupId laneId) =
      some run.id := by simp [Store.pointLane]
  have hrole : (s.pointLane run groupId laneId).pointers (run.taskId, .role run.roleName) =
      some ((s.pointers (run.taskId, .role run.roleName)).getD run.id) := by simp [Store.pointLane]
  have hlaneKey : run.lane? = some (.lane groupId laneId) := lane?_of_names ⟨hgroup, hlane⟩
  -- a pointer of the new state is an old one, or one of the saved Run
  have hpointer : ∀ taskId pointer runId, (s.pointLane run groupId laneId).pointers (taskId, pointer) =
      some runId → s.pointers (taskId, pointer) = some runId ∨
        (taskId = run.taskId ∧ runId = run.id ∧
          (pointer = .lane groupId laneId ∨ pointer = .role run.roleName)) := by
    intro taskId pointer runId hsome
    by_cases hlaneEq : (taskId, pointer) = (run.taskId, Pointer.lane groupId laneId)
    · cases hlaneEq
      exact .inr ⟨rfl, (Option.some.inj (hself.symm.trans hsome)).symm, .inl rfl⟩
    · by_cases hroleEq : (taskId, pointer) = (run.taskId, Pointer.role run.roleName)
      · cases hroleEq
        rw [hrole] at hsome
        cases hold : s.pointers (run.taskId, .role run.roleName) with
        | none =>
          rw [hold] at hsome
          exact .inr ⟨rfl, (Option.some.inj hsome).symm, .inr rfl⟩
        | some old =>
          rw [hold] at hsome
          exact .inl hsome
      · unfold Store.pointLane at hsome
        simp only [if_neg hlaneEq, if_neg hroleEq] at hsome
        exact .inl hsome
  have hkept : ∀ taskId lane runId, s.pointers (taskId, lane) = some runId →
      (s.pointLane run groupId laneId).pointers (taskId, lane) = some runId := by
    intro taskId lane runId hold
    by_cases hlaneEq : (taskId, lane) = (run.taskId, Pointer.lane groupId laneId)
    · cases hlaneEq
      rw [hself, hsame runId hold]
    · by_cases hroleEq : (taskId, lane) = (run.taskId, Pointer.role run.roleName)
      · cases hroleEq
        rw [hrole, hold]
        rfl
      · unfold Store.pointLane
        simp only [if_neg hlaneEq, if_neg hroleEq]
        exact hold
  have hpoints : ∀ taskId pointer other, (s.pointLane run groupId laneId).Points taskId pointer other →
      s.Points taskId pointer other ∨ (taskId = run.taskId ∧ other = run) := by
    rintro taskId pointer other ⟨hsome, hrun⟩
    rcases hpointer taskId pointer other.id hsome with hold | ⟨rfl, hid, _⟩
    · exact .inl ⟨hold, hrun⟩
    · refine .inr ⟨rfl, ?_⟩
      rw [hid] at hrun
      exact (Option.some.inj (hstored.symm.trans hrun)).symm
  refine ⟨fun taskId pointer runId hsome => ?_, fun taskId roleName other lane hrolePoints hsome => ?_,
    fun taskId group lane other hlanePoints => ?_,
    fun taskId roleName other hrolePoints hnone group lane more hlanePoints => ?_⟩
  · rcases hpointer taskId pointer runId hsome with hold | ⟨rfl, rfl, hkind⟩
    · exact h.refers taskId pointer runId hold
    · refine ⟨htask, run, hstored, rfl, rfl, hactive, ?_⟩
      rcases hkind with rfl | rfl
      · exact ⟨hgroup, hlane⟩
      · exact ⟨rfl, by rw [hgroup, hlane]; rfl⟩
  · rcases hpoints taskId (.role roleName) other hrolePoints with hold | ⟨rfl, rfl⟩
    · exact hkept _ _ _ (h.held taskId roleName other lane hold hsome)
    · rw [hlaneKey] at hsome
      rw [← Option.some.inj hsome]
      exact hself
  · rcases hpoints taskId (.lane group lane) other hlanePoints with hold | ⟨rfl, rfl⟩
    · obtain ⟨runId, hrunId⟩ := Option.isSome_iff_exists.1 (h.covered taskId group lane other hold)
      rw [hkept _ _ _ hrunId]
      rfl
    · rw [hrole]
      rfl
  · rcases hpoints taskId (.role roleName) other hrolePoints with hold | ⟨rfl, rfl⟩
    · rcases hpoints taskId (.lane group lane) more hlanePoints with holdLane | ⟨rfl, rfl⟩
      · exact h.alone taskId roleName other hold hnone group lane more holdLane
      · rintro rfl
        exact hholder other hold hnone
    · rw [hlaneKey] at hnone
      cases hnone

end Saves

section Steps

variable {s t : Store} {run : AgentRun} {refused : Bool}

theorem saveRun_ok (h : s.saveRun run refused = .ok t) : (s.tasks run.taskId).isSome = true ∧ t = s.withRun run := by
  unfold Store.saveRun at h
  obtain ⟨_, htask, _, _, h⟩ := bind_ok₂ h
  exact ⟨Option.isSome_iff_ne_none.2 (refuse_ok htask), (Except.ok.inj h).symm⟩

theorem assertActive_ok {lane : Option (String × String)}
    (h : assertActiveRunForWrite run lane = .ok ()) : run.active = true := by
  unfold assertActiveRunForWrite at h
  obtain ⟨_, hactive, _⟩ := bind_ok h
  simpa using refuse_ok hactive

theorem saveLane_ok (h : Sound s) (hsave : s.saveActiveExecutionLaneRun run refused = .ok t) :
    ∃ groupId laneId, run.executionGroupId = some groupId ∧ run.executionLaneId = some laneId ∧
      run.active = true ∧ (s.tasks run.taskId).isSome = true ∧
      (∀ runId, s.pointers (run.taskId, .lane groupId laneId) = some runId → runId = run.id) ∧
      t = (s.withRun run).pointLane run groupId laneId := by
  unfold Store.saveActiveExecutionLaneRun at hsave
  cases hgroup : run.executionGroupId with
  | none =>
    rw [hgroup] at hsave
    cases hsave
  | some groupId =>
    cases hlane : run.executionLaneId with
    | none =>
      rw [hgroup, hlane] at hsave
      cases hsave
    | some laneId =>
      rw [hgroup, hlane] at hsave
      obtain ⟨_, _, _, hactive, current, hcurrent, _, hother, hsave⟩ := bind_ok₄ hsave
      obtain ⟨saved, hsaved, hsave⟩ := bind_ok hsave
      rw [h.getActiveExecutionLaneRun] at hcurrent
      rw [← Except.ok.inj hcurrent] at hother
      obtain ⟨htask, rfl⟩ := saveRun_ok hsaved
      refine ⟨groupId, laneId, rfl, rfl, assertActive_ok hactive, htask, fun runId => h.current_same hother, ?_⟩
      rw [← Except.ok.inj hsave]
      unfold Store.readActiveRunPointer Store.pointLane Store.setPointer
      cases hrole : s.pointers (run.taskId, .role run.roleName) with
      | none =>
        simp only [Option.map_none, Store.mk.injEq, true_and]
        funext key
        by_cases hlaneEq : key = (run.taskId, Pointer.lane groupId laneId)
        · subst hlaneEq
          simp
        · by_cases hroleEq : key = (run.taskId, Pointer.role run.roleName)
          · subst hroleEq
            simp [Store.withRun, hrole]
          · simp [hlaneEq, hroleEq]
      | some holder =>
        simp only [Option.map_some, Store.mk.injEq, true_and]
        funext key
        by_cases hlaneEq : key = (run.taskId, Pointer.lane groupId laneId)
        · subst hlaneEq
          simp
        · by_cases hroleEq : key = (run.taskId, Pointer.role run.roleName)
          · subst hroleEq
            simp [Store.withRun, hrole]
          · simp [hlaneEq, hroleEq]

theorem saveRole_ok (h : Sound s) (hgroup : run.executionGroupId = none)
    (hlane : run.executionLaneId = none) (hsave : s.saveActiveRun run refused = .ok t) :
    run.active = true ∧ (s.tasks run.taskId).isSome = true ∧
      (∀ runId, s.pointers (run.taskId, .role run.roleName) = some runId → runId = run.id) ∧
      t = (s.withRun run).setPointer run.taskId (.role run.roleName) run.id := by
  unfold Store.saveActiveRun at hsave
  rw [if_neg (by simp [hgroup, hlane])] at hsave
  obtain ⟨_, _, _, hactive, current, hcurrent, _, hother, hsave⟩ := bind_ok₄ hsave
  obtain ⟨saved, hsaved, hsave⟩ := bind_ok hsave
  rw [h.getActiveRun] at hcurrent
  rw [← Except.ok.inj hcurrent] at hother
  obtain ⟨htask, rfl⟩ := saveRun_ok hsaved
  exact ⟨assertActive_ok hactive, htask, fun runId => h.current_same hother, (Except.ok.inj hsave).symm⟩

theorem Sound.role_free (h : Sound s) (hkeeps : s.keeps run) (hgroup : run.executionGroupId = none)
    (hsame : ∀ runId, s.pointers (run.taskId, .role run.roleName) = some runId → runId = run.id)
    {groupId laneId : String} {other : AgentRun} (hlane : s.Points run.taskId (.lane groupId laneId) other) :
    other.roleName ≠ run.roleName := by
  intro hrole
  obtain ⟨holderId, hpointer⟩ := Option.isSome_iff_exists.1 (h.covered run.taskId groupId laneId other hlane)
  rw [hrole] at hpointer
  have hid := hsame holderId hpointer
  obtain ⟨_, holder, hholder, hholderId, _⟩ := h.refers run.taskId _ holderId hpointer
  have hpoints : s.Points run.taskId (.role run.roleName) holder := by
    unfold Store.Points
    rw [hholderId]
    exact ⟨hpointer, hholder⟩
  rw [hid] at hholder
  have hnone : holder.lane? = none := by
    unfold AgentRun.lane?
    rw [(hkeeps holder hholder).2.1, hgroup]
    rfl
  exact h.alone run.taskId run.roleName holder hpoints hnone groupId laneId other hlane hrole

theorem Sound.saveRole (h : Sound s) (hkeeps : s.keeps run) (hgroup : run.executionGroupId = none)
    (hlane : run.executionLaneId = none) (hsave : s.saveActiveRun run refused = .ok t) : Sound t := by
  obtain ⟨hactive, htask, hsame, rfl⟩ := saveRole_ok h hgroup hlane hsave
  apply (h.withRun hkeeps hactive).setRole (Function.update_self ..) htask hactive hgroup hlane
  intro groupId laneId other hother
  obtain ⟨old, hold, _, hrole, _⟩ := points_withRun h hkeeps hother
  rw [← hrole]
  exact h.role_free hkeeps hgroup hsame hold

theorem Sound.saveLane (h : Sound s) (hkeeps : s.keeps run)
    (hholder : run.executionLaneId ≠ none → ∀ holder, s.Points run.taskId (.role run.roleName) holder →
      holder.lane? ≠ none) (hsave : s.saveActiveExecutionLaneRun run refused = .ok t) : Sound t := by
  obtain ⟨groupId, laneId, hgroup, hlane, hactive, htask, hsame, rfl⟩ := saveLane_ok h hsave
  apply (h.withRun hkeeps hactive).pointLane (Function.update_self ..) htask hactive hgroup hlane hsame
  intro holder hpoints
  obtain ⟨old, hold, _, _, hlane'⟩ := points_withRun h hkeeps hpoints
  rw [← hlane']
  exact hholder (by rw [hlane]; simp) old hold

theorem names_cases {pointer pointer' : Pointer} (h : pointer.Names run) (h' : pointer'.Names run) :
    pointer = pointer' ∨ pointer.isLane ≠ pointer'.isLane := by
  cases pointer with
  | role roleName =>
    cases pointer' with
    | role roleName' => exact .inl (by rw [← h.1, ← h'.1])
    | lane groupId laneId => exact .inr (by simp [Pointer.isLane])
  | lane groupId laneId =>
    cases pointer' with
    | role roleName' => exact .inr (by simp [Pointer.isLane])
    | lane groupId' laneId' =>
      have hgroup := Option.some.inj (h.1.symm.trans h'.1)
      have hlane := Option.some.inj (h.2.symm.trans h'.2)
      exact .inl (by rw [hgroup, hlane])

theorem Sound.clear_pointers (h : Sound s) {taskId : String} {pointer : Pointer} {other : Pointer → Bool}
    (hother : ∀ pointer', other pointer' = true ↔ pointer'.isLane ≠ pointer.isLane) (key : String × Pointer) :
    (s.clear taskId pointer other).pointers key =
      if key.1 = taskId ∧ (s.pointers (taskId, pointer)).isSome = true ∧
        s.pointers key = s.pointers (taskId, pointer) then none else s.pointers key := by
  unfold Store.clear
  cases hpointer : s.pointers (taskId, pointer) with
  | none =>
    by_cases hkey : key = (taskId, pointer)
    · subst hkey
      simp [Store.deletePointer, hpointer]
    · simp [Store.deletePointer, hkey]
  | some runId =>
    obtain ⟨_, run, hrun, _, _, _, hnames⟩ := h.refers taskId pointer runId hpointer
    by_cases hkey : key = (taskId, pointer)
    · subst hkey
      simp [Store.deletePointer, hpointer]
    · have hdeleted : (s.deletePointer taskId pointer).pointers key = s.pointers key := Function.update_of_ne hkey _ _
      dsimp only
      rw [hdeleted]
      by_cases hsame : key.1 = taskId ∧ s.pointers key = some runId
      · obtain ⟨htask, hsome⟩ := hsame
        obtain ⟨task, pointer'⟩ := key
        dsimp only at htask
        subst htask
        obtain ⟨_, run', hrun', _, _, _, hnames'⟩ := h.refers task pointer' runId hsome
        rw [← Option.some.inj (hrun.symm.trans hrun')] at hnames'
        have hkind : other pointer' = true := by
          rcases names_cases hnames' hnames with rfl | hne
          · exact absurd rfl hkey
          · exact (hother pointer').2 hne
        rw [if_pos ⟨rfl, hkind, hsome⟩, if_pos ⟨rfl, rfl, hsome⟩]
      · rw [if_neg (fun hall => hsame ⟨hall.1, hall.2.2⟩), if_neg (fun hall => hsame ⟨hall.1, hall.2.2⟩)]

theorem Sound.without (h : Sound s) (taskId runId : String) (htasks : t.tasks = s.tasks)
    (hruns : ∀ task id, ¬(task = taskId ∧ id = runId) → t.runs (task, id) = s.runs (task, id))
    (hpointers : ∀ task pointer id, t.pointers (task, pointer) = some id ↔
      s.pointers (task, pointer) = some id ∧ ¬(task = taskId ∧ id = runId))
    (hlast : ∀ groupId laneId other, s.Points taskId (.lane groupId laneId) other →
      s.pointers (taskId, .role other.roleName) = some runId → other.id = runId) : Sound t := by
  have hpoints : ∀ task pointer other, t.Points task pointer other →
      s.Points task pointer other ∧ ¬(task = taskId ∧ other.id = runId) := by
    rintro task pointer other ⟨hsome, hrun⟩
    obtain ⟨hold, hne⟩ := (hpointers task pointer other.id).1 hsome
    rw [hruns task other.id hne] at hrun
    exact ⟨⟨hold, hrun⟩, hne⟩
  refine ⟨fun task pointer id hsome => ?_, fun task roleName other lane hrole hlane => ?_,
    fun task groupId laneId other hlane => ?_,
    fun task roleName other hrole hnone groupId laneId lane hlane => ?_⟩
  · obtain ⟨hold, hne⟩ := (hpointers task pointer id).1 hsome
    obtain ⟨htask, run, hrun, hrest⟩ := h.refers task pointer id hold
    exact ⟨by rw [htasks]; exact htask, run, (hruns task id hne).trans hrun, hrest⟩
  · obtain ⟨hold, hne⟩ := hpoints task _ other hrole
    exact (hpointers _ _ _).2 ⟨h.held task roleName other lane hold hlane, hne⟩
  · obtain ⟨hold, hne⟩ := hpoints task _ other hlane
    obtain ⟨id, hid⟩ := Option.isSome_iff_exists.1 (h.covered task groupId laneId other hold)
    by_cases hgone : task = taskId ∧ id = runId
    · obtain ⟨rfl, rfl⟩ := hgone
      exact absurd ⟨rfl, hlast groupId laneId other hold hid⟩ hne
    · rw [(hpointers _ _ _).2 ⟨hid, hgone⟩]
      rfl
  · exact h.alone task roleName other (hpoints task _ other hrole).1 hnone groupId laneId lane
      (hpoints task _ lane hlane).1

theorem Sound.clear (h : Sound s) {taskId : String} {pointer : Pointer} {other : Pointer → Bool}
    (hother : ∀ pointer', other pointer' = true ↔ pointer'.isLane ≠ pointer.isLane)
    (hlast : s.last taskId pointer) (ends : Bool) : Sound ((s.clear taskId pointer other).endRun taskId
      (if ends = true then s.pointers (taskId, pointer) else none)) := by
  have hcleared : ∀ key, (s.clear taskId pointer other).pointers key = _ := h.clear_pointers hother
  cases hpointer : s.pointers (taskId, pointer) with
  | none =>
    have hsame : s.clear taskId pointer other = s := by
      have hpointers : (s.clear taskId pointer other).pointers = s.pointers := by
        funext key
        rw [hcleared key, hpointer]
        simp
      unfold Store.clear at hpointers ⊢
      rw [hpointer] at hpointers ⊢
      dsimp only at hpointers ⊢
      unfold Store.deletePointer at hpointers ⊢
      rw [show Function.update s.pointers (taskId, pointer) none = s.pointers from hpointers]
    rw [hsame, ite_self]
    exact h
  | some runId =>
    obtain ⟨_, run, hrun, hid, _, _, _⟩ := h.refers taskId pointer runId hpointer
    have hpoints : s.Points taskId pointer run := by
      unfold Store.Points
      rw [hid]
      exact ⟨hpointer, hrun⟩
    have hpointers : ∀ task pointer' id, (s.clear taskId pointer other).pointers (task, pointer') = some id ↔
        s.pointers (task, pointer') = some id ∧ ¬(task = taskId ∧ id = runId) := by
      intro task pointer' id
      rw [hcleared (task, pointer'), hpointer]
      by_cases hgone : task = taskId ∧ s.pointers (task, pointer') = some runId
      · rw [if_pos ⟨hgone.1, rfl, hgone.2⟩]
        refine ⟨(by simp), fun ⟨hsome, hne⟩ => ?_⟩
        exact absurd ⟨hgone.1, Option.some.inj (hsome.symm.trans hgone.2)⟩ hne
      · rw [if_neg fun hall => hgone ⟨hall.1, hall.2.2⟩]
        refine ⟨fun hsome => ⟨hsome, ?_⟩, fun h => h.1⟩
        rintro ⟨htask, rfl⟩
        exact hgone ⟨htask, hsome⟩
    apply h.without taskId runId
    · cases ends <;> cases hp : s.pointers (taskId, pointer) <;> simp [Store.endRun, Store.clear, Store.deletePointer, hp]
    · intro task id hne
      have hkey : (task, id) ≠ (taskId, runId) := fun heq => hne ⟨congrArg Prod.fst heq, congrArg Prod.snd heq⟩
      cases ends <;> simp [Store.endRun, Store.clear, Store.deletePointer, hpointer, hkey]
    · cases ends with
      | false => exact hpointers
      | true => exact hpointers
    · intro groupId laneId lane hlane hholder
      obtain ⟨_, holder, hholderRun, _, _, _, hnames⟩ := h.refers taskId _ runId hholder
      rw [← Option.some.inj (hrun.symm.trans hholderRun)] at hnames
      have hrole : run.roleName = lane.roleName := hnames.1
      rw [← hid]
      apply hlast run hpoints _ groupId laneId lane hlane hrole.symm
      rw [hrole, hid]
      exact hholder

theorem step_sound (h : Sound s) {op : Op} (horderly : Orderly s op) (hstep : step s op = .ok t) : Sound t := by
  cases op with
  | setTask taskId task =>
    rw [← Except.ok.inj hstep]
    refine ⟨fun task' pointer runId hpointer => ?_, h.held, h.covered, h.alone⟩
    obtain ⟨htask, hrest⟩ := h.refers task' pointer runId hpointer
    refine ⟨?_, hrest⟩
    by_cases hsame : task' = taskId
    · subst hsame
      simp
    · simp [hsame, htask]
  | saveActiveRun run refused =>
    by_cases hlaneless : run.executionGroupId = none ∧ run.executionLaneId = none
    · exact h.saveRole horderly.1 hlaneless.1 hlaneless.2 hstep
    · have hlane : s.saveActiveExecutionLaneRun run refused = .ok t := by
        have hsave : s.saveActiveRun run refused = .ok t := hstep
        unfold Store.saveActiveRun at hsave
        rw [if_pos (by tauto)] at hsave
        exact hsave
      exact h.saveLane horderly.1 horderly.2 hlane
  | saveActiveExecutionLaneRun run refused => exact h.saveLane horderly.1 horderly.2 hstep
  | clearActiveRun taskId roleName ends =>
    rw [← Except.ok.inj hstep]
    exact h.clear (by intro pointer'; cases pointer' <;> simp [Pointer.isLane]) horderly ends
  | clearActiveExecutionLaneRun taskId groupId laneId ends =>
    rw [← Except.ok.inj hstep]
    exact h.clear (by intro pointer'; cases pointer' <;> simp [Pointer.isLane]) horderly ends

theorem initial_sound (tasks : String → Option Task) : Sound (Store.initial tasks) where
  refers _ _ _ h := by cases h
  held _ _ _ _ h := by cases h.1
  covered _ _ _ _ h := by cases h.1
  alone _ _ _ h := by cases h.1

end Steps

section Runs

/-- What a reader of the pointers may rely on. -/
structure Pointed (s : Store) : Prop where
  role : ∀ taskId roleName runId, s.pointers (taskId, .role roleName) = some runId →
    ∃ run, s.runs (taskId, runId) = some run ∧ run.roleName = roleName
  lane : ∀ taskId groupId laneId runId, s.pointers (taskId, .lane groupId laneId) = some runId →
    ∃ run, s.runs (taskId, runId) = some run ∧ run.executionGroupId = some groupId ∧
      run.executionLaneId = some laneId
  readable : ∀ taskId roleName, (s.getActiveRun taskId roleName).isOk = true
  laneReadable : ∀ taskId groupId laneId, (s.getActiveExecutionLaneRun taskId groupId laneId).isOk = true
  single : ∀ taskId pointer pointer' run run' lane, s.Points taskId pointer run →
    s.Points taskId pointer' run' → run.lane? = some lane → run'.lane? = some lane → run.id = run'.id

/-- A Run without a lane that is saved is the only Run of its Role with a pointer. -/
def Admits (s : Store) : Prop :=
  ∀ run refused t, s.saveActiveRun run refused = .ok t → s.keeps run → run.executionGroupId = none →
    run.executionLaneId = none → ∀ pointer other, s.Points run.taskId pointer other →
      other.roleName = run.roleName → other.id = run.id

/-- A clear removes the pointers that refer to the Run of the cleared one, and leaves every other. -/
structure Clears (s : Store) : Prop where
  role : ∀ taskId roleName key, (s.clearActiveRun taskId roleName).pointers key =
    if key.1 = taskId ∧ (s.pointers (taskId, .role roleName)).isSome = true ∧
      s.pointers key = s.pointers (taskId, .role roleName) then none else s.pointers key
  lane : ∀ taskId groupId laneId key,
    (s.clearActiveExecutionLaneRun taskId groupId laneId).pointers key =
      if key.1 = taskId ∧ (s.pointers (taskId, .lane groupId laneId)).isSome = true ∧
        s.pointers key = s.pointers (taskId, .lane groupId laneId) then none else s.pointers key

variable {s : Store}

theorem Sound.lane_pointer (h : Sound s) {taskId : String} {pointer lane : Pointer} {run : AgentRun}
    (hpoints : s.Points taskId pointer run) (hlane : run.lane? = some lane) :
    s.pointers (taskId, lane) = some run.id := by
  cases pointer with
  | role roleName => exact h.held taskId roleName run lane hpoints hlane
  | lane groupId laneId =>
    obtain ⟨_, stored, hstored, _, _, _, hnames⟩ := h.refers taskId _ run.id hpoints.1
    rw [← Option.some.inj (hpoints.2.symm.trans hstored)] at hnames
    rw [lane?_of_names hnames] at hlane
    rw [← Option.some.inj hlane]
    exact hpoints.1

theorem Sound.pointed (h : Sound s) : Pointed s := by
  refine ⟨fun taskId roleName runId hpointer => ?_, fun taskId groupId laneId runId hpointer => ?_,
    fun taskId roleName => by rw [h.getActiveRun]; rfl,
    fun taskId groupId laneId => by rw [h.getActiveExecutionLaneRun]; rfl,
    fun taskId pointer pointer' run run' lane hpoints hpoints' hlane hlane' => ?_⟩
  · obtain ⟨_, run, hrun, _, _, _, hnames⟩ := h.refers taskId _ runId hpointer
    exact ⟨run, hrun, hnames.1⟩
  · obtain ⟨_, run, hrun, _, _, _, hnames⟩ := h.refers taskId _ runId hpointer
    exact ⟨run, hrun, hnames.1, hnames.2⟩
  · have hfirst := h.lane_pointer hpoints hlane
    have hsecond := h.lane_pointer hpoints' hlane'
    exact Option.some.inj (hfirst.symm.trans hsecond)

theorem Sound.admits (h : Sound s) : Admits s := by
  intro run refused t hsave hkeeps hgroup hlane pointer other hpoints hrole
  obtain ⟨_, _, hsame, _⟩ := saveRole_ok h hgroup hlane hsave
  cases pointer with
  | role roleName =>
    obtain ⟨_, stored, hstored, _, _, _, hnames⟩ := h.refers run.taskId _ other.id hpoints.1
    rw [← Option.some.inj (hpoints.2.symm.trans hstored)] at hnames
    have hname : run.roleName = roleName := hrole.symm.trans hnames.1
    apply hsame
    rw [hname]
    exact hpoints.1
  | lane groupId laneId => exact absurd hrole (h.role_free hkeeps hgroup hsame hpoints)

theorem Sound.clears (h : Sound s) : Clears s where
  role _ _ key := h.clear_pointers (by intro pointer'; cases pointer' <;> simp [Pointer.isLane]) key
  lane _ _ _ key := h.clear_pointers (by intro pointer'; cases pointer' <;> simp [Pointer.isLane]) key

/-- In an orderly run the pointers refer to what their keys name, and a Role admits one Run. -/
theorem orderly_pointers (tasks : String → Option Task) (ops : List Op)
    (h : Along step Orderly (Store.initial tasks) ops) :
    Pointed (run step (Store.initial tasks) ops) ∧ Admits (run step (Store.initial tasks) ops) ∧
      Clears (run step (Store.initial tasks) ops) := by
  have hrun : Sound (run step (Store.initial tasks) ops) ∧ True := by
    apply run_relates (R := fun _ _ => True) (fun _ _ => trivial) (fun _ _ _ _ _ => trivial) _ (initial_sound tasks) h
    intro s op t hs horderly hstep
    exact ⟨step_sound hs horderly hstep, trivial⟩
  exact ⟨hrun.1.pointed, hrun.1.admits, hrun.1.clears⟩

def activeTask : Task := ⟨.active, true, false⟩

def workerRun (id : String) (lane : Option String) : AgentRun :=
  ⟨id, "task-1", "worker", false, true, lane.map fun _ => "group-1", lane⟩

/-- Two lanes of a Role are started. -/
def laneOps : List Op :=
  [.saveActiveExecutionLaneRun (workerRun "run-1" (some "lane-1")) false,
    .saveActiveExecutionLaneRun (workerRun "run-2" (some "lane-2")) false]

/-- They end, the one that holds the Role last, and the Role admits the Run that it refused before. -/
def lanesThenRole : List Op :=
  laneOps ++ [.saveActiveRun (workerRun "run-3" none) false,
    .clearActiveExecutionLaneRun "task-1" "group-1" "lane-2" true,
    .clearActiveExecutionLaneRun "task-1" "group-1" "lane-1" true, .saveActiveRun (workerRun "run-3" none) false]

def lanePointers : String × Pointer → Option String :=
  Function.update (Function.update (Function.update (fun _ => none) ("task-1", .lane "group-1" "lane-1")
    (some "run-1")) ("task-1", .role "worker") (some "run-1")) ("task-1", .lane "group-1" "lane-2") (some "run-2")

theorem orderly_pointers_lane :
    Pointed (run step (Store.initial fun _ => some activeTask) lanesThenRole) ∧
      (run step (Store.initial fun _ => some activeTask) lanesThenRole).pointers ("task-1", .role "worker") =
        some "run-3" ∧
      ((run step (Store.initial fun _ => some activeTask) laneOps).saveActiveRun
        (workerRun "run-3" none) false).isOk = false ∧
      ((run step (Store.initial fun _ => some activeTask) laneOps).clearActiveRun
        "task-1" "worker").pointers ("task-1", .lane "group-1" "lane-2") = some "run-2" := by
  have horderly : Along step Orderly (Store.initial fun _ => some activeTask) lanesThenRole := by
    refine ⟨⟨fun _ h => (by cases h), fun _ _ h => (by cases h.1)⟩, ⟨fun _ h => ?_, fun _ holder h => ?_⟩,
      ⟨fun _ h => ?_, fun h => absurd rfl h⟩, fun holder h => ?_, fun holder h => ?_,
      ⟨fun _ h => ?_, fun h => absurd rfl h⟩, trivial⟩
    · cases h
    · rw [h.eq (by decide : _ = some "run-1") (by rfl : _ = some (workerRun "run-1" (some "lane-1")))]
      decide
    · cases h
    · rw [h.eq (by decide : _ = some "run-2") (by rfl : _ = some (workerRun "run-2" (some "lane-2")))]
      exact fun hheld => absurd hheld (by decide)
    · have hfirst := h.eq (by decide : _ = some "run-1") (by rfl : _ = some (workerRun "run-1" (some "lane-1")))
      intro hheld groupId laneId other hother hrole
      have hpointer : Function.update lanePointers ("task-1", Pointer.lane "group-1" "lane-2") none
          ("task-1", .lane groupId laneId) = some other.id := hother.1
      rw [hfirst]
      by_cases hlane : ("task-1", Pointer.lane groupId laneId) = ("task-1", .lane "group-1" "lane-1")
      · rw [hlane] at hpointer
        exact (Option.some.inj hpointer).symm
      · simp [lanePointers, Function.update_apply, hlane] at hpointer
        exact absurd hpointer.2.1.2 (hpointer.1 hpointer.2.1.1)
    · cases h
  obtain ⟨-, hadmits, hclears⟩ := orderly_pointers _ laneOps ⟨horderly.1, horderly.2.1, trivial⟩
  refine ⟨(orderly_pointers _ lanesThenRole horderly).1, by decide, ?_, ?_⟩
  · cases hsave : (run step (Store.initial fun _ => some activeTask) laneOps).saveActiveRun
        (workerRun "run-3" none) false with
    | error message => rfl
    | ok t =>
      have hsame := hadmits _ _ t hsave (fun _ h => by cases h) rfl rfl (.role "worker")
        (workerRun "run-1" (some "lane-1")) ⟨by decide, rfl⟩ rfl
      exact absurd hsame (by decide)
  · rw [hclears.role]
    decide
/-- The first lane of a Role ends before its sibling. -/
def siblingOps : List Op := laneOps ++ [.clearActiveExecutionLaneRun "task-1" "group-1" "lane-1" true]

/-- Then the Role admits another Run beside that of the sibling lane. -/
theorem sibling_lane_ignored :
    ¬ ∀ (tasks : String → Option Task) (ops : List Op), Admits (run step (Store.initial tasks) ops) := by
  intro hall
  have hsaved : ((run step (Store.initial fun _ => some activeTask) siblingOps).saveActiveRun
      (workerRun "run-3" none) false).isOk = true := by decide
  obtain ⟨t, ht⟩ := exists_of_isOk hsaved
  have hnew : (run step (Store.initial fun _ => some activeTask) siblingOps).runs
      ("task-1", "run-3") = none := by decide
  have hsame := hall (fun _ => some activeTask) siblingOps (workerRun "run-3" none) false t ht
    (fun _ hstored => by cases hnew.symm.trans hstored) rfl rfl
    (.lane "group-1" "lane-2") (workerRun "run-2" (some "lane-2")) ⟨by decide, by decide⟩ rfl
  exact absurd hsame (by decide)

end Runs

end ActiveRuns
