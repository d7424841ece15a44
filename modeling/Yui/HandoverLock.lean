import Mathlib.Logic.Function.Basic
import Yui.Checked
import Yui.FallibleRun
import Yui.JsText

/-!
# The handover lock

`acquireHandoverLock` of `release/runtimeRelease.ts`. The lock is a file that names its owner. It is made by
an exclusive create and filled by a write, a call that finds it there judges the owner it reads, and removes
the file when that process is gone. Each move of a call is one operation of the file system, and a process
may die between any two of them.
-/

open Checked FallibleRun JsText

namespace HandoverLock

abbrev Call := ℕ

structure ProcessGeneration where
  pid : ℕ
  startIdentity : String
  deriving DecidableEq

/-- What the lock file says. No two calls draw the same token, so the call itself stands for it. -/
structure LockOwner where
  process : ProcessGeneration
  token : Call
  deriving DecidableEq

/-- A lock file that is not filled yet cannot be parsed. -/
structure LockFile where
  creator : Call
  owner : Option LockOwner

inductive Signal where
  | sent | noSuchProcess | refused
  deriving DecidableEq

/-- What the system says about a pid: its start identity, where that can be read, and the answer to signal 0. -/
structure Evidence where
  actual : Option String
  signal : Signal
  deriving DecidableEq

inductive Phase where
  | idle
  | creating (attempt : ℕ)
  | writing
  | reading (attempt : ℕ)
  | checking (attempt : ℕ) (existing : LockOwner)
  | removing (attempt : ℕ) (existing : LockOwner)
  | holding
  | releasing
  | ended
  deriving DecidableEq

/-- `fails` is an operation that throws. -/
inductive Move where
  | proceed | fails | die
  | check (evidence : Evidence)
  deriving DecidableEq

structure State where
  file : Option LockFile
  phase : Call → Phase
  alive : ProcessGeneration → Bool

section Liveness

/-- `/^(0|[1-9][0-9]{0,31})$/` -/
def isStartIdentity (text : String) : Bool :=
  match text.toList with
  | [] => false
  | c :: cs => (c :: cs).all Char.isDigit && (c != '0' || cs.isEmpty) && (c :: cs).length ≤ 32

def processGenerationIsLive (process : ProcessGeneration) (evidence : Evidence) : Except String Bool := do
  refuse (maxSafeInteger < process.pid ∨ process.pid < 1 ∨ isStartIdentity process.startIdentity = false)
    s!"Unverified process generation for PID {process.pid}."
  match evidence.actual with
  | some actual => .ok (actual == process.startIdentity)
  | none =>
    if evidence.signal = .noSuchProcess then .ok false
    else .error s!"Unverified process generation for PID {process.pid}; OS identity could not be read."

def isHandoverLockLive (existing : LockOwner) (evidence : Evidence) : Except String Bool := do
  let digits := existing.process.startIdentity.toList
  refuse (maxSafeInteger < existing.process.pid ∨ existing.process.pid = 0 ∨
      ¬ (digits.all Char.isDigit = true ∧ 1 ≤ digits.length ∧ digits.length ≤ 32))
    "Unsupported handover lock identity; preserve the lock and inspect its owner before cleanup."
  processGenerationIsLive existing.process evidence

/-- The system does not say of a process that lives that it is gone. -/
def Truthful (s : State) (process : ProcessGeneration) (evidence : Evidence) : Prop :=
  s.alive process = true →
    evidence.actual ∈ [none, some process.startIdentity] ∧ evidence.signal ≠ .noSuchProcess

instance (s : State) (process : ProcessGeneration) (evidence : Evidence) : Decidable (Truthful s process evidence) :=
  inferInstanceAs (Decidable (_ → _))

theorem dead_of_stale {s : State} {existing : LockOwner} {evidence : Evidence}
    (htruthful : Truthful s existing.process evidence)
    (h : isHandoverLockLive existing evidence = .ok false) : s.alive existing.process = false := by
  obtain ⟨-, h⟩ := seq_iff.1 h
  obtain ⟨-, h⟩ := seq_iff.1 h
  by_contra halive
  obtain ⟨hactual, hsignal⟩ := htruthful (eq_true_of_ne_false halive)
  simp only [List.mem_cons, List.not_mem_nil, or_false] at hactual
  rcases hactual with hactual | hactual
  · rw [hactual] at h
    dsimp only at h
    rw [if_neg hsignal] at h
    cases h
  · rw [hactual] at h
    simp at h

end Liveness

section Operations

variable (processOf : Call → ProcessGeneration)

def lockOwner (c : Call) : LockOwner := ⟨processOf c, c⟩

def Phase.retry (attempt : ℕ) : Phase := if attempt + 1 < 3 then .creating (attempt + 1) else .ended

/-- A write reaches the file that the call made, which may have left the path. -/
def LockFile.fill (file : LockFile) (c : Call) : LockFile :=
  if file.creator = c then { file with owner := some (lockOwner processOf c) } else file

/-- The phase and the path after the next operation of a call. -/
def proceed (s : State) (c : Call) : Phase → Except Unit (Phase × Option LockFile)
  | .idle => .ok (.creating 0, s.file)
  | .creating attempt =>
    match s.file with
    | none => .ok (.writing, some ⟨c, none⟩)
    | some _ => .ok (.reading attempt, s.file)
  | .writing => .ok (.holding, s.file.map (·.fill processOf c))
  | .reading attempt =>
    match s.file with
    | none => .ok (.retry attempt, none)
    | some file =>
      match file.owner with
      | none => .ok (.ended, s.file)
      | some existing => .ok (.checking attempt existing, s.file)
  | .removing attempt _ => .ok (.retry attempt, none)
  | .holding =>
    if (s.file.bind LockFile.owner).map LockOwner.token = some c then .ok (.releasing, s.file)
    else .ok (.ended, s.file)
  | .releasing => .ok (.ended, none)
  | .checking _ _ | .ended => .error ()

def operate (s : State) (c : Call) : Move → Except Unit (Phase × Option LockFile)
  | .proceed => proceed processOf s c (s.phase c)
  | .check evidence =>
    match s.phase c with
    | .checking attempt existing =>
      if Truthful s existing.process evidence then
        match isHandoverLockLive existing evidence with
        | .ok false => .ok (.removing attempt existing, s.file)
        | _ => .ok (.ended, s.file)
      else .error ()
    | _ => .error ()
  | .fails => if s.phase c = .idle then .error () else .ok (.ended, s.file)
  | .die => .error ()

def State.moved (s : State) (c : Call) (after : Phase × Option LockFile) : State where
  file := after.2
  phase := Function.update s.phase c after.1
  alive := s.alive

def State.died (s : State) (process : ProcessGeneration) : State :=
  { s with alive := Function.update s.alive process false }

/-- The calls of one process do not run at the same time, which no result needs. -/
def step (s : State) : Call × Move → Except Unit State
  | (c, .die) => .ok (s.died (processOf c))
  | (c, move) =>
    if s.alive (processOf c) = false then .error ()
    else (operate processOf s c move).map (s.moved c)

def State.initial : State := ⟨none, fun _ => .idle, fun _ => true⟩

end Operations

/-- A call between its exclusive create and the end of its release. -/
def Phase.owns : Phase → Bool
  | .writing | .holding | .releasing => true
  | _ => false

section Exclusion

variable (processOf : Call → ProcessGeneration)

def State.Live (s : State) (c : Call) : Prop := s.alive (processOf c) = true

/-- A call that removes a stale lock finds the lock that it has judged, or none. -/
def Undisturbed (s : State) (i : Call × Move) : Prop :=
  match s.phase i.1, i.2 with
  | .removing _ existing, .proceed => ∀ file ∈ s.file, file.owner = some existing
  | _, _ => True

/-- A live call that owns the lock has its file at the path, and what was judged stale has a dead owner. -/
structure Guarded (s : State) : Prop where
  owned : ∀ c, s.Live processOf c → (s.phase c).owns = true → ∃ file, s.file = some file ∧ file.creator = c
  named : ∀ file owner, s.file = some file → file.owner = some owner → owner = lockOwner processOf file.creator
  judged : ∀ c attempt existing, s.phase c = .removing attempt existing → s.alive existing.process = false

theorem initial_guarded : Guarded processOf State.initial where
  owned _ _ h := by cases h
  named _ _ h := by cases h
  judged _ _ _ h := by cases h

variable {processOf} {s : State} {c other : Call} {after : Phase × Option LockFile}

theorem moved_self : (s.moved c after).phase c = after.1 := Function.update_self ..

theorem moved_of_ne (h : other ≠ c) : (s.moved c after).phase other = s.phase other := Function.update_of_ne h ..

theorem died_dead {process gone : ProcessGeneration} (h : s.alive gone = false) :
    (s.died process).alive gone = false := by
  unfold State.died
  dsimp only
  by_cases heq : gone = process
  · rw [heq, Function.update_self]
  · rw [Function.update_of_ne heq, h]

theorem Guarded.die (h : Guarded processOf s) (process : ProcessGeneration) : Guarded processOf (s.died process) := by
  refine ⟨fun c hc => h.owned c ?_, h.named,
    fun c attempt existing hphase => died_dead (h.judged c attempt existing hphase)⟩
  by_contra hlive
  unfold State.Live at hc hlive
  rw [died_dead (eq_false_of_ne_true hlive)] at hc
  cases hc

/-- A call that moves on without the path. -/
theorem Guarded.goes (h : Guarded processOf s) {phase : Phase} (hlive : s.Live processOf c)
    (howns : phase.owns = true → (s.phase c).owns = true)
    (hjudged : ∀ attempt existing, phase = .removing attempt existing → s.alive existing.process = false) :
    Guarded processOf (s.moved c (phase, s.file)) := by
  refine ⟨fun other hother howned => ?_, h.named, fun other attempt existing hphase => ?_⟩
  · by_cases heq : other = c
    · subst heq
      rw [moved_self] at howned
      exact h.owned other hlive (howns howned)
    · rw [moved_of_ne heq] at howned
      exact h.owned other hother howned
  · by_cases heq : other = c
    · subst heq
      rw [moved_self] at hphase
      exact hjudged attempt existing hphase
    · rw [moved_of_ne heq] at hphase
      exact h.judged other attempt existing hphase

theorem Guarded.remove (h : Guarded processOf s) {phase : Phase} (hquiet : phase.owns = false)
    (hphase : ∀ attempt existing, phase ≠ .removing attempt existing)
    (halone : ∀ other, other ≠ c → s.Live processOf other → (s.phase other).owns = false) :
    Guarded processOf (s.moved c (phase, none)) := by
  refine ⟨fun other hother howned => ?_, nofun, fun other attempt existing hother => ?_⟩
  · by_cases heq : other = c
    · subst heq
      rw [moved_self, hquiet] at howned
      cases howned
    · rw [moved_of_ne heq, halone other heq hother] at howned
      cases howned
  · by_cases heq : other = c
    · subst heq
      rw [moved_self] at hother
      exact absurd hother (hphase attempt existing)
    · rw [moved_of_ne heq] at hother
      exact h.judged other attempt existing hother

theorem retry_owns (attempt : ℕ) : (Phase.retry attempt).owns = false := by
  unfold Phase.retry
  split_ifs <;> rfl

theorem retry_ne_removing (attempt more : ℕ) (existing : LockOwner) :
    Phase.retry attempt ≠ .removing more existing := by
  unfold Phase.retry
  split_ifs <;> exact nofun

/-- The owner of the path is the only live owner. -/
theorem Guarded.alone (h : Guarded processOf s) (hlive : s.Live processOf c) (howns : (s.phase c).owns = true)
    (hne : other ≠ c) (hother : s.Live processOf other) : (s.phase other).owns = false := by
  by_contra hown
  obtain ⟨file, hfile, rfl⟩ := h.owned c hlive howns
  obtain ⟨file', hfile', rfl⟩ := h.owned other hother (eq_true_of_ne_false hown)
  rw [hfile, Option.some.injEq] at hfile'
  exact hne (by rw [hfile'])

theorem Guarded.none_owns (h : Guarded processOf s) {attempt : ℕ} {existing : LockOwner}
    (hphase : s.phase c = .removing attempt existing) (hfile : ∀ file ∈ s.file, file.owner = some existing)
    (hother : s.Live processOf other) : (s.phase other).owns = false := by
  by_contra hown
  obtain ⟨file, hpath, rfl⟩ := h.owned other hother (eq_true_of_ne_false hown)
  have hdead := h.judged c attempt existing hphase
  rw [h.named file existing hpath (hfile file hpath)] at hdead
  unfold State.Live at hother
  unfold lockOwner at hdead
  rw [hother] at hdead
  cases hdead

theorem proceed_guarded (h : Guarded processOf s) (hlive : s.Live processOf c)
    (hundisturbed : Undisturbed s (c, .proceed)) (hafter : proceed processOf s c (s.phase c) = .ok after) :
    Guarded processOf (s.moved c after) := by
  have hquiet : ∀ {phase : Phase}, phase.owns = false → (∀ attempt existing, phase ≠ .removing attempt existing) →
      Guarded processOf (s.moved c (phase, s.file)) := fun howns hphase =>
    h.goes hlive (fun hown => by rw [howns] at hown; cases hown)
      fun attempt existing heq => absurd heq (hphase attempt existing)
  cases hphase : s.phase c with
  | idle =>
    rw [hphase] at hafter
    cases hafter
    exact hquiet rfl nofun
  | creating attempt =>
    rw [hphase] at hafter
    unfold proceed at hafter
    dsimp only at hafter
    split at hafter
    · next hfile =>
        cases hafter
        refine ⟨fun other hother howned => ?_, fun file owner hmade howner => ?_, fun other _ _ hother => ?_⟩
        · by_cases heq : other = c
          · exact ⟨_, rfl, heq.symm⟩
          · rw [moved_of_ne heq] at howned
            obtain ⟨file, hpath, -⟩ := h.owned other hother howned
            rw [hfile] at hpath
            cases hpath
        · cases hmade
          cases howner
        · by_cases heq : other = c
          · subst heq
            rw [moved_self] at hother
            cases hother
          · rw [moved_of_ne heq] at hother
            exact h.judged other _ _ hother
    · cases hafter
      exact hquiet rfl nofun
  | writing =>
    rw [hphase] at hafter
    cases hafter
    obtain ⟨file, hfile, hcreator⟩ := h.owned c hlive (by rw [hphase]; rfl)
    have hgoes : Guarded processOf (s.moved c (.holding, s.file)) := h.goes hlive (fun _ => by rw [hphase]; rfl) nofun
    have hfill : file.fill processOf c = ⟨c, some (lockOwner processOf c)⟩ := by
      unfold LockFile.fill
      rw [if_pos hcreator, hcreator]
    rw [hfile, Option.map_some, hfill]
    refine ⟨fun other hother howned => ?_, fun filled owner hfilled howner => ?_, hgoes.judged⟩
    · obtain ⟨held, hheld, rfl⟩ := hgoes.owned other hother howned
      have hsame := hfile.symm.trans hheld
      rw [Option.some.injEq] at hsame
      exact ⟨_, rfl, by rw [← hsame, hcreator]⟩
    · cases hfilled
      cases howner
      rfl
  | reading attempt =>
    rw [hphase] at hafter
    unfold proceed at hafter
    dsimp only at hafter
    split at hafter
    · next hfile =>
        cases hafter
        rw [← hfile]
        exact hquiet (retry_owns attempt) (retry_ne_removing attempt)
    · split at hafter
      all_goals
        cases hafter
        exact hquiet rfl nofun
  | removing attempt existing =>
    rw [hphase] at hafter
    cases hafter
    unfold Undisturbed at hundisturbed
    dsimp only at hundisturbed
    rw [hphase] at hundisturbed
    exact h.remove (retry_owns attempt) (retry_ne_removing attempt) fun other _ hother =>
      h.none_owns hphase hundisturbed hother
  | holding =>
    rw [hphase] at hafter
    unfold proceed at hafter
    dsimp only at hafter
    split_ifs at hafter
    · cases hafter
      exact h.goes hlive (fun _ => by rw [hphase]; rfl) nofun
    · cases hafter
      exact hquiet rfl nofun
  | releasing =>
    rw [hphase] at hafter
    cases hafter
    exact h.remove rfl nofun fun other hne hother => h.alone hlive (by rw [hphase]; rfl) hne hother
  | checking _ _ | ended =>
    rw [hphase] at hafter
    cases hafter

theorem operate_guarded (h : Guarded processOf s) (hlive : s.Live processOf c) {move : Move}
    (hundisturbed : Undisturbed s (c, move)) (hafter : operate processOf s c move = .ok after) :
    Guarded processOf (s.moved c after) := by
  cases move with
  | proceed => exact proceed_guarded h hlive hundisturbed hafter
  | check evidence =>
    unfold operate at hafter
    dsimp only at hafter
    split at hafter
    · next attempt existing hphase =>
        split_ifs at hafter with htruthful
        split at hafter
        · next hstale =>
            cases hafter
            refine h.goes hlive (fun hown => by cases hown) fun _ _ heq => ?_
            cases heq
            exact dead_of_stale htruthful hstale
        · cases hafter
          exact h.goes hlive (fun hown => by cases hown) nofun
    · cases hafter
  | fails =>
    unfold operate at hafter
    dsimp only at hafter
    split_ifs at hafter
    cases hafter
    exact h.goes hlive (fun hown => by cases hown) nofun
  | die => cases hafter

theorem step_guarded {i : Call × Move} {t : State} (h : Guarded processOf s) (hundisturbed : Undisturbed s i)
    (hstep : step processOf s i = .ok t) : Guarded processOf t := by
  obtain ⟨c, move⟩ := i
  by_cases hdie : move = .die
  · subst hdie
    cases hstep
    exact h.die (processOf c)
  · have hmove : step processOf s (c, move) = if s.alive (processOf c) = false then .error ()
        else (operate processOf s c move).map (s.moved c) := by
      cases move with
      | die => exact absurd rfl hdie
      | _ => rfl
    rw [hmove] at hstep
    split_ifs at hstep with hdead
    cases hafter : operate processOf s c move with
    | error e =>
      rw [hafter] at hstep
      cases hstep
    | ok after =>
      rw [hafter] at hstep
      cases hstep
      exact operate_guarded h (eq_true_of_ne_false hdead) hundisturbed hafter

/-- In every run whose removals of stale locks find what was judged, one live call at most is between its
create and the end of its release, a release removes the file of its own call, and a stale lock that is
removed has a dead owner. -/
theorem handover_lock_excludes (processOf : Call → ProcessGeneration) (moves : List (Call × Move))
    (h : Along (step processOf) Undisturbed State.initial moves) :
    let s := run (step processOf) State.initial moves
    (∀ c c', s.Live processOf c → s.Live processOf c' → (s.phase c).owns = true → (s.phase c').owns = true → c = c') ∧
      (∀ c, s.Live processOf c → s.phase c = .releasing → ∃ file, s.file = some file ∧ file.creator = c) ∧
      ∀ c attempt existing, s.phase c = .removing attempt existing → s.alive existing.process = false := by
  intro s
  have hguarded : Guarded processOf s :=
    (run_relates (R := fun _ _ => True) (fun _ _ => trivial) (fun _ _ _ _ _ => trivial)
      (fun _ _ _ hinv hmeets hstep => ⟨step_guarded hinv hmeets hstep, trivial⟩)
      (initial_guarded processOf) h).1
  refine ⟨fun c c' hlive hlive' howns howns' => ?_, fun c hlive hphase => ?_, hguarded.judged⟩
  · by_contra hne
    rw [hguarded.alone hlive howns (Ne.symm hne) hlive'] at howns'
    cases howns'
  · exact hguarded.owned c hlive (by rw [hphase]; rfl)

end Exclusion

section Samples

def processes (c : Call) : ProcessGeneration := ⟨c + 1, "100"⟩

def proceeds (c : Call) (n : ℕ) : List (Call × Move) := List.replicate n (c, .proceed)

def gone : Evidence := ⟨none, .noSuchProcess⟩

/-- Call 0 makes the lock and its process dies. -/
def deadOwner : List (Call × Move) := proceeds 0 3 ++ [((0 : Call), Move.die)]

/-- A call finds the lock of the dead owner and judges it stale. -/
def judges (c : Call) : List (Call × Move) := proceeds c 3 ++ [(c, .check gone)]

/-- Call 1 removes the stale lock and makes its own. -/
def reclaimedMoves : List (Call × Move) := deadOwner ++ judges 1 ++ proceeds 1 3

/-- Calls 1 and 2 both judge the lock of the dead owner. Call 1 removes it and makes its own lock, which call 2
then removes. -/
def racedMoves : List (Call × Move) := deadOwner ++ judges 1 ++ judges 2 ++ proceeds 1 3 ++ proceeds 2 3

instance (s : State) (i : Call × Move) : Decidable (Undisturbed s i) := by
  unfold Undisturbed
  split <;> infer_instance

def undisturbed (processOf : Call → ProcessGeneration) : State → List (Call × Move) → Bool
  | _, [] => true
  | s, i :: moves => decide (Undisturbed s i) && undisturbed processOf (attempt (step processOf) s i) moves

theorem along_of_undisturbed {processOf : Call → ProcessGeneration} {s : State} {moves : List (Call × Move)}
    (h : undisturbed processOf s moves = true) : Along (step processOf) Undisturbed s moves := by
  induction moves generalizing s with
  | nil => trivial
  | cons i moves ih =>
    unfold undisturbed at h
    rw [Bool.and_eq_true, decide_eq_true_eq] at h
    exact ⟨h.1, ih h.2⟩

theorem handover_lock_excludes_reclaimed :
    let s := run (step processes) State.initial reclaimedMoves
    s.phase 1 = .holding ∧ ∀ c, s.Live processes c → (s.phase c).owns = true → c = 1 := by
  intro s
  have hholds : s.phase 1 = .holding := by decide +kernel
  have hlive : s.alive (processes 1) = true := by decide +kernel
  exact ⟨hholds, fun c hc howns => (handover_lock_excludes processes reclaimedMoves
    (along_of_undisturbed (by decide +kernel))).1 c 1 hc hlive howns (by rw [hholds]; rfl)⟩

/-- The race where call 1 has read its own lock for its release before call 2 removes it. -/
def racedRelease : List (Call × Move) :=
  deadOwner ++ judges 1 ++ judges 2 ++ proceeds 1 4 ++ proceeds 2 3

/-- After the race two live processes hold the lock, and the release is about to remove the lock of the other. -/
theorem two_holders :
    let s := run (step processes) State.initial racedMoves
    let t := run (step processes) State.initial racedRelease
    (s.alive (processes 1) = true ∧ s.alive (processes 2) = true ∧ s.phase 1 = .holding ∧ s.phase 2 = .holding) ∧
      t.alive (processes 1) = true ∧ t.phase 1 = .releasing ∧ t.file.map LockFile.creator = some 2 := by
  decide +kernel

end Samples

end HandoverLock
