import Mathlib.Logic.Function.Basic
import Yui.IntegrationCalls

/-!
# The world of the Integrations of a Project

The stored attempts, the target refs and the Jobs. The calls of `integrate` and `abort` run one after another
under the maintenance lock, may fail or be cut short at every command, and others create and resolve attempts,
run Jobs and move refs in between.
-/

open Program Protocol

namespace GitIntegration

structure World where
  attempts : String → Option IntegrationAttempt
  refs : Target → String
  jobs : String → Option CheckJob
  /-- The attempt for which `integrate` holds the lock. -/
  integrating : Option String
  /-- The value of a target that the call under the lock has last read or set. -/
  seen : Option (Target × String)
  /-- The attempts with the candidates to which `update-ref` has moved their target. -/
  delivered : List (String × String)
  keyed : ∀ id attempt, attempts id = some attempt → attempt.id = id

namespace World

variable (w : World)

def store (next : IntegrationAttempt) : World :=
  { w with
    attempts := Function.update w.attempts next.id (some next)
    keyed := by
      intro id attempt h
      by_cases hid : id = next.id
      · subst hid
        rw [Function.update_self] at h
        exact (Option.some.inj h) ▸ rfl
      · rw [Function.update_of_ne hid] at h
        exact w.keyed id attempt h }

def advance (id : String) (target : Target) (candidate : String) (seen : Option (Target × String)) : World :=
  { w with
    refs := Function.update w.refs target candidate
    seen := seen
    delivered := (id, candidate) :: w.delivered }

def setJob (jobId : String) (job : CheckJob) : World :=
  { w with jobs := Function.update w.jobs jobId (some job) }

def look (target : Target) : World := { w with seen := some (target, w.refs target) }
def lock (integrating : Option String) : World := { w with integrating := integrating, seen := none }
def unlock : World := { w with integrating := none }
def move (target : Target) (value : String) : World := { w with refs := Function.update w.refs target value }

@[simp] theorem store_self (next : IntegrationAttempt) : (w.store next).attempts next.id = some next :=
  Function.update_self _ _ _

theorem store_other {next : IntegrationAttempt} {id : String} (h : id ≠ next.id) :
    (w.store next).attempts id = w.attempts id := Function.update_of_ne h _ _

theorem store_cases {next attempt : IntegrationAttempt} {id : String}
    (h : (w.store next).attempts id = some attempt) :
    (id = next.id ∧ attempt = next) ∨ (id ≠ next.id ∧ w.attempts id = some attempt) := by
  by_cases hid : id = next.id
  · subst hid
    rw [store_self] at h
    exact .inl ⟨rfl, (Option.some.inj h).symm⟩
  · rw [w.store_other hid] at h
    exact .inr ⟨hid, h⟩

end World

/-- The commands whose answers the world leaves open. -/
def Command.Open : Command → Prop
  | .preview _ | .load _ | .inspect _ | .save _ | .replace _ _ | .acquire _ | .release | .resolveRef _
  | .updateRef _ _ _ _ | .startCheckJob _ | .portJob _ | .storedJob _ => False
  | _ => True

/-- A failed command leaves no effect, apart from `update-ref`, which may have moved the ref. -/
inductive Performs (w : World) : (c : Command) → Except String c.Answer → World → Prop where
  | fails (c : Command) (error : String) (h : c ≠ .release) : Performs w c (.error error) w
  | reads (c : Command) (answer : c.Answer) (h : c.Open) : Performs w c (.ok answer) w
  | preview (id : String) (attempt : IntegrationAttempt) (h : w.attempts id = some attempt) :
      Performs w (.preview id) (.ok attempt) w
  | load (id : String) (attempt : IntegrationAttempt) (h : w.attempts id = some attempt)
      (hlock : w.integrating = some id) : Performs w (.load id) (.ok attempt) w
  | inspect (id : String) (attempt : IntegrationAttempt) (h : w.attempts id = some attempt) :
      Performs w (.inspect id) (.ok attempt) w
  | save (next : IntegrationAttempt) : Performs w (.save next) (.ok ()) (w.store next)
  | replace (expected next : IntegrationAttempt) (h : w.attempts expected.id = some expected) :
      Performs w (.replace expected next) (.ok ()) (w.store next)
  | acquire (integrating : Option String) : Performs w (.acquire integrating) (.ok ()) (w.lock integrating)
  | release : Performs w .release (.ok ()) w.unlock
  | resolveRef (target : Target) : Performs w (.resolveRef target) (.ok (w.refs target)) (w.look target)
  | updateRef (id : String) (target : Target) (candidate expected : String)
      (h : w.refs target = expected) :
      Performs w (.updateRef id target candidate expected) (.ok ())
        (w.advance id target candidate (some (target, candidate)))
  | updateRefCut (id : String) (target : Target) (candidate expected error : String)
      (h : w.refs target = expected) :
      Performs w (.updateRef id target candidate expected) (.error error)
        (w.advance id target candidate none)
  | startCheckJob (spec : CheckSpec) (job : CheckJob)
      (h : w.jobs job.id = none ∨ w.jobs job.id = some job) :
      Performs w (.startCheckJob spec) (.ok job) (w.setJob job.id job)
  | portJob (jobId : String) (job : CheckJob) (h : w.jobs jobId = some job) :
      Performs w (.portJob jobId) (.ok job) w
  | storedJob (jobId : String) : Performs w (.storedJob jobId) (.ok (w.jobs jobId)) w

/-- An attempt as `integration start` creates it. -/
structure Fresh (attempt : IntegrationAttempt) : Prop where
  status : attempt.status = .running
  candidate : attempt.candidateCommit = none
  after : attempt.afterCommit = none
  checks : attempt.checks = none
  job : attempt.jobId = none
  resolution : attempt.resolution = none

/-- What others do. -/
inductive ChangeKind where
  | creates
  | job
  | moves
  | resolves (attempt : IntegrationAttempt)

/-- A Job that has ended does not change. `integration resolve` is a transaction that takes no lock. -/
inductive Change (w : World) : ChangeKind → World → Prop where
  | creates (attempt : IntegrationAttempt) (hfree : w.attempts attempt.id = none) (h : Fresh attempt) :
      Change w .creates (w.store attempt)
  | job (jobId : String) (job : CheckJob)
      (h : ∀ old, w.jobs jobId = some old → old.status.active = true) : Change w .job (w.setJob jobId job)
  | moves (target : Target) (value : String) : Change w .moves (w.move target value)
  | resolves (attempt next : IntegrationAttempt) (decision : ResolutionDecision)
      (h : w.attempts attempt.id = some attempt)
      (hnext : recordResolutionDecision attempt decision = .ok next) :
      Change w (.resolves attempt) (w.store next)

/-- `integration resolve` of an attempt. A refused decision changes nothing. -/
def World.resolve (w : World) (id : String) (decision : ResolutionDecision) : World :=
  match w.attempts id with
  | none => w
  | some attempt =>
    match recordResolutionDecision attempt decision with
    | .ok next => w.store next
    | .error _ => w

/-- Which changes and which answers a run contains. -/
structure Limits where
  allows : World → ChangeKind → Prop
  answers : World → (c : Command) → Except String c.Answer → Prop

def machine (limits : Limits) : Machine World Command Command.Answer String where
  performs := fun w c answer w' => Performs w c answer w' ∧ limits.answers w c answer
  changes := fun w w' => ∃ kind, limits.allows w kind ∧ Change w kind w'
  forgets := World.unlock

/-- Nothing is integrated yet. -/
structure Start (w : World) : Prop where
  attempts : ∀ id, w.attempts id = none
  integrating : w.integrating = none
  delivered : w.delivered = []

section Example

/-- An attempt to deliver the result "c" of a WorkItem on the target at "b". -/
def sampleAttempt (strategy : Strategy) : IntegrationAttempt :=
  { id := "i", taskId := "t", projectId := "p", targetRef := "main"
    source := .workItem "w" "a" "c" strategy
    beforeCommit := "b", afterCommit := none, summary := none, checkCommands := [], rerunChecks := false
    candidateCommit := none, sourceProgress := none, checkInputDigest := none, gatePlanDigest := none
    gateToolchainDigest := none, jobId := none, status := .running, conflict := none
    resolution := none, checks := none }

theorem sampleAttempt_fresh (strategy : Strategy) : Fresh (sampleAttempt strategy) := ⟨rfl, rfl, rfl, rfl, rfl, rfl⟩

def emptyWorld : World :=
  { attempts := fun _ => none
    refs := fun _ => "b"
    jobs := fun _ => none
    integrating := none
    seen := none
    delivered := []
    keyed := fun _ _ h => (by cases h) }

theorem emptyWorld_start : Start emptyWorld := ⟨fun _ => rfl, rfl, rfl⟩

/-- The head of the candidate: "c" once the step of the source has begun, or where it is made by hand. -/
def sampleHead (w : World) : String :=
  match w.attempts "i" with
  | none => "b"
  | some attempt =>
    match attempt.source.isManual, attempt.sourceProgress with
    | true, _ => "c"
    | false, none => "b"
    | false, some progress =>
      if progress.activeAction.isSome = true ∨ progress.completedSteps ≠ 0 then "c" else "b"

/-- The platform of the example. -/
instance sampleHost : CheckHost := ⟨fun argv => " ".intercalate argv, fun _ path => path, fun commit => commit⟩

def nothingFails : Command → Bool := fun _ => false

/-- One way to answer the commands: Git succeeds, no target is checked out, and there is no gate and no
Controller. -/
def play (fails : Command → Bool) (w : World) (c : Command) : Except String c.Answer × World :=
  match fails c, c with
  | true, .release => (.ok (), w.unlock)
  | true, _ => (.error "failed", w)
  | false, .preview id | false, .inspect id =>
    match w.attempts id with
    | some attempt => (.ok attempt, w)
    | none => (.error "not found", w)
  | false, .load id =>
    match w.attempts id with
    | some attempt => if w.integrating = some id then (.ok attempt, w) else (.error "not locked", w)
    | none => (.error "not found", w)
  | false, .save next => (.ok (), w.store next)
  | false, .replace expected next =>
    if w.attempts expected.id = some expected then (.ok (), w.store next) else (.error "changed", w)
  | false, .acquire integrating => (.ok (), w.lock integrating)
  | false, .release => (.ok (), w.unlock)
  | false, .resolveRef target => (.ok (w.refs target), w.look target)
  | false, .updateRef id target candidate expected =>
    if w.refs target = expected then (.ok (), w.advance id target candidate (some (target, candidate)))
    else (.error "moved", w)
  | false, .startCheckJob _ | false, .portJob _ => (.error "no Controller", w)
  | false, .storedJob jobId => (.ok (w.jobs jobId), w)
  | false, .ensureWorktree _ => (.ok ⟨"/i", "refs/heads/i"⟩, w)
  | false, .settlementWorkspace _ => (.ok ⟨"/i", "refs/heads/i"⟩, w)
  | false, .targetCheckout _ => (.ok false, w)
  | false, .checkoutHead _ => (.ok "b", w)
  | false, .head => (.ok (sampleHead w), w)
  | false, .symbolicRef => (.ok "refs/heads/i", w)
  | false, .activeOperation => (.ok none, w)
  | false, .operationFacts => (.ok ("", "", ""), w)
  | false, .isAncestor _ _ => (.ok false, w)
  | false, .revList _ _ => (.ok [], w)
  | false, .fetchUpstream _ => (.ok "", w)
  | false, .conflicts => (.ok [], w)
  | false, .unstaged | false, .untracked | false, .nothingStaged => (.ok false, w)
  | false, .lastReflog _ => (.ok ("", "", ""), w)
  | false, .newAction => (.ok "action", w)
  | false, .worktreeClean => (.ok true, w)
  | false, .gate => (.ok none, w)
  | false, .hasJobPort => (.ok false, w)
  | false, .runtime _ => (.ok ⟨"/i", []⟩, w)
  | false, .runChecks _ => (.ok [], w)
  | false, .findArtifact _ => (.ok none, w)
  | false, .runGateSteps _ => (.ok [], w)
  | false, .listJobs _ => (.ok [], w)
  | false, .lookup _ | false, .registerWorkspace _ | false, .targetClean _ | false, .readTree _ _
  | false, .git _ _ | false, .prepareRuntime | false, .releaseRuntime | false, .unsettledElsewhere _
  | false, .beginGate _ | false, .touchArtifact _ | false, .publishArtifact _ | false, .cancelJob _ =>
    (.ok (), w)

theorem play_performs (fails : Command → Bool) (w : World) (c : Command) :
    Performs w c (play fails w c).1 (play fails w c).2 := by
  cases hfails : fails c with
  | true =>
    unfold play
    rw [hfails]
    cases c with
    | release => exact .release
    | _ => exact .fails _ _ nofun
  | false =>
    unfold play
    rw [hfails]
    cases c with
    | preview id =>
      dsimp only
      cases h : w.attempts id with
      | none => exact .fails _ _ nofun
      | some attempt => exact .preview id attempt h
    | inspect id =>
      dsimp only
      cases h : w.attempts id with
      | none => exact .fails _ _ nofun
      | some attempt => exact .inspect id attempt h
    | load id =>
      dsimp only
      cases h : w.attempts id with
      | none => exact .fails _ _ nofun
      | some attempt =>
        dsimp only
        split_ifs with hlock
        · exact .load id attempt h hlock
        · exact .fails _ _ nofun
    | save next => exact .save next
    | replace expected next =>
      dsimp only
      split_ifs with h
      · exact .replace expected next h
      · exact .fails _ _ nofun
    | acquire integrating => exact .acquire integrating
    | release => exact .release
    | resolveRef target => exact .resolveRef target
    | updateRef id target candidate expected =>
      dsimp only
      split_ifs with h
      · exact .updateRef id target candidate expected h
      · exact .fails _ _ nofun
    | startCheckJob spec => exact .fails _ _ nofun
    | portJob jobId => exact .fails _ _ nofun
    | storedJob jobId => exact .storedJob jobId
    | _ => exact .reads _ _ trivial

end Example

variable [CheckHost]

def IsCall (p : Call Unit) : Prop :=
  (∃ id continuing, p = (integrate id continuing >>= fun _ => pure ())) ∨
    ∃ id reason, p = (abort id reason >>= fun _ => pure ())

abbrev Config := World × Option (Call Unit)

def Reachable (limits : Limits) (config : Config) : Prop :=
  ∃ w, Start w ∧ Relation.ReflTransGen ((machine limits).Step IsCall) (w, none) config

section Reached

variable {limits : Limits} {w : World} {p : Option (Call Unit)}

theorem Reachable.step (h : Reachable limits (w, p)) {config : Config}
    (hstep : (machine limits).Step IsCall (w, p) config) : Reachable limits config := by
  obtain ⟨start, hstart, hsteps⟩ := h
  exact ⟨start, hstart, hsteps.tail hstep⟩

theorem Reachable.steps (h : Reachable limits (w, p)) {config : Config}
    (hsteps : Relation.ReflTransGen ((machine limits).Step IsCall) (w, p) config) : Reachable limits config := by
  obtain ⟨start, hstart, hbefore⟩ := h
  exact ⟨start, hstart, hbefore.trans hsteps⟩

theorem created_reachable (hcreates : limits.allows emptyWorld .creates) (strategy : Strategy) :
    Reachable limits (emptyWorld.store (sampleAttempt strategy), none) :=
  ⟨emptyWorld, emptyWorld_start, .single (.change _ _ _ ⟨.creates, hcreates,
    .creates _ rfl (sampleAttempt_fresh strategy)⟩)⟩

theorem Reachable.resolved (h : Reachable limits (w, p)) (id : String) (decision : ResolutionDecision)
    (hallows : ∀ attempt, w.attempts id = some attempt → limits.allows w (.resolves attempt)) :
    Reachable limits (w.resolve id decision, p) := by
  unfold World.resolve
  cases hattempt : w.attempts id with
  | none => exact h
  | some attempt =>
    dsimp only
    cases hnext : recordResolutionDecision attempt decision with
    | error error => exact h
    | ok next =>
      have hkey := w.keyed id attempt hattempt
      exact h.step (.change _ _ _ ⟨_, hallows attempt hattempt,
        .resolves attempt next decision (hkey.symm ▸ hattempt) hnext⟩)

/-- `yui task integration continue` of the example. -/
def sampleCall : Call Unit := integrate "i" true >>= fun _ => pure ()

theorem Reachable.begin (h : Reachable limits (w, none)) : Reachable limits (w, some sampleCall) :=
  h.step (.begin w _ (.inl ⟨"i", true, rfl⟩))

theorem Reachable.played {call : Call Unit} (hanswers : ∀ w c answer, limits.answers w c answer)
    (h : Reachable limits (w, some call)) (fails : Command → Bool) (n : ℕ) :
    Reachable limits ((Machine.advance (play fails) n (w, call)).1,
      some (Machine.advance (play fails) n (w, call)).2) :=
  h.steps (Machine.steps_advance _ _ n w call fun _ _ => ⟨play_performs fails _ _, hanswers _ _ _⟩)

/-- A whole call, where every answer may come. -/
theorem Reachable.ran {call : Call Unit} (hanswers : ∀ w c answer, limits.answers w c answer)
    (h : Reachable limits (w, some call)) (fails : Command → Bool) :
    Reachable limits ((Program.run (play fails) w call).2, none) := by
  have hperform : ∀ w c, (machine limits).performs w c (play fails w c).1 (play fails w c).2 :=
    fun w c => ⟨play_performs fails w c, hanswers _ _ _⟩
  exact h.steps (Machine.steps_run _ _ hperform w call)

end Reached

end GitIntegration
