import Yui.IntegrationService

/-!
# What a call of the Integration service knows and may do

A call stores only successors of the record as it last read or stored it, and each way to end an attempt
needs what the call knows of its target or of its worktree. The target ref moves only for the validating
record of the call, with the Job of the attempt as evidence if one is bound.
-/

open Program Protocol

namespace GitIntegration

/-- Neither terminal nor validating. -/
def AttemptStatus.unfinished : AttemptStatus → Bool
  | .running | .conflicted | .blocked => true
  | _ => false

/-- The Job of the attempt succeeded with exit code 0 for every step on the candidate. -/
structure Proves (attempt : IntegrationAttempt) (candidate : String) (job : CheckJob) : Prop where
  bound : attempt.jobId = some job.id
  digest : attempt.checkInputDigest = some job.spec
  head : job.spec.head = candidate
  steps : ∃ results reason, job.result = some ⟨.succeeded, results, reason⟩ ∧
    List.Forall₂ (fun (step : CheckStep) (result : StepResult) =>
      result.name = step.name ∧ result.head = candidate ∧ result.exitCode = some 0 ∧
        result.signal = none ∧ result.timedOut = false) job.spec.steps results

/-- The record as `integrate` last read or stored it under its lock, the one that `abort` read under its own,
the value of a target as the call last read or set it, the Job it last read, and whether the preparation of
the worktree has failed. -/
structure Knowledge where
  record : Option IntegrationAttempt := none
  snapshot : Option IntegrationAttempt := none
  target : Option (Target × String) := none
  job : Option CheckJob := none
  unprepared : Bool := false

namespace Knowledge

variable (k : Knowledge)

def recorded (attempt : IntegrationAttempt) : Knowledge := { k with record := some attempt }
def inspected (attempt : IntegrationAttempt) : Knowledge := { k with snapshot := some attempt }
def sawTarget (target : Target) (value : String) : Knowledge := { k with target := some (target, value) }
def sawJob (job : CheckJob) : Knowledge := { k with job := some job }

def moved (target : Target) (candidate : String) : Knowledge :=
  { k with target := some (target, candidate), unprepared := false }

/-- What was known before the lock does not count under it, and the record does not count after it. A failed
`update-ref` leaves the target unknown: it may have taken effect. -/
def after (k : Knowledge) : (c : Command) → Except String c.Answer → Knowledge
  | .load _, .ok attempt => k.recorded attempt
  | .inspect _, .ok attempt => k.inspected attempt
  | .save next, .ok _ => k.recorded next
  | .replace _ next, .ok _ => { k with record := none, snapshot := some next }
  | .acquire _, _ => {}
  | .release, _ => { k with record := none }
  | .resolveRef target, .ok value => k.sawTarget target value
  | .updateRef _ target candidate _, .ok _ => k.moved target candidate
  | .updateRef _ _ _ _, .error _ => { k with target := none, unprepared := false }
  | .portJob _, .ok job => k.sawJob job
  | .storedJob _, .ok (some job) => k.sawJob job
  | .ensureWorktree _, .error _ => { k with unprepared := true }
  | .registerWorkspace _, .error _ => { k with unprepared := true }
  | _, _ => k

end Knowledge

/-- The fields that no call changes. A manual resolution stays recorded. -/
structure SameAttempt (attempt next : IntegrationAttempt) : Prop where
  id : next.id = attempt.id
  target : next.target = attempt.target
  beforeCommit : next.beforeCommit = attempt.beforeCommit
  resolution : attempt.manuallyResolved = true → next.resolution = attempt.resolution

inductive Follows (k : Knowledge) (attempt next : IntegrationAttempt) : Prop where
  | progresses (h : attempt.status.unfinished = true) (hnext : next.status.unfinished = true)
  | validates (candidate : String) (checks : List CheckResult)
      (h : attempt.status.unfinished = true) (hchecks : anyFailed checks = false)
      (hnext : next = { attempt with
        status := .validating, candidateCommit := some candidate, checks := some checks })
  | commits (candidate summary : String) (h : attempt.status = .validating)
      (hcandidate : attempt.candidateCommit = some candidate)
      (htarget : k.target = some (attempt.target, candidate))
      (hnext : next = { attempt with
        status := .committed, afterCommit := some candidate, summary := some summary })
  | fails (h : attempt.status.unfinished = true) (hnext : next.status = .failed)
  | unprepared (hprepared : k.unprepared = true) (h : attempt.status.resumable = true)
      (hnext : next.status = .failed)
  | incomplete (h : attempt.status = .validating)
      (hevidence : attempt.candidateCommit = none ∨ attempt.checks = none) (hnext : next.status = .failed)
  | unadvanced (h : attempt.status = .validating)
      (htarget : k.target = some (attempt.target, attempt.beforeCommit)) (hnext : next.status = .failed)
  | diagnoses (summary : String) (hnext : next = { attempt with summary := some summary })

/-- `update-ref` is issued for the validating record of the call, with the evidence of its Job. -/
structure Delivers (k : Knowledge) (attempt : IntegrationAttempt) (candidate : String) : Prop where
  record : k.record = some attempt
  status : attempt.status = .validating
  stored : attempt.candidateCommit = some candidate
  evidence : attempt.jobId ≠ none → ∃ job, k.job = some job ∧ Proves attempt candidate job

def Command.permitted (k : Knowledge) : Command → Prop
  | .save next => ∃ attempt, k.record = some attempt ∧ SameAttempt attempt next ∧ Follows k attempt next
  | .replace expected next =>
    k.snapshot = some expected ∧ SameAttempt expected next ∧
      Follows { k with unprepared := false } expected next
  | .updateRef id target candidate expected => ∃ attempt, Delivers k attempt candidate ∧
      attempt.id = id ∧ attempt.target = target ∧ attempt.beforeCommit = expected
  | .ensureWorktree id => ∃ attempt, k.record = some attempt ∧ attempt.id = id
  | .registerWorkspace id => ∃ attempt, k.record = some attempt ∧ attempt.id = id
  | _ => True

/-- A load returns the record of its id. -/
def discipline : Protocol Command Command.Answer String Knowledge where
  permits := fun k c => c.permitted k
  answers := fun c answer =>
    match c, answer with
    | .load id, .ok attempt => attempt.id = id
    | _, _ => True
  after := fun k c answer => k.after c answer

/-- The commands that tell nothing that a later command needs. -/
def Command.Quiet : Command → Prop
  | .load _ | .inspect _ | .save _ | .replace _ _ | .acquire _ | .release | .resolveRef _
  | .updateRef _ _ _ _ | .portJob _ | .storedJob _ | .ensureWorktree _ | .registerWorkspace _ => False
  | _ => True

theorem Command.Quiet.permitted {c : Command} (h : c.Quiet) (k : Knowledge) : c.permitted k := by
  cases c with
  | save next | replace expected next | updateRef id target candidate expected | ensureWorktree id
  | registerWorkspace id => exact h.elim
  | _ => trivial

theorem Command.Quiet.after {c : Command} (h : c.Quiet) (k : Knowledge) (answer : Except String c.Answer) :
    k.after c answer = k := by
  cases c with
  | load | inspect | save | replace | acquire | release | resolveRef | updateRef | portJob | storedJob
  | ensureWorktree | registerWorkspace => exact h.elim
  | _ => cases answer <;> rfl

/-- The knowledge and the error do not matter after a failure. -/
def anyError : Knowledge → String → Prop := fun _ _ => True

/-- A failure leaves the record as it was. -/
def sameRecord (k : Knowledge) : Knowledge → String → Prop := fun t _ => t.record = k.record

def still {α : Type} (k : Knowledge) : Knowledge → α → Prop := fun t _ => t = k

section Rules

variable {α β : Type} {k : Knowledge}

variable {p : Call α}

theorem quiet_keeps (hp : p.Issues Command.Quiet) : discipline.Keeps (still k) (still k) k p :=
  Keeps.of_issues (I := fun t => t = k) (fun t _ hc ht => ⟨hc.permitted t, fun answer => ht ▸ hc.after t answer⟩)
    hp rfl

theorem lax {Q : Knowledge → α → Prop} {R : Knowledge → String → Prop}
    (h : discipline.Keeps Q R k p) : discipline.Keeps Q anyError k p :=
  Keeps.mono (fun _ _ hq => hq) (fun _ _ _ => trivial) h

variable {f : α → Call β}

theorem seq_keeps {Q : Knowledge → α → Prop}
    {S : Knowledge → β → Prop} {R : Knowledge → String → Prop} (hp : discipline.Keeps Q R k p)
    (hf : ∀ t value, Q t value → discipline.Keeps S R t (f value)) :
    discipline.Keeps S R k (p >>= f) := Keeps.bind hp hf

theorem quiet_seq {S : Knowledge → β → Prop}
    {R : Knowledge → String → Prop} (hp : p.Issues Command.Quiet) (hR : ∀ error, R k error)
    (hf : ∀ value, discipline.Keeps S R k (f value)) : discipline.Keeps S R k (p >>= f) := by
  refine seq_keeps (Q := still k) (Keeps.mono (fun _ _ h => h) ?_ (quiet_keeps hp)) ?_
  · intro t error ht
    exact ht ▸ hR error
  · intro t value ht
    exact ht ▸ hf value

theorem require_seq {condition : Bool} {message : String} {f : Unit → Call β}
    {S : Knowledge → β → Prop} {R : Knowledge → String → Prop} (hR : ∀ error, R k error)
    (hf : condition = true → discipline.Keeps S R k (f ())) :
    discipline.Keeps S R k (require condition message >>= f) := by
  cases condition with
  | true => exact hf rfl
  | false => exact hR message

theorem ofExcept_seq {e : Except String α} {S : Knowledge → β → Prop}
    {R : Knowledge → String → Prop} (hR : ∀ error, R k error)
    (hf : ∀ value, e = .ok value → discipline.Keeps S R k (f value)) :
    discipline.Keeps S R k (Program.ofExcept e >>= f) := by
  cases e with
  | ok value => exact hf value rfl
  | error error => exact hR error

theorem save_keeps {attempt next : IntegrationAttempt} (hk : k.record = some attempt)
    (hsame : SameAttempt attempt next) (hfollows : Follows k attempt next) :
    discipline.Keeps (fun t (_ : Unit) => t = k.recorded next) (still k) k (issue (Command.save next)) :=
  Keeps.issue ⟨attempt, hk, hsame, hfollows⟩ (fun _ _ => rfl) (fun _ => rfl)

theorem saveUpdate_keeps {attempt : IntegrationAttempt} {patch : IntegrationAttempt → IntegrationAttempt}
    (hk : k.record = some attempt) (hsame : SameAttempt attempt (patch attempt))
    (hfollows : Follows k attempt (patch attempt)) :
    discipline.Keeps (fun t next => next = patch attempt ∧ t = k.recorded next) (still k) k
      (saveUpdate attempt patch) := by
  unfold saveUpdate
  refine ofExcept_seq (fun _ => rfl) fun next hnext => ?_
  obtain rfl := update_ok hnext
  refine seq_keeps (save_keeps hk hsame hfollows) fun t _ ht => ?_
  exact ⟨rfl, ht⟩

theorem release_keeps (hp : discipline.Keeps (fun _ _ => True) anyError k p) :
    discipline.Keeps (fun _ _ => True) anyError k (finallyDo p (issue Command.release)) := by
  have hrelease : ∀ t, discipline.Keeps (fun _ (_ : Unit) => True) anyError t
      (issue Command.release) :=
    fun t => Keeps.issue trivial (fun _ _ => trivial) fun _ => trivial
  unfold finallyDo
  refine seq_keeps (Keeps.handle hp fun t error _ => ?_) fun t value _ => ?_
  · exact seq_keeps (hrelease t) fun _ _ _ => trivial
  · exact seq_keeps (hrelease t) fun _ _ _ => trivial

/-- What a cleanup does not tell stays known. -/
theorem finallyDo_keeps {cleanup : Call Unit} {Q : Knowledge → α → Prop}
    (hp : discipline.Keeps Q anyError k p) (hcleanup : cleanup.Issues Command.Quiet) :
    discipline.Keeps Q anyError k (finallyDo p cleanup) := by
  unfold finallyDo
  refine seq_keeps (Keeps.handle hp fun t error _ => ?_) fun t value hvalue => ?_
  · exact quiet_seq hcleanup (fun _ => trivial) fun _ => trivial
  · exact quiet_seq hcleanup (fun _ => trivial) fun _ => hvalue

end Rules

end GitIntegration
