import Yui.IntervalGrid
import Yui.JobDefinition
import Yui.KeyedTable
import Yui.ProviderBinding

/-!
# Schedules

The records of `schedule/schedule.ts` and the rules that name their next occurrence. An instant is
kept as its text and read with `Date.parse`; a time value is an integer of milliseconds. The next
occurrence lies after the fence while that of an interval rule is within reach of its anchor.
-/

open JsText Checked Validation

/-- `Date.parse` names a time value, and the cron parser an instant strictly after the one it is given. -/
class ScheduleHost extends RuntimeHost where
  dateParse_range : ∀ {text : String} {time : ℤ}, dateParse text = some time → time.natAbs ≤ 8640000000000000
  parseCron : String → String → Except String Unit
  cronNext : String → String → ℤ → Except String String
  cronNext_after : ∀ {expression timezone : String} {after : ℤ} {text : String},
    cronNext expression timezone after = .ok text →
      ∃ time, dateParse text = some time ∧ after < time

inductive ScheduleRule where
  | once (instant : String)
  | interval (anchor : String) (everyMs : ℤ)
  | cron (expression timezone : String)
  deriving DecidableEq

def ScheduleRule.isOnce : ScheduleRule → Bool
  | .once _ => true
  | _ => false

inductive ScheduleTarget where
  | existingJob
  | newJob (definitionRevision : ℚ)
  deriving DecidableEq

/-- Who granted a service its authority. -/
inductive ServiceIssuer where
  | caller (caller : DurableJobCaller)
  | projectSync

inductive ScheduleAuthorization where
  | session (caller : DurableJobCaller) (binding : String) (jobRevision : ℚ)
  | service (grantId : String) (revoked : Bool) (binding : String) (jobRevision : ℚ)
      (grantedBy : ServiceIssuer) (grantedAt : String)

inductive ScheduleState where
  | enabled | disabled | completed | needsAttention | retired
  deriving DecidableEq

inductive AttemptOutcome where
  | admitted | overlap | blocked

structure ScheduleAttempt where
  time : String
  dueAt : String
  outcome : AttemptOutcome
  runId : Option String
  jobId : Option String
  generation : Option ℚ
  reason : Option String

structure BuiltinSchedule where
  projectId : String
  enabled : Bool

structure Schedule where
  schemaVersion : ℕ
  id : String
  scope : JobScope
  jobId : String
  target : ScheduleTarget
  rule : ScheduleRule
  revision : ℚ
  generation : ℚ
  state : ScheduleState
  nextDue : Option String
  processedThrough : Option String
  authorization : ScheduleAuthorization
  builtin : Option BuiltinSchedule
  lastAttempt : Option ScheduleAttempt
  reason : Option String
  createdAt : String
  updatedAt : String

namespace Schedule

def key (schedule : Schedule) : JobScope × String := (schedule.scope, schedule.id)

end Schedule

def ScheduleAuthorization.jobRevision : ScheduleAuthorization → ℚ
  | .session _ _ jobRevision => jobRevision
  | .service _ _ _ jobRevision _ _ => jobRevision

def ScheduleAuthorization.binding : ScheduleAuthorization → String
  | .session _ binding _ => binding
  | .service _ _ binding _ _ _ => binding

def ScheduleAuthorization.isService : ScheduleAuthorization → Bool
  | .session _ _ _ => false
  | .service _ _ _ _ _ _ => true

def ScheduleAuthorization.revoke : ScheduleAuthorization → ScheduleAuthorization
  | .session caller binding jobRevision => .session caller binding jobRevision
  | .service grantId _ binding jobRevision grantedBy grantedAt =>
    .service grantId true binding jobRevision grantedBy grantedAt

def scheduleId (id : String) : Except String Unit :=
  refuse (isSafeId id = false) "An explicit safe Schedule/Job id is required."

/-- `/(?:Z|[+-]\d{2}:\d{2})$/u`. -/
def hasOffset (value : String) : Bool :=
  match value.toList.reverse with
  | 'Z' :: _ => true
  | d :: c :: ':' :: b :: a :: sign :: _ =>
    [a, b, c, d].all Char.isDigit && (sign == '+' || sign == '-')
  | _ => false

/-- The number of fields of `expression.trim().split(/\s+/u)`. -/
def fieldCount (expression : String) : ℕ :=
  (((trim expression).toList.splitOnP isWhitespace).filter (· ≠ [])).length

/-- `/\bH\b/iu`: a letter H that stands alone between characters that are no word characters. -/
def hasLoneH : List Char → Bool :=
  let isWord := fun c : Char => c.isAlphanum || c == '_'
  fun chars => (chars.splitOnP fun c => !isWord c).any fun word => word = ['H'] || word = ['h']

section

variable [ScheduleHost]

def instant (value : String) : Except String Unit := do
  requireTimestamp value "Schedule instant"
  refuse (hasOffset value = false) "Schedule instants require an explicit UTC offset."

def validateScheduleRule : ScheduleRule → Except String Unit
  | .once at_ => instant at_
  | .interval anchor everyMs => do
    instant anchor
    refuse (maxSafeInteger < everyMs.natAbs ∨ everyMs < 1000)
      "Interval everyMs must be an integer of at least 1000."
  | .cron expression timezone => do
    refuse (trim timezone = "") "An explicit IANA timezone is required."
    refuse (fieldCount expression ≠ 5 ∨ hasLoneH expression.toList = true)
      "Cron requires five fields and does not support random H."
    ScheduleHost.parseCron expression timezone

/-- `Date.parse` of an instant that was validated. -/
def timeOf (value : String) : ℤ := (JsHost.dateParse value).getD 0

/-- `new Date(time).toISOString()`. -/
def toISOString (time : ℤ) : Except String String := Binding.iso time

def nextScheduleDue (rule : ScheduleRule) (after : ℤ) : Except String (Option String) := do
  validateScheduleRule rule
  match rule with
  | .once at_ =>
    if after < timeOf at_ then do
      let due ← toISOString (timeOf at_)
      .ok (some due)
    else .ok none
  | .interval anchor everyMs => do
    let due ← toISOString ⌊IntervalGrid.intervalDue (timeOf anchor) everyMs after⌋
    .ok (some due)
  | .cron expression timezone => do
    let due ← ScheduleHost.cronNext expression timezone after
    .ok (some due)

theorem timeOf_toISOString {time : ℤ} {text : String} (h : toISOString time = .ok text) :
    JsHost.dateParse text = some time := by
  unfold toISOString Binding.iso at h
  split_ifs at h with hrange
  have htext : RuntimeHost.iso time = text := by injection h
  rw [← htext]
  exact RuntimeHost.dateParse_iso time hrange

theorem timeOf_range (text : String) : (timeOf text).natAbs ≤ 8640000000000000 := by
  unfold timeOf
  cases h : JsHost.dateParse text with
  | none => exact Nat.zero_le _
  | some time => exact ScheduleHost.dateParse_range h

/-- The instant of the grid that follows the fence lies within `2 ^ 53` milliseconds of the anchor. -/
def ScheduleRule.Reach (fence : ℤ) : ScheduleRule → Prop
  | .interval anchor everyMs => ((fence - timeOf anchor) / everyMs + 1) * everyMs ≤ 2 ^ 53
  | _ => True

instance (fence : ℤ) : DecidablePred (ScheduleRule.Reach fence)
  | .interval _ _ => by unfold ScheduleRule.Reach; infer_instance
  | .once _ => .isTrue trivial
  | .cron _ _ => .isTrue trivial

theorem nextScheduleDue_after {rule : ScheduleRule} {after : ℤ} {text : String}
    (h : nextScheduleDue rule after = .ok (some text)) (hreach : rule.Reach after) :
    ∃ time, JsHost.dateParse text = some time ∧ after < time := by
  obtain ⟨_, hrule, hnext⟩ := bind_ok h
  cases rule with
  | once at_ =>
    simp only at hnext
    by_cases hlater : after < timeOf at_
    · rw [if_pos hlater] at hnext
      obtain ⟨due, hdue, hok⟩ := bind_ok hnext
      injection hok with hsome
      injection hsome with htext
      exact ⟨timeOf at_, htext ▸ timeOf_toISOString hdue, hlater⟩
    · rw [if_neg hlater] at hnext
      cases hnext
  | interval anchor everyMs =>
    obtain ⟨due, hdue, hok⟩ := bind_ok hnext
    injection hok with hsome
    injection hsome with htext
    obtain ⟨_, _, hrange⟩ := bind_ok hrule
    have hpos : 0 < everyMs := by
      have := refuse_ok hrange
      omega
    have hdate : (⌊IntervalGrid.intervalDue (timeOf anchor) everyMs after⌋).natAbs ≤ 8640000000000000 := by
      unfold toISOString Binding.iso at hdue
      split_ifs at hdue with hdate
      exact hdate
    have hanchor : |timeOf anchor| ≤ 2 ^ 53 := by
      have := timeOf_range anchor
      rw [Int.abs_eq_natAbs]
      omega
    exact ⟨_, htext ▸ timeOf_toISOString hdue, IntervalGrid.lt_intervalDue hpos hanchor hreach (by omega)⟩
  | cron expression timezone =>
    obtain ⟨due, hdue, hok⟩ := bind_ok hnext
    injection hok with hsome
    injection hsome with htext
    exact htext ▸ ScheduleHost.cronNext_after hdue

theorem nextScheduleDue_recurs {rule : ScheduleRule} {after : ℤ} (hrule : rule.isOnce = false) :
    nextScheduleDue rule after ≠ .ok none := by
  intro h
  obtain ⟨_, _, hnext⟩ := bind_ok h
  cases rule with
  | once at_ => cases hrule
  | interval anchor everyMs =>
    obtain ⟨due, _, hok⟩ := bind_ok hnext
    cases hok
  | cron expression timezone =>
    obtain ⟨due, _, hok⟩ := bind_ok hnext
    cases hok

def validateScheduleTarget : ScheduleTarget → Except String Unit
  | .existingJob => .ok ()
  | .newJob definitionRevision =>
    requirePositiveInteger definitionRevision "Schedule source definition revision"

/-- A public caller names only its scope, any other issuer is the Operator of a Session. -/
def IsIssuer (caller : DurableJobCaller) : Prop :=
  match caller.scope with
  | .user => caller = .public
  | .global => caller.role = some "operator" ∧ caller.nativeSessionId.getD "" ≠ ""
  | .task => False

instance (caller : DurableJobCaller) : Decidable (IsIssuer caller) := by
  unfold IsIssuer
  cases caller.scope <;> infer_instance

variable (schedule : Schedule)

def checkServiceAuthorization (grantId : String) (grantedBy : ServiceIssuer)
    (grantedAt : String) : Except String Unit := do
  refuse (schedule.scope ≠ .global) "Invalid Schedule service scope or registration."
  scheduleId grantId
  instant grantedAt
  match grantedBy with
  | .projectSync => refuse (schedule.builtin = none) "Invalid builtin service issuer."
  | .caller caller => refuse (¬ IsIssuer caller) "Invalid service grant issuer."

def checkSessionAuthorization (caller : DurableJobCaller) :
    Except String Unit := do
  match caller.role, caller.nativeSessionId with
  | some role, some nativeSessionId => do
    checkText role "Schedule caller role"
    checkText nativeSessionId "Schedule caller Session"
  | _, _ => .error "Schedule authority requires a Role and Session."
  match caller.scope with
  | .global => refuse (caller.role ≠ some "operator") "Global Schedule authority requires Operator."
  | .task =>
    refuse (¬ ∃ taskId ∈ caller.taskId, schedule.scope = .task taskId)
      "Schedule caller must belong to its scope."
  | .user => .error "Schedule caller must belong to its scope."

def checkScheduleAuthorization : Except String Unit := do
  requirePositiveInteger schedule.authorization.jobRevision "Schedule Job revision"
  refuse (isHexDigest schedule.authorization.binding = false) "Invalid Schedule authority binding."
  match schedule.authorization with
  | .service grantId _ _ _ grantedBy grantedAt =>
    checkServiceAuthorization schedule grantId grantedBy grantedAt
  | .session caller _ _ => checkSessionAuthorization schedule caller

def checkBuiltinSchedule (builtin : BuiltinSchedule) : Except String Unit :=
  refuse (isNumbered "project" builtin.projectId = false ∨ schedule.scope ≠ .global ∨
      schedule.id ≠ "project-sync-" ++ builtin.projectId ∨ schedule.jobId ≠ schedule.id ∨
      schedule.target ≠ .existingJob ∨ schedule.authorization.isService = false)
    "Invalid builtin Schedule."

def checkAttempt (attempt : ScheduleAttempt) : Except String Unit := do
  instant attempt.time
  instant attempt.dueAt
  whenPresent attempt.runId fun runId => checkText runId "Schedule Run id"
  whenPresent attempt.jobId scheduleId
  whenPresent attempt.generation fun generation =>
    requirePositiveInteger generation "Schedule attempt generation"
  whenPresent attempt.reason fun reason => checkText reason "Schedule attempt reason"

def checkScheduleInstants : Except String Unit := do
  whenPresent schedule.nextDue instant
  whenPresent schedule.processedThrough instant
  instant schedule.createdAt
  instant schedule.updatedAt

def checkScheduleState : Except String Unit := do
  refuse (schedule.state = .enabled ∧ schedule.nextDue = none) "Enabled Schedule requires nextDue."
  refuse (schedule.state = .completed ∧ (schedule.rule.isOnce = false ∨ schedule.nextDue ≠ none))
    "Only an admitted once Schedule is completed."

def checkSchedule : Except String Unit := do
  refuse (schedule.schemaVersion ≠ 1) "Invalid Schedule schema."
  scheduleId schedule.id
  scheduleId schedule.jobId
  validateScheduleTarget schedule.target
  let _ ← jobScopeKey schedule.scope
  whenPresent schedule.builtin (checkBuiltinSchedule schedule)
  validateScheduleRule schedule.rule
  requirePositiveInteger schedule.revision "Schedule revision"
  requirePositiveInteger schedule.generation "Schedule generation"
  checkScheduleState schedule
  checkScheduleInstants schedule
  checkScheduleAuthorization schedule
  whenPresent schedule.reason fun reason => checkText reason "Schedule reason"
  whenPresent schedule.lastAttempt checkAttempt

theorem nextDue_parses {schedule : Schedule} (h : checkSchedule schedule = .ok ())
    {due : String} (hdue : schedule.nextDue = some due) : ∃ time, JsHost.dateParse due = some time := by
  iterate 10 obtain ⟨_, _, h⟩ := bind_ok h
  obtain ⟨_, hinstants, _⟩ := bind_ok h
  obtain ⟨_, hnext, _⟩ := bind_ok hinstants
  rw [hdue] at hnext
  obtain ⟨_, htime, _⟩ := bind_ok hnext
  have hsome : JsHost.dateParse due ≠ none := refuse_ok htime
  exact Option.ne_none_iff_exists'.1 hsome

end
