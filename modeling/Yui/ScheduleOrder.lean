import Yui.FallibleRun
import Yui.ScheduleControl

/-!
# The order of scheduled occurrences

A dispatch moves the fence of its schedule to the due instant or past it, and no edit moves the fence
back. A due instant that is computed anew within reach lies past the fence; one that is kept was never
admitted. So the due instants that a schedule admits increase, whatever the clock does. An interval rule
out of reach of its anchor may name its fence again, and then admits one occurrence twice.
-/

open Checked

theorem requireRule_ok {rule : Option ScheduleRule} {required : ScheduleRule}
    (h : requireRule rule = .ok required) : rule = some required := by
  cases rule with
  | none => cases h
  | some rule =>
    injection h with heq
    rw [heq]

theorem requireDue_ok {due : Option String} {message text : String}
    (h : requireDue due message = .ok text) : due = some text := by
  cases due with
  | none => cases h
  | some due =>
    injection h with heq
    rw [heq]

section

variable [ScheduleHost]

/-- An edit keeps the due instant or names one past the fence, and never moves the fence back. -/
structure KeepsFence (before after : Schedule) : Prop where
  through : before.through ≤ after.through
  due : ∀ due, after.nextDue = some due → before.nextDue = some due ∨ before.through < timeOf due

theorem KeepsFence.of_kept {before after : Schedule} (hdue : after.nextDue = before.nextDue)
    (hthrough : after.processedThrough = before.processedThrough) : KeepsFence before after where
  through := by simp only [Schedule.through, hthrough, le_refl]
  due due h := .inl (hdue ▸ h)

variable {text : String}

theorem through_of_iso {schedule : Schedule} {time : ℤ}
    (h : toISOString time = .ok text) (hthrough : schedule.processedThrough = some text) :
    schedule.through = time := by
  simp only [Schedule.through, hthrough, Option.map_some, Option.getD_some, timeOf, timeOf_toISOString h]

theorem through_le_fence (schedule : Schedule) (now : ℤ) : schedule.through ≤ fence schedule now := le_max_right _ _

theorem now_le_fence (schedule : Schedule) (now : ℤ) : now ≤ fence schedule now := le_max_left _ _

theorem timeOf_of_parse {time : ℤ} (h : JsHost.dateParse text = some time) : timeOf text = time := by
  simp only [timeOf, h, Option.getD_some]

theorem lt_timeOf_nextScheduleDue {rule : ScheduleRule} {after : ℤ}
    (h : nextScheduleDue rule after = .ok (some text)) (hreach : rule.Reach after) : after < timeOf text := by
  obtain ⟨time, hparse, hafter⟩ := nextScheduleDue_after h hreach
  rw [timeOf_of_parse hparse]
  exact hafter

variable {now : ℤ}

theorem KeepsFence.of_fence {before after : Schedule} (hiso : toISOString (fence before now) = .ok text)
    (hthrough : after.processedThrough = some text) (hdue : ∀ due, after.nextDue = some due →
      before.nextDue = some due ∨ fence before now < timeOf due) : KeepsFence before after where
  through := by
    rw [through_of_iso hiso hthrough]
    exact through_le_fence before now
  due due h := by
    rcases hdue due h with hsame | hlater
    · exact .inl hsame
    · exact .inr (lt_of_le_of_lt (through_le_fence before now) hlater)

section Edits

/-- The rule whose next occurrence an edit asks for. -/
def plannedRule (request : ScheduleRequest) (previous : Schedule) : Option ScheduleRule :=
  if previous.builtin.isSome then some (request.rule.getD previous.rule)
  else
    match request.op with
    | .enable => some previous.rule
    | .update => request.rule
    | _ => none

variable {request : ScheduleRequest}

theorem editedDue_cases {previous : Schedule} {rule : ScheduleRule}
    {after : ℤ} {due : String} (h : editedDue request previous rule after = .ok (some due))
    (hreach : rule.Reach after) : previous.nextDue = some due ∨ after < timeOf due := by
  unfold editedDue at h
  split_ifs at h with honce
  · injection h with hkept
    exact .inl hkept
  · exact .inr (lt_timeOf_nextScheduleDue h hreach)

variable {env : ScheduleEnv} {previous next : Schedule} {now : ℤ}

theorem planSchedule_keepsFence (h : planSchedule env previous request now = .ok next)
    (hreach : ∀ rule, editedRule request previous = .ok rule → rule.Reach (fence previous now)) :
    next.key = previous.key ∧ KeepsFence previous next := by
  unfold planSchedule at h
  obtain ⟨_, _, _, _, rule, hrule, _, _, h⟩ := bind_ok₄ h
  obtain ⟨job, _, _, _, value, hvalue, due, hdue, h⟩ := bind_ok₄ h
  obtain ⟨through, hthrough, grant, _, hnext⟩ := bind_ok₂ h
  clear h
  rw [requireDue_ok hdue] at hvalue
  injection hnext with hnext
  subst hnext
  refine ⟨rfl, KeepsFence.of_fence hthrough rfl ?_⟩
  intro text htext
  injection htext with htext
  exact htext ▸ editedDue_cases hvalue (hreach rule hrule)

theorem editSchedule_keepsFence (h : editSchedule env previous request now = .ok next)
    (hbuiltin : previous.builtin = none)
    (hreach : ∀ rule ∈ plannedRule request previous, rule.Reach (fence previous now)) :
    next.key = previous.key ∧ KeepsFence previous next := by
  unfold editSchedule at h
  cases hop : request.op with
  | create =>
    rw [hop] at h
    cases h
  | disable =>
    rw [hop] at h
    injection h with h
    subst h
    exact ⟨rfl, .of_kept rfl rfl⟩
  | revoke =>
    rw [hop] at h
    obtain ⟨_, _, h⟩ := bind_ok h
    injection h with h
    subst h
    exact ⟨rfl, .of_kept rfl rfl⟩
  | enable =>
    rw [hop] at h
    refine planSchedule_keepsFence h fun rule hrule => hreach rule ?_
    rw [editedRule, hop, if_neg (by decide)] at hrule
    injection hrule with hrule
    simp [plannedRule, hbuiltin, hop, hrule]
  | update =>
    rw [hop] at h
    refine planSchedule_keepsFence h fun rule hrule => hreach rule ?_
    rw [editedRule, if_pos hop] at hrule
    simp [plannedRule, hbuiltin, hop, requireRule_ok hrule]

theorem updateProjectSync_keepsFence {builtin : BuiltinSchedule}
    (h : updateProjectSync env previous builtin request now = .ok next)
    (hreach : (request.rule.getD previous.rule).Reach (fence previous now)) :
    next.key = previous.key ∧ KeepsFence previous next := by
  unfold updateProjectSync at h
  iterate 3 obtain ⟨_, _, h⟩ := bind_ok h
  obtain ⟨updatedAt, _, nextDue, hdue, through, hthrough, grant, _, hnext⟩ := bind_ok₄ h
  clear h
  injection hnext with hnext
  subst hnext
  refine ⟨rfl, KeepsFence.of_fence hthrough rfl ?_⟩
  intro due hsome
  rw [show nextDue = some due from hsome] at hdue
  exact .inr (lt_timeOf_nextScheduleDue hdue hreach)

theorem changeSchedule_keepsFence (h : changeSchedule env previous request now = .ok next)
    (hreach : ∀ rule ∈ plannedRule request previous, rule.Reach (fence previous now)) :
    next.key = previous.key ∧ KeepsFence previous next := by
  unfold changeSchedule at h
  split at h
  · next builtin hbuiltin =>
      obtain ⟨_, _, h⟩ := bind_ok h
      exact updateProjectSync_keepsFence h (hreach _ (by simp [plannedRule, hbuiltin]))
  · next hbuiltin =>
      obtain ⟨edited, hedited, updatedAt, _, hok⟩ := bind_ok₂ h
      injection hok with hok
      obtain ⟨hkey, hadvances⟩ := editSchedule_keepsFence hedited hbuiltin hreach
      subst hok
      exact ⟨hkey, ⟨hadvances.through, hadvances.due⟩⟩

end Edits

/-- What a call that is no dispatch does to the table. -/
inductive Saves (schedules : List Schedule) : List Schedule → Prop
  | kept : Saves schedules schedules
  | saved (next : Schedule) (hchecked : checkSchedule next = .ok ())
      (hadvances : ∀ before, KeyedTable.get Schedule.key schedules next.key = some before →
        KeepsFence before next) :
      Saves schedules (KeyedTable.save Schedule.key schedules next)

variable {schedules after : List Schedule} {next : Schedule}

theorem Saves.of_save (h : saveSchedule schedules next = .ok after)
    (hadvances : ∀ before, KeyedTable.get Schedule.key schedules next.key = some before →
      KeepsFence before next) : Saves schedules after := by
  obtain ⟨_, hchecked, hok⟩ := bind_ok h
  injection hok with hok
  subst hok
  exact .saved next hchecked hadvances

theorem Saves.of_edit {key : JobScope × String}
    {before next : Schedule} (hget : KeyedTable.get Schedule.key schedules key = some before)
    (h : saveSchedule schedules next = .ok after) (hkey : next.key = before.key)
    (hkeeps : KeepsFence before next) : Saves schedules after := by
  apply Saves.of_save h
  intro other hother
  rw [hkey, KeyedTable.key_of_get hget, hget] at hother
  injection hother with hother
  exact hother ▸ hkeeps

variable {env : ScheduleEnv} {request : ScheduleRequest}

theorem newSchedule_key {job : JobDefinition} {jobId : String}
    (h : newSchedule env request job jobId now = .ok next) : next.key = (request.scope, request.id) := by
  unfold newSchedule at h
  obtain ⟨_, _, rule, _, _, _, due, _, h⟩ := bind_ok₄ h
  obtain ⟨_, _, grant, _, created, _, hok⟩ := bind_ok₃ h
  injection hok with hok
  subst hok
  rfl

theorem createSchedule_saves (h : createSchedule env schedules request now = .ok after) : Saves schedules after := by
  unfold createSchedule at h
  obtain ⟨jobId, _, _, _, h⟩ := bind_ok₂ h
  split at h
  · cases h
  · obtain ⟨_, _, h⟩ := bind_ok h
    split at h
    · obtain ⟨_, _, _, _, hok⟩ := bind_ok₂ h
      injection hok with hok
      subst hok
      exact .kept
    · next habsent =>
        obtain ⟨schedule, hnew, hsave⟩ := bind_ok h
        apply Saves.of_save hsave
        intro before hbefore
        rw [newSchedule_key hnew, habsent] at hbefore
        cases hbefore

theorem scheduleControl_saves (h : scheduleControl env schedules request now = .ok after)
    (hreach : ∀ previous ∈ KeyedTable.get Schedule.key schedules (request.scope, request.id),
      ∀ rule ∈ plannedRule request previous, rule.Reach (fence previous now)) : Saves schedules after := by
  unfold scheduleControl at h
  obtain ⟨_, _, _, _, h⟩ := bind_ok₂ h
  split_ifs at h with hcreate
  · exact createSchedule_saves h
  · split at h
    · cases h
    · next previous hprevious =>
        obtain ⟨_, _, _, _, next, hnext, hsave⟩ := bind_ok₃ h
        obtain ⟨hkey, hadvances⟩ := changeSchedule_keepsFence hnext (hreach previous hprevious)
        exact Saves.of_edit hprevious hsave hkey hadvances

/-- The admissions of the log lie behind the fence and the due instant of their schedule, and they
are in order. -/
structure Ordered (planner : Planner) : Prop where
  checked : ∀ schedule ∈ planner.schedules, checkSchedule schedule = .ok ()
  stored : ∀ occurrence ∈ planner.log,
    (KeyedTable.get Schedule.key planner.schedules occurrence.schedule).isSome = true
  behind : ∀ occurrence ∈ planner.log, occurrence.overlap = false → ∀ schedule,
    KeyedTable.get Schedule.key planner.schedules occurrence.schedule = some schedule →
      timeOf occurrence.dueAt ≤ schedule.through ∧
        ∀ due, schedule.nextDue = some due → timeOf occurrence.dueAt < timeOf due
  increasing : planner.log.Pairwise fun first second => first.schedule = second.schedule →
    first.overlap = false → second.overlap = false → timeOf first.dueAt < timeOf second.dueAt
  overlaps : ∀ occurrence ∈ planner.log, occurrence.overlap = true →
    if occurrence.rule.isOnce then occurrence.nextDue = some occurrence.dueAt
    else ∃ due, occurrence.nextDue = some due ∧ timeOf occurrence.dueAt < timeOf due

theorem checked_save {schedules : List Schedule}
    (hschedules : ∀ schedule ∈ schedules, checkSchedule schedule = .ok ()) (hnext : checkSchedule next = .ok ()) :
    ∀ schedule ∈ KeyedTable.save Schedule.key schedules next, checkSchedule schedule = .ok () := by
  intro schedule hmem
  unfold KeyedTable.save at hmem
  split_ifs at hmem with hstored
  · obtain ⟨other, hother, heq⟩ := List.mem_map.1 hmem
    split_ifs at heq with hkey
    · exact heq ▸ hnext
    · exact heq ▸ hschedules other hother
  · rcases List.mem_append.1 hmem with hold | hnew
    · exact hschedules schedule hold
    · rw [List.mem_singleton.1 hnew]
      exact hnext

theorem Ordered.saved {planner : Planner} (h : Ordered planner) {schedules : List Schedule}
    (hsaves : Saves planner.schedules schedules) : Ordered ⟨schedules, planner.log⟩ := by
  cases hsaves with
  | kept => exact h
  | saved next hchecked hadvances =>
    refine ⟨checked_save h.checked hchecked, ?_, ?_, h.increasing, h.overlaps⟩
    · intro occurrence hmem
      rw [KeyedTable.get_save]
      split_ifs with hkey
      · rfl
      · exact h.stored occurrence hmem
    · intro occurrence hmem hadmitted schedule hget
      rw [KeyedTable.get_save] at hget
      split_ifs at hget with hkey
      · injection hget with hget
        subst hget
        obtain ⟨before, hbefore⟩ := Option.isSome_iff_exists.1 (h.stored occurrence hmem)
        obtain ⟨hthrough, hdue⟩ := h.behind occurrence hmem hadmitted before hbefore
        have hmove := hadvances before (hkey ▸ hbefore)
        refine ⟨hthrough.trans hmove.through, ?_⟩
        intro due hsome
        rcases hmove.due due hsome with hkept | hlater
        · exact hdue due hkept
        · exact lt_of_le_of_lt hthrough hlater
      · exact h.behind occurrence hmem hadmitted schedule hget

section Dispatch

variable {dueAt : String}

theorem followingDue_cases {schedule : Schedule} {overlap : Bool} {after : ℤ}
    {nextDue : Option String} (h : followingDue schedule dueAt overlap after = .ok nextDue) :
    (overlap = true ∧ schedule.rule.isOnce = true ∧ nextDue = some dueAt) ∨
      (¬ (overlap = true ∧ schedule.rule.isOnce = true) ∧ nextScheduleDue schedule.rule after = .ok nextDue) := by
  unfold followingDue at h
  split_ifs at h with honce
  · injection h with h
    exact .inl ⟨honce.1, honce.2, h.symm⟩
  · exact .inr ⟨honce, h⟩

/-- What one dispatch leaves, when the due instant was reached. -/
structure Dispatched (schedule next : Schedule) (dueAt : String) (overlap : Bool) : Prop where
  key : next.key = schedule.key
  advances : KeepsFence schedule next
  reached : timeOf dueAt ≤ next.through
  passed : overlap = false → ∀ due, next.nextDue = some due → timeOf dueAt < timeOf due
  overlapped : overlap = true →
    if schedule.rule.isOnce then next.nextDue = some dueAt
    else ∃ due, next.nextDue = some due ∧ timeOf dueAt < timeOf due

variable {now : ℤ}

theorem dispatched_spec {schedule next : Schedule} {admission : RunAdmission}
    (h : dispatched schedule admission dueAt now = .ok next)
    (hnext : schedule.nextDue = some dueAt) (hdue : timeOf dueAt ≤ now)
    (hreach : schedule.rule.Reach (fence schedule now)) : Dispatched schedule next dueAt admission.overlap := by
  unfold dispatched at h
  obtain ⟨nextDue, hfollowing, through, hthrough, time, _, hok⟩ := bind_ok₃ h
  clear h
  injection hok with hok
  subst hok
  have hreached : timeOf dueAt ≤ fence schedule now := hdue.trans (now_le_fence schedule now)
  have hcases := followingDue_cases hfollowing
  have hlater : ∀ due, nextScheduleDue schedule.rule (fence schedule now) = .ok (some due) →
      timeOf dueAt < timeOf due :=
    fun due hsome => lt_of_le_of_lt hreached (lt_timeOf_nextScheduleDue hsome hreach)
  refine ⟨rfl, KeepsFence.of_fence hthrough rfl ?_, ?_, ?_, ?_⟩
  · intro due hsome
    rw [show nextDue = some due from hsome] at hcases
    rcases hcases with ⟨_, _, hkept⟩ | ⟨_, hnew⟩
    · exact .inl (hkept ▸ hnext)
    · exact .inr (lt_timeOf_nextScheduleDue hnew hreach)
  · rw [through_of_iso hthrough rfl]
    exact hreached
  · intro hadmitted due hsome
    rw [show nextDue = some due from hsome] at hcases
    rcases hcases with ⟨hoverlap, _⟩ | ⟨_, hnew⟩
    · rw [hadmitted] at hoverlap
      cases hoverlap
    · exact hlater due hnew
  · intro hoverlap
    rcases hcases with ⟨_, honce, hkept⟩ | ⟨hrecurs, hnew⟩
    · rw [if_pos honce]
      exact hkept
    · have hrule : schedule.rule.isOnce = false := by simpa [hoverlap] using hrecurs
      rw [if_neg (by simp [hrule])]
      cases hsome : nextDue with
      | none =>
        rw [hsome] at hnew
        exact absurd hnew (nextScheduleDue_recurs hrule)
      | some due =>
        rw [hsome] at hnew
        exact ⟨due, rfl, hlater due hnew⟩

theorem Ordered.dispatched {planner : Planner} (h : Ordered planner) {schedule next : Schedule} {overlap : Bool}
    (hget : KeyedTable.get Schedule.key planner.schedules schedule.key = some schedule)
    (hdue : schedule.nextDue = some dueAt) (hnext : Dispatched schedule next dueAt overlap)
    (hchecked : checkSchedule next = .ok ()) : Ordered ⟨KeyedTable.save Schedule.key planner.schedules next,
      planner.log ++ [⟨schedule.key, schedule.generation, dueAt, schedule.rule, overlap, next.nextDue⟩]⟩ := by
  have hbase : Ordered ⟨KeyedTable.save Schedule.key planner.schedules next, planner.log⟩ := by
    apply h.saved (.saved next hchecked _)
    intro before hbefore
    rw [hnext.key, hget] at hbefore
    injection hbefore with hbefore
    exact hbefore ▸ hnext.advances
  have hsaved : KeyedTable.get Schedule.key (KeyedTable.save Schedule.key planner.schedules next)
      schedule.key = some next := by
    rw [KeyedTable.get_save, if_pos hnext.key]
  refine ⟨hbase.checked, ?_, ?_, ?_, ?_⟩
  · intro occurrence hmem
    rcases List.mem_append.1 hmem with hold | hnew
    · exact hbase.stored occurrence hold
    · rw [List.mem_singleton.1 hnew, hsaved]
      rfl
  · intro occurrence hmem hadmitted other hother
    rcases List.mem_append.1 hmem with hold | hnew
    · exact hbase.behind occurrence hold hadmitted other hother
    · rw [List.mem_singleton.1 hnew] at hadmitted hother ⊢
      rw [hsaved] at hother
      injection hother with hother
      subst hother
      exact ⟨hnext.reached, hnext.passed hadmitted⟩
  · rw [List.pairwise_append]
    refine ⟨h.increasing, List.pairwise_singleton _ _, ?_⟩
    intro first hfirst second hsecond hsame hadmitted _
    rw [List.mem_singleton.1 hsecond] at hsame ⊢
    exact (h.behind first hfirst hadmitted schedule (hsame ▸ hget)).2 dueAt hdue
  · intro occurrence hmem hoverlap
    rcases List.mem_append.1 hmem with hold | hnew
    · exact h.overlaps occurrence hold hoverlap
    · rw [List.mem_singleton.1 hnew] at hoverlap ⊢
      exact hnext.overlapped hoverlap

/-- An enabled schedule whose due instant has come. -/
def Schedule.IsDue (schedule : Schedule) (now : ℤ) : Prop :=
  schedule.state = .enabled ∧ ∃ due ∈ schedule.nextDue, timeOf due ≤ now

/-- What a pass does to the table for the candidate with a key. -/
inductive PassStep (now : ℤ) (key : JobScope × String) (planner : Planner) : Planner → Prop
  | kept : PassStep now key planner planner
  | stopped {before next : Schedule} {schedules : List Schedule}
      (hget : KeyedTable.get Schedule.key planner.schedules key = some before)
      (hsave : saveSchedule planner.schedules next = .ok schedules) (hkey : next.key = before.key)
      (hkeeps : KeepsFence before next) (hstate : next.state = .needsAttention) :
      PassStep now key planner ⟨schedules, planner.log⟩
  | dispatched {schedule next : Schedule} {dueAt : String} {admission : RunAdmission} {schedules : List Schedule}
      (hget : KeyedTable.get Schedule.key planner.schedules key = some schedule)
      (hstate : schedule.state = .enabled) (hdue : schedule.nextDue = some dueAt)
      (htime : ¬ ∃ time ∈ JsHost.dateParse dueAt, now < time)
      (hnext : dispatched schedule admission dueAt now = .ok next)
      (hsave : saveSchedule planner.schedules next = .ok schedules) :
      PassStep now key planner ⟨schedules, planner.log ++
        [⟨schedule.key, schedule.generation, dueAt, schedule.rule, admission.overlap, next.nextDue⟩]⟩

variable {planner after : Planner} {key : JobScope × String}

theorem admitDue_step {env : ScheduleEnv} {candidate : Schedule}
    (hstep : admitDue env planner candidate now = .ok after) : PassStep now candidate.key planner after := by
  unfold admitDue at hstep
  split at hstep
  · injection hstep with hstep
    exact hstep ▸ .kept
  · next schedule hget =>
      split at hstep
      · injection hstep with hstep
        exact hstep ▸ .kept
      · next dueAt hdue =>
          by_cases hskip : schedule.state ≠ .enabled ∨ ∃ time ∈ JsHost.dateParse dueAt, now < time
          · rw [if_pos hskip] at hstep
            injection hstep with hstep
            exact hstep ▸ .kept
          · rw [if_neg hskip] at hstep
            rw [not_or, not_not] at hskip
            by_cases hunavailable : isUnavailable env schedule = true
            · rw [if_pos hunavailable] at hstep
              obtain ⟨updatedAt, _, schedules, hsave, hok⟩ := bind_ok₂ hstep
              injection hok with hok
              subst hok
              exact .stopped hget hsave rfl (.of_kept rfl rfl) rfl
            · rw [if_neg hunavailable] at hstep
              obtain ⟨admission, _, next, hnext, schedules, hsave, hok⟩ := bind_ok₃ hstep
              injection hok with hok
              subst hok
              exact .dispatched hget hskip.1 hdue hskip.2 hnext hsave

theorem blockSchedule_step {env : ScheduleEnv} {candidate : Schedule} {message : String}
    (hstep : blockSchedule env planner candidate now message = .ok after) :
    PassStep now candidate.key planner after := by
  unfold blockSchedule at hstep
  simp only at hstep
  split at hstep
  · injection hstep with hstep
    exact hstep ▸ .kept
  · next current hget =>
      split_ifs at hstep with hskip
      · injection hstep with hstep
        exact hstep ▸ .kept
      · obtain ⟨time, _, schedules, hsave, _, _, hok⟩ := bind_ok₃ hstep
        injection hok with hok
        subst hok
        exact .stopped hget hsave rfl (.of_kept rfl rfl) rfl

/-- The schedule with a key is within reach of its anchor when it is due. -/
def Planner.InReach (planner : Planner) (now : ℤ) (key : JobScope × String) : Prop :=
  ∀ schedule ∈ KeyedTable.get Schedule.key planner.schedules key, schedule.IsDue now →
    schedule.rule.Reach (fence schedule now)

instance (planner : Planner) (now : ℤ) (key : JobScope × String) : Decidable (planner.InReach now key) := by
  unfold Planner.InReach Schedule.IsDue
  infer_instance

theorem Ordered.reached {schedule : Schedule} (h : Ordered planner)
    (hget : KeyedTable.get Schedule.key planner.schedules key = some schedule) (hdue : schedule.nextDue = some dueAt)
    (htime : ¬ ∃ time ∈ JsHost.dateParse dueAt, now < time) : timeOf dueAt ≤ now := by
  obtain ⟨time, hparse⟩ := nextDue_parses (h.checked _ (KeyedTable.mem_of_get hget)) hdue
  rw [timeOf_of_parse hparse]
  exact not_lt.1 fun hlater => htime ⟨time, hparse, hlater⟩

theorem Ordered.of_passStep (h : Ordered planner) (hstep : PassStep now key planner after)
    (hreach : planner.InReach now key) : Ordered after := by
  cases hstep with
  | kept => exact h
  | stopped hget hsave hkey hkeeps => exact h.saved (.of_edit hget hsave hkey hkeeps)
  | dispatched hget hstate hdue htime hnext hsave =>
    obtain ⟨_, hchecked, hsaved⟩ := bind_ok hsave
    injection hsaved with hsaved
    subst hsaved
    have hreached := h.reached hget hdue htime
    have hspec := dispatched_spec hnext hdue hreached (hreach _ hget ⟨hstate, _, hdue, hreached⟩)
    exact h.dispatched (KeyedTable.key_of_get hget ▸ hget) hdue hspec hchecked

theorem Planner.InReach.save {next : Schedule} {schedules : List Schedule} {log : List Occurrence}
    (h : planner.InReach now key) (hsave : saveSchedule planner.schedules next = .ok schedules)
    (hnext : next.IsDue now → next.rule.Reach (fence next now)) : Planner.InReach ⟨schedules, log⟩ now key := by
  obtain ⟨_, _, hsaved⟩ := bind_ok hsave
  injection hsaved with hsaved
  subst hsaved
  intro schedule hget
  rw [Option.mem_def, KeyedTable.get_save] at hget
  split_ifs at hget with hkey
  · injection hget with hget
    exact hget ▸ hnext
  · exact h schedule hget

theorem dispatched_fence {schedule next : Schedule} {admission : RunAdmission}
    (h : dispatched schedule admission dueAt now = .ok next) :
    next.rule = schedule.rule ∧ fence next now = fence schedule now := by
  unfold dispatched at h
  obtain ⟨nextDue, _, through, hthrough, time, _, hok⟩ := bind_ok₃ h
  injection hok with hok
  subst hok
  refine ⟨rfl, ?_⟩
  rw [fence, through_of_iso hthrough rfl]
  exact max_eq_right (now_le_fence schedule now)

/-- A pass leaves its fence where it is, and asks nothing more of a schedule that it stops. -/
theorem Ordered.inReach {other : JobScope × String} (h : Ordered planner) (hstep : PassStep now key planner after)
    (hreach : planner.InReach now key) (hother : planner.InReach now other) : after.InReach now other := by
  cases hstep with
  | kept => exact hother
  | stopped hget hsave hkey hkeeps hstate =>
    refine hother.save hsave fun hdue => ?_
    rw [hdue.1] at hstate
    cases hstate
  | dispatched hget hstate hdue htime hnext hsave =>
    obtain ⟨hrule, hfence⟩ := dispatched_fence hnext
    refine hother.save hsave fun _ => ?_
    rw [hrule, hfence]
    exact hreach _ hget ⟨hstate, _, hdue, h.reached hget hdue htime⟩

theorem Ordered.of_reconcileDue (env : ScheduleEnv) (now : ℤ) (candidates : List Schedule) :
    ∀ {planner : Planner}, Ordered planner → (∀ candidate ∈ candidates, planner.InReach now candidate.key) →
      Ordered (reconcileDue env now planner candidates) := by
  induction candidates with
  | nil =>
    intro planner h _
    exact h
  | cons candidate rest ih =>
    intro planner h hreach
    rw [List.forall_mem_cons] at hreach
    have hnext : ∀ {after}, PassStep now candidate.key planner after → Ordered (reconcileDue env now after rest) :=
      fun hstep => ih (h.of_passStep hstep hreach.1) fun other hother =>
        h.inReach hstep hreach.1 (hreach.2 other hother)
    rw [reconcileDue]
    split
    · next hadmitted => exact hnext (admitDue_step hadmitted)
    · split
      · next hblock => exact hnext (blockSchedule_step hblock)
      · exact h

end Dispatch

/-- The condition of a call: each occurrence that it names lies within `2 ^ 53` milliseconds of the anchor of its
interval rule. -/
def ScheduleCall.InReach (planner : Planner) : ScheduleCall → Prop
  | .control _ request now =>
    ∀ previous ∈ KeyedTable.get Schedule.key planner.schedules (request.scope, request.id),
      ∀ rule ∈ plannedRule request previous, rule.Reach (fence previous now)
  | .reconcile _ now limit => ∀ time ∈ (toISOString now).toOption,
    ∀ candidate ∈ listDueSchedules planner.schedules time limit, planner.InReach now candidate.key

instance (planner : Planner) (call : ScheduleCall) : Decidable (call.InReach planner) := by
  cases call <;> unfold ScheduleCall.InReach <;> infer_instance

theorem Ordered.of_call {planner after : Planner} {call : ScheduleCall} (h : Ordered planner)
    (hreach : call.InReach planner) (hstep : call.apply planner = .ok after) : Ordered after := by
  cases call with
  | control env request now =>
    obtain ⟨schedules, hcontrol, hok⟩ := bind_ok hstep
    injection hok with hok
    subst hok
    exact h.saved (scheduleControl_saves hcontrol hreach)
  | reconcile env now limit =>
    obtain ⟨time, htime, hok⟩ := bind_ok hstep
    injection hok with hok
    subst hok
    exact h.of_reconcileDue env now _ (hreach time (by rw [htime]; rfl))

def admissionsOf (planner : Planner) (schedule : JobScope × String) : List Occurrence :=
  planner.log.filter fun occurrence => occurrence.schedule = schedule ∧ occurrence.overlap = false

theorem ordered_run {schedules : List Schedule}
    (hvalid : ∀ schedule ∈ schedules, checkSchedule schedule = .ok ()) {calls : List ScheduleCall}
    (hreach : FallibleRun.Along ScheduleCall.apply (fun planner call => call.InReach planner) ⟨schedules, []⟩ calls) :
    Ordered (FallibleRun.run ScheduleCall.apply ⟨schedules, []⟩ calls) := by
  refine (FallibleRun.run_relates (R := fun _ _ => True) (fun _ _ => trivial) (fun _ _ _ _ _ => trivial) ?_ ?_
    hreach).1
  · intro planner call after h hcall hstep
    exact ⟨Ordered.of_call h hcall hstep, trivial⟩
  · exact ⟨hvalid, by simp, by simp, .nil, by simp⟩

/-- Over every run of edits and passes within reach, with whatever clock, the due instants that a schedule
admits strictly increase, so no trigger is admitted twice. An overlap keeps the due instant of a once rule
and moves that of a recurring rule past it. -/
theorem occurrences_increase (schedules : List Schedule)
    (hvalid : ∀ schedule ∈ schedules, checkSchedule schedule = .ok ()) (calls : List ScheduleCall)
    (hreach : FallibleRun.Along ScheduleCall.apply (fun planner call => call.InReach planner) ⟨schedules, []⟩ calls)
    (key : JobScope × String) :
    let planner := FallibleRun.run ScheduleCall.apply ⟨schedules, []⟩ calls
    ((admissionsOf planner key).map fun occurrence => timeOf occurrence.dueAt).Pairwise (· < ·) ∧
      ((admissionsOf planner key).map fun occurrence =>
        (occurrence.generation, occurrence.dueAt)).Nodup ∧ ∀ occurrence ∈ planner.log, occurrence.overlap = true →
        if occurrence.rule.isOnce then occurrence.nextDue = some occurrence.dueAt
        else ∃ due, occurrence.nextDue = some due ∧ timeOf occurrence.dueAt < timeOf due := by
  intro planner
  have hordered : Ordered planner := ordered_run hvalid hreach
  have hincreasing : (admissionsOf planner key).Pairwise
      fun first second => timeOf first.dueAt < timeOf second.dueAt := by
    have hfiltered := hordered.increasing.filter fun occurrence =>
      occurrence.schedule = key ∧ occurrence.overlap = false
    apply hfiltered.imp_of_mem
    intro first second hfirst hsecond hless
    have h1 := (List.mem_filter.1 hfirst).2
    have h2 := (List.mem_filter.1 hsecond).2
    simp only [decide_eq_true_eq] at h1 h2
    exact hless (h1.1.trans h2.1.symm) h1.2 h2.2
  refine ⟨?_, ?_, hordered.overlaps⟩
  · rw [List.pairwise_map]
    exact hincreasing
  · unfold List.Nodup
    rw [List.pairwise_map]
    apply hincreasing.imp
    intro first second hless heq
    have hdue : first.dueAt = second.dueAt := congrArg Prod.snd heq
    rw [hdue] at hless
    exact lt_irrefl _ hless

end

/-- The instants of the sample host, without cron rules. -/
@[reducible] def sampleScheduleHost : ScheduleHost where
  dateParse text := (Binding.sampleParse text).filter fun time => time.natAbs ≤ 8640000000000000
  dateParse_range h := by simpa using (Option.filter_eq_some_iff.1 h).2
  iso := Binding.sampleIso
  dateParse_iso time h := by simp [Binding.sampleParse_iso, h]
  parseCron _ _ := .error "Unsupported cron expression."
  cronNext _ _ _ := .error "Unsupported cron expression."
  cronNext_after h := by cases h

def sampleOperator : DurableJobCaller :=
  ⟨.global, none, some "operator", none, none, some "session-1", none⟩

def sampleBinding : String := "ca978112ca1bbdcafac231b39a23dc4da786eff8147c4e72b9807785afee48bb"

/-- Every five seconds, next at 08:00:05. -/
def sampleSchedule : Schedule where
  schemaVersion := 1
  id := "nightly"
  scope := .global
  jobId := "job"
  target := .existingJob
  rule := .interval sampleInstant 5000
  revision := 1
  generation := 1
  state := .enabled
  nextDue := some "2026-01-05T08:00:05.000Z"
  processedThrough := none
  authorization := .session sampleOperator sampleBinding 1
  builtin := none
  lastAttempt := none
  reason := none
  createdAt := sampleInstant
  updatedAt := sampleInstant

def sampleDefinition : JobDefinition :=
  ⟨1, "job", .global, "Job", 1, .builtin "system.noop" none (.obj []), false, none, sampleInstant,
    sampleInstant⟩

def sampleJobRun : JobRun where
  schemaVersion := 1
  delegation := none
  id := "job-1"
  definitionId := "job"
  definitionRevision := 1
  trigger := ⟨.schedule, "nightly:1:2026-01-05T08:00:05.000Z"⟩
  scope := .global (some "system.noop") none none
  projectId := none
  head := none
  workspace := none
  env := none
  steps := none
  idempotencyKey := sampleBinding
  operation := ⟨"request", sampleBinding, "global:operator", "authority", "job", "job.run",
    ⟨"yui:job-runner", "1"⟩, .none, [], []⟩
  status := .queued
  artifactsLocator := "artifacts/jobs/global/job-1"
  createdAt := sampleInstant
  startedAt := none
  heartbeatAt := none
  terminalAt := none
  process := none
  checkpoint := none
  result := none
  businessResult := none
  retryOf := none
  cancelRequestedAt := none
  artifacts := none
  wakeupNotified := none
  acknowledgedAt := none
  updatedAt := sampleInstant

/-- A Controller that grants every request and admits every run. -/
def sampleEnv : ScheduleEnv where
  authorizeScope _ _ := .ok ()
  getJobDefinition _ _ := some sampleDefinition
  authorizeDefinition _ _ _ := .ok ()
  scheduleServiceBinding _ _ _ := .ok sampleBinding
  jobAuthorityBinding _ _ := .ok sampleBinding
  randomUUID := "grant"
  requireProjectSyncTarget _ := .ok ()
  isExecutable _ := true
  requireScheduleService _ := .ok ()
  admitJobRun _ _ _ _ := .ok ⟨sampleJobRun, true, false⟩
  instantiateJobRun _ _ _ _ _ := .ok ⟨sampleJobRun, true, false⟩
  redactLaunchText text := text
  announce _ _ := .ok ()

/-- A pass, the clock moved back, an edit, and two more passes. -/
def sampleCalls : List ScheduleCall :=
  [.reconcile sampleEnv 1767600005000 100, .reconcile sampleEnv 1767600000000 100,
    .control sampleEnv ⟨.update, .global, sampleOperator, "nightly", none,
      some (.interval sampleInstant 5000), some 2, none, none⟩ 1767600000000,
    .reconcile sampleEnv 1767600005000 100, .reconcile sampleEnv 1767600010000 100]

theorem occurrences_increase_sample :
    let _ := sampleScheduleHost
    let planner := FallibleRun.run ScheduleCall.apply ⟨[sampleSchedule], []⟩ sampleCalls
    (admissionsOf planner (.global, "nightly")).map (fun occurrence =>
        (occurrence.generation, occurrence.dueAt)) =
      [(1, "2026-01-05T08:00:05.000Z"), (2, "2026-01-05T08:00:10.000Z")] ∧
    ((admissionsOf planner (.global, "nightly")).map fun occurrence =>
      timeOf occurrence.dueAt).Pairwise (· < ·) := by
  intro host planner
  have hvalid : ∀ schedule ∈ [sampleSchedule], checkSchedule schedule = .ok () := by decide +kernel
  have hreach : FallibleRun.Along ScheduleCall.apply (fun planner call => call.InReach planner)
      ⟨[sampleSchedule], []⟩ sampleCalls := by
    show _ ∧ _ ∧ _ ∧ _ ∧ _ ∧ True
    decide +kernel
  refine ⟨by decide +kernel, ?_⟩
  exact (occurrences_increase [sampleSchedule] hvalid sampleCalls hreach (.global, "nightly")).1

/-- A schedule of 1001 ms whose anchor is the first date, and two passes at the instant it is created. -/
def farCalls : List ScheduleCall :=
  [.control sampleEnv ⟨.create, .global, sampleOperator, "nightly", some "job",
      some (.interval "-271821-04-20T00:00:00.000Z" 1001), none, none, none⟩ 367199254742688,
    .reconcile sampleEnv 367199254742688 100, .reconcile sampleEnv 367199254742688 100]

theorem occurrence_repeated :
    let _ := sampleScheduleHost
    let planner := FallibleRun.run ScheduleCall.apply ⟨[], []⟩ farCalls
    let keys := (admissionsOf planner (.global, "nightly")).map fun occurrence => (occurrence.generation, occurrence.dueAt)
    keys = [(1, "+013606-01-30T08:59:02.688Z"), (1, "+013606-01-30T08:59:02.688Z")] ∧ ¬ keys.Nodup ∧
      ¬ ((admissionsOf planner (.global, "nightly")).map fun occurrence =>
        timeOf occurrence.dueAt).Pairwise (· < ·) := by
  decide +kernel
