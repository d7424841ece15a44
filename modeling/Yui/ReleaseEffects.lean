import Yui.ReleaseWorkflow

/-!
# Effects of release steps

The submission of `release/releaseWorkflowEngine.ts`: a step is running in the store before `executeStep`
is called, and what the call gives is recorded on it. The record is made outside the `try` that handles
what the call throws, by operations that refuse blank texts and texts with NUL.
-/

open JsText Checked Validation

namespace ReleaseSteps

section Engine

inductive EffectOutcome where
  | succeeded | failed | timeout

structure ReleaseStepEffect where
  outcome : EffectOutcome
  externalId : Option String
  externalIdentity : Option ExternalIdentity
  logs : Option (List String)
  error : Option String

/-- What `executeStep` gives. A thrown value has a text unless its conversion to one throws. -/
inductive StepResult where
  | returned (effect : ReleaseStepEffect)
  | threw (message : Option String)

/-- `INHERENT_IRREVERSIBILITY[kind] ?? "none"` -/
def inherentIrreversibility : ReleaseStepKind → Irreversibility
  | .npmPublish | .versionTag | .merge | .controllerReplace | .projectMigrate | .cliUpdate
  | .postVerify => .irreversible
  | _ => .none

def Irreversibility.rank : Irreversibility → ℕ
  | .none => 0
  | .reversible => 1
  | .irreversible => 2

def effectiveStepIrreversibility (plan : ReleaseStepPlan) : Irreversibility :=
  let inherent := inherentIrreversibility plan.kind
  let declared := plan.irreversibility.getD .none
  if declared.rank ≤ inherent.rank then inherent else declared

variable [JsHost]

/-- The record that the store holds when `executeStep` is called. -/
def submitStep (workflow : ReleaseWorkflow) (cursor : String) (now : JsDate) : Except String ReleaseWorkflow := do
  let step ← requireStep workflow cursor
  if step.status = .running then .ok workflow
  else do
    let started ← startStep workflow cursor now
    saveReleaseWorkflow workflow started

/-- The successor that the result of `executeStep` leads to. -/
def settleStep (workflow : ReleaseWorkflow) (plan : ReleaseStepPlan) (result : StepResult) (now : JsDate) :
    Except String ReleaseWorkflow :=
  match result with
  | .threw none => .error "Cannot convert object to primitive value"
  | .threw (some message) =>
    if effectiveStepIrreversibility plan = .irreversible then
      markStepUnknown workflow plan.id none (some ["executeStep crashed: " ++ message]) now
    else failStep workflow plan.id none (some ["executeStep crashed: " ++ message]) now
  | .returned effect =>
    match effect.outcome with
    | .succeeded => completeStep workflow plan.id effect.externalId effect.logs now
    | .failed =>
      failStep workflow plan.id effect.externalIdentity
        (some (effect.logs.getD [] ++ (effect.error.map ("error: " ++ ·)).toList)) now
    | .timeout =>
      match effect.externalIdentity with
      | none =>
        markStepUnknown workflow plan.id none
          (some (effect.logs.getD [] ++ ["timeout without external identity"])) now
      | some identity => markStepUnknown workflow plan.id (some identity) effect.logs now

def recordEffect (held : ReleaseWorkflow) (plan : ReleaseStepPlan) (result : StepResult) (now : JsDate) :
    Except String ReleaseWorkflow := do
  let next ← settleStep held plan result now
  saveReleaseWorkflow held next

/-- What the store holds after `executeStep` has returned or thrown. -/
def afterExecute (held : ReleaseWorkflow) (plan : ReleaseStepPlan) (result : StepResult) (now : JsDate) :
    ReleaseWorkflow :=
  match recordEffect held plan result now with
  | .ok next => next
  | .error _ => held

end Engine

section Steps

variable [JsHost] {planIds : List String} {steps : List (String × ReleaseStepRecord)}
  {step next : ReleaseStepRecord} {planId stepId value label : String} {workflow : ReleaseWorkflow}
  {now : JsDate}

omit [JsHost] in
theorem requireText_iff {text : String} :
    requireText value label = .ok text ↔ Readable value ∧ text = trim value := by
  rw [← @checkText_iff value label]
  unfold checkText
  constructor
  · intro h
    rw [h]
    exact ⟨rfl, (requireTextWith_normal h).2⟩
  · rintro ⟨h, rfl⟩
    obtain ⟨text, htext, -⟩ := bind_ok h
    rw [htext, (requireTextWith_normal htext).2]

omit [JsHost] in
theorem normal_trim_of_readable (h : Readable value) : NormalText (trim value) :=
  (requireTextWith_normal ((@requireText_iff value "" _).2 ⟨h, rfl⟩)).1

omit [JsHost] in
theorem readable_of_normal (h : NormalText value) : Readable value :=
  ((@requireText_iff value "" value).1 (requireTextWith_of_normal h _ _)).1

/-- What the store asks of a record. -/
structure StoredStep (planId : String) (step : ReleaseStepRecord) : Prop where
  named : NormalText step.planId ∧ step.planId = planId
  counted : step.attempts ≤ maxSafeInteger
  externalId : ∀ id ∈ step.externalId, NormalText id
  identity : ∀ identity ∈ step.externalIdentity, NormalText identity.kind ∧ NormalText identity.value
  logs : ∀ line ∈ step.logs, NormalText line
  attempted : ∀ time ∈ step.lastAttemptAt, JsHost.dateParse time ≠ none
  started : step.status = .running → step.lastAttemptAt ≠ none
  ended : ∀ time ∈ step.terminalAt, JsHost.dateParse time ≠ none
  settled : step.status = .succeeded ∨ step.status = .skipped → step.terminalAt ≠ none

omit [JsHost] in
theorem whenPresent_iff {α : Type} {value : Option α} {check : α → Except String Unit} :
    whenPresent value check = .ok () ↔ ∀ present ∈ value, check present = .ok () := by
  cases value <;> simp [whenPresent]

theorem storedReleaseStep_iff : storedReleaseStep step planId = .ok () ↔ StoredStep planId step := by
  unfold storedReleaseStep
  simp only [seq_iff, refuse_iff, whenPresent_iff, checkAll_iff, StoredRecord.requireNormalizedText_iff,
    StoredRecord.requireTimestamp, not_not, not_lt, not_and]
  constructor
  · rintro ⟨hnormal, hname, hcount, hid, hidentity, hlogs, hattempted, hstarted, hended, hsettled⟩
    exact ⟨⟨hnormal, hname⟩, hcount, hid, hidentity, hlogs, hattempted, hstarted, hended, hsettled⟩
  · intro h
    exact ⟨h.named.1, h.named.2, h.counted, h.externalId, h.identity, h.logs, h.attempted, h.started, h.ended,
      h.settled⟩

theorem StoredStep.validated (h : StoredStep planId step) : validateStepRecord step planId = .ok () := by
  unfold validateStepRecord
  simp only [seq_iff, refuse_iff, whenPresent_iff, checkAll_iff, checkText_iff, checkExternalIdentity,
    requireTimestamp, not_not, not_lt, not_and]
  exact ⟨h.named.2, h.counted, fun id hid => readable_of_normal (h.externalId id hid), fun identity hidentity =>
    ⟨readable_of_normal (h.identity identity hidentity).1, readable_of_normal (h.identity identity hidentity).2⟩,
    fun line hline => readable_of_normal (h.logs line hline), h.attempted, h.started, h.ended, h.settled⟩

omit [JsHost] in
theorem keys_save (h : (KeyedTable.get Prod.fst steps stepId).isSome = true) :
    (KeyedTable.save Prod.fst steps (stepId, next)).map Prod.fst = steps.map Prod.fst := by
  unfold KeyedTable.save
  rw [if_pos h, KeyedTable.keys_replace]

omit [JsHost] in
theorem checkSteps_save {check : ReleaseStepRecord → String → Except String Unit}
    (h : checkSteps planIds steps check = .ok ()) (hheld : (KeyedTable.get Prod.fst steps stepId).isSome = true)
    (hnext : check next stepId = .ok ()) :
    checkSteps planIds (KeyedTable.save Prod.fst steps (stepId, next)) check = .ok () := by
  unfold checkSteps at h ⊢
  rw [seq_iff, seq_iff] at h ⊢
  rw [keys_save hheld]
  refine ⟨h.1, h.2.1, ?_⟩
  have hrecords := h.2.2
  rw [checkAll_iff] at hrecords ⊢
  intro planId hplan
  rw [KeyedTable.get_save]
  split_ifs with hkey
  · subst hkey
    exact hnext
  · exact hrecords planId hplan

theorem validate_withStep (h : validateReleaseWorkflow workflow = .ok ())
    (hheld : (KeyedTable.get Prod.fst workflow.steps stepId).isSome = true)
    (hnext : validateStepRecord next stepId = .ok ()) :
    validateReleaseWorkflow (workflow.withStep stepId next now) = .ok () := by
  unfold validateReleaseWorkflow at h ⊢
  simp only [seq_iff] at h ⊢
  obtain ⟨hschema, hreference, htask, hgrant, hsource, hrest⟩ := h
  refine ⟨hschema, hreference, htask, hgrant, hsource, ?_⟩
  obtain ⟨plan, hplan, hrest⟩ := bind_ok hrest
  simp only [seq_iff] at hrest
  obtain ⟨hartifact, hkeys, hsteps, hcreated, -⟩ := hrest
  rw [show normalizePlan (workflow.withStep stepId next now).plan (workflow.withStep stepId next now).taskId
    (workflow.withStep stepId next now).id = .ok plan from hplan, ok_bind]
  simp only [seq_iff]
  refine ⟨hartifact, hkeys, checkSteps_save hsteps hheld hnext, hcreated, ?_⟩
  exact refuse_of_not (Option.isSome_iff_ne_none.1 now.parses) _

theorem stored_withStep (h : storedReleaseWorkflow workflow = .ok ())
    (hheld : (KeyedTable.get Prod.fst workflow.steps stepId).isSome = true) (hnext : StoredStep stepId next) :
    storedReleaseWorkflow (workflow.withStep stepId next now) = .ok () := by
  unfold storedReleaseWorkflow at h ⊢
  simp only [seq_iff] at h ⊢
  obtain ⟨hschema, hid, htask, hreference, hgrant, hsource, hempty, hplan, hsteps, hcreated, -, hvalid⟩ := h
  refine ⟨hschema, hid, htask, hreference, hgrant, hsource, hempty, hplan,
    checkSteps_save hsteps hheld (storedReleaseStep_iff.2 hnext), hcreated, ?_,
    validate_withStep hvalid hheld hnext.validated⟩
  exact refuse_of_not (Option.isSome_iff_ne_none.1 now.parses) _

theorem stored_valid (h : storedReleaseWorkflow workflow = .ok ()) : validateReleaseWorkflow workflow = .ok () := by
  unfold storedReleaseWorkflow at h
  simp only [seq_iff] at h
  exact h.2.2.2.2.2.2.2.2.2.2.2

omit [JsHost] in
theorem step_some (h : workflow.step stepId = some step) :
    KeyedTable.get Prod.fst workflow.steps stepId = some (stepId, step) := by
  unfold ReleaseWorkflow.step at h
  obtain ⟨entry, hentry, rfl⟩ := Option.map_eq_some_iff.1 h
  rw [hentry, ← KeyedTable.key_of_get hentry]

theorem step_withStep (planId : String) : (workflow.withStep stepId next now).step planId =
      if stepId = planId then some next else workflow.step planId := by
  unfold ReleaseWorkflow.step ReleaseWorkflow.withStep
  rw [KeyedTable.get_save]
  split_ifs with hkey
  · rfl
  · rfl

theorem stored_step (h : storedReleaseWorkflow workflow = .ok ()) (hstep : workflow.step stepId = some step) :
    StoredStep stepId step := by
  unfold storedReleaseWorkflow at h
  simp only [seq_iff] at h
  have hsteps := h.2.2.2.2.2.2.2.2.1
  unfold checkSteps at hsteps
  rw [seq_iff, seq_iff, checkAll_iff, checkAll_iff, checkAll_iff] at hsteps
  have hget := step_some hstep
  have hkey : stepId ∈ workflow.steps.map Prod.fst := List.mem_map.2 ⟨_, KeyedTable.mem_of_get hget, rfl⟩
  have hplan := not_not.1 (refuse_iff.1 (hsteps.2.1 stepId hkey))
  have hcheck := hsteps.2.2 stepId hplan
  rw [hget] at hcheck
  exact storedReleaseStep_iff.1 hcheck

theorem transition_withStep (hstep : workflow.step stepId = some step)
    (hclock : isBefore now.iso workflow.updatedAt = false)
    (hlegal : isLegalStepTransition step.status next.status = true) (hattempts : step.attempts ≤ next.attempts) :
    isValidReleaseWorkflowTransition workflow (workflow.withStep stepId next now) = true := by
  have hget := step_some hstep
  unfold isValidReleaseWorkflowTransition
  simp only [Bool.and_eq_true, beq_iff_eq, List.all_eq_true, Bool.not_eq_true']
  refine ⟨⟨⟨⟨hclock, rfl⟩, rfl⟩, ?_⟩, ?_⟩
  · have hkeys := congrArg List.length (@keys_save workflow.steps next stepId (by rw [hget]; rfl))
    rw [List.length_map, List.length_map] at hkeys
    exact hkeys.symm
  · intro key hkey
    rw [step_withStep]
    split_ifs with heq
    · subst heq
      rw [hstep]
      simp [hlegal, hattempts]
    · obtain ⟨entry, hentry, rfl⟩ := List.mem_map.1 hkey
      have hsome : (KeyedTable.get Prod.fst workflow.steps entry.1).isSome = true :=
        List.find?_isSome.2 ⟨entry, hentry, by simp⟩
      obtain ⟨found, hfound⟩ := Option.isSome_iff_exists.1 hsome
      have hheld : workflow.step entry.1 = some found.2 := by
        unfold ReleaseWorkflow.step
        rw [hfound]
        rfl
      rw [hheld]
      simp [isLegalStepTransition]

theorem replaceStep_saved (h : storedReleaseWorkflow workflow = .ok ()) (hstep : workflow.step stepId = some step)
    (hnext : StoredStep stepId next) (hclock : isBefore now.iso workflow.updatedAt = false)
    (hlegal : isLegalStepTransition step.status next.status = true) (hattempts : step.attempts ≤ next.attempts) :
    replaceStep workflow stepId next now = .ok (workflow.withStep stepId next now) ∧
      saveReleaseWorkflow workflow (workflow.withStep stepId next now) = .ok (workflow.withStep stepId next now) := by
  have hheld : (KeyedTable.get Prod.fst workflow.steps stepId).isSome = true := by
    rw [step_some hstep]
    rfl
  constructor
  · unfold replaceStep
    rw [validate_withStep (stored_valid h) hheld hnext.validated, ok_bind]
  · unfold saveReleaseWorkflow
    rw [stored_withStep h hheld hnext, ok_bind,
      refuse_of_not (show ¬ (workflow.withStep stepId next now).taskId ≠ workflow.taskId from not_not.2 rfl), ok_bind,
      refuse_of_not (by simp [transition_withStep hstep hclock hlegal hattempts]), ok_bind]

end Steps

section Effects

variable [JsHost] {workflow started next : ReleaseWorkflow} {plan : ReleaseStepPlan} {step : ReleaseStepRecord}
  {stepId : String} {now settledAt : JsDate}

def ReadableIdentity (identity : ExternalIdentity) : Prop := Readable identity.kind ∧ Readable identity.value

/-- The texts of a result can be kept on a record. -/
def Recordable : StepResult → Prop
  | .threw none => False
  | .threw (some message) => includesNul message = false
  | .returned effect =>
    (∀ line ∈ effect.logs.getD [], Readable line) ∧
      match effect.outcome with
      | .succeeded => ∀ id ∈ effect.externalId, Readable id
      | .failed =>
        (∀ error ∈ effect.error, includesNul error = false) ∧
          ∀ identity ∈ effect.externalIdentity, ReadableIdentity identity
      | .timeout => ∀ identity ∈ effect.externalIdentity, ReadableIdentity identity

omit [JsHost] in
theorem mapM_requireText_iff {lines normalized : List String} {label : String} :
    (lines.mapM fun line => requireText line label) = .ok normalized ↔
      (∀ line ∈ lines, Readable line) ∧ normalized = lines.map trim := by
  induction lines generalizing normalized with
  | nil =>
    rw [List.mapM_nil]
    constructor
    · intro h
      cases h
      simp
    · rintro ⟨-, rfl⟩
      rfl
  | cons line lines ih =>
    rw [List.mapM_cons]
    constructor
    · intro h
      obtain ⟨text, htext, rest, hrest, h⟩ := bind_ok₂ h
      cases h
      obtain ⟨hline, rfl⟩ := requireText_iff.1 htext
      obtain ⟨hlines, rfl⟩ := ih.1 hrest
      exact ⟨by simpa using ⟨hline, hlines⟩, rfl⟩
    · rintro ⟨hlines, rfl⟩
      rw [requireText_iff.2 ⟨hlines line (by simp), rfl⟩, ok_bind,
        ih.2 ⟨fun other hother => hlines other (by simp [hother]), rfl⟩]
      rfl

omit [JsHost] in
theorem appendLogs_iff {logs all : List String} {extra : Option (List String)} : appendLogs logs extra = .ok all ↔
      (∀ line ∈ extra.getD [], Readable line) ∧ all = logs ++ (extra.getD []).map trim := by
  cases extra with
  | none => simp [appendLogs, eq_comm]
  | some extra =>
    unfold appendLogs
    constructor
    · intro h
      obtain ⟨lines, hlines, h⟩ := bind_ok h
      cases h
      obtain ⟨hreadable, rfl⟩ := mapM_requireText_iff.1 hlines
      exact ⟨hreadable, rfl⟩
    · rintro ⟨hreadable, rfl⟩
      dsimp only
      have hlines : ∀ line ∈ extra, Readable line := hreadable
      rw [mapM_requireText_iff.2 ⟨hlines, rfl⟩]
      rfl

def trimmedIdentity (identity : ExternalIdentity) : ExternalIdentity := ⟨trim identity.kind, trim identity.value⟩

omit [JsHost] in
theorem onSome_iff {α β : Type} {check : α → Except String β} {good : α → Prop} {result : α → β}
    (hcheck : ∀ a b, check a = .ok b ↔ good a ∧ b = result a) {value : Option α} {checked : Option β} :
    onSome check value = .ok checked ↔ (∀ a ∈ value, good a) ∧ checked = value.map result := by
  cases value with
  | none => simp [onSome, eq_comm]
  | some a =>
    unfold onSome
    constructor
    · intro h
      obtain ⟨b, hb, h⟩ := bind_ok h
      cases h
      obtain ⟨hgood, rfl⟩ := (hcheck a b).1 hb
      exact ⟨by simpa using hgood, rfl⟩
    · rintro ⟨hgood, rfl⟩
      dsimp only
      rw [(hcheck a _).2 ⟨hgood a rfl, rfl⟩]
      rfl

omit [JsHost] in
theorem normalizeExternalIdentity_iff (identity normalized : ExternalIdentity) :
    normalizeExternalIdentity identity = .ok normalized ↔
      ReadableIdentity identity ∧ normalized = trimmedIdentity identity := by
  unfold normalizeExternalIdentity
  constructor
  · intro h
    obtain ⟨kind, hkind, value, hvalue, h⟩ := bind_ok₂ h
    cases h
    obtain ⟨hreadableKind, rfl⟩ := requireText_iff.1 hkind
    obtain ⟨hreadableValue, rfl⟩ := requireText_iff.1 hvalue
    exact ⟨⟨hreadableKind, hreadableValue⟩, rfl⟩
  · rintro ⟨⟨hkind, hvalue⟩, rfl⟩
    rw [requireText_iff.2 ⟨hkind, rfl⟩, ok_bind, requireText_iff.2 ⟨hvalue, rfl⟩, ok_bind]
    rfl

/-- The records that the three operations on a running step lead to. -/
structure Settles (step next : ReleaseStepRecord) (externalId : Option String)
    (externalIdentity : Option ExternalIdentity) (logs : Option (List String)) (now : JsDate) : Prop where
  planId : next.planId = step.planId
  attempts : next.attempts = step.attempts
  externalId : next.externalId = (externalId.map trim).orElse fun _ => step.externalId
  identity : next.externalIdentity = (externalIdentity.map trimmedIdentity).orElse fun _ => step.externalIdentity
  logs : next.logs = step.logs ++ (logs.getD []).map trim
  attempted : next.lastAttemptAt = step.lastAttemptAt
  status : next.status ∈ [ReleaseStepStatus.succeeded, .failed, .unknown]
  ended : next.terminalAt = some now.iso ∨ next.status = .unknown ∧ next.terminalAt = step.terminalAt

theorem Settles.stored {next : ReleaseStepRecord} (externalId : Option String)
    (externalIdentity : Option ExternalIdentity) (logs : Option (List String)) (hstep : StoredStep stepId step)
    (h : Settles step next externalId externalIdentity logs now)
    (hid : ∀ id ∈ externalId, Readable id) (hidentity : ∀ identity ∈ externalIdentity, ReadableIdentity identity)
    (hlogs : ∀ line ∈ logs.getD [], Readable line) : StoredStep stepId next where
  named := by
    rw [h.planId]
    exact hstep.named
  counted := h.attempts.symm ▸ hstep.counted
  externalId := by
    rw [h.externalId]
    cases externalId with
    | none => exact hstep.externalId
    | some id =>
      intro text htext
      cases htext
      exact normal_trim_of_readable (hid id rfl)
  identity := by
    rw [h.identity]
    cases externalIdentity with
    | none => exact hstep.identity
    | some identity =>
      intro normalized hnormalized
      cases hnormalized
      exact ⟨normal_trim_of_readable (hidentity identity rfl).1, normal_trim_of_readable (hidentity identity rfl).2⟩
  logs := by
    rw [h.logs]
    intro line hline
    rcases List.mem_append.1 hline with hline | hline
    · exact hstep.logs line hline
    · obtain ⟨raw, hraw, rfl⟩ := List.mem_map.1 hline
      exact normal_trim_of_readable (hlogs raw hraw)
  attempted := by
    rw [h.attempted]
    exact hstep.attempted
  started hrunning := by
    have hstatus := h.status
    rw [hrunning] at hstatus
    simp at hstatus
  ended := by
    rcases h.ended with hended | ⟨-, hended⟩
    · rw [hended]
      intro time htime
      cases htime
      exact Option.isSome_iff_ne_none.1 now.parses
    · rw [hended]
      exact hstep.ended
  settled hstatus := by
    rcases h.ended with hended | ⟨hunknown, -⟩
    · simp [hended]
    · rw [hunknown] at hstatus
      simp at hstatus

/-- What the three operations on a running step have in common. -/
def recordOn {α β : Type} (workflow : ReleaseWorkflow) (stepId : String) (step : ReleaseStepRecord)
    (check : α → Except String β) (value : Option α) (logs : Option (List String))
    (record : Option β → List String → ReleaseStepRecord) (now : JsDate) : Except String ReleaseWorkflow := do
  let value ← onSome check value
  let logs ← appendLogs step.logs logs
  replaceStep workflow stepId (record value logs) now

theorem recordOn_saved_iff {α β : Type} {check : α → Except String β} {good : α → Prop} {result : α → β}
    (value : Option α) (logs : Option (List String)) (record : Option β → List String → ReleaseStepRecord)
    (h : storedReleaseWorkflow workflow = .ok ()) (hstep : workflow.step stepId = some step)
    (hrunning : step.status = .running) (hclock : isBefore now.iso workflow.updatedAt = false)
    (hcheck : ∀ a b, check a = .ok b ↔ good a ∧ b = result a)
    {after : ReleaseStepRecord} (hafter : record (value.map result) (step.logs ++ (logs.getD []).map trim) = after)
    (hstatus : after.status ∈ [ReleaseStepStatus.succeeded, .failed, .unknown])
    (hattempts : after.attempts = step.attempts)
    (hnext : (∀ a ∈ value, good a) → (∀ line ∈ logs.getD [], Readable line) → StoredStep stepId after) :
    (∀ next, (recordOn workflow stepId step check value logs record now >>= saveReleaseWorkflow workflow) =
        .ok next → next.step stepId = some after) ∧
      ((∃ next, (recordOn workflow stepId step check value logs record now >>= saveReleaseWorkflow workflow) =
        .ok next) ↔ (∀ line ∈ logs.getD [], Readable line) ∧ ∀ a ∈ value, good a) := by
  have hparts : ∀ next, (recordOn workflow stepId step check value logs record now >>=
      saveReleaseWorkflow workflow) = .ok next →
        ((∀ line ∈ logs.getD [], Readable line) ∧ ∀ a ∈ value, good a) ∧
          next = workflow.withStep stepId after now := by
    intro next hok
    obtain ⟨successor, hsuccessor, hsaved⟩ := bind_ok hok
    obtain ⟨checked, hchecked, all, hall, hsuccessor⟩ := bind_ok₂ hsuccessor
    obtain ⟨hgood, rfl⟩ := (onSome_iff hcheck).1 hchecked
    obtain ⟨hreadable, rfl⟩ := appendLogs_iff.1 hall
    rw [hafter] at hsuccessor
    obtain ⟨_, -, hsuccessor⟩ := bind_ok hsuccessor
    cases hsuccessor
    unfold saveReleaseWorkflow at hsaved
    simp only [seq_iff] at hsaved
    obtain ⟨-, -, -, hsaved⟩ := hsaved
    cases hsaved
    exact ⟨⟨hreadable, hgood⟩, rfl⟩
  refine ⟨fun next hok => ?_, fun hok => hok.elim fun next hok => (hparts next hok).1, ?_⟩
  · rw [(hparts next hok).2, step_withStep, if_pos rfl]
  · rintro ⟨hreadable, hgood⟩
    have hlegal : isLegalStepTransition step.status after.status = true := by
      rw [hrunning]
      simp only [List.mem_cons, List.not_mem_nil, or_false] at hstatus
      rcases hstatus with hstatus | hstatus | hstatus <;> rw [hstatus] <;> rfl
    obtain ⟨hreplace, hsave⟩ := replaceStep_saved h hstep (hnext hgood hreadable) hclock hlegal hattempts.ge
    refine ⟨workflow.withStep stepId after now, ?_⟩
    unfold recordOn
    rw [(onSome_iff hcheck).2 ⟨hgood, rfl⟩, ok_bind, appendLogs_iff.2 ⟨hreadable, rfl⟩, ok_bind, hafter,
      hreplace, ok_bind, hsave]

omit [JsHost] in
theorem requireStep_held (hstep : workflow.step stepId = some step) : requireStep workflow stepId = .ok step := by
  unfold requireStep
  rw [hstep]

/-- The successor of a running step is saved exactly under a condition, and no longer running. -/
def SavedIff (held : ReleaseWorkflow) (stepId : String) (successor : Except String ReleaseWorkflow)
    (condition : Prop) : Prop :=
  (∀ next, (successor >>= saveReleaseWorkflow held) = .ok next →
      ∃ after, next.step stepId = some after ∧ after.status ≠ .running) ∧
    ((∃ next, (successor >>= saveReleaseWorkflow held) = .ok next) ↔ condition)

theorem completeStep_saved_iff (h : storedReleaseWorkflow workflow = .ok ())
    (hstep : workflow.step stepId = some step) (hrunning : step.status = .running)
    (hclock : isBefore now.iso workflow.updatedAt = false) (externalId : Option String)
    (logs : Option (List String)) : SavedIff workflow stepId (completeStep workflow stepId externalId logs now)
      ((∀ line ∈ logs.getD [], Readable line) ∧ ∀ id ∈ externalId, Readable id) := by
  let record : Option String → List String → ReleaseStepRecord := fun externalId logs =>
    { step with
      status := .succeeded
      externalId := externalId.orElse fun _ => step.externalId
      logs
      terminalAt := some now.iso }
  have heq : completeStep workflow stepId externalId logs now =
      recordOn workflow stepId step (requireText · "Release step externalId") externalId logs record now := by
    unfold completeStep
    rw [stored_valid h, ok_bind, requireStep_held hstep, ok_bind, refuse_of_not (not_not.2 hrunning), ok_bind]
    rfl
  obtain ⟨hsaved, hiff⟩ := recordOn_saved_iff externalId logs record h hstep hrunning hclock
    (fun _ _ => requireText_iff) rfl (by simp [record]) rfl (fun hid hlogs =>
      Settles.stored externalId none logs (stored_step h hstep)
        ⟨rfl, rfl, rfl, rfl, rfl, rfl, by simp [record], .inl rfl⟩ hid (by simp) hlogs)
  rw [heq]
  exact ⟨fun next hnext => ⟨_, hsaved next hnext, by simp [record]⟩, hiff⟩

theorem failStep_saved_iff (h : storedReleaseWorkflow workflow = .ok ())
    (hstep : workflow.step stepId = some step) (hrunning : step.status = .running)
    (hclock : isBefore now.iso workflow.updatedAt = false) (externalIdentity : Option ExternalIdentity)
    (logs : Option (List String)) : SavedIff workflow stepId (failStep workflow stepId externalIdentity logs now)
      ((∀ line ∈ logs.getD [], Readable line) ∧ ∀ identity ∈ externalIdentity, ReadableIdentity identity) := by
  let record : Option ExternalIdentity → List String → ReleaseStepRecord := fun externalIdentity logs =>
    { step with
      status := .failed
      externalIdentity := externalIdentity.orElse fun _ => step.externalIdentity
      logs
      terminalAt := some now.iso }
  have heq : failStep workflow stepId externalIdentity logs now =
      recordOn workflow stepId step normalizeExternalIdentity externalIdentity logs record now := by
    unfold failStep
    rw [stored_valid h, ok_bind, requireStep_held hstep, ok_bind, refuse_of_not (not_not.2 hrunning), ok_bind]
    rfl
  obtain ⟨hsaved, hiff⟩ := recordOn_saved_iff externalIdentity logs record h hstep hrunning hclock
    normalizeExternalIdentity_iff rfl (by simp [record]) rfl (fun hidentity hlogs =>
      Settles.stored none externalIdentity logs (stored_step h hstep)
        ⟨rfl, rfl, rfl, rfl, rfl, rfl, by simp [record], .inl rfl⟩ (by simp) hidentity hlogs)
  rw [heq]
  exact ⟨fun next hnext => ⟨_, hsaved next hnext, by simp [record]⟩, hiff⟩

theorem markStepUnknown_saved_iff (h : storedReleaseWorkflow workflow = .ok ())
    (hstep : workflow.step stepId = some step) (hrunning : step.status = .running)
    (hclock : isBefore now.iso workflow.updatedAt = false) (externalIdentity : Option ExternalIdentity)
    (logs : Option (List String)) :
    SavedIff workflow stepId (markStepUnknown workflow stepId externalIdentity logs now)
      ((∀ line ∈ logs.getD [], Readable line) ∧ ∀ identity ∈ externalIdentity, ReadableIdentity identity) := by
  let record : Option ExternalIdentity → List String → ReleaseStepRecord := fun externalIdentity logs =>
    { step with
      status := .unknown
      externalIdentity := externalIdentity.orElse fun _ => step.externalIdentity
      logs }
  have heq : markStepUnknown workflow stepId externalIdentity logs now =
      recordOn workflow stepId step normalizeExternalIdentity externalIdentity logs record now := by
    unfold markStepUnknown
    rw [stored_valid h, ok_bind, requireStep_held hstep, ok_bind, refuse_of_not (not_not.2 hrunning), ok_bind]
    rfl
  obtain ⟨hsaved, hiff⟩ := recordOn_saved_iff externalIdentity logs record h hstep hrunning hclock
    normalizeExternalIdentity_iff rfl (by simp [record]) rfl (fun hidentity hlogs =>
      have hsettles : Settles step (record (externalIdentity.map trimmedIdentity)
          (step.logs ++ (logs.getD []).map trim)) none externalIdentity logs now :=
        ⟨rfl, rfl, rfl, rfl, rfl, rfl, by simp [record], .inr ⟨rfl, rfl⟩⟩
      hsettles.stored none externalIdentity logs (stored_step h hstep) (by simp) hidentity hlogs)
  rw [heq]
  exact ⟨fun next hnext => ⟨_, hsaved next hnext, by simp [record]⟩, hiff⟩

omit [JsHost] in
theorem readable_append_iff {label text : String} (hlabel : includesNul label = false) {c : Char}
    (hmem : c ∈ label.toList) (hblack : isWhitespace c = false) :
    Readable (label ++ text) ↔ includesNul text = false := by
  constructor
  · intro h
    have hnul := h.noNul
    simp only [includesNul, List.contains_eq_mem, decide_eq_false_iff_not, String.toList_append,
      List.mem_append, not_or] at hnul ⊢
    exact hnul.2
  · intro h
    refine ⟨includesNul_append hlabel h, notBlank_of_mem ?_ hblack⟩
    rw [String.toList_append]
    exact List.mem_append_left _ hmem

omit [JsHost] in
theorem readable_crashed {message : String} :
    Readable ("executeStep crashed: " ++ message) ↔ includesNul message = false :=
  readable_append_iff (by decide) (by decide : 'x' ∈ _) (by decide)

omit [JsHost] in
theorem readable_error {message : String} : Readable ("error: " ++ message) ↔ includesNul message = false :=
  readable_append_iff (by decide) (by decide : 'r' ∈ _) (by decide)

omit [JsHost] in
theorem readable_timeout : Readable "timeout without external identity" := ⟨by decide, by decide⟩

theorem SavedIff.congr {successor : Except String ReleaseWorkflow} {condition other : Prop}
    (h : SavedIff workflow stepId successor condition) (heq : condition ↔ other) :
    SavedIff workflow stepId successor other := ⟨h.1, h.2.trans heq⟩

theorem settleStep_saved_iff (h : storedReleaseWorkflow workflow = .ok ())
    (hstep : workflow.step plan.id = some step) (hrunning : step.status = .running)
    (hclock : isBefore now.iso workflow.updatedAt = false) (result : StepResult) :
    SavedIff workflow plan.id (settleStep workflow plan result now) (Recordable result) := by
  cases result with
  | threw message =>
    cases message with
    | none => exact ⟨nofun, ⟨nofun, False.elim⟩⟩
    | some message =>
      have hcrashed : ((∀ line ∈ (some ["executeStep crashed: " ++ message]).getD [], Readable line) ∧
          ∀ identity ∈ (none : Option ExternalIdentity), ReadableIdentity identity) ↔
            Recordable (.threw (some message)) := by
        simp [Recordable, readable_crashed]
      unfold settleStep
      dsimp only
      split_ifs
      · exact (markStepUnknown_saved_iff h hstep hrunning hclock _ _).congr hcrashed
      · exact (failStep_saved_iff h hstep hrunning hclock _ _).congr hcrashed
  | returned effect =>
    obtain ⟨outcome, externalId, externalIdentity, logs, error⟩ := effect
    cases outcome with
    | succeeded => exact completeStep_saved_iff h hstep hrunning hclock externalId logs
    | failed =>
      refine (failStep_saved_iff h hstep hrunning hclock externalIdentity _).congr ?_
      cases error with
      | none => simp [Recordable]
      | some error => simp [Recordable, or_imp, forall_and, readable_error, and_assoc]
    | timeout =>
      cases externalIdentity with
      | none =>
        refine (markStepUnknown_saved_iff h hstep hrunning hclock none _).congr ?_
        simp [Recordable, or_imp, forall_and, readable_timeout]
      | some identity => exact markStepUnknown_saved_iff h hstep hrunning hclock (some identity) logs

theorem submitStep_ok {cursor : String} (h : storedReleaseWorkflow workflow = .ok ())
    (hsubmit : submitStep workflow cursor now = .ok started) : storedReleaseWorkflow started = .ok () ∧
      ∃ step, started.step cursor = some step ∧ step.status = .running := by
  unfold submitStep at hsubmit
  obtain ⟨step, hstep, hsubmit⟩ := bind_ok hsubmit
  have hheld : workflow.step cursor = some step := by
    unfold requireStep at hstep
    split at hstep
    · cases hstep
    · next found hfound =>
        cases hstep
        exact hfound
  split_ifs at hsubmit with hrunning
  · cases hsubmit
    exact ⟨h, step, hheld, hrunning⟩
  · obtain ⟨successor, hstart, hsave⟩ := bind_ok hsubmit
    unfold saveReleaseWorkflow at hsave
    simp only [seq_iff] at hsave
    obtain ⟨hstored, -, -, hsave⟩ := hsave
    cases hsave
    refine ⟨hstored, ?_⟩
    unfold startStep at hstart
    iterate 4 obtain ⟨_, -, hstart⟩ := bind_ok hstart
    cases hstart
    exact ⟨_, by rw [step_withStep, if_pos rfl], rfl⟩

/-- With a clock that does not go back, what `executeStep` gives is recorded in the store, and the step is no
longer running there, exactly when the texts of the result can be kept. -/
theorem effect_recorded_iff (h : storedReleaseWorkflow workflow = .ok ())
    (hsubmit : submitStep workflow plan.id now = .ok started)
    (hclock : isBefore settledAt.iso started.updatedAt = false) (result : StepResult) :
    ((∃ next, recordEffect started plan result settledAt = .ok next) ↔ Recordable result) ∧
      ((∀ step, (afterExecute started plan result settledAt).step plan.id = some step →
        step.status ≠ .running) ↔ Recordable result) := by
  obtain ⟨hstored, step, hstep, hrunning⟩ := submitStep_ok h hsubmit
  have hsaved := settleStep_saved_iff hstored hstep hrunning hclock result
  refine ⟨hsaved.2, ?_⟩
  unfold afterExecute
  cases hrecord : recordEffect started plan result settledAt with
  | ok next =>
    obtain ⟨after, hafter, hended⟩ := hsaved.1 next hrecord
    refine iff_of_true (fun other hother => ?_) (hsaved.2.1 ⟨next, hrecord⟩)
    dsimp only at hother
    rw [hafter, Option.some.injEq] at hother
    exact hother ▸ hended
  | error error =>
    refine iff_of_false (fun hall => hall step hstep hrunning) fun hrecordable => ?_
    obtain ⟨next, hnext⟩ := hsaved.2.2 hrecordable
    unfold recordEffect at hrecord
    rw [hnext] at hrecord
    cases hrecord

end Effects

section Sample

/-- A host that reads one timestamp. -/
@[reducible] def releaseClock : JsHost where
  dateParse text := if text = "2026-01-05T08:00:00.000Z" then some 1767600000000 else none

def releaseInstant : @JsDate releaseClock :=
  @JsDate.mk releaseClock "2026-01-05T08:00:00.000Z" (by decide +kernel)

def mergePlan : ReleaseStepPlan where
  id := "merge"
  kind := .merge
  idempotencyKey := "task/release-workflow-1/merge"
  params := none
  irreversibility := none

def mergeWorkflow : ReleaseWorkflow where
  schemaVersion := 1
  id := "release-workflow-1"
  taskId := "task"
  grantId := "grant"
  source :=
    { owner := "owner", name := "name", commit := "0123456789012345678901234567890123456789", artifact := none }
  plan := [mergePlan]
  steps := [("merge", ⟨"merge", .pending, 0, none, none, [], none, none⟩)]
  createdAt := "2026-01-05T08:00:00.000Z"
  updatedAt := "2026-01-05T08:00:00.000Z"

def mergeSubmitted : ReleaseWorkflow :=
  { mergeWorkflow with
    steps := [("merge", ⟨"merge", .running, 1, none, none, [], some "2026-01-05T08:00:00.000Z", none⟩)] }

/-- A merge that landed and printed a blank line. -/
def mergedWithBlankLine : ReleaseStepEffect where
  outcome := .succeeded
  externalId := some "4711"
  externalIdentity := none
  logs := some ["merged", ""]
  error := none

/-- The store holds the workflow and the step is submitted. The merge lands, its record is refused, and the step
is still running in the store. -/
theorem blank_log_line_leaves_step_running :
    letI := releaseClock
    storedReleaseWorkflow mergeWorkflow = .ok () ∧
      submitStep mergeWorkflow mergePlan.id releaseInstant = .ok mergeSubmitted ∧
        recordEffect mergeSubmitted mergePlan (.returned mergedWithBlankLine) releaseInstant =
          .error "Release step log line is required." ∧
        ((afterExecute mergeSubmitted mergePlan (.returned mergedWithBlankLine) releaseInstant).step
          mergePlan.id).map ReleaseStepRecord.status = some .running := by
  decide +kernel

theorem effect_recorded_iff_merged :
    letI := releaseClock
    (∃ next, recordEffect mergeSubmitted mergePlan
        (.returned { mergedWithBlankLine with logs := some ["merged"] }) releaseInstant = .ok next) ↔
      Recordable (.returned { mergedWithBlankLine with logs := some ["merged"] }) :=
  (@effect_recorded_iff releaseClock mergeWorkflow mergeSubmitted mergePlan releaseInstant releaseInstant
    (by decide +kernel) (by decide +kernel) (by decide +kernel) _).1

end Sample

end ReleaseSteps
