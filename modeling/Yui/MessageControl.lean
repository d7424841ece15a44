import Yui.ProviderRetryBudget
import Yui.RecordReference

/-!
# The control outcome of a steer Message

The live edge and the Host record how the one attempt of a steer input ended, in any order and any number of
times. A record replaces an absent or a weaker one and is absorbed otherwise.
-/

open JsText Checked Validation

namespace MessageControl

inductive InputAction where
  | queue | steer
  deriving DecidableEq

structure InputControl where
  action : InputAction
  requestId : String
  expectedSessionId : Option String
  expectedTarget : Option String

inductive Outcome where
  | pending | accepted | rejected | deliveryUnknown
  deriving DecidableEq

structure ControlTarget where
  agentId : String
  nativeSessionId : String
  attemptId : String

structure ControlOutcome where
  requestId : String
  receiptId : String
  outcome : Outcome
  observedAt : String
  target : Option ControlTarget

/-- The handoff with the fields of its claim. -/
structure InterruptThen (C : Type) where
  reusedInput : Option InputControl
  claim : C

/-- A Message with the fields that no control record reads. -/
structure TaskMessage (C R : Type) where
  inputControl : Option InputControl
  interruptThen : Option (InterruptThen C)
  control : Option ControlOutcome
  rest : R

structure OutcomeRecord where
  requestId : String
  receiptId : String
  outcome : Outcome
  /-- The time value of the Date. -/
  observedAt : ℤ
  target : Option ControlTarget

/-- The part of `validateTaskMessage` that does not read the control record. -/
abbrev MessageChecks (C R : Type) := Option InputControl → Option (InterruptThen C) → R → Except String Unit

section Record

variable {C R : Type} (checks : MessageChecks C R)

def TaskMessage.inputRequestId (message : TaskMessage C R) : Option String :=
  (message.inputControl.map InputControl.requestId).or
    ((message.interruptThen.bind InterruptThen.reusedInput).map InputControl.requestId)

def TaskMessage.wasSteer (message : TaskMessage C R) : Bool :=
  decide (message.inputControl.map InputControl.action = some .steer) ||
    decide ((message.interruptThen.bind InterruptThen.reusedInput).map InputControl.action = some .steer)

def requireLabel (value label : String) : Except String Unit := do
  let _ ← requireText value label
  .ok ()

def validateControlTarget (target : Option ControlTarget) : Except String Unit :=
  match target with
  | none => .ok ()
  | some target => do
    requireLabel target.agentId "Control target Agent"
    requireLabel target.nativeSessionId "Control target Session"
    requireLabel target.attemptId "Control target attempt"

/-- The checks of `validateTaskMessage` on the control record. -/
def validateControl [JsHost] (message : TaskMessage C R) (control : ControlOutcome) : Except String Unit := do
  validateControlTarget control.target
  let _ ← requireIdentity control.requestId "Message control requestId"
  requireLabel control.receiptId "Message control receiptId"
  refuse (JsHost.dateParse control.observedAt = none) "Message control observedAt is invalid."
  refuse (message.wasSteer = false ∨ message.inputRequestId = none)
    "Only a steer input Message records a live control outcome."
  refuse (message.inputRequestId ≠ some control.requestId)
    "Message control requestId must match the steer input identity."

def validateTaskMessage [JsHost] (message : TaskMessage C R) : Except String Unit := do
  checks message.inputControl message.interruptThen message.rest
  match message.control with
  | none => .ok ()
  | some control => validateControl message control

def Outcome.isFinal : Outcome → Bool
  | .accepted | .rejected => true
  | _ => false

/-- A proven outcome is final, and neither a repeat nor a late `pending` changes a record. -/
def ControlOutcome.absorbs (existing : ControlOutcome) (outcome : Outcome) : Bool :=
  existing.outcome.isFinal || decide (outcome = .pending) || decide (outcome = existing.outcome)

def recordTaskMessageControlOutcome [RuntimeHost] (message : TaskMessage C R) (record : OutcomeRecord) :
    Except String (TaskMessage C R) := do
  refuse (message.wasSteer = false ∨ message.inputRequestId = none)
    "Only a steer input Message records a live control outcome."
  refuse (message.inputRequestId ≠ some record.requestId)
    "Control outcome requestId must match the steer input identity."
  refuse (∃ existing ∈ message.control, existing.receiptId ≠ record.receiptId)
    "Control outcome receiptId cannot name another control op."
  if message.control.any (fun existing => existing.absorbs record.outcome) = true then .ok message
  else
    let requestId ← requireIdentity record.requestId "Message control requestId"
    let receiptId ← requireText record.receiptId "Message control receiptId"
    let observedAt ← Binding.iso record.observedAt
    let updated : TaskMessage C R := { message with
      control := some
        { requestId := requestId
          receiptId := receiptId
          outcome := record.outcome
          observedAt := observedAt
          target := (message.control.bind ControlOutcome.target).or record.target } }
    validateTaskMessage checks updated
    .ok updated

end Record

section Order

def Outcome.rank : Outcome → ℕ
  | .pending => 1
  | .deliveryUnknown => 2
  | .accepted | .rejected => 3

/-- `absent < pending < delivery-unknown < {accepted, rejected}`. -/
def outcomeRank (outcome : Option Outcome) : ℕ := (outcome.map Outcome.rank).getD 0

/-- Equal, or higher in the order. -/
def Rises (before after : Option Outcome) : Prop := before = after ∨ outcomeRank before < outcomeRank after

theorem Rises.trans {a b c : Option Outcome} (hab : Rises a b) (hbc : Rises b c) : Rises a c := by
  rcases hab with rfl | hab
  · exact hbc
  · rcases hbc with rfl | hbc
    · exact .inr hab
    · exact .inr (hab.trans hbc)

/-- The first proof, or else an unknown delivery, or else a pending one. -/
def settledOutcome (outcomes : List Outcome) : Option Outcome :=
  match outcomes.find? Outcome.isFinal with
  | some outcome => some outcome
  | none =>
    if .deliveryUnknown ∈ outcomes then some .deliveryUnknown
    else if .pending ∈ outcomes then some .pending
    else none

/-- The outcome on record after one more. -/
def absorb (current : Option Outcome) (outcome : Outcome) : Option Outcome :=
  if current.any (fun found => found.isFinal || decide (outcome = .pending) || decide (outcome = found)) = true
  then current else some outcome

theorem settledOutcome_concat (outcomes : List Outcome) (outcome : Outcome) :
    settledOutcome (outcomes ++ [outcome]) = absorb (settledOutcome outcomes) outcome := by
  unfold settledOutcome
  rw [List.find?_append]
  cases hfind : outcomes.find? Outcome.isFinal with
  | some found =>
    have hfinal : found.isFinal = true := List.find?_some hfind
    simp [absorb, hfinal]
  | none =>
    by_cases hunknown : .deliveryUnknown ∈ outcomes
    · cases outcome <;> simp [absorb, Outcome.isFinal, hunknown]
    · by_cases hpending : .pending ∈ outcomes
      · cases outcome <;> simp [absorb, Outcome.isFinal, hunknown, hpending]
      · cases outcome <;> simp [absorb, Outcome.isFinal, hunknown, hpending]

theorem absorb_rises (current : Option Outcome) (outcome : Outcome) : Rises current (absorb current outcome) := by
  cases current with
  | none => exact .inr (by cases outcome <;> decide)
  | some found => cases found <;> cases outcome <;> first | exact .inl rfl | exact .inr (by decide)

end Order

section Step

variable [RuntimeHost] {C R : Type} {checks : MessageChecks C R} {message next : TaskMessage C R}
  {record : OutcomeRecord}

def TaskMessage.outcome (message : TaskMessage C R) : Option Outcome :=
  message.control.map ControlOutcome.outcome

def TaskMessage.target (message : TaskMessage C R) : Option ControlTarget :=
  message.control.bind ControlOutcome.target

theorem record_cases (h : recordTaskMessageControlOutcome checks message record = .ok next) :
    (message.control.any (fun existing => existing.absorbs record.outcome) = true ∧ next = message) ∨
    (message.control.any (fun existing => existing.absorbs record.outcome) = false ∧
      next.outcome = some record.outcome ∧ next.target = message.target.or record.target ∧
      next.inputControl = message.inputControl ∧ next.interruptThen = message.interruptThen ∧
      next.rest = message.rest) := by
  unfold recordTaskMessageControlOutcome at h
  rw [seq_iff, seq_iff, seq_iff] at h
  obtain ⟨-, -, -, h⟩ := h
  split_ifs at h with habsorbs
  · cases h
    exact .inl ⟨habsorbs, rfl⟩
  · obtain ⟨requestId, -, receiptId, -, observedAt, -, h⟩ := bind_ok₃ h
    rw [seq_iff] at h
    cases h.2
    exact .inr ⟨by simpa using habsorbs, rfl, rfl, rfl, rfl, rfl⟩

theorem record_outcome (h : recordTaskMessageControlOutcome checks message record = .ok next) :
    next.outcome = absorb message.outcome record.outcome := by
  have hany : message.outcome.any (fun found => found.isFinal || decide (record.outcome = .pending) ||
      decide (record.outcome = found)) =
      message.control.any (fun existing => existing.absorbs record.outcome) := Option.any_map
  rcases record_cases h with ⟨habsorbs, rfl⟩ | ⟨habsorbs, houtcome, -⟩
  · rw [absorb, hany, if_pos habsorbs]
  · rw [absorb, hany, habsorbs, houtcome]
    rfl

/-- What no call ever changes. -/
structure Frozen (before after : TaskMessage C R) : Prop where
  inputControl : after.inputControl = before.inputControl
  interruptThen : after.interruptThen = before.interruptThen
  rest : after.rest = before.rest
  target : ∀ target, before.target = some target → after.target = some target
  rises : Rises before.outcome after.outcome
  settled : ∀ control, before.control = some control → control.outcome.isFinal = true → after = before

omit [RuntimeHost] in
theorem Frozen.refl (message : TaskMessage C R) : Frozen message message :=
  ⟨rfl, rfl, rfl, fun _ h => h, .inl rfl, fun _ _ _ => rfl⟩

omit [RuntimeHost] in
theorem Frozen.trans {a b c : TaskMessage C R} (hab : Frozen a b) (hbc : Frozen b c) : Frozen a c where
  inputControl := hbc.inputControl.trans hab.inputControl
  interruptThen := hbc.interruptThen.trans hab.interruptThen
  rest := hbc.rest.trans hab.rest
  target := fun target h => hbc.target target (hab.target target h)
  rises := hab.rises.trans hbc.rises
  settled := by
    intro control hcontrol hfinal
    have hsame := hab.settled control hcontrol hfinal
    rw [hbc.settled control (hsame ▸ hcontrol) hfinal, hsame]

theorem record_frozen (h : recordTaskMessageControlOutcome checks message record = .ok next) :
    Frozen message next := by
  have hrises : Rises message.outcome next.outcome := record_outcome h ▸ absorb_rises _ _
  rcases record_cases h with ⟨-, rfl⟩ | ⟨habsorbs, -, htarget, hinput, hinterrupt, hrest⟩
  · exact .refl _
  · refine ⟨hinput, hinterrupt, hrest, fun target hfound => ?_, hrises, fun control hcontrol hfinal => ?_⟩
    · rw [htarget, hfound, Option.some_or]
    · rw [hcontrol, Option.any_some, ControlOutcome.absorbs, hfinal] at habsorbs
      cases habsorbs

end Step

section Runs

variable [RuntimeHost] {C R : Type} (checks : MessageChecks C R)

/-- The Message after the calls, with the records of those that returned. A call that throws records nothing. -/
def recordAll (message : TaskMessage C R) (records : List OutcomeRecord) : TaskMessage C R × List OutcomeRecord :=
  records.foldl (fun state record =>
    match recordTaskMessageControlOutcome checks state.1 record with
    | .ok next => (next, state.2 ++ [record])
    | .error _ => state) (message, [])

variable {checks} {message : TaskMessage C R}

theorem recordAll_concat (records : List OutcomeRecord) (record : OutcomeRecord) :
    recordAll checks message (records ++ [record]) =
      match recordTaskMessageControlOutcome checks (recordAll checks message records).1 record with
      | .ok next => (next, (recordAll checks message records).2 ++ [record])
      | .error _ => recordAll checks message records := by
  rw [recordAll, List.foldl_append]
  rfl

theorem recordAll_frozen (before after : List OutcomeRecord) :
    Frozen (recordAll checks message before).1 (recordAll checks message (before ++ after)).1 := by
  induction after using List.reverseRecOn with
  | nil => rw [List.append_nil]; exact .refl _
  | append_singleton after record ih =>
    rw [← List.append_assoc, recordAll_concat]
    cases hcall : recordTaskMessageControlOutcome checks
        (recordAll checks message (before ++ after)).1 record with
    | ok next => exact ih.trans (record_frozen hcall)
    | error error => exact ih

theorem recordAll_outcome (records : List OutcomeRecord) : (recordAll checks message records).1.outcome =
      settledOutcome (message.outcome.toList ++ (recordAll checks message records).2.map OutcomeRecord.outcome) := by
  induction records using List.reverseRecOn with
  | nil =>
    change message.outcome = settledOutcome (message.outcome.toList ++ [])
    rw [List.append_nil]
    cases message.outcome with
    | none => rfl
    | some outcome => cases outcome <;> rfl
  | append_singleton records record ih =>
    rw [recordAll_concat]
    cases hcall : recordTaskMessageControlOutcome checks (recordAll checks message records).1 record with
    | ok next =>
      dsimp only
      rw [record_outcome hcall, ih, List.map_append, List.map_singleton, ← List.append_assoc, settledOutcome_concat]
    | error error => exact ih

/-- A record of the Message's own input whose receipt, date and target are well formed. -/
structure WellFormed (message : TaskMessage C R) (receiptId : String) (record : OutcomeRecord) : Prop where
  request : message.inputRequestId = some record.requestId
  receipt : record.receiptId = receiptId
  date : record.observedAt.natAbs ≤ 8640000000000000
  target : validateControlTarget record.target = .ok ()

/-- A steer Message that the other checks accept, with an identity and a record, if any, of the receipt. -/
structure Recordable (checks : MessageChecks C R) (receiptId : String) (message : TaskMessage C R) : Prop where
  steer : message.wasSteer = true
  identity : ∀ requestId, message.inputRequestId = some requestId → NormalIdentity requestId
  receipt : NormalText receiptId
  checked : checks message.inputControl message.interruptThen message.rest = .ok ()
  control : ∀ existing ∈ message.control, existing.receiptId = receiptId ∧
    validateControlTarget existing.target = .ok ()

variable {receiptId : String}

theorem Recordable.validates (h : Recordable checks receiptId message)
    {control : ControlOutcome} (hrequest : message.inputRequestId = some control.requestId)
    (hreceipt : control.receiptId = receiptId) (hdate : JsHost.dateParse control.observedAt ≠ none)
    (htarget : validateControlTarget control.target = .ok ()) :
    validateTaskMessage checks { message with control := some control } = .ok () := by
  have hidentity := requireIdentity_of_normal (h.identity _ hrequest) "Message control requestId"
  have hlabel : requireLabel control.receiptId "Message control receiptId" = .ok () := by
    rw [requireLabel, hreceipt, requireText, requireTextWith_of_normal h.receipt]
    rfl
  have hsteer : ¬ (message.wasSteer = false ∨ message.inputRequestId = none) := by simp [h.steer, hrequest]
  have hcontrol : validateControl { message with control := some control } control = .ok () := by
    unfold validateControl
    rw [htarget, ok_bind, hidentity, ok_bind, hlabel, ok_bind, refuse_of_not hdate, ok_bind]
    exact seq_iff.2 ⟨refuse_of_not hsteer _, refuse_of_not (not_not.2 hrequest) _⟩
  unfold validateTaskMessage
  rw [h.checked, ok_bind]
  exact hcontrol

theorem record_returns {record : OutcomeRecord} (h : Recordable checks receiptId message)
    (hrecord : WellFormed message receiptId record) :
    ∃ next, recordTaskMessageControlOutcome checks message record = .ok next ∧
      Recordable checks receiptId next ∧ next.inputRequestId = message.inputRequestId := by
  have hreceipt : ¬ ∃ existing ∈ message.control, existing.receiptId ≠ record.receiptId := by
    rintro ⟨existing, hexisting, hne⟩
    exact hne ((h.control existing hexisting).1.trans hrecord.receipt.symm)
  have hsteer : ¬ (message.wasSteer = false ∨ message.inputRequestId = none) := by simp [h.steer, hrecord.request]
  unfold recordTaskMessageControlOutcome
  rw [refuse_of_not hsteer, ok_bind, refuse_of_not (not_not.2 hrecord.request), ok_bind,
    refuse_of_not hreceipt, ok_bind]
  by_cases habsorbs : message.control.any (fun existing => existing.absorbs record.outcome) = true
  · rw [if_pos habsorbs]
    exact ⟨message, rfl, h, rfl⟩
  · have hidentity := h.identity record.requestId hrecord.request
    have htext : requireText record.receiptId "Message control receiptId" = .ok receiptId := by
      rw [hrecord.receipt]
      exact requireTextWith_of_normal h.receipt _ _
    have hdate : Binding.iso record.observedAt = .ok (RuntimeHost.iso record.observedAt) := if_pos hrecord.date
    have htarget : validateControlTarget ((message.control.bind ControlOutcome.target).or record.target) =
        .ok () := by
      cases hfound : message.control.bind ControlOutcome.target with
      | none => exact hrecord.target
      | some target =>
        obtain ⟨existing, hexisting, hsame⟩ := Option.bind_eq_some_iff.1 hfound
        rw [Option.some_or, ← hsame]
        exact (h.control existing hexisting).2
    have hparses : JsHost.dateParse (RuntimeHost.iso record.observedAt) ≠ none := by
      rw [RuntimeHost.dateParse_iso _ hrecord.date]
      nofun
    have hvalid : validateTaskMessage checks { message with
        control := some ⟨record.requestId, receiptId, record.outcome, RuntimeHost.iso record.observedAt,
          (message.control.bind ControlOutcome.target).or record.target⟩ } = .ok () :=
      h.validates hrecord.request rfl hparses htarget
    rw [if_neg habsorbs, requireIdentity_of_normal hidentity, ok_bind, htext, ok_bind, hdate, ok_bind]
    dsimp only
    rw [hvalid, ok_bind]
    refine ⟨_, rfl, ⟨h.steer, h.identity, h.receipt, h.checked, fun existing hexisting => ?_⟩, rfl⟩
    cases hexisting
    exact ⟨rfl, htarget⟩

theorem recordAll_returns (h : Recordable checks receiptId message)
    {records : List OutcomeRecord} (hrecords : ∀ record ∈ records, WellFormed message receiptId record) :
    (recordAll checks message records).2 = records ∧
      Recordable checks receiptId (recordAll checks message records).1 ∧
        (recordAll checks message records).1.inputRequestId = message.inputRequestId := by
  induction records using List.reverseRecOn with
  | nil => exact ⟨rfl, h, rfl⟩
  | append_singleton records record ih =>
    obtain ⟨hreturned, hrecordable, hidentity⟩ :=
      ih fun found hfound => hrecords found (List.mem_append_left _ hfound)
    have hrecord := hrecords record (List.mem_append_right _ (List.mem_singleton.2 rfl))
    obtain ⟨next, hnext, hkept, hsame⟩ := record_returns hrecordable
      ⟨hidentity.trans hrecord.request, hrecord.receipt, hrecord.date, hrecord.target⟩
    rw [recordAll_concat, hnext]
    exact ⟨by rw [hreturned], hkept, hsame.trans hidentity⟩

/-- Over any sequence of calls, where a call that throws leaves the Message as it is: the outcome only rises, a
proven one is final, the input, the handoff, the other fields and a recorded target never change, the last
outcome is the first proven one among those recorded, else unknown, else pending, and a call that leaves the
outcome returns the same record. No call throws among well-formed records for one receipt of a steer Message; a
receipt is made of stored ids, and so it is normal text. -/
theorem control_outcome_monotone {C R : Type} (checks : MessageChecks C R) (message : TaskMessage C R)
    (records : List OutcomeRecord) : (∀ before after, records = before ++ after →
      Frozen (recordAll checks message before).1 (recordAll checks message records).1) ∧
    (recordAll checks message records).1.outcome = settledOutcome (message.outcome.toList ++
      (recordAll checks message records).2.map OutcomeRecord.outcome) ∧
    (∀ found record next, recordTaskMessageControlOutcome checks found record = .ok next →
      next.outcome = found.outcome → next = found) ∧ ∀ receiptId, Recordable checks receiptId message →
      (∀ record ∈ records, WellFormed message receiptId record) → (recordAll checks message records).2 = records := by
  refine ⟨?_, recordAll_outcome records, ?_, fun receiptId h hrecords => (recordAll_returns h hrecords).1⟩
  · rintro before after rfl
    exact recordAll_frozen before after
  · intro found record next hcall hsame
    rcases record_cases hcall with ⟨-, rfl⟩ | ⟨habsorbs, houtcome, -⟩
    · rfl
    · cases hcontrol : found.control with
      | none =>
        rw [houtcome, TaskMessage.outcome, hcontrol] at hsame
        cases hsame
      | some existing =>
        rw [houtcome, TaskMessage.outcome, hcontrol, Option.map_some, Option.some.injEq] at hsame
        rw [hcontrol, Option.any_some, ControlOutcome.absorbs, hsame] at habsorbs
        simp at habsorbs

end Runs

def sampleSteer : TaskMessage Unit Unit := ⟨some ⟨.steer, "request-1", none, none⟩, none, none, ()⟩

def sampleRecord (outcome : Outcome) : OutcomeRecord :=
  ⟨"request-1", "steer:task-1/message-1", outcome, 1767600000000, none⟩

theorem control_outcome_monotone_returns : let _ := Binding.sampleRetryHost
    let records := [Outcome.pending, .deliveryUnknown, .accepted, .rejected].map sampleRecord
    (recordAll (fun _ _ _ => .ok ()) sampleSteer records).2 = records := by
  let _ := Binding.sampleRetryHost
  refine (control_outcome_monotone _ sampleSteer _).2.2.2 "steer:task-1/message-1"
    ⟨rfl, fun requestId h => ?_, by decide, rfl, by decide⟩ fun record hrecord => ?_
  · obtain rfl := Option.some.inj h
    exact ⟨by decide, by decide, by decide⟩
  · obtain ⟨outcome, -, rfl⟩ := List.mem_map.1 hrecord
    exact ⟨rfl, rfl, (by decide : (1767600000000 : ℤ).natAbs ≤ 8640000000000000), rfl⟩

end MessageControl
