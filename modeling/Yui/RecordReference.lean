import Yui.JsText

/-!
# Identities and Task record references

The checks of `domain/validation.ts` and `task/taskRecordReference.ts` that the coordination and
job records share. A Task record reference names a Task and a local id made of the record kind's
stem, a hyphen and a positive decimal ordinal within the safe integers.
-/

open JsText

namespace Validation

def requireText (value label : String) : Except String String :=
  requireTextWith (label ++ " is invalid.") (label ++ " is required.") value

def reservedIdentities : List String := [".", "..", "__proto__", "prototype", "constructor"]

def identityForbidden (c : Char) : Bool := c == '/' || c == '\\' || c == nul

def requireIdentity (value label : String) : Except String String := do
  let normalized ← requireText value label
  if reservedIdentities.contains normalized || normalized.toList.any identityForbidden then
    .error (label ++ " is invalid.")
  else .ok normalized

structure NormalIdentity (s : String) : Prop where
  text : NormalText s
  unreserved : reservedIdentities.contains s = false
  plain : s.toList.any identityForbidden = false

theorem requireIdentity_normal {value label s : String}
    (h : requireIdentity value label = .ok s) : NormalIdentity s := by
  simp only [requireIdentity, requireText, bind, Except.bind] at h
  split at h
  · cases h
  · rename_i t ht
    split_ifs at h with hc
    cases h
    simp only [Bool.or_eq_true, not_or, Bool.not_eq_true] at hc
    exact ⟨(requireTextWith_normal ht).1, hc.1, hc.2⟩

theorem requireIdentity_of_normal {s : String} (h : NormalIdentity s) (label : String) :
    requireIdentity s label = .ok s := by
  simp only [requireIdentity, requireText, requireTextWith_of_normal h.text, bind, Except.bind,
    h.unreserved, h.plain, Bool.or_self, Bool.false_eq_true, if_false]

end Validation

inductive TaskRecordKind where
  | workItem | contextSnapshot | run | reviewRound | changeSet | integrationAttempt | durableJob
  | message | inputRequest | decision | milestone | event | capabilityGrant | releaseWorkflow
  | taskWake | publicationReference

/-- `TASK_RECORD_ID_PREFIXES`. -/
def TaskRecordKind.idStem : TaskRecordKind → String
  | .workItem => "work-item"
  | .contextSnapshot => "context-snapshot"
  | .run => "run"
  | .reviewRound => "review-round"
  | .changeSet => "change-set"
  | .integrationAttempt => "integration"
  | .durableJob => "job"
  | .message => "message"
  | .inputRequest => "input"
  | .decision => "decision"
  | .milestone => "milestone"
  | .event => "event"
  | .capabilityGrant => "capability-grant"
  | .releaseWorkflow => "release-workflow"
  | .taskWake => "wake"
  | .publicationReference => "publication"

/-- A run is also accepted under its historical stem. -/
def TaskRecordKind.acceptedStems : TaskRecordKind → List String
  | .run => ["run", "turn"]
  | kind => [kind.idStem]

/-- The ordinal captured by `^stem-([1-9]\d*)$`. -/
def recordOrdinal? (stem localId : String) : Option ℕ :=
  match localId.toList.dropPrefix? (stem ++ "-").toList with
  | some (d :: ds) =>
    if d.isDigit && d != '0' && ds.all Char.isDigit then some (Nat.ofDigitChars 10 (d :: ds) 0)
    else none
  | _ => none

def TaskRecordKind.acceptsLocalId (kind : TaskRecordKind) (localId : String) : Bool :=
  kind.acceptedStems.any fun stem =>
    match recordOrdinal? stem localId with
    | some n => n ≤ maxSafeInteger
    | none => false

structure TaskRecordReference where
  taskId : String
  localId : String

def validateTaskRecordReference (value : TaskRecordReference) (kind : TaskRecordKind) :
    Except String TaskRecordReference := do
  let taskId ← Validation.requireIdentity value.taskId "Task id"
  let localId ← Validation.requireIdentity value.localId (kind.idStem ++ " local id")
  if kind.acceptsLocalId localId then .ok ⟨taskId, localId⟩
  else .error (kind.idStem ++ " local id is invalid: " ++ localId ++ ".")

structure NormalReference (kind : TaskRecordKind) (r : TaskRecordReference) : Prop where
  task : Validation.NormalIdentity r.taskId
  local' : Validation.NormalIdentity r.localId
  accepted : kind.acceptsLocalId r.localId = true

theorem validateTaskRecordReference_normal {value r : TaskRecordReference} {kind : TaskRecordKind}
    (h : validateTaskRecordReference value kind = .ok r) : NormalReference kind r := by
  simp only [validateTaskRecordReference, bind, Except.bind] at h
  split at h
  · cases h
  · rename_i taskId ht
    split at h
    · cases h
    · rename_i localId hl
      split_ifs at h with ha
      cases h
      exact ⟨Validation.requireIdentity_normal ht, Validation.requireIdentity_normal hl, ha⟩

theorem validateTaskRecordReference_of_normal {r : TaskRecordReference} {kind : TaskRecordKind}
    (h : NormalReference kind r) : validateTaskRecordReference r kind = .ok r := by
  simp only [validateTaskRecordReference, Validation.requireIdentity_of_normal h.task,
    Validation.requireIdentity_of_normal h.local', bind, Except.bind, h.accepted, if_true]

example : (validateTaskRecordReference ⟨"task-1", "turn-12"⟩ .run).isOk = true := by decide
