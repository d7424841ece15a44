import Mathlib.Data.List.Infix
import Mathlib.Data.Rat.Defs
import Yui.Checked
import Yui.JobValidation

/-!
# Texts, numbers and errors of the runtime records

The checks that the runtime modules share, and the standard error that a Driver reports. A check is
stable when it returns what it returned once more.
-/

open JsText Checked

namespace Checked

variable {ε α : Type}

/-- A check that accepts its own results and leaves them alone. -/
def Stable (check : α → Except ε α) : Prop := ∀ value result, check value = .ok result →
  check result = .ok result

theorem Stable.onSome {check : α → Except ε α} (h : Stable check) : Stable (onSome check) := by
  intro value result hvalue
  apply onSome_of_fixed
  intro y hy
  obtain ⟨x, _, hx⟩ := (onSome_ok hvalue).1 y hy
  exact h x y hx

theorem onSome_none_iff {check : α → Except ε α} {value result : Option α}
    (h : Checked.onSome check value = .ok result) : result = none ↔ value = none := by
  have hsome := (onSome_ok h).2
  cases value with
  | none => simpa using hsome
  | some x => cases result with
    | none => simp at hsome
    | some y => simp

end Checked

/-- A number of the host, or the `null` that JSON has in place of a number it cannot write. -/
inductive JsNumeric where
  | finite (value : ℚ)
  | nan
  | infinite (negative : Bool)
  | null
  deriving DecidableEq

namespace JsNumeric

/-- `Number.isSafeInteger(value) && value >= least`. -/
def isSafeFrom (least : ℚ) : JsNumeric → Bool
  | .finite value => isSafeInteger value && decide (least ≤ value)
  | _ => false

end JsNumeric

namespace Runtime

/-- `value.length`: the number of UTF-16 code units. -/
def length16 (value : String) : ℕ :=
  (value.toList.map fun c => if c.toNat < 0x10000 then 1 else 2).sum

/-- The `requireText` of a runtime module with its length limit. -/
def requireTextUpTo (limit : ℕ) (value label : String) : Except String String :=
  if includesNul value then .error (label ++ " is invalid.")
  else if trim value = "" ∨ limit < length16 (trim value) then .error (label ++ " is invalid.")
  else .ok (trim value)

def requireText (value label : String) : Except String String :=
  requireTextUpTo (32 * 1024) value label

def requireIdentity (value label : String) : Except String String := do
  let identity ← requireText value label
  if "/../".toList <:+: identity.toList ∨ identity = "__proto__" then .error (label ++ " is invalid.")
  else .ok identity

def requireTimestamp [JsHost] (value label : String) : Except String String := do
  let timestamp ← requireText value label
  if JsHost.dateParse timestamp = none then .error (label ++ " is invalid.") else .ok timestamp

/-- `requireResultText` keeps the text as it is. -/
def requireResultText (value label : String) : Except String String :=
  if includesNul value ∨ trim value = "" then .error (label ++ " is invalid.") else .ok value

theorem requireTextUpTo_stable (limit : ℕ) (label : String) :
    Stable fun value => requireTextUpTo limit value label := by
  intro value result h
  dsimp only [requireTextUpTo] at h
  split_ifs at h with hnul hlimit
  cases h
  have hnot : includesNul (trim value) = false := by
    simp only [includesNul, List.contains_eq_mem, decide_eq_true_eq] at hnul
    simp only [includesNul, List.contains_eq_mem, decide_eq_false_iff_not]
    exact fun hc => hnul (mem_of_mem_trim hc)
  simp only [requireTextUpTo, hnot, trim_trim, hlimit, if_false]
  rfl

theorem requireText_stable (label : String) : Stable fun value => requireText value label :=
  requireTextUpTo_stable (32 * 1024) label

theorem requireIdentity_stable (label : String) : Stable fun value => requireIdentity value label := by
  intro value result h
  obtain ⟨text, htext, h⟩ := bind_ok h
  split_ifs at h with hbad
  cases h
  have hstable : requireText result label = .ok result := requireText_stable label value _ htext
  simp only [requireIdentity, hstable, ok_bind, hbad, if_false]

theorem requireTimestamp_stable [JsHost] (label : String) : Stable fun value => requireTimestamp value label := by
  intro value result h
  obtain ⟨text, htext, h⟩ := bind_ok h
  split_ifs at h with hbad
  cases h
  have hstable : requireText result label = .ok result := requireText_stable label value _ htext
  simp only [requireTimestamp, hstable, ok_bind, hbad, if_false]

theorem requireResultText_stable (label : String) : Stable fun value => requireResultText value label := by
  intro value result h
  have hkept := h
  dsimp only [requireResultText] at h
  split_ifs at h
  cases h
  exact hkept

def isDriverStart (c : Char) : Bool := c.isLower || c.isDigit

def isDriverChar (c : Char) : Bool := isDriverStart c || c == '.' || c == '_' || c == '-'

/-- `[a-z0-9][a-z0-9._-]*`. -/
def isDriverPart : List Char → Bool
  | [] => false
  | c :: cs => isDriverStart c && cs.all isDriverChar

/-- `^[a-z0-9][a-z0-9._-]*\/[a-z0-9][a-z0-9._-]*$`. -/
def isDriverId (id : String) : Bool :=
  isDriverPart (id.toList.takeWhile (· != '/')) &&
    isDriverPart ((id.toList.dropWhile (· != '/')).drop 1)

def requireDriverId (value : String) : Except String String := do
  let id ← requireTextUpTo 1024 value "Agent Driver id"
  if isDriverId id then .ok id
  else .error "Agent Driver id must be a lowercase namespaced identity."

theorem requireDriverId_stable : Stable requireDriverId := by
  intro value result h
  obtain ⟨text, htext, h⟩ := bind_ok h
  split_ifs at h with hid
  cases h
  have hstable : requireTextUpTo 1024 result "Agent Driver id" = .ok result :=
    requireTextUpTo_stable 1024 _ value _ htext
  simp only [requireDriverId, hstable, ok_bind, hid, if_true]

end Runtime

inductive AgentErrorCategory where
  | availability | rateLimit | transport | access | invalidRequest | context | session | runtime
  | conflict | cancelled | unknown
  deriving DecidableEq

inductive AgentErrorSource where
  | provider | driver | host | yui
  deriving DecidableEq

inductive AgentErrorPhase where
  | hostStart | sessionStart | sessionRestore | turnSubmit | turnExecute | turnReconcile | hostStop
  deriving DecidableEq

inductive AgentErrorInputDisposition where
  | accepted | notAccepted | unknown
  deriving DecidableEq

inductive AgentErrorSessionDisposition where
  | recoverable | unrecoverable | unknown
  deriving DecidableEq

structure StandardAgentError where
  source : AgentErrorSource
  phase : AgentErrorPhase
  category : AgentErrorCategory
  code : String
  message : String
  raw : String
  inputDisposition : AgentErrorInputDisposition
  sessionDisposition : AgentErrorSessionDisposition
  retryAfterMs : Option JsNumeric
  retryable : Option Bool
  deriving DecidableEq

def isErrorText (value : String) : Bool := trim value != "" && !includesNul value

def isStandardAgentError (error : StandardAgentError) : Bool :=
  isErrorText error.code && isErrorText error.message && isErrorText error.raw &&
    error.retryAfterMs.all (JsNumeric.isSafeFrom 0)

def sampleInstant : String := "2026-01-05T08:00:00.000Z"

@[reducible] def sampleClock : JsHost where
  dateParse text := if text = sampleInstant then some 1767600000000 else none

@[reducible] def sampleRuntimeHost : JobHost where
  toJsHost := sampleClock
  localeCompare left right := if left < right then -1 else if right < left then 1 else 0
  sha256 _ := "e3b0c44298fc1c149afbf4c8996fb92427ae41e4649b934ca495991b7852b855"
  sha256_hex _ := by decide
  numberText value := toString value.num
