import Yui.AgentTurn
import Yui.ToolExecutorTrace

/-!
# What a call records

Whatever the capabilities do with a call of a Turn, its start is on record before the tool runs, its result
is one that the Session format reads, and a resource that was not released stops the batch for good.
-/

open JsText Checked ToolExecutor

namespace Session

def Turn.record (t : Turn) : Turn := { t with clock := 0 }

theorem aborted_look {w : TurnWorld} {t : Turn} (h : aborted w t = true) : aborted w t.look = true := by
  unfold aborted at *
  cases hat : w.cancelAt with
  | none => simp [hat] at h
  | some at_ =>
    simp only [hat, decide_eq_true_eq] at h
    exact decide_eq_true (Nat.le_succ_of_le h)

section Outcomes

variable {pack : Pack} {call : ToolCall}

/-- A code within the bound of the format. -/
def boundedError (error : JsonData) : Prop :=
  ∀ code, error.member? "code" = some (.str code) → Runtime.length16 code ≤ 256

/-- The tool and its validation report codes within the bound of the format. -/
structure BoundedCodes (b : CallWorld) : Prop where
  validation : ∀ error, b.validation = .invalid (some error) → boundedError error
  execution : ∀ value error, b.execution = .returns (some value) →
    value.member? "error" = some error → boundedError error

/-- The codes of the failures that the executor itself reports. -/
def failureCodes : List String :=
  ["tool_protocol", "cancelled_before_start", "tool_exception", "permission_failed",
    "permission_denied", "record_failed", "environment_failed", "environment_protocol",
    "unknown_tool", "tool_validation", "not_started", "release_failed", "acquire_failed",
    "invalid_lease"]

theorem identity_of_failureCode {code : String} (h : code ∈ failureCodes) : identity code = true := by
  revert code
  decide

theorem checkOutcome_failure {code message : String} {effect : ToolEffect} (h : code ∈ failureCodes) :
    checkOutcome (ToolExecutor.failure code message effect) = .ok () :=
  requireFact_iff.2 (identity_of_failureCode h)

theorem readOutcome_code {value : JsonData} {beforeStart : Bool} {outcome : ToolOutcome}
    (h : readOutcome value beforeStart = some outcome)
    (hcode : ∀ error, value.member? "error" = some error → boundedError error) :
    checkOutcome outcome = .ok () := by
  unfold readOutcome at h
  split at h
  · split at h
    · cases h
      rfl
    · cases h
  · obtain ⟨error, herror, h⟩ := Option.bind_eq_some_iff.1 h
    split at h
    · rename_i code message effect hmember _ _
      have hbound := hcode error herror code hmember
      by_cases hblank : isNonempty code = false
      · rw [if_pos hblank] at h
        cases h
      · have hidentity : identity code = true := by
          rw [Bool.not_eq_false] at hblank
          simp only [identity, Bool.and_eq_true, decide_eq_true_eq]
          exact ⟨hblank, hbound⟩
        rw [if_neg hblank] at h
        split_ifs at h
        all_goals
          cases h
          exact requireFact_iff.2 hidentity
    · cases h
  · cases h

theorem normalizeResult_code {raw : Option JsonData} {beforeStart : Bool}
    (hcode : ∀ value error, raw = some value → value.member? "error" = some error → boundedError error) :
    checkOutcome (normalizeResult pack call raw beforeStart) = .ok () := by
  cases normalizeResult_cases pack call raw beforeStart with
  | inl hread =>
    obtain ⟨value, hraw, hread⟩ := hread
    exact readOutcome_code hread fun error => hcode value error hraw
  | inr hprotocol =>
    rw [hprotocol.2]
    exact checkOutcome_failure (by simp [failureCodes])

end Outcomes

section Calls

variable {w : TurnWorld} {input : TurnInput} {step : ℕ} {pack : Pack} {call : ToolCall}
  {b : CallWorld} {t : Turn} {r : CallRun Turn}

/-- The Turn after the recorded start of a call. -/
def Turn.withStart (t : Turn) (input : TurnInput) (step : ℕ) (call : ToolCall) : Turn :=
  emit input t (.toolStarted step call.id call.name)

/-- What a call leaves of the record `t` that it began with. -/
structure Follows (r : CallRun Turn) (input : TurnInput) (step : ℕ) (call : ToolCall) (t : Turn) : Prop where
  turn : r.host.record = t.record ∨ r.host.record = (t.withStart input step call).record
  started : r.started = true → r.host.record = (t.withStart input step call).record
  code : checkOutcome r.value = .ok ()

def Fatal (stopped : Option Stopped) : Prop := stopped ≠ none ∧ stopped ≠ some .cancelled

structure Released (r : CallRun Turn) : Prop where
  diagnostic : if r.cleanup.isFailure = true then
      ∃ error, r.cleanup.error = some error ∧ identity error.1 = true
    else r.cleanup.error = none
  started : r.started = true → r.cleanup.status = .released ∨ r.cleanup.status = .failed
  fatal : r.cleanup.isFailure = true → Fatal r.stopped

theorem released_of_notAcquired (hcleanup : r.cleanup = ⟨.notAcquired, none⟩)
    (hstarted : r.started = false) : Released r := by
  refine ⟨?_, fun h => ?_, fun h => ?_⟩
  · simp [hcleanup, Cleanup.isFailure]
  · rw [hstarted] at h
    cases h
  · simp [hcleanup, Cleanup.isFailure] at h

theorem follows_of_failure {code message : String}
    (hturn : r.host.record = t.record ∨ r.host.record = (t.withStart input step call).record)
    (hstarted : r.started = false) (hvalue : r.value = ToolExecutor.failure code message)
    (hcode : code ∈ failureCodes) : Follows r input step call t := by
  refine ⟨hturn, fun h => ?_, ?_⟩
  · rw [hstarted] at h
    cases h
  · rw [hvalue]
    exact checkOutcome_failure hcode

theorem cancel_follows (hturn : r.host.record = t.record ∨ r.host.record = (t.withStart input step call).record)
    (hstarted : r.started = false) : Follows r.cancel input step call t :=
  follows_of_failure hturn hstarted rfl (by simp [failureCodes])

theorem runPermitted_follows (hb : BoundedCodes b)
    (hturn : r.host.record = (t.withStart input step call).record) (hstarted : r.started = false) :
    Follows (runPermitted (turnHost w input step) pack call b r) input step call t := by
  unfold runPermitted
  split
  · exact follows_of_failure (.inr hturn) hstarted rfl (by simp [failureCodes])
  · by_cases haborted : (turnHost w input step).aborted r.host = true
    · rw [if_pos haborted]
      exact cancel_follows (.inr hturn) hstarted
    · rw [if_neg haborted]
      exact follows_of_failure (.inr hturn) hstarted rfl (by simp [failureCodes])
  · by_cases haborted : (turnHost w input step).aborted r.host = true
    · rw [if_pos haborted]
      exact cancel_follows (.inr hturn) hstarted
    · rw [if_neg haborted]
      refine ⟨.inr hturn, fun _ => hturn, ?_⟩
      simp only [execute]
      cases hexecution : b.execution with
      | throws => exact checkOutcome_failure (by simp [failureCodes])
      | returns raw =>
        apply normalizeResult_code
        intro value error hraw
        exact hb.execution value error (by rw [hexecution, hraw])

theorem runLease_follows {valueThrows : Bool} (hb : BoundedCodes b)
    (hturn : r.host.record = t.record) (hstarted : r.started = false) :
    Follows (runLease (turnHost w input step) pack call b valueThrows r) input step call t := by
  unfold runLease
  by_cases hvalue : valueThrows = true
  · rw [if_pos hvalue]
    exact follows_of_failure (.inl hturn) hstarted rfl (by simp [failureCodes])
  rw [if_neg hvalue]
  by_cases haborted : (turnHost w input step).aborted r.host = true
  · rw [if_pos haborted]
    exact cancel_follows (.inl hturn) hstarted
  rw [if_neg haborted]
  unfold runRecorded
  dsimp only
  rw [if_neg (show ¬ ((turnHost w input step).beforeExecute
    (CallRun.look (turnHost w input step) r).host call).2 = false by simp [turnHost])]
  -- a cancellation that the barrier sees is seen again after it
  by_cases hbarrier : aborted w r.host.look = true
  · have hsame : ((turnHost w input step).beforeExecute
        (CallRun.look (turnHost w input step) r).host call).1 = r.host.look.look := if_pos hbarrier
    have hagain : (turnHost w input step).aborted r.host.look.look = true := aborted_look hbarrier
    rw [hsame, if_pos hagain]
    exact cancel_follows (.inl hturn) hstarted
  · have hemit : ((turnHost w input step).beforeExecute
        (CallRun.look (turnHost w input step) r).host call).1 =
          emit input r.host.look.look (.toolStarted step call.id call.name) := if_neg hbarrier
    have hrecord : (emit input r.host.look.look (.toolStarted step call.id call.name)).record =
        (t.withStart input step call).record :=
      congrArg (fun t => emit input t (.toolStarted step call.id call.name)) hturn
    rw [hemit]
    split_ifs with hafter
    · exact cancel_follows (.inr hrecord) hstarted
    · exact runPermitted_follows hb hrecord hstarted

theorem release_released : Released (release b r) := by
  unfold release
  by_cases hreleases : b.releases = true
  · rw [if_pos hreleases]
    refine ⟨?_, fun _ => .inl rfl, fun h => absurd h (by simp [Cleanup.isFailure])⟩
    simp [Cleanup.isFailure]
  · rw [if_neg hreleases]
    refine ⟨?_, fun _ => .inr rfl, fun _ => ⟨by simp, by simp⟩⟩
    simp only [Cleanup.isFailure]
    exact ⟨_, rfl, identity_of_failureCode (by simp [failureCodes])⟩

theorem release_follows (h : Follows r input step call t) : Follows (release b r) input step call t := by
  unfold release
  split_ifs <;> exact ⟨h.turn, h.started, h.code⟩

theorem runAcquired_spec (hb : BoundedCodes b) (hturn : r.host.record = t.record) (hstarted : r.started = false) :
    Follows (runAcquired (turnHost w input step) pack call b r) input step call t ∧
      Released (runAcquired (turnHost w input step) pack call b r) := by
  unfold runAcquired
  split
  · refine ⟨follows_of_failure (.inl hturn) hstarted rfl (by simp [failureCodes]), ?_, ?_, ?_⟩
    · simp only [Cleanup.isFailure]
      exact ⟨_, rfl, identity_of_failureCode (by simp [failureCodes])⟩
    · intro h
      exact absurd (hstarted.symm.trans h) (by simp)
    · exact fun _ => ⟨by simp [CallRun.fail], by simp [CallRun.fail]⟩
  · refine ⟨follows_of_failure (.inl hturn) hstarted rfl (by simp [failureCodes]), ?_, ?_, ?_⟩
    · simp only [Cleanup.isFailure]
      exact ⟨_, rfl, identity_of_failureCode (by simp [failureCodes])⟩
    · intro h
      exact absurd (hstarted.symm.trans h) (by simp)
    · exact fun _ => ⟨by simp [CallRun.fail], by simp [CallRun.fail]⟩
  · exact ⟨release_follows (runLease_follows hb hturn hstarted), release_released⟩

theorem attempt_spec (hb : BoundedCodes b) (hturn : r.host.record = t.record)
    (hstarted : r.started = false) (hcleanup : r.cleanup = ⟨.notAcquired, none⟩) :
    Follows (attempt (turnHost w input step) pack call b r) input step call t ∧
      Released (attempt (turnHost w input step) pack call b r) := by
  have hidle : ∀ {host : Turn} {phases stopped value},
      Released ⟨host, phases, stopped, r.started, value, r.cleanup⟩ :=
    released_of_notAcquired hcleanup hstarted
  unfold attempt
  by_cases haborted : (turnHost w input step).aborted r.host = true
  · rw [if_pos haborted]
    exact ⟨cancel_follows (.inl hturn) hstarted, hidle⟩
  rw [if_neg haborted]
  by_cases htool : call.name ∉ pack.tools
  · rw [if_pos htool]
    exact ⟨follows_of_failure (.inl hturn) hstarted rfl (by simp [failureCodes]), hidle⟩
  rw [if_neg htool]
  cases hvalidation : b.validation with
  | throws => exact ⟨follows_of_failure (.inl hturn) hstarted rfl (by simp [failureCodes]), hidle⟩
  | invalid error =>
    have hfollows : ∀ phases stopped, Follows ⟨r.host.look, phases, stopped, r.started,
        normalizeResult pack call
          (error.map fun error => .obj [("ok", .bool false), ("error", error)]) true, r.cleanup⟩
        input step call t := by
      intro phases stopped
      refine ⟨.inl hturn, fun h => ?_, normalizeResult_code ?_⟩
      · exact absurd (hstarted.symm.trans h) (by simp)
      · intro value failure hraw hmember
        obtain ⟨error', herror, rfl⟩ := Option.map_eq_some_iff.1 hraw
        subst herror
        cases hmember
        exact hb.validation _ hvalidation
    dsimp only
    split
    · exact ⟨hfollows _ _, hidle⟩
    · exact ⟨hfollows _ _, hidle⟩
  | valid =>
    dsimp only
    split_ifs with hsecond
    · exact ⟨cancel_follows (.inl hturn) hstarted, hidle⟩
    · exact runAcquired_spec hb hturn hstarted

/-- A batch that stopped records no start. -/
structure Stays (r : CallRun Turn) (t : Turn) (stopped : Option Stopped) : Prop where
  turn : r.host.record = t.record
  stopped : r.stopped = stopped
  started : r.started = false

variable (w input step pack call) in
theorem beginCall_spec (hb : BoundedCodes b) (t : Turn) (stopped : Option Stopped) :
    Follows (beginCall (turnHost w input step) pack call b t stopped) input step call t ∧
      Released (beginCall (turnHost w input step) pack call b t stopped) ∧
      (stopped ≠ none → Stays (beginCall (turnHost w input step) pack call b t stopped) t stopped) := by
  unfold beginCall
  dsimp only
  by_cases hnone : stopped = none
  · rw [if_pos hnone]
    refine ⟨(attempt_spec hb ?_ ?_ ?_).1, (attempt_spec (t := t) hb ?_ ?_ ?_).2, fun h => absurd hnone h⟩
    all_goals rfl
  rw [if_neg hnone]
  by_cases hcancelled : stopped = some .cancelled
  · rw [if_pos hcancelled]
    subst hcancelled
    split_ifs
    · exact ⟨cancel_follows (.inl rfl) rfl, released_of_notAcquired rfl rfl, fun _ => ⟨rfl, rfl, rfl⟩⟩
    · exact ⟨follows_of_failure (.inl rfl) rfl rfl (by simp [failureCodes]), released_of_notAcquired rfl rfl,
        fun _ => ⟨rfl, rfl, rfl⟩⟩
  · rw [if_neg hcancelled]
    exact ⟨follows_of_failure (.inl rfl) rfl rfl (by simp [failureCodes]), released_of_notAcquired rfl rfl,
      fun _ => ⟨rfl, rfl, rfl⟩⟩

end Calls

end Session
