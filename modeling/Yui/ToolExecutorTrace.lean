import Yui.ToolExecutor

/-!
# The phases of a batch

Each call takes one of a few paths, and the executor remembers in `stopped` every reason to start nothing
more. The trace of a batch is built call by call, so both facts hold of whole batches.
-/

open JsText Checked Session

namespace ToolExecutor

section Phases

def Phase.stops : Phase → Bool
  | .failed | .unrecorded | .cancelled => true
  | .settled settlement => settlement.outcome.isUnknown || settlement.evidence.cleanup.isFailure
  | .acquired | .recorded | .allowed | .executed | .released => false

def Phase.isExecuted : Phase → Bool
  | .executed => true
  | _ => false

/-- A phase that is neither the lease, the tool nor the settlement. -/
def Phase.isPlain : Phase → Bool
  | .recorded | .allowed | .failed | .unrecorded | .cancelled => true
  | .acquired | .executed | .released | .settled _ => false

/-- The phases of a call up to its settlement. The tool runs on one path only, once and after the lease,
the record and the permission; a lease is released once, at the end. -/
inductive CallPath : Bool → List Phase → Prop where
  | executed : CallPath true [.acquired, .recorded, .allowed, .executed, .released]
  | leased (phases : List Phase) (h : ∀ phase ∈ phases, phase.isPlain = true) :
      CallPath false (.acquired :: phases ++ [Phase.released])
  | unleased (phases : List Phase) (h : ∀ phase ∈ phases, phase.isPlain = true) :
      CallPath false phases

theorem CallPath.not_executed {phases : List Phase} (h : CallPath false phases) :
    ∀ phase ∈ phases, phase.isExecuted = false := by
  intro phase hphase
  cases h with
  | leased inner hplain =>
    simp only [List.cons_append, List.mem_cons, List.mem_append, List.not_mem_nil, or_false] at hphase
    rcases hphase with rfl | hphase | rfl
    · rfl
    · have := hplain phase hphase
      cases phase <;> first | rfl | cases this
    · rfl
  | unleased _ hplain =>
    have := hplain phase hphase
    cases phase <;> first | rfl | cases this

end Phases

section Call

variable {σ : Type} {h : Host σ} {pack : Pack} {call : ToolCall} {b : CallWorld} {r : CallRun σ}

/-- What the rest of a leased call adds to the phases `before`. -/
structure CallRun.Adds (r : CallRun σ) (before start : List Phase) : Prop where
  executed : r.started = true → r.phases = before ++ start ++ [Phase.executed]
  plain : r.started = false → ∃ more, r.phases = before ++ more ∧ ∀ phase ∈ more, phase.isPlain = true

theorem CallRun.Adds.of_plain {before start : List Phase} (hstarted : r.started = false)
    (more : List Phase) (hphases : r.phases = before ++ more)
    (hplain : ∀ phase ∈ more, phase.isPlain = true) : r.Adds before start :=
  ⟨fun h => absurd (hstarted.symm.trans h) (by simp), fun _ => ⟨more, hphases, hplain⟩⟩

theorem CallRun.Adds.cons {before start : List Phase} {phase : Phase} (hphase : phase.isPlain = true)
    (hadds : r.Adds (before ++ [phase]) start) : r.Adds before (phase :: start) := by
  refine ⟨fun hstarted => ?_, fun hstarted => ?_⟩
  · rw [hadds.executed hstarted]
    simp
  · obtain ⟨more, hphases, hplain⟩ := hadds.plain hstarted
    refine ⟨phase :: more, by rw [hphases]; simp, ?_⟩
    intro other hother
    rcases List.mem_cons.1 hother with rfl | hother
    · exact hphase
    · exact hplain other hother

theorem runPermitted_adds (hstarted : r.started = false) :
    (runPermitted h pack call b r).Adds r.phases [.allowed] := by
  unfold runPermitted
  split
  · exact CallRun.Adds.of_plain hstarted [.failed] rfl (by simp [Phase.isPlain])
  · by_cases haborted : h.aborted r.host = true
    · rw [if_pos haborted]
      exact CallRun.Adds.of_plain hstarted [.cancelled] rfl (by simp [Phase.isPlain])
    · rw [if_neg haborted]
      exact CallRun.Adds.of_plain hstarted [] (List.append_nil _).symm (by simp)
  · by_cases haborted : h.aborted r.host = true
    · rw [if_pos haborted]
      refine CallRun.Adds.of_plain hstarted [.allowed, .cancelled] ?_ (by simp [Phase.isPlain])
      simp [CallRun.cancel, CallRun.note, CallRun.look]
    · rw [if_neg haborted]
      refine ⟨fun _ => ?_, fun hnot => absurd hnot (by simp [execute])⟩
      simp [execute, CallRun.note, CallRun.look]

theorem runRecorded_adds (hstarted : r.started = false) :
    (runRecorded h pack call b r).Adds r.phases [.recorded, .allowed] := by
  unfold runRecorded
  dsimp only
  by_cases hrecorded : (h.beforeExecute r.host call).2 = false
  · rw [if_pos hrecorded]
    exact CallRun.Adds.of_plain hstarted [.unrecorded] rfl (by simp [Phase.isPlain])
  rw [if_neg hrecorded]
  by_cases haborted : h.aborted (h.beforeExecute r.host call).1 = true
  · rw [if_pos haborted]
    refine CallRun.Adds.of_plain hstarted [.recorded, .cancelled] ?_ (by simp [Phase.isPlain])
    simp [CallRun.cancel, CallRun.note, CallRun.look]
  · rw [if_neg haborted]
    exact CallRun.Adds.cons rfl (runPermitted_adds hstarted)

theorem runLease_adds {valueThrows : Bool} (hstarted : r.started = false) :
    (runLease h pack call b valueThrows r).Adds r.phases [.recorded, .allowed] := by
  unfold runLease
  by_cases hvalue : valueThrows = true
  · rw [if_pos hvalue]
    exact CallRun.Adds.of_plain hstarted [.failed] rfl (by simp [Phase.isPlain])
  rw [if_neg hvalue]
  by_cases haborted : h.aborted r.host = true
  · rw [if_pos haborted]
    exact CallRun.Adds.of_plain hstarted [.cancelled] rfl (by simp [Phase.isPlain])
  · rw [if_neg haborted]
    exact runRecorded_adds (r := r.look h) hstarted

theorem release_phases : (release b r).phases = r.phases ++ [Phase.released] ∧ (release b r).started = r.started := by
  unfold release
  split_ifs <;> exact ⟨rfl, rfl⟩

theorem runAcquired_path (hphases : r.phases = []) (hstarted : r.started = false) :
    CallPath (runAcquired h pack call b r).started (runAcquired h pack call b r).phases := by
  unfold runAcquired
  split
  · have : CallPath false (r.phases ++ [Phase.failed]) := .unleased _ (by simp [hphases, Phase.isPlain])
    rw [← hstarted] at this
    exact this
  · have : CallPath false (r.phases ++ [Phase.failed]) := .unleased _ (by simp [hphases, Phase.isPlain])
    rw [← hstarted] at this
    exact this
  · rename_i valueThrows _
    have hadds : (runLease h pack call b valueThrows (r.note .acquired)).Adds
        (r.note .acquired).phases [.recorded, .allowed] := runLease_adds hstarted
    have hbefore : (r.note .acquired).phases = [.acquired] := by simp [CallRun.note, hphases]
    rw [hbefore] at hadds
    obtain ⟨hreleased, hsame⟩ := release_phases (b := b) (r := runLease h pack call b valueThrows (r.note .acquired))
    rw [hreleased, hsame]
    cases hrun : (runLease h pack call b valueThrows (r.note .acquired)).started with
    | true =>
      rw [hadds.executed hrun]
      exact .executed
    | false =>
      obtain ⟨more, hmore, hplain⟩ := hadds.plain hrun
      rw [hmore]
      exact .leased more hplain

theorem attempt_path (hphases : r.phases = []) (hstarted : r.started = false) :
    CallPath (attempt h pack call b r).started (attempt h pack call b r).phases := by
  have hidle : ∀ phases : List Phase, (∀ phase ∈ phases, phase.isPlain = true) →
      CallPath r.started (r.phases ++ phases) := by
    intro phases hplain
    rw [hstarted, hphases]
    exact .unleased phases hplain
  have hempty : CallPath r.started r.phases := by simpa using hidle [] (by simp)
  unfold attempt
  by_cases haborted : h.aborted r.host = true
  · rw [if_pos haborted]
    exact hidle [.cancelled] (by simp [Phase.isPlain])
  rw [if_neg haborted]
  by_cases htool : call.name ∉ pack.tools
  · rw [if_pos htool]
    exact hempty
  rw [if_neg htool]
  split
  · exact hidle [.failed] (by simp [Phase.isPlain])
  · dsimp only
    split
    · exact hidle [.failed] (by simp [Phase.isPlain])
    · exact hempty
  · dsimp only
    by_cases hsecond : h.aborted (r.look h).host = true
    · rw [if_pos hsecond]
      exact hidle [.cancelled] (by simp [Phase.isPlain])
    · rw [if_neg hsecond]
      exact runAcquired_path (r := (r.look h).look h) hphases hstarted

theorem beginCall_path (host : σ) (stopped : Option Stopped) : CallPath (beginCall h pack call b host stopped).started
      (beginCall h pack call b host stopped).phases := by
  unfold beginCall
  dsimp only
  by_cases hnone : stopped = none
  · rw [if_pos hnone]
    exact attempt_path rfl rfl
  rw [if_neg hnone]
  split_ifs
  · exact .unleased [.cancelled] (by simp [Phase.isPlain])
  · exact .unleased [] (by simp)
  · exact .unleased [] (by simp)

theorem beginCall_stopped (host : σ) {stopped : Option Stopped} (hstopped : stopped ≠ none) :
    (beginCall h pack call b host stopped).started = false := by
  unfold beginCall
  dsimp only
  rw [if_neg hstopped]
  split_ifs <;> rfl

end Call

section Latch

variable {σ : Type} {h : Host σ} {pack : Pack} {call : ToolCall} {b : CallWorld} {r : CallRun σ}

/-- Every reason to stop is kept in `stopped`. -/
def CallRun.Latched (r : CallRun σ) : Prop :=
  (∀ phase ∈ r.phases, phase.stops = true → r.stopped ≠ none) ∧
    (r.cleanup.isFailure = true → r.stopped ≠ none)

theorem CallRun.latched_of_stopped (hstopped : r.stopped ≠ none) : r.Latched :=
  ⟨fun _ _ _ => hstopped, fun _ => hstopped⟩

theorem CallRun.latched_cancel : r.cancel.Latched := by
  apply CallRun.latched_of_stopped
  cases hstopped : r.stopped <;> simp [CallRun.cancel, hstopped]

theorem CallRun.latched_fail {value : ToolOutcome} {stopped : Stopped} :
    (r.fail value stopped).Latched := CallRun.latched_of_stopped (by simp [CallRun.fail])

theorem CallRun.Latched.note (hr : r.Latched) {phase : Phase} (hphase : phase.stops = false) :
    (r.note phase).Latched := by
  refine ⟨fun other hother hstops => ?_, hr.2⟩
  rcases List.mem_append.1 hother with hother | hother
  · exact hr.1 other hother hstops
  · rw [List.mem_singleton.1 hother, hphase] at hstops
    cases hstops

theorem runPermitted_latched (hr : r.Latched) : (runPermitted h pack call b r).Latched := by
  unfold runPermitted
  split
  · exact CallRun.latched_fail
  · split_ifs
    · exact CallRun.latched_cancel
    · exact hr
  · split_ifs
    · exact CallRun.latched_cancel
    · have hallowed : (r.note .allowed).Latched := hr.note rfl
      have hexecuted : (((r.note .allowed).look h).note .executed).Latched :=
        CallRun.Latched.note (r := (r.note .allowed).look h) hallowed rfl
      exact hexecuted

theorem runRecorded_latched (hr : r.Latched) : (runRecorded h pack call b r).Latched := by
  unfold runRecorded
  dsimp only
  split_ifs
  · exact CallRun.latched_of_stopped (by simp)
  · exact CallRun.latched_cancel
  · have hrecorded : (r.note .recorded).Latched := hr.note rfl
    exact runPermitted_latched hrecorded

theorem runLease_latched {valueThrows : Bool} (hr : r.Latched) : (runLease h pack call b valueThrows r).Latched := by
  unfold runLease
  split_ifs
  · exact CallRun.latched_fail
  · exact CallRun.latched_cancel
  · exact runRecorded_latched (r := r.look h) hr

theorem release_latched (hr : r.Latched) : (release b r).Latched := by
  unfold release
  split_ifs
  · have hreleased : (r.note .released).Latched := hr.note rfl
    refine ⟨hreleased.1, fun hcleanup => ?_⟩
    simp [Cleanup.isFailure] at hcleanup
  · exact CallRun.latched_of_stopped (by simp)

theorem attempt_latched (hr : r.Latched) : (attempt h pack call b r).Latched := by
  unfold attempt
  by_cases haborted : h.aborted r.host = true
  · rw [if_pos haborted]
    exact CallRun.latched_cancel
  rw [if_neg haborted]
  by_cases htool : call.name ∉ pack.tools
  · rw [if_pos htool]
    exact hr
  rw [if_neg htool]
  split
  · exact CallRun.latched_fail
  · dsimp only
    split
    · exact CallRun.latched_fail
    · exact hr
  · dsimp only
    split_ifs
    · exact CallRun.latched_cancel
    unfold runAcquired
    split
    · exact CallRun.latched_of_stopped (by simp [CallRun.fail])
    · exact CallRun.latched_of_stopped (by simp [CallRun.fail])
    · exact release_latched (runLease_latched (CallRun.Latched.note (by exact hr) rfl))

theorem beginCall_latched (host : σ) (stopped : Option Stopped) : (beginCall h pack call b host stopped).Latched ∧
      (stopped ≠ none → (beginCall h pack call b host stopped).stopped ≠ none) := by
  unfold beginCall
  dsimp only
  by_cases hnone : stopped = none
  · rw [if_pos hnone]
    refine ⟨attempt_latched ⟨by simp, by simp [Cleanup.isFailure]⟩, fun h => absurd hnone h⟩
  · rw [if_neg hnone]
    obtain ⟨reason, rfl⟩ := Option.ne_none_iff_exists'.1 hnone
    split_ifs
    · exact ⟨CallRun.latched_cancel, fun _ => by simp [CallRun.cancel, CallRun.look]⟩
    · exact ⟨CallRun.latched_of_stopped hnone, fun _ => hnone⟩
    · exact ⟨CallRun.latched_of_stopped hnone, fun _ => hnone⟩

end Latch

section Outcomes

variable {σ : Type} {h : Host σ} {pack : Pack} {call : ToolCall} {b : CallWorld} {r : CallRun σ}

theorem readOutcome_harmless {value : JsonData} {outcome : ToolOutcome}
    (hread : readOutcome value true = some outcome) : outcome.isHarmless = true := by
  unfold readOutcome at hread
  split at hread
  · cases hread
  · obtain ⟨error, _, hread⟩ := Option.bind_eq_some_iff.1 hread
    split at hread
    · split_ifs at hread with _ _ heffect
      · cases hread
        rfl
      · exact absurd heffect.1 (by simp)
    · cases hread
  · cases hread

theorem normalizeResult_cases (pack : Pack) (call : ToolCall) (raw : Option JsonData)
    (beforeStart : Bool) :
    (∃ value, raw = some value ∧
      readOutcome value beforeStart = some (normalizeResult pack call raw beforeStart)) ∨
    readResult pack call raw beforeStart = none ∧ normalizeResult pack call raw beforeStart =
      failure "tool_protocol" "Invalid or oversized tool result"
        (if beforeStart = true then .noEffect else .unknown) := by
  unfold normalizeResult
  cases hread : readResult pack call raw beforeStart with
  | none => exact .inr ⟨rfl, rfl⟩
  | some outcome =>
    obtain ⟨value, hraw, hread⟩ := Option.bind_eq_some_iff.1 hread
    split_ifs at hread
    exact .inl ⟨value, hraw, (Option.filter_eq_some_iff.1 hread).1⟩

theorem normalizeResult_harmless (raw : Option JsonData) :
    (normalizeResult pack call raw true).isHarmless = true := by
  cases normalizeResult_cases pack call raw true with
  | inl hread =>
    obtain ⟨value, _, hread⟩ := hread
    exact readOutcome_harmless hread
  | inr hprotocol =>
    rw [hprotocol.2]
    rfl

/-- A tool that threw, or whose result is no tool result. -/
def malformed (pack : Pack) (call : ToolCall) : Answer → Bool
  | .throws => true
  | .returns raw => (readResult pack call raw false).isNone

/-- What a settlement says is what happened. -/
structure CallRun.Truthful (r : CallRun σ) (pack : Pack) (call : ToolCall) (b : CallWorld) : Prop where
  harmless : r.started = false → r.value.isHarmless = true
  unknown : r.started = true → malformed pack call b.execution = true → r.value.isUnknown = true

theorem CallRun.truthful_of_failure {code message : String} (hstarted : r.started = false)
    (hvalue : r.value = failure code message) : r.Truthful pack call b := by
  refine ⟨fun _ => ?_, fun h => absurd (hstarted.symm.trans h) (by simp)⟩
  rw [hvalue]
  rfl

theorem execute_truthful : (execute pack call b r).Truthful pack call b := by
  refine ⟨fun hnot => absurd hnot (by simp [execute]), fun _ hmalformed => ?_⟩
  unfold malformed at hmalformed
  simp only [execute]
  cases hexecution : b.execution with
  | throws => rfl
  | returns raw =>
    rw [hexecution] at hmalformed
    have hnone : readResult pack call raw false = none := by simpa using hmalformed
    simp only [normalizeResult, hnone]
    rfl

theorem runPermitted_truthful (hstarted : r.started = false) :
    (runPermitted h pack call b r).Truthful pack call b := by
  unfold runPermitted
  split
  · exact CallRun.truthful_of_failure hstarted rfl
  · split_ifs
    · exact CallRun.truthful_of_failure hstarted rfl
    · exact CallRun.truthful_of_failure hstarted rfl
  · split_ifs
    · exact CallRun.truthful_of_failure hstarted rfl
    · exact execute_truthful

theorem runLease_truthful {valueThrows : Bool} (hstarted : r.started = false) :
    (runLease h pack call b valueThrows r).Truthful pack call b := by
  unfold runLease
  split_ifs
  · exact CallRun.truthful_of_failure hstarted rfl
  · exact CallRun.truthful_of_failure hstarted rfl
  unfold runRecorded
  dsimp only
  split_ifs
  · exact CallRun.truthful_of_failure hstarted rfl
  · exact CallRun.truthful_of_failure hstarted rfl
  · exact runPermitted_truthful hstarted

theorem release_truthful (hr : r.Truthful pack call b) : (release b r).Truthful pack call b := by
  unfold release
  split_ifs <;> exact ⟨hr.harmless, hr.unknown⟩

theorem attempt_truthful (hstarted : r.started = false) : (attempt h pack call b r).Truthful pack call b := by
  unfold attempt
  by_cases haborted : h.aborted r.host = true
  · rw [if_pos haborted]
    exact CallRun.truthful_of_failure hstarted rfl
  rw [if_neg haborted]
  by_cases htool : call.name ∉ pack.tools
  · rw [if_pos htool]
    exact CallRun.truthful_of_failure hstarted rfl
  rw [if_neg htool]
  have hidle : ∀ {r' : CallRun σ}, r'.started = false → r'.value.isHarmless = true →
      r'.Truthful pack call b :=
    fun hs hv => ⟨fun _ => hv, fun h => absurd (hs.symm.trans h) (by simp)⟩
  split
  · exact CallRun.truthful_of_failure hstarted rfl
  · dsimp only
    split
    · exact hidle hstarted (normalizeResult_harmless _)
    · exact hidle hstarted (normalizeResult_harmless _)
  · dsimp only
    split_ifs
    · exact CallRun.truthful_of_failure hstarted rfl
    unfold runAcquired
    split
    · exact CallRun.truthful_of_failure hstarted rfl
    · exact CallRun.truthful_of_failure hstarted rfl
    · exact release_truthful (runLease_truthful hstarted)

theorem beginCall_truthful (host : σ) (stopped : Option Stopped) :
    (beginCall h pack call b host stopped).Truthful pack call b := by
  unfold beginCall
  dsimp only
  split_ifs
  · exact attempt_truthful rfl
  · exact CallRun.truthful_of_failure rfl rfl
  · exact CallRun.truthful_of_failure rfl rfl
  · exact CallRun.truthful_of_failure rfl rfl

end Outcomes

section Batch

variable {σ : Type} {h : Host σ} {pack : Pack} {world : ℕ → CallWorld}

/-- The phases of one call of the batch. -/
def phasesOf (index : ℕ) (trace : List (ℕ × Phase)) : List Phase :=
  (trace.filter fun entry => entry.1 = index).map Prod.snd

theorem phasesOf_append (index : ℕ) (xs ys : List (ℕ × Phase)) :
    phasesOf index (xs ++ ys) = phasesOf index xs ++ phasesOf index ys := by
  simp [phasesOf]

theorem phasesOf_same (index : ℕ) (phases : List Phase) :
    phasesOf index (phases.map fun phase => (index, phase)) = phases := by
  induction phases with
  | nil => rfl
  | cons phase phases ih => simpa [phasesOf] using ih

theorem phasesOf_other {index : ℕ} {trace : List (ℕ × Phase)}
    (hother : ∀ entry ∈ trace, entry.1 ≠ index) : phasesOf index trace = [] := by
  unfold phasesOf
  rw [List.filter_eq_nil_iff.2, List.map_nil]
  intro entry hentry
  simp [hother entry hentry]

/-- How a call of the batch was settled, and through which phases. -/
structure Settled (pack : Pack) (b : CallWorld) (phases : List Phase) (settlement : Settlement) : Prop where
  path : ∃ before seen after, phases = before ++ seen ++ Phase.settled settlement :: after ∧
    CallPath settlement.evidence.started before ∧
    (seen = [] ∨ seen = [.cancelled]) ∧ (after = [] ∨ after = [.unrecorded])
  status : settlement.evidence.status = status settlement.evidence.started settlement.outcome
  harmless : settlement.evidence.started = false → settlement.outcome.isHarmless = true
  unknown : settlement.evidence.started = true → malformed pack settlement.call b.execution = true →
    settlement.outcome.isUnknown = true

structure Batch.Lawful (batch : Batch σ) (pack : Pack) (world : ℕ → CallWorld) (done : List ToolCall) : Prop where
  calls : batch.results.map Settlement.call = done
  settled : ∀ index settlement, batch.results[index]? = some settlement →
    Settled pack (world index) (phasesOf index batch.trace) settlement
  indices : ∀ entry ∈ batch.trace, entry.1 < done.length
  latched : ∀ entry ∈ batch.trace, entry.2.stops = true → batch.stopped ≠ none
  fenced : batch.trace.Pairwise fun first later => first.2.stops = true → later.2.isExecuted = false

variable {index : ℕ} {call : ToolCall} {b : CallWorld} {batch : Batch σ}

theorem stoppedAfter_ne_none {value : ToolOutcome} {stopped : Option Stopped} {aborted : Bool}
    (hreason : stopped ≠ none ∨ aborted = true ∨ value.isUnknown = true) :
    stoppedAfter value stopped aborted ≠ none := by
  unfold stoppedAfter
  cases aborted with
  | false =>
    by_cases hunknown : value.isUnknown = true
    · simp [hunknown]
    · simpa [hunknown] using hreason
  | true =>
    dsimp only
    rw [if_pos rfl]
    cases (if value.isUnknown = true then some Stopped.unknownEffect else stopped) <;> simp

section Settle

variable {r : CallRun σ} {recorded : Bool}

theorem settled_of_path (hpath : CallPath r.started r.phases) (htruthful : r.Truthful pack call b) :
    Settled pack b (r.phases ++ lastPhases h call r recorded) (settlementOf h call r) := by
  refine ⟨⟨r.phases, if h.aborted r.host = true then [.cancelled] else [],
    if recorded = true then [] else [.unrecorded], ?_, hpath, ?_, ?_⟩, rfl, htruthful.harmless,
    htruthful.unknown⟩
  · exact (List.append_assoc _ _ _).symm
  · split_ifs <;> simp
  · split_ifs <;> simp

theorem stopped_of_phase (hlatched : r.Latched) {phase : Phase}
    (hphase : phase ∈ r.phases ++ lastPhases h call r recorded) (hstops : phase.stops = true) :
    (if recorded = true then stoppedAfter r.value r.stopped (h.aborted r.host)
      else (stoppedAfter r.value r.stopped (h.aborted r.host)).or (some .capabilityFailed)) ≠ none := by
  cases recorded with
  | false => cases stoppedAfter r.value r.stopped (h.aborted r.host) <;> simp
  | true =>
    rw [if_pos rfl]
    apply stoppedAfter_ne_none
    rcases List.mem_append.1 hphase with hphase | hphase
    · exact .inl (hlatched.1 phase hphase hstops)
    · simp only [lastPhases, if_pos, List.mem_append, List.mem_singleton] at hphase
      rcases hphase with hphase | rfl
      · split_ifs at hphase with haborted
        · exact .inr (.inl haborted)
        · cases hphase
      · simp only [Phase.stops, settlementOf, Bool.or_eq_true] at hstops
        rcases hstops with hunknown | hcleanup
        · exact .inr (.inr hunknown)
        · exact .inl (hlatched.2 hcleanup)

theorem lastPhases_not_executed : ∀ phase ∈ lastPhases h call r recorded, phase.isExecuted = false := by
  intro phase hphase
  simp only [lastPhases, List.mem_append, List.mem_cons] at hphase
  rcases hphase with hphase | rfl | hphase
  · split_ifs at hphase
    · rw [List.mem_singleton.1 hphase]
      rfl
    · cases hphase
  · rfl
  · split_ifs at hphase
    · cases hphase
    · rw [List.mem_singleton.1 hphase]
      rfl

theorem fenced_of_path (hpath : CallPath r.started r.phases) : (r.phases ++ lastPhases h call r recorded).Pairwise
      fun first later => first.stops = true → later.isExecuted = false := by
  rw [List.pairwise_append]
  refine ⟨?_, ?_, fun _ _ later hlater _ => lastPhases_not_executed later hlater⟩
  · cases hstarted : r.started with
    | false =>
      rw [hstarted] at hpath
      exact List.pairwise_of_forall_mem_list fun _ _ later hlater _ => hpath.not_executed later hlater
    | true =>
      rw [hstarted] at hpath
      generalize r.phases = phases at hpath
      cases hpath
      simp [Phase.stops]
  · exact List.pairwise_of_forall_mem_list fun _ _ later hlater _ => lastPhases_not_executed later hlater

end Settle

theorem runCall_lawful {done : List ToolCall} (hbatch : batch.Lawful pack world done) :
    (runCall h pack done.length call (world done.length) batch).Lawful pack world (done ++ [call]) := by
  have hlength : batch.results.length = done.length := by rw [← hbatch.calls, List.length_map]
  obtain ⟨r, hr⟩ : ∃ r, r = beginCall h pack call (world done.length) batch.host batch.stopped := ⟨_, rfl⟩
  obtain ⟨recorded, hrecorded⟩ : ∃ recorded, recorded = record h call r batch.recordingError := ⟨_, rfl⟩
  have hpath : CallPath r.started r.phases := hr ▸ beginCall_path _ _
  have htruthful : r.Truthful pack call (world done.length) := hr ▸ beginCall_truthful _ _
  have hlatched : r.Latched := hr ▸ (beginCall_latched _ _).1
  have hkept : batch.stopped ≠ none → r.stopped ≠ none := hr ▸ (beginCall_latched _ _).2
  have hbarred : batch.stopped ≠ none → r.started = false := hr ▸ fun hne => beginCall_stopped _ hne
  have hrun : runCall h pack done.length call (world done.length) batch =
      ⟨recorded.1,
        if recorded.2 = true then stoppedAfter r.value r.stopped (h.aborted r.host)
        else (stoppedAfter r.value r.stopped (h.aborted r.host)).or (some .capabilityFailed),
        batch.recordingError || !recorded.2, batch.results ++ [settlementOf h call r],
        batch.trace ++ (r.phases ++ lastPhases h call r recorded.2).map
          fun phase => (done.length, phase)⟩ := by
    rw [hrecorded, hr]
    rfl
  rw [hrun]
  constructor
  · dsimp only
    rw [List.map_append, hbatch.calls]
    rfl
  · intro index other hother
    dsimp only at hother ⊢
    rw [phasesOf_append]
    by_cases hold : index < batch.results.length
    · rw [List.getElem?_append_left hold] at hother
      have hnew : phasesOf index ((r.phases ++ lastPhases h call r recorded.2).map
          fun phase => (done.length, phase)) = [] := by
        apply phasesOf_other
        intro entry hentry
        obtain ⟨phase, _, rfl⟩ := List.mem_map.1 hentry
        exact fun heq => by omega
      rw [hnew, List.append_nil]
      exact hbatch.settled index other hother
    · rw [List.getElem?_append_right (Nat.le_of_not_lt hold)] at hother
      have hindex : index = done.length := by
        have := (List.getElem?_eq_some_iff.1 hother).1
        simp only [List.length_singleton] at this
        omega
      subst hindex
      rw [hlength, Nat.sub_self] at hother
      cases hother
      have hnone : phasesOf done.length batch.trace = [] := by
        apply phasesOf_other
        intro entry hentry heq
        exact absurd (hbatch.indices entry hentry) (by omega)
      rw [hnone, List.nil_append, phasesOf_same]
      exact settled_of_path hpath htruthful
  · intro entry hentry
    rw [List.length_append, List.length_singleton]
    rcases List.mem_append.1 hentry with hentry | hentry
    · exact Nat.lt_succ_of_lt (hbatch.indices entry hentry)
    · obtain ⟨phase, _, rfl⟩ := List.mem_map.1 hentry
      exact Nat.lt_succ_self _
  · intro entry hentry hstops
    rcases List.mem_append.1 hentry with hentry | hentry
    · have hne := hkept (hbatch.latched entry hentry hstops)
      have hafter : stoppedAfter r.value r.stopped (h.aborted r.host) ≠ none := stoppedAfter_ne_none (.inl hne)
      dsimp only
      split_ifs
      · exact hafter
      · cases hcase : stoppedAfter r.value r.stopped (h.aborted r.host) <;> simp
    · obtain ⟨phase, hphase, rfl⟩ := List.mem_map.1 hentry
      exact stopped_of_phase hlatched hphase hstops
  · rw [List.pairwise_append, List.pairwise_map]
    refine ⟨hbatch.fenced, fenced_of_path hpath, fun first hfirst later hlater hstops => ?_⟩
    obtain ⟨phase, hphase, rfl⟩ := List.mem_map.1 hlater
    rw [hbarred (hbatch.latched first hfirst hstops)] at hpath
    rcases List.mem_append.1 hphase with hphase | hphase
    · exact hpath.not_executed phase hphase
    · exact lastPhases_not_executed phase hphase

theorem runCallsFrom_lawful {done : List ToolCall} (calls : List ToolCall) (hbatch : batch.Lawful pack world done) :
    (runCallsFrom h pack world done.length calls batch).Lawful pack world (done ++ calls) := by
  induction calls generalizing done batch with
  | nil => simpa [runCallsFrom] using hbatch
  | cons call calls ih =>
    have hstep : (runCall h pack done.length call (world done.length) batch).Lawful pack world
        (done ++ [call]) := runCall_lawful hbatch
    simpa [runCallsFrom] using ih hstep

theorem executeBatch_lawful (h : Host σ) (pack : Pack) (world : ℕ → CallWorld) (calls : List ToolCall)
    (host : σ) : (executeBatch h pack world calls host).Lawful pack world calls := by
  have hstart : (⟨host, none, false, [], []⟩ : Batch σ).Lawful pack world [] := by constructor <;> simp
  simpa [executeBatch] using runCallsFrom_lawful (h := h) calls hstart

/-- The settlement law: one settlement for each call and in their order, each settled as its phases say, and
no tool started after a reason to stop. -/
theorem executeBatch_settlement_law (h : Host σ) (pack : Pack) (world : ℕ → CallWorld)
    (calls : List ToolCall) (host : σ) : (executeBatch h pack world calls host).results.map Settlement.call = calls ∧
    (∀ index settlement, (executeBatch h pack world calls host).results[index]? = some settlement →
      Settled pack (world index) (phasesOf index (executeBatch h pack world calls host).trace) settlement) ∧
    ((executeBatch h pack world calls host).trace.Pairwise
      fun first later => first.2.stops = true → later.2.isExecuted = false) :=
  have hlawful := executeBatch_lawful h pack world calls host
  ⟨hlawful.calls, hlawful.settled, hlawful.fenced⟩

end Batch

end ToolExecutor
