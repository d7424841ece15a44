import Yui.IntegrationQuiet

/-!
# The application of a source keeps to the discipline

Every save of `applyIntegrationSource` is of an unfinished attempt that follows the one in hand, so the
attempt in hand is the recorded one throughout, also where the command of a step fails.
-/

open Program Protocol

namespace GitIntegration

variable {k : Knowledge}

/-- The call holds the recorded attempt, and it is unfinished. -/
def Holds (t : Knowledge) (attempt : IntegrationAttempt) : Prop :=
  t.record = some attempt ∧ attempt.status.unfinished = true

def HoldsCursor (t : Knowledge) (cursor : Cursor) : Prop := Holds t cursor.attempt

def HoldsEnd (t : Knowledge) : StepEnd → Prop
  | .paused attempt => Holds t attempt
  | .moved cursor => HoldsCursor t cursor

/-- A failure leaves the attempt in hand. -/
def kept (attempt : IntegrationAttempt) : Knowledge → String → Prop := fun t _ => Holds t attempt

variable {attempt : IntegrationAttempt}

/-- A save that leaves the attempt unfinished. -/
theorem progress_keeps {patch : IntegrationAttempt → IntegrationAttempt}
    (hk : Holds k attempt) (hsame : SameAttempt attempt (patch attempt))
    (hnext : (patch attempt).status.unfinished = true) :
    discipline.Keeps (fun t next => next = patch attempt ∧ Holds t next) (kept attempt) k
      (saveUpdate attempt patch) := by
  refine Keeps.mono (fun t next ht => ?_) (fun t error ht => ?_)
    (saveUpdate_keeps hk.1 hsame (.progresses hk.2 hnext))
  · obtain ⟨rfl, rfl⟩ := ht
    exact ⟨rfl, rfl, hnext⟩
  · rw [kept, show t = k from ht]
    exact hk

theorem SameAttempt.of_fields {attempt next : IntegrationAttempt} (hid : next.id = attempt.id)
    (htask : next.taskId = attempt.taskId) (href : next.targetRef = attempt.targetRef)
    (hbefore : next.beforeCommit = attempt.beforeCommit)
    (hresolution : next.resolution = attempt.resolution) : SameAttempt attempt next :=
  ⟨hid, congrArg₂ Target.mk htask href, hbefore, fun _ => hresolution⟩

theorem saveProgress_keeps (hk : Holds k attempt) (progress : SourceProgress) :
    discipline.Keeps HoldsCursor (kept attempt) k (saveProgress attempt progress) := by
  unfold saveProgress
  refine seq_keeps (progress_keeps hk (.of_fields rfl rfl rfl rfl rfl) hk.2) fun t next ht => ?_
  exact ht.2

theorem pause_keeps (hk : Holds k attempt) (paths : List String) :
    discipline.Keeps Holds (kept attempt) k (pause attempt paths) := by
  unfold pause
  refine ofExcept_seq (fun _ => hk) fun pending hpending => ?_
  obtain ⟨-, rfl⟩ := conflict_ok hpending
  refine seq_keeps (Keeps.mono (fun _ _ h => h) (fun t error ht => ?_)
    (save_keeps hk.1 (.of_fields rfl rfl rfl rfl rfl) (.progresses hk.2 rfl))) fun t _ ht => ?_
  · rw [kept, show t = k from ht]
    exact hk
  · rw [ht]
    exact ⟨rfl, rfl⟩

variable {cursor : Cursor} (app : Application)

theorem openStep_keeps (hk : HoldsCursor k cursor) (commit : String) :
    discipline.Keeps HoldsCursor (kept cursor.attempt) k (openStep app cursor commit) := by
  unfold openStep
  refine quiet_seq (assertUpstream_quiet _ _) (fun _ => hk) fun _ => ?_
  exact quiet_seq (issue_quiet trivial) (fun _ => hk) fun _ => saveProgress_keeps hk _

theorem recoverCommand_keeps (hk : HoldsCursor k cursor) (commit action error : String) :
    discipline.Keeps HoldsEnd anyError k (recoverCommand app cursor commit action error) := by
  unfold recoverCommand
  refine quiet_seq (issue_quiet trivial) (fun _ => trivial) fun affected => ?_
  split_ifs
  · exact seq_keeps (lax (pause_keeps hk affected)) fun t pending ht => ht
  · trivial
  refine quiet_seq (issue_quiet trivial) (fun _ => trivial) fun active => ?_
  split_ifs
  · trivial
  refine quiet_seq (succeeds_quiet (issue_quiet trivial)) (fun _ => trivial) fun empty => ?_
  split_ifs
  · trivial
  refine quiet_seq (assertOperation_quiet app commit _) (fun _ => trivial) fun _ => ?_
  refine seq_keeps (lax (saveProgress_keeps hk _)) fun t next ht => ?_
  exact quiet_seq (issue_quiet trivial) (fun _ => trivial) fun _ => ht

theorem selectCommand_keeps (hk : HoldsCursor k cursor) (commit : String) (operation : Bool) :
    discipline.Keeps (fun t (selected : Cursor × GitCommand) => HoldsCursor t selected.1)
      (kept cursor.attempt) k (selectCommand app cursor commit operation) := by
  unfold selectCommand
  split
  · exact hk
  · exact hk
  · refine quiet_seq (succeeds_quiet (issue_quiet trivial)) (fun _ => hk) fun empty => ?_
    split_ifs
    · exact seq_keeps (saveProgress_keeps hk _) fun t next ht => ht
    · exact hk
  · exact hk
  · exact hk
  · exact hk
  · exact quiet_seq (succeeds_quiet (issue_quiet trivial)) (fun _ => hk) fun _ => hk

theorem tryCommand_keeps (hk : HoldsCursor k cursor) (commit action : String) (operation : Bool) :
    discipline.Keeps HoldsEnd anyError k (tryCommand app cursor commit action operation) := by
  unfold tryCommand
  refine seq_keeps
    (Q := fun t (selected : (Cursor × GitCommand) ⊕ StepEnd) =>
      (∀ pair, selected = .inl pair → HoldsCursor t pair.1) ∧ ∀ e, selected = .inr e → HoldsEnd t e)
    (Keeps.handle (R := kept cursor.attempt)
      (seq_keeps (selectCommand_keeps app hk commit operation) fun t selected ht => ?_)
      fun t error ht => ?_) fun t selected ht => ?_
  · exact ⟨fun pair hpair => Sum.inl.inj hpair ▸ ht, fun e he => (by cases he)⟩
  · refine seq_keeps (recoverCommand_keeps app ht commit action error) fun t recovered hrecovered => ?_
    exact ⟨fun pair hpair => (by cases hpair), fun e he => Sum.inr.inj he ▸ hrecovered⟩
  · cases selected with
    | inr recovered => exact ht.2 recovered rfl
    | inl selected =>
      have hcursor := ht.1 selected rfl
      refine Keeps.handle (R := kept selected.1.attempt) ?_ fun t error herror =>
        recoverCommand_keeps app herror commit action error
      exact quiet_seq (issue_quiet trivial) (fun _ => hcursor) fun _ => hcursor

theorem runStep_keeps (hk : HoldsCursor k cursor)
    (commit action : String) (fresh : Bool) (operation : Option OperationKind) :
    discipline.Keeps HoldsEnd anyError k (runStep app cursor commit action fresh operation) := by
  unfold runStep
  refine quiet_seq (provided_quiet _ (assertOperation_quiet app commit _)) (fun _ => trivial) fun _ => ?_
  refine quiet_seq (issue_quiet trivial) (fun _ => trivial) fun unresolved => ?_
  split_ifs
  · exact seq_keeps (lax (pause_keeps hk unresolved)) fun t pending ht => ht
  · refine quiet_seq (provided_quiet _ (assertOwnedResolution_quiet app)) (fun _ => trivial) fun _ => ?_
    exact tryCommand_keeps app hk commit action _

theorem proveStep_keeps (hk : HoldsCursor k cursor) (action : String) :
    discipline.Keeps HoldsEnd anyError k (proveStep app cursor action) := by
  unfold proveStep
  refine quiet_seq assertClean_quiet (fun _ => trivial) fun _ => ?_
  refine quiet_seq (provenEmpty_quiet app _) (fun _ => trivial) fun empty => ?_
  split_ifs
  · exact hk
  · refine quiet_seq (hasExactRefReceipt_quiet _ _ _) (fun _ => trivial) fun _ => ?_
    exact require_seq (fun _ => trivial) fun _ => hk

theorem settleStep_keeps (hk : HoldsCursor k cursor) (commit action : String) (fresh : Bool) :
    discipline.Keeps HoldsEnd anyError k (settleStep app cursor commit action fresh) := by
  unfold settleStep
  refine quiet_seq (issue_quiet trivial) (fun _ => trivial) fun operation => ?_
  split_ifs
  · exact proveStep_keeps app hk action
  · exact runStep_keeps app hk commit action fresh operation

theorem closeStep_keeps (hk : HoldsCursor k cursor) (index : ℕ) :
    discipline.Keeps HoldsCursor anyError k (closeStep app cursor index) := by
  unfold closeStep
  refine quiet_seq assertClean_quiet (fun _ => trivial) fun _ => ?_
  refine quiet_seq (issue_quiet trivial) (fun _ => trivial) fun head => ?_
  refine seq_keeps (lax (progress_keeps hk (.of_fields rfl rfl rfl rfl rfl) rfl)) fun t next ht => ?_
  exact ht.2

theorem settled_seq {p : Call StepEnd} (index : ℕ) (hp : discipline.Keeps HoldsEnd anyError k p) :
    discipline.Keeps HoldsEnd anyError k (p >>= fun ended => match ended with
      | .paused attempt => pure (.paused attempt)
      | .moved cursor => do
        let next ← closeStep app cursor index
        pure (.moved next)) := by
  refine seq_keeps hp fun t ended ht => ?_
  cases ended with
  | paused attempt => exact ht
  | moved cursor => exact seq_keeps (closeStep_keeps app ht index) fun t next hnext => hnext

theorem applyStep_keeps (hk : HoldsCursor k cursor) (index : ℕ)
    (commit : String) : discipline.Keeps HoldsEnd anyError k (applyStep app cursor index commit) := by
  unfold applyStep
  split
  · exact settled_seq app index (settleStep_keeps app hk commit _ false)
  · refine quiet_seq (assertIntegrationCandidate_quiet _ _) (fun _ => trivial) fun _ => ?_
    refine quiet_seq (succeeds_quiet (issue_quiet trivial)) (fun _ => trivial) fun represented => ?_
    split_ifs
    · exact seq_keeps (lax (saveProgress_keeps hk _)) fun t next ht => ht
    · refine seq_keeps (lax (openStep_keeps app hk commit)) fun t opened hopened => ?_
      exact settled_seq app index (settleStep_keeps app hopened commit _ true)

theorem applySteps_keeps (commits : List String) (hk : HoldsCursor k cursor) (index : ℕ) :
    discipline.Keeps HoldsEnd anyError k (applySteps app index commits cursor) := by
  induction commits generalizing k cursor index with
  | nil => exact hk
  | cons commit commits ih =>
    unfold applySteps
    refine seq_keeps (applyStep_keeps app hk index commit) fun t ended ht => ?_
    cases ended with
    | paused attempt => exact ht
    | moved cursor => exact ih ht (index + 1)

theorem applyManual_keeps (hk : Holds k attempt) : discipline.Keeps Holds anyError k (applyManual attempt) := by
  unfold applyManual
  split
  · exact quiet_seq (assertIntegrationCandidate_quiet _ _) (fun _ => trivial) fun _ => hk
  split_ifs with hmanual
  · refine ofExcept_seq (fun _ => trivial) fun pending hpending => ?_
    obtain ⟨-, rfl⟩ := decision_ok hpending
    refine seq_keeps (lax (save_keeps hk.1 ⟨rfl, rfl, rfl, fun h => ?_⟩ (.progresses hk.2 rfl)))
      fun t _ ht => ?_
    · rw [hmanual] at h
      cases h
    · rw [ht]
      exact ⟨rfl, rfl⟩
  · refine quiet_seq assertClean_quiet (fun _ => trivial) fun _ => ?_
    refine quiet_seq (issue_quiet trivial) (fun _ => trivial) fun head => ?_
    refine Keeps.mono (fun t next ht => ht.2) (fun _ _ _ => trivial)
      (progress_keeps hk (.of_fields rfl rfl rfl rfl rfl) rfl)

theorem firstProgress_keeps (hk : Holds k attempt) (active : Option OperationKind) :
    discipline.Keeps HoldsCursor anyError k (firstProgress app attempt active) := by
  unfold firstProgress
  refine quiet_seq (issue_quiet trivial) (fun _ => trivial) fun head => ?_
  refine require_seq (fun _ => trivial) fun _ => require_seq (fun _ => trivial) fun _ => ?_
  refine quiet_seq (assertIntegrationCandidate_quiet _ _) (fun _ => trivial) fun _ => ?_
  exact lax (saveProgress_keeps hk _)

theorem applyRest_keeps (commits : List String)
    (hk : HoldsCursor k cursor) : discipline.Keeps Holds anyError k (applyRest app commits cursor) := by
  unfold applyRest
  refine seq_keeps (applySteps_keeps app _ hk _) fun t ended ht => ?_
  cases ended with
  | paused attempt => exact ht
  | moved cursor =>
    refine quiet_seq (assertIntegrationCandidate_quiet _ _) (fun _ => trivial) fun _ => ?_
    exact Keeps.mono (fun t next hnext => hnext.2) (fun _ _ _ => trivial)
      (progress_keeps ht (.of_fields rfl rfl rfl rfl rfl) rfl)

theorem currentProgress_keeps (hk : Holds k attempt) (active : Option OperationKind) :
    discipline.Keeps HoldsCursor anyError k (currentProgress app attempt active) := by
  unfold currentProgress
  split
  · exact hk
  · exact firstProgress_keeps app hk active

theorem applyIntegrationSource_keeps (hk : Holds k attempt) (worktree : Worktree) (continuing : Bool) :
    discipline.Keeps Holds anyError k (applyIntegrationSource attempt worktree continuing) := by
  unfold applyIntegrationSource
  split_ifs
  · exact applyManual_keeps hk
  refine quiet_seq (sourceCommits_quiet _) (fun _ => trivial) fun commits => ?_
  refine quiet_seq (issue_quiet trivial) (fun _ => trivial) fun active => ?_
  refine seq_keeps (currentProgress_keeps _ hk active) fun t cursor hcursor => ?_
  refine require_seq (fun _ => trivial) fun _ => ?_
  split
  · refine require_seq (fun _ => trivial) fun _ => ?_
    exact quiet_seq (assertIntegrationCandidate_quiet _ _) (fun _ => trivial) fun _ => hcursor
  · exact applyRest_keeps _ commits hcursor

end GitIntegration
