import Yui.JobSupervisorProtocol

/-!
# The passes keep to the start protocol

Every pass writes only to the run it is about. The parts that harvest, supervise or end a run need
no permission at all; the start of a run and the decision on a queued one carry the permission from
the list, the attempt and the evidence they read.
-/

open Program Protocol

/-- The commands that write to the record or the marker of no other run. -/
def JobCommand.Own [JobHost] (key : JobKey) : JobCommand → Prop
  | .transition k _ _ => k = key
  | .writeStartMarker k _ => k = key
  | _ => True

/-- The commands of a run that need no permission. -/
def JobCommand.Routine [JobHost] (key : JobKey) : JobCommand → Prop
  | .transition k move _ => k = key ∧ ∀ t, move.permitted t key
  | .writeStartMarker _ _ | .spawnJobRunner _ => False
  | _ => True

/-- The transitions that neither begin a run nor record what its runner has left. -/
def JobTransition.closes [JobHost] : JobTransition → Prop
  | .adopt _ | .attempt | .cancel | .receipt _ => False
  | _ => True

/-- The commands by which a run is watched and ended. -/
def JobCommand.Closing [JobHost] (key : JobKey) : JobCommand → Prop
  | .transition k move _ => k = key ∧ move.closes
  | .writeStartMarker _ _ | .spawnJobRunner _ => False
  | _ => True

/-- The pass still knows of every other run what it knew. -/
def Spares (key : JobKey) (t t' : Token) : Prop := ∀ k ∈ t.fresh, k ≠ key → k ∈ t'.fresh

theorem Spares.refl (key : JobKey) (t : Token) : Spares key t t := fun _ hk _ => hk

theorem Spares.of_eq {key : JobKey} {t t' t'' : Token} (h : Spares key t t')
    (hfresh : t''.fresh = t'.fresh) : Spares key t t'' := fun k hk hne => hfresh ▸ h k hk hne

theorem Token.marked_fresh (t : Token) (key : JobKey) (marker : DurableJobStartMarker) :
    (t.marked key marker).fresh = t.fresh := by
  unfold Token.marked
  split_ifs <;> rfl

variable [JobHost]

theorem JobCommand.Routine.own {key : JobKey} {c : JobCommand} (h : c.Routine key) : c.Own key := by
  cases c with
  | transition k transition now => exact h.1
  | writeStartMarker k marker => exact h.elim
  | _ => trivial

theorem JobCommand.Closing.routine {key : JobKey} {c : JobCommand} (h : c.Closing key) : c.Routine key := by
  cases c with
  | transition k move now =>
    refine ⟨h.1, fun t => ?_⟩
    have hcloses := h.2
    cases move <;> trivial
  | writeStartMarker k marker => exact h.elim
  | spawnJobRunner k => exact h.elim
  | _ => trivial

theorem routine_of_closing {α : Type} {key : JobKey} {p : Pass α}
    (hp : p.Issues (JobCommand.Closing key)) : p.Issues (JobCommand.Routine key) :=
  Issues.mono (fun _ => JobCommand.Closing.routine) hp

section Closing

variable {key : JobKey}

theorem deliverTerminalEvent_closing (job : Option JobRun) :
    (deliverTerminalEvent job).Issues (JobCommand.Closing key) := by
  unfold deliverTerminalEvent
  split
  · trivial
  · split_ifs
    · exact .issue trivial
    · trivial

variable (job : JobRun)

theorem readReceipt_closing (result : DurableJobResult) :
    (readReceipt job result).Issues (JobCommand.Closing key) := by
  unfold readReceipt
  split
  · trivial
  · split_ifs
    · trivial
    · trivial
    · exact .issue trivial

theorem isLive_closing (process : DurableJobProcess) : (isLive process).Issues (JobCommand.Closing key) := by
  refine .bind (.issue trivial) fun identity => ?_
  split_ifs
  · exact .issue trivial
  · trivial

/-- What follows the receipt of an exit. -/
theorem harvested_closing (exit : DurableJobExit) (now : JsDate) :
    Program.Issues (JobCommand.Closing job.key) (do
      let receipt ← readReceipt job (exitResult exit)
      let terminal ← ask (.transition job.key
        (.harvest (exitResult exit) (businessResult receipt job (exitResult exit))) now)
      deliverTerminalEvent terminal
      ask (.clearSigkill job.key)) := by
  refine .bind (readReceipt_closing job _) fun receipt => ?_
  refine .bind (.issue ⟨rfl, trivial⟩) fun terminal => ?_
  refine .bind (deliverTerminalEvent_closing terminal) fun _ => ?_
  exact .issue trivial

theorem deadTransition_closes (checkpoint : Option DurableJobCheckpoint) :
    (deadTransition job checkpoint).closes := by
  unfold deadTransition
  split
  · trivial
  · trivial

theorem handleDeadProcess_closing (now : JsDate) :
    (handleDeadProcess job now).Issues (JobCommand.Closing job.key) := by
  refine .bind (.issue trivial) fun checkpoint => ?_
  refine .bind (.issue ⟨rfl, deadTransition_closes job checkpoint⟩) fun terminal => ?_
  exact .bind (deliverTerminalEvent_closing terminal) fun _ => .issue trivial

theorem rejectStart_closing (failure : Failure) (now : JsDate) :
    (rejectStart job failure now).Issues (JobCommand.Closing job.key) := by
  unfold rejectStart
  split_ifs
  · trivial
  · refine .bind (.issue ⟨rfl, trivial⟩) fun terminal => ?_
    exact deliverTerminalEvent_closing terminal

theorem fenceCancelled_closing (process : Option DurableJobProcess) :
    (fenceCancelled job process).Issues (JobCommand.Closing key) := by
  unfold fenceCancelled
  split_ifs
  · refine .bind (.issue trivial) fun _ => ?_
    split
    · exact .issue trivial
    · trivial
  · trivial

theorem signalStale_closing (mtime now : JsDate) :
    (signalStale job mtime now).Issues (JobCommand.Closing key) := by
  unfold signalStale
  split
  · trivial
  · split_ifs
    · refine .bind (.issue trivial) fun _ => ?_
      refine .bind (.issue trivial) fun deadline => ?_
      split
      · exact .issue trivial
      · trivial
    · trivial

theorem watchHeartbeat_closing (now : JsDate) :
    (watchHeartbeat job now).Issues (JobCommand.Closing job.key) := by
  refine .bind (.issue trivial) fun mtime => ?_
  split
  · trivial
  · refine .bind (signalStale_closing job _ now) fun _ => ?_
    unfold recordHeartbeat
    split_ifs
    · exact .bind (.issue ⟨rfl, trivial⟩) fun _ => trivial
    · trivial

theorem escalate_closing (now : JsDate) : (escalate job now).Issues (JobCommand.Closing job.key) := by
  refine .bind (.issue trivial) fun deadline => ?_
  split
  · split_ifs
    · exact .bind (.issue trivial) fun _ => .issue trivial
    · trivial
  · trivial

end Closing

section Routine

variable {key : JobKey}

theorem deliverTerminalEvent_routine (job : Option JobRun) :
    (deliverTerminalEvent job).Issues (JobCommand.Routine key) :=
  routine_of_closing (deliverTerminalEvent_closing job)

theorem isLive_routine (process : DurableJobProcess) :
    (isLive process).Issues (JobCommand.Routine key) := routine_of_closing (isLive_closing process)

theorem handleDeadProcess_routine (job : JobRun) (now : JsDate) :
    (handleDeadProcess job now).Issues (JobCommand.Routine job.key) :=
  routine_of_closing (handleDeadProcess_closing job now)

theorem rejectStart_routine (job : JobRun) (failure : Failure) (now : JsDate) :
    (rejectStart job failure now).Issues (JobCommand.Routine job.key) :=
  routine_of_closing (rejectStart_closing job failure now)

theorem fenceCancelled_routine (job : JobRun) (process : Option DurableJobProcess) :
    (fenceCancelled job process).Issues (JobCommand.Routine key) :=
  routine_of_closing (fenceCancelled_closing job process)

theorem harvestExit_routine (job : JobRun) (exit : DurableJobExit) (now : JsDate) :
    (harvestExit job exit now).Issues (JobCommand.Routine job.key) :=
  Issues.bind (.issue ⟨rfl, fun _ => trivial⟩) fun _ =>
    routine_of_closing (harvested_closing job exit now)

theorem watch_closing (job : JobRun) (now : JsDate) :
    Program.Issues (JobCommand.Closing job.key) (match job.process with
      | none => do
        watchHeartbeat job now
        escalate job now
      | some process => do
        fenceCancelled job (some process)
        let live ← isLive process
        if live then do
          watchHeartbeat job now
          escalate job now
        else handleDeadProcess job now) := by
  split
  · exact .bind (watchHeartbeat_closing job now) fun _ => escalate_closing job now
  · refine .bind (fenceCancelled_closing job _) fun _ => ?_
    refine .bind (isLive_closing _) fun live => ?_
    split_ifs
    · exact .bind (watchHeartbeat_closing job now) fun _ => escalate_closing job now
    · exact handleDeadProcess_closing job now

theorem superviseRunning_routine (job : JobRun) (now : JsDate) :
    (superviseRunning job now).Issues (JobCommand.Routine job.key) := by
  refine .bind (.issue trivial) fun exit => ?_
  split
  · exact harvestExit_routine job _ now
  · exact routine_of_closing (watch_closing job now)

end Routine

section Own

theorem attemptOf_issues {α : Type} {S : JobCommand → Prop} {p : Pass α} (h : p.Issues S) : (attemptOf p).Issues S :=
  Issues.handle (.bind h fun _ => trivial) fun _ => trivial

theorem spawnedProcessFromEvidence_routine {key : JobKey} (job : JobRun) (marker : Option DurableJobStartMarker) :
    (spawnedProcessFromEvidence job marker).Issues (JobCommand.Routine key) :=
  Issues.bind (.issue trivial) fun _ => trivial

theorem adoptAndContinue_own (job : JobRun) (process : DurableJobProcess) (now : JsDate) :
    (adoptAndContinue job process now).Issues (JobCommand.Own job.key) := by
  refine .bind (.issue rfl) fun _ => ?_
  refine .bind (.issue trivial) fun exit => ?_
  apply Issues.mono fun c => JobCommand.Routine.own
  split
  · exact harvestExit_routine job _ now
  · refine .bind (isLive_routine process) fun live => ?_
    split_ifs
    · trivial
    · exact handleDeadProcess_routine job now

theorem startJob_own (job : JobRun) (now : JsDate) : (startJob job now).Issues (JobCommand.Own job.key) := by
  have hreject : ∀ failure, (rejectStart job failure now).Issues (JobCommand.Own job.key) :=
    fun failure => .mono (fun c => JobCommand.Routine.own) (rejectStart_routine job failure now)
  unfold startJob
  split_ifs
  · trivial
  · refine .bind (attemptOf_issues (.issue trivial)) fun authorized => ?_
    split
    · exact hreject _
    · refine .bind (.issue trivial) fun artifactDir => ?_
      refine .bind (.issue trivial) fun _ => ?_
      refine .bind (attemptOf_issues (.issue rfl)) fun attempted => ?_
      split
      · exact hreject _
      · trivial
      · refine .bind (.issue rfl) fun _ => ?_
        refine .bind (.issue trivial) fun spawned => ?_
        exact .bind (.issue rfl) fun _ => .issue trivial

theorem reconcileQueued_own (job : JobRun) (now : JsDate) :
    (reconcileQueued job now).Issues (JobCommand.Own job.key) := by
  have hdeliver : ∀ terminal, (deliverTerminalEvent terminal).Issues (JobCommand.Own job.key) :=
    fun terminal => .mono (fun c => JobCommand.Routine.own)
      (deliverTerminalEvent_routine terminal)
  refine .bind (.issue trivial) fun marker => ?_
  refine .bind (.mono (fun c => JobCommand.Routine.own)
    (spawnedProcessFromEvidence_routine job marker)) fun spawned => ?_
  refine .bind (.mono (fun c => JobCommand.Routine.own) (fenceCancelled_routine job spawned)) fun _ => ?_
  split
  · exact adoptAndContinue_own job _ now
  · split_ifs
    · exact .bind (.issue rfl) hdeliver
    · exact .bind (.issue rfl) hdeliver
    · trivial
    · exact startJob_own job now

theorem reconcileJob_own (job : JobRun) (now : JsDate) : (reconcileJob job now).Issues (JobCommand.Own job.key) := by
  unfold reconcileJob
  split_ifs
  · exact .issue trivial
  · split
    · exact reconcileQueued_own job now
    · exact .mono (fun c => JobCommand.Routine.own) (superviseRunning_routine job now)
    · trivial

theorem reconcileTurn_own (job : JobRun) (now : JsDate) :
    (reconcileTurn job now).Issues (JobCommand.Own job.key) := by
  refine .bind ?_ fun room => ?_
  · unfold hasRoom
    split_ifs
    · exact .bind (.issue trivial) fun _ => trivial
    · trivial
  · split_ifs
    · exact .bind (reconcileJob_own job now) fun _ => trivial
    · trivial

end Own

section Keeps

abbrev Sparing {α : Type} (key : JobKey) (t t' : Token) (p : Pass α) : Prop :=
  startProtocol.Keeps (fun t' _ => Spares key t t') (fun t' _ => Spares key t t') t' p

variable {t t' : Token}

theorem spares_transitioned {key : JobKey} (h : Spares key t t')
    (transition : JobTransition) (answer : Except Failure (Option JobRun)) :
    Spares key t (t'.transitioned key transition answer) := by
  have hfresh : (t'.transitioned key transition answer).fresh = t'.fresh \ {key} := by
    unfold Token.transitioned
    split <;> rfl
  intro k hk hne
  rw [hfresh]
  exact ⟨h k hk hne, hne⟩

theorem routine_spares {key : JobKey} {c : JobCommand} (hc : c.Routine key) (ht : Spares key t t') :
    startProtocol.permits t' c ∧ ∀ answer, Spares key t (startProtocol.after t' c answer) := by
  cases c with
  | transition k transition now =>
    obtain ⟨rfl, hpermitted⟩ := hc
    exact ⟨hpermitted t', fun answer => spares_transitioned ht transition answer⟩
  | writeStartMarker k marker => exact hc.elim
  | spawnJobRunner k => exact hc.elim
  | listActive =>
    refine ⟨trivial, fun answer => ?_⟩
    cases answer with
    | error failure => exact ht
    | ok jobs => exact fun k hk hne => .inl (ht k hk hne)
  | readStartMarker k =>
    refine ⟨trivial, fun answer => ?_⟩
    cases answer with
    | error failure => exact ht
    | ok marker =>
      cases marker with
      | none => exact ht
      | some marker => exact ht.of_eq (Token.marked_fresh t' k marker)
  | readReadyFile k =>
    refine ⟨trivial, fun answer => ?_⟩
    cases answer with
    | error failure => exact ht
    | ok ready =>
      cases ready with
      | none => exact ht
      | some ready => exact ht
  | _ => exact ⟨trivial, fun answer => ht⟩

theorem sparing_of_routine {α : Type} {key : JobKey} {p : Pass α}
    (hp : p.Issues (JobCommand.Routine key)) (ht : Spares key t t') : Sparing key t t' p :=
  Keeps.of_issues (fun _ _ hc => routine_spares hc) hp ht

theorem attemptOf_keeps {α : Type} {Q : Token → α → Prop} {R : Token → Failure → Prop}
    {S : Token → Failure → Prop} {t : Token} {p : Pass α} (hp : startProtocol.Keeps Q R t p) :
    startProtocol.Keeps (fun t result => (∀ value, result = .ok value → Q t value) ∧
      ∀ failure, result = .error failure → R t failure) S t (attemptOf p) := by
  refine Keeps.handle (Keeps.bind hp fun t value hvalue => ?_) fun t failure hfailure => ?_
  · refine ⟨fun other h => ?_, fun failure h => ?_⟩
    · cases h
      exact hvalue
    · cases h
  · refine ⟨fun value h => ?_, fun other h => ?_⟩
    · cases h
    · cases h
      exact hfailure

theorem readStartMarker_keeps (key : JobKey) (t : Token) : startProtocol.Keeps
      (fun t' marker => t'.fresh = t.fresh ∧ ∀ m, marker = some m →
        m.startIdentity ≠ pendingIdentity → key ∈ t'.evident)
      (fun t' _ => t'.fresh = t.fresh) t (ask (.readStartMarker key)) := by
  refine Keeps.issue trivial (fun marker _ => ?_) fun failure => rfl
  cases marker with
  | none => exact ⟨rfl, nofun⟩
  | some marker =>
    refine ⟨Token.marked_fresh t key marker, fun m h hreal => ?_⟩
    cases h
    change key ∈ (t.marked key marker).evident
    rw [Token.marked, if_pos hreal]
    exact Set.mem_insert key _

theorem spawnedProcessFromEvidence_keeps (job : JobRun) {marker : Option DurableJobStartMarker}
    {t : Token} (hmarker : ∀ m, marker = some m → m.startIdentity ≠ pendingIdentity → job.key ∈ t.evident) :
    startProtocol.Keeps (fun t' spawned => t'.fresh = t.fresh ∧ (spawned ≠ none → job.key ∈ t'.evident))
      (fun t' _ => t'.fresh = t.fresh) t (spawnedProcessFromEvidence job marker) := by
  have hread : startProtocol.Keeps
      (fun t' ready => t'.fresh = t.fresh ∧ t.evident ⊆ t'.evident ∧
        (ready ≠ none → job.key ∈ t'.evident))
      (fun t' _ => t'.fresh = t.fresh) t (ask (.readReadyFile job.key)) := by
    refine Keeps.issue trivial (fun ready _ => ?_) fun failure => rfl
    cases ready with
    | none => exact ⟨rfl, subset_rfl, fun h => absurd rfl h⟩
    | some ready => exact ⟨rfl, Set.subset_insert _ _, fun _ => Set.mem_insert _ _⟩
  refine Keeps.bind hread fun t' ready hready => ⟨hready.1, fun hspawned => ?_⟩
  unfold spawnedProcess at hspawned
  split at hspawned
  · exact hready.2.2 (by simp)
  · split_ifs at hspawned with hreal
    · exact hready.2.1 (hmarker _ rfl hreal)
    · exact absurd rfl hspawned
  · exact absurd rfl hspawned

variable {job : JobRun}

theorem adoptAndContinue_keeps (process : DurableJobProcess) (now : JsDate)
    (hevident : job.key ∈ t'.evident) (ht : Spares job.key t t') :
    Sparing job.key t t' (adoptAndContinue job process now) := by
  have hadopt : Sparing job.key t t' (ask (.transition job.key (.adopt process) now)) :=
    Keeps.issue hevident (fun answer _ => spares_transitioned ht _ _)
      fun failure => spares_transitioned ht _ _
  refine Keeps.bind hadopt fun t' _ ht => ?_
  apply sparing_of_routine _ ht
  refine .bind (.issue trivial) fun exit => ?_
  split
  · exact harvestExit_routine job _ now
  · refine .bind (isLive_routine process) fun live => ?_
    split_ifs
    · trivial
    · exact handleDeadProcess_routine job now

theorem startJob_keeps (job : JobRun) (now : JsDate) (ht : Spares job.key t t') :
    Sparing job.key t t' (startJob job now) := by
  have hreject : ∀ failure t', Spares job.key t t' →
      Sparing job.key t t' (rejectStart job failure now) :=
    fun failure t' => sparing_of_routine (rejectStart_routine job failure now)
  unfold startJob
  split_ifs
  · exact ht
  · refine Keeps.bind (attemptOf_keeps (sparing_of_routine (.issue trivial) ht))
      fun t' authorized hauthorized => ?_
    split
    · exact hreject _ t' (hauthorized.2 _ rfl)
    · refine Keeps.bind (sparing_of_routine (.issue trivial) (hauthorized.1 _ rfl)) fun t' artifactDir ht => ?_
      refine Keeps.bind (sparing_of_routine (.issue trivial) ht) fun t' _ ht => ?_
      have hattempt : startProtocol.Keeps
          (fun t' attempted => Spares job.key t t' ∧
            (∀ next, attempted = some next → t'.holding = some job.key))
          (fun t' _ => Spares job.key t t') t' (ask (.transition job.key .attempt now)) := by
        refine Keeps.issue trivial (fun answer _ => ?_) fun failure => spares_transitioned ht _ _
        refine ⟨spares_transitioned ht _ _, fun next hnext => ?_⟩
        rw [hnext]
        rfl
      refine Keeps.bind (attemptOf_keeps hattempt) fun t' attempted hattempted => ?_
      split
      · exact hreject _ t' (hattempted.2 _ rfl)
      · exact (hattempted.1 _ rfl).1
      · obtain ⟨ht, hholding⟩ := hattempted.1 _ rfl
        have hmark : startProtocol.Keeps
            (fun t' _ => Spares job.key t t' ∧ t'.holding = some job.key)
            (fun t' _ => Spares job.key t t') t'
            (ask (.writeStartMarker job.key ⟨0, pendingIdentity, now.iso⟩)) :=
          Keeps.issue trivial (fun _ _ => ⟨ht, hholding _ rfl⟩) fun _ => ht
        refine Keeps.bind hmark fun t' _ hmarked => ?_
        have hspawn : Sparing job.key t t' (ask (.spawnJobRunner job.key)) :=
          Keeps.issue hmarked.2 (fun _ _ => hmarked.1) fun _ => hmarked.1
        refine Keeps.bind hspawn fun t' spawned ht => ?_
        have hremark : Sparing job.key t t' (ask (.writeStartMarker job.key
            ⟨spawned.1, spawned.2.getD (JobHost.numberText spawned.1), now.iso⟩)) :=
          Keeps.issue trivial (fun _ _ => ht) fun _ => ht
        refine Keeps.bind hremark fun t' _ ht => ?_
        exact sparing_of_routine (.issue trivial) ht

/-- The commands that teach nothing and need no permission. -/
def JobCommand.Silent (c : JobCommand) : Prop :=
  ∀ t, startProtocol.permits t c ∧ ∀ answer, startProtocol.after t c answer = t

theorem fenceCancelled_silent (job : JobRun) (process : Option DurableJobProcess) :
    (fenceCancelled job process).Issues JobCommand.Silent := by
  unfold fenceCancelled
  split_ifs
  · refine .bind (.issue fun t => ⟨trivial, fun _ => rfl⟩) fun _ => ?_
    split
    · exact .issue fun t => ⟨trivial, fun _ => rfl⟩
    · trivial
  · trivial

theorem keeps_of_silent {α : Type} {p : Pass α} (hp : p.Issues JobCommand.Silent) (t : Token) :
    startProtocol.Keeps (fun t' _ => t' = t) (fun t' _ => t' = t) t p := by
  refine Keeps.of_issues (fun t' c hc ht => ⟨(hc t').1, fun answer => ?_⟩) hp rfl
  rw [(hc t').2 answer, ht]

theorem reconcileQueued_keeps (now : JsDate)
    (hprocess : job.delegation = none) (hfresh : Unattempted job → job.key ∈ t'.fresh)
    (ht : Spares job.key t t') : Sparing job.key t t' (reconcileQueued job now) := by
  have hspares : ∀ {t''}, t''.fresh = t'.fresh → Spares job.key t t'' := fun h => ht.of_eq h
  have hmarker := (readStartMarker_keeps job.key t').mono (fun _ _ h => h) fun _ _ => hspares
  refine Keeps.bind hmarker fun t1 marker h1 => ?_
  have hspawned := (spawnedProcessFromEvidence_keeps job h1.2).mono (fun _ _ h => h)
    fun _ _ h => hspares (h.trans h1.1)
  refine Keeps.bind hspawned fun t2 spawned h2 => ?_
  have hsame : t2.fresh = t'.fresh := h2.1.trans h1.1
  have hfence := (keeps_of_silent (fenceCancelled_silent job spawned) t2).mono (fun _ _ h => h)
    fun _ _ h => hspares (h ▸ hsame)
  refine Keeps.bind hfence fun t3 _ h3 => ?_
  subst h3
  have hdeliver : ∀ t4 terminal, Spares job.key t t4 →
      Sparing job.key t t4 (deliverTerminalEvent terminal) :=
    fun t4 terminal => sparing_of_routine (deliverTerminalEvent_routine terminal)
  split
  · exact adoptAndContinue_keeps _ now (h2.2 (by simp)) (hspares hsame)
  · split_ifs with heffect hcancel hnone
    · exact Keeps.bind (sparing_of_routine (.issue ⟨rfl, fun _ => trivial⟩) (hspares hsame)) hdeliver
    · have hpermitted : job.key ∈ t3.fresh := by
        rw [hsame]
        exact hfresh ⟨not_not.1 heffect, hprocess⟩
      have hcancelled : Sparing job.key t t3 (ask (.transition job.key .cancel now)) :=
        Keeps.issue hpermitted (fun _ _ => spares_transitioned (hspares hsame) _ _)
          fun _ => spares_transitioned (hspares hsame) _ _
      exact Keeps.bind hcancelled hdeliver
    · exact hspares hsame
    · exact startJob_keeps job now (hspares hsame)

theorem reconcileJob_keeps (now : JsDate) (hfresh : Unattempted job → job.key ∈ t'.fresh) (ht : Spares job.key t t') :
    Sparing job.key t t' (reconcileJob job now) := by
  unfold reconcileJob
  split_ifs with hdelegation
  · exact sparing_of_routine (.issue trivial) ht
  · split
    · exact reconcileQueued_keeps now (not_not.1 hdelegation) hfresh ht
    · exact sparing_of_routine (superviseRunning_routine job now) ht
    · exact ht

theorem hasRoom_keeps (job : JobRun) (t : Token) :
    startProtocol.Keeps (fun t' _ => t.fresh ⊆ t'.fresh) (fun t' _ => t.fresh ⊆ t'.fresh) t (hasRoom job) := by
  have hissues : (hasRoom job).Issues fun c => c = .listActive := by
    unfold hasRoom
    split_ifs
    · exact .bind (.issue rfl) fun _ => trivial
    · trivial
  refine Keeps.of_issues (fun t' c hc ht => ?_) hissues subset_rfl
  subst hc
  refine ⟨trivial, fun answer => ?_⟩
  cases answer with
  | error failure => exact ht
  | ok jobs => exact ht.trans Set.subset_union_left

theorem reconcileTurn_keeps (now : JsDate) {t : Token} (hfresh : Unattempted job → job.key ∈ t.fresh) :
    Sparing job.key t t (reconcileTurn job now) := by
  have hsubset : ∀ {t'}, t.fresh ⊆ t'.fresh → Spares job.key t t' := fun h k hk _ => h hk
  have hroom := (hasRoom_keeps job t).mono (fun _ _ h => h) fun _ _ => hsubset
  refine Keeps.bind hroom fun t' room hroom => ?_
  split_ifs
  · exact Keeps.bind (reconcileJob_keeps now (fun h => hroom (hfresh h)) (hsubset hroom)) fun _ _ h => h
  · exact hsubset hroom

theorem reconcileAll_keeps (now : JsDate) {jobs : List JobRun} {t : Token} (hkeys : (jobs.map JobRun.key).Nodup)
    (hfresh : ∀ job ∈ jobs, Unattempted job → job.key ∈ t.fresh) :
    startProtocol.Keeps (fun _ _ => True) (fun _ _ => True) t (reconcileAll now jobs) := by
  induction jobs generalizing t with
  | nil => trivial
  | cons job jobs ih =>
    rw [List.map_cons, List.nodup_cons] at hkeys
    have hturn := reconcileTurn_keeps now (hfresh job (by simp))
    have hguarded : startProtocol.Keeps (fun t' _ => Spares job.key t t') (fun _ _ => True) t
        ((reconcileTurn job now).handle fun failure => do
          ask (.report job.key failure)
          pure true) := by
      refine Keeps.handle hturn fun t' failure ht => ?_
      have hreport : Sparing job.key t t' (ask (.report job.key failure)) :=
        sparing_of_routine (.issue trivial) ht
      exact Keeps.bind (hreport.mono (fun _ _ h => h) fun _ _ _ => trivial) fun _ _ h => h
    refine Keeps.bind hguarded fun t' go ht => ?_
    split_ifs
    · refine ih hkeys.2 fun other hother hun => ?_
      apply ht _ (hfresh other (by simp [hother]) hun)
      intro heq
      exact hkeys.1 (List.mem_map.2 ⟨other, hother, heq⟩)
    · trivial

theorem reconcile_keeps (now : JsDate) (t : Token) :
    startProtocol.Keeps (fun _ _ => True) (fun _ _ => True) t (reconcile now) := by
  have hlist : startProtocol.Keeps
      (fun t' jobs => (jobs.map JobRun.key).Nodup ∧
        ∀ job ∈ jobs, Unattempted job → job.key ∈ t'.fresh)
      (fun _ _ => True) t (ask .listActive) := by
    refine Keeps.issue trivial (fun jobs hjobs => ⟨hjobs, fun job hjob hun => ?_⟩) fun _ => trivial
    exact .inr ⟨job, hjob, rfl, hun⟩
  refine Keeps.bind hlist fun t' jobs hjobs => ?_
  have hperm : (jobs.filter (fun job => !isWaiting job) ++ jobs.filter isWaiting).Perm jobs :=
    List.perm_append_comm.trans (List.filter_append_perm isWaiting jobs)
  apply reconcileAll_keeps
  · exact ((hperm.map JobRun.key).nodup_iff).2 hjobs.1
  · exact fun job hjob => hjobs.2 job (hperm.subset hjob)

theorem confirmResult_keeps (key : JobKey) (now : JsDate) (t : Token) :
    startProtocol.Keeps (fun _ _ => True) (fun _ _ => True) t (confirmResult key now) := by
  have hroutine : ∀ {α : Type} {k : JobKey} {p : Pass α} {t : Token},
      p.Issues (JobCommand.Routine k) →
      startProtocol.Keeps (fun _ _ => True) (fun _ _ => True) t p := fun {α k p t} hp =>
    (sparing_of_routine hp (Spares.refl k t)).mono (fun _ _ _ => trivial) fun _ _ _ => trivial
  refine Keeps.bind (hroutine (k := key) (.issue trivial)) fun t jobs _ => ?_
  split
  · trivial
  · next job hfind =>
      have hkey : job.key = key := by simpa using List.find?_some hfind
      split_ifs with hdelegation hqueued
      · exact hroutine (k := key) (.issue trivial)
      · refine Keeps.bind ((readStartMarker_keeps key t).mono (fun _ _ h => h)
          fun _ _ _ => trivial) fun t1 marker h1 => ?_
        rw [← hkey] at h1
        refine Keeps.bind ((spawnedProcessFromEvidence_keeps job h1.2).mono (fun _ _ h => h)
          fun _ _ _ => trivial) fun t2 spawned h2 => ?_
        split
        · exact (adoptAndContinue_keeps _ now (h2.2 (by simp)) (Spares.refl _ t2)).mono
            (fun _ _ _ => trivial) fun _ _ _ => trivial
        · trivial
      · refine hroutine (k := job.key) (.bind (.issue trivial) fun exit => ?_)
        split
        · exact harvestExit_routine job _ now
        · split
          · trivial
          · refine .bind (isLive_routine _) fun live => ?_
            split_ifs
            · trivial
            · exact handleDeadProcess_routine job now

theorem isPass_keeps {p : Pass Unit} (hp : IsPass p) :
    startProtocol.Keeps (fun _ _ => True) (fun _ _ => True) Token.idle p := by
  rcases hp with ⟨now, rfl⟩ | ⟨key, now, rfl⟩
  · exact reconcile_keeps now _
  · exact confirmResult_keeps key now _

end Keeps
