import Yui.JobSupervisorInvariant

/-!
# At most one runner for each run

Whatever the interleaving of passes, crashes, failures and changes by others, a runner is spawned at
most once for each run and only after the attempt was committed. Once a pass finds the effect of a
run raised, no later pass spawns. An attempted run without evidence of a runner stays queued or becomes
unknown, and the next pass whose clock is not behind makes it unknown.
-/

open Checked Relation Program

theorem idle_released (key : JobKey) : Token.idle.holding ≠ some key := nofun

section

variable [JobHost]

theorem Reached.guarded {config : World × Option (Pass Unit)} (h : Reached config) :
    Machine.Guarded startProtocol Token.idle StartInv config := by
  obtain ⟨w, hjobs, hlog, hsteps⟩ := h
  induction hsteps with
  | refl =>
    have hlookup : ∀ key, w.lookup key = none := fun key => by simp [World.lookup, hjobs]
    refine ⟨?_, ?_, fun key => ?_, ?_, fun key hkey => ?_, fun key hkey => ?_, fun key hkey => ?_,
      fun key hkey => ?_⟩
    · simp [World.Keyed, hjobs]
    · simp [hjobs]
    · simp [hlog]
    · intro before key after heq
      simp [hlog] at heq
    · simp [hlog] at hkey
    · cases hkey
    · exact hkey.elim
    · exact hkey.elim
  | tail _ hstep ih => exact startInv_sound.step ih hstep

theorem Machine.Guarded.world {config : World × Option (Pass Unit)}
    (h : Machine.Guarded startProtocol Token.idle StartInv config) : ∃ t, StartInv config.1 t := by
  obtain ⟨w, program⟩ := config
  cases program with
  | none => exact ⟨Token.idle, h⟩
  | some p =>
    obtain ⟨t, hinv, _⟩ := h
    exact ⟨t, hinv⟩

section Settled

/-- An attempted run that the pass under way does not hold. -/
structure Settled (key : JobKey) (n : ℕ) (w : World) (t : Token) : Prop where
  inv : StartInv w t
  released : t.holding ≠ some key
  attempted : w.Attempted key
  spawns : w.log.count (.spawned key) = n

variable {key : JobKey} {t : Token}

theorem released_failed (h : t.holding ≠ some key) (c : JobCommand)
    (failure : Failure) : (startProtocol.after t c (.error failure)).holding ≠ some key := by
  cases c with
  | transition k transition now =>
    change (t.transitioned k transition (.error failure)).holding ≠ some key
    rw [Token.transitioned_error]
    exact h
  | spawnJobRunner k => exact nofun
  | _ => exact h

theorem released_performed {w : World} (h : t.holding ≠ some key) (hattempted : w.Attempted key) (c : JobCommand) :
    (startProtocol.after t c (w.perform c).1).holding ≠ some key := by
  have hfailed := released_failed h c ⟨"", ""⟩
  cases c with
  | listActive => exact h
  | transition k transition now =>
    change (t.transitioned k transition (transitionDurableJob w k transition now).1).holding ≠ some key
    change (t.transitioned k transition (.error ⟨"", ""⟩)).holding ≠ some key at hfailed
    rw [Token.transitioned_error] at hfailed
    rcases transitionDurableJob_cases w k transition now with ⟨_, hnone⟩ | ⟨current, next, hc⟩
    · rw [t.transitioned_of_none k transition hnone]
      exact hfailed
    · obtain ⟨hcommits, happly, heq⟩ := hc
      rw [heq]
      cases transition with
      | attempt =>
        intro hkey
        have hkey : k = key := Option.some.inj hkey
        obtain ⟨job, hjob, heffect⟩ := hattempted
        rw [← hkey, hcommits.lookup, Option.some.injEq] at hjob
        exact heffect (hjob ▸ (attempt_ok happly).2.1)
      | _ => exact hfailed
  | readStartMarker k =>
    change (t.after (.readStartMarker k) (.ok (w.startMarkers k))).holding ≠ some key
    cases w.startMarkers k with
    | none => exact h
    | some marker =>
      change (t.marked k marker).holding ≠ some key
      unfold Token.marked
      split_ifs <;> exact h
  | readReadyFile k =>
    change (t.after (.readReadyFile k) (.ok (w.readyFiles k))).holding ≠ some key
    cases w.readyFiles k with
    | none => exact h
    | some ready => exact h
  | _ => exact hfailed

theorem Moves.settled {w w' : World} {c : JobCommand}
    (h : Moves w c w') (hpermits : startProtocol.permits t c) (hreleased : t.holding ≠ some key)
    (hattempted : w.Attempted key) : w'.Attempted key ∧ w'.log.count (.spawned key) = w.log.count (.spawned key) := by
  cases h with
  | quiet c w' hjobs hready hmarkers hlog =>
    obtain ⟨events, hlog, hquiet⟩ := hlog
    refine ⟨?_, by rw [hlog, count_quiet (hquiet key)]⟩
    unfold World.Attempted World.lookup
    rw [hjobs]
    exact hattempted
  | marks k marker => exact ⟨hattempted, rfl⟩
  | commits k transition now current next hcommits happly =>
    exact ⟨hcommits.attempted hattempted, count_quiet (transitionEvents_quiet _ _ _ key)⟩
  | spawns k =>
    refine ⟨hattempted, count_quiet ?_⟩
    rw [List.mem_singleton, JobEvent.spawned.injEq]
    rintro rfl
    exact hreleased hpermits

theorem attempted_changed {w w' : World} (h : Changes w w') (hattempted : w.Attempted key) :
    w'.Attempted key ∧ w'.log.count (.spawned key) = w.log.count (.spawned key) := by
  cases h with
  | rewrite k current next hlookup hsave hstatus hoperation =>
    exact ⟨(Commits.of_save hlookup hsave).attempted hattempted, rfl⟩
  | delegated k current next hlookup hsave hdelegation =>
    exact ⟨(Commits.of_save hlookup hsave).attempted hattempted, rfl⟩
  | create job hnew hvalid hstart =>
    obtain ⟨other, hother, heffect⟩ := hattempted
    refine ⟨⟨other, ?_, heffect⟩, rfl⟩
    rw [World.lookup_append, hother]
    rfl
  | _ => exact ⟨hattempted, rfl⟩

theorem settled_sound (key : JobKey) (n : ℕ) :
    Machine.Sound supervisor IsPass startProtocol Token.idle (Settled key n) where
  pass := startInv_sound.pass
  answer w t c answer w' h := startInv_sound.answer w t c answer w' h.inv
  perform w t c answer w' h hpermits hperforms := by
    obtain ⟨hattempted, hcount⟩ := (Performs.moves hperforms).settled hpermits h.released h.attempted
    refine ⟨startInv_sound.perform w t c answer w' h.inv hpermits hperforms, ?_, hattempted, hcount.trans h.spawns⟩
    cases hperforms with
    | done => exact released_performed h.released h.attempted c
    | failed failure => exact released_failed h.released c failure
    | lost failure => exact released_failed h.released c failure
  change w t w' h hchange := by
    obtain ⟨hattempted, hcount⟩ := attempted_changed hchange h.attempted
    exact ⟨h.inv.changed hchange, h.released, hattempted, hcount.trans h.spawns⟩
  rest w t _ h := ⟨h.inv.rest, idle_released key, h.attempted, h.spawns⟩
  forget w t hcrash h := ⟨startInv_sound.forget w t hcrash h.inv, idle_released key, h.attempted,
    h.spawns⟩

theorem spawns_settled {w : World} {config : World × Option (Pass Unit)}
    (hinv : StartInv w Token.idle) (hattempted : w.Attempted key)
    (hsteps : ReflTransGen SupervisorStep (w, none) config) :
    config.1.log.count (.spawned key) = w.log.count (.spawned key) := by
  have hguarded : Machine.Guarded startProtocol Token.idle
      (Settled key (w.log.count (.spawned key))) config := by
    induction hsteps with
    | refl => exact ⟨hinv, idle_released key, hattempted, rfl⟩
    | tail _ hstep ih => exact (settled_sound key _).step ih hstep
  obtain ⟨w', program⟩ := config
  cases program with
  | none => exact hguarded.spawns
  | some p =>
    obtain ⟨t, hsettled, _⟩ := hguarded
    exact hsettled.spawns

end Settled

section Stalled

/-- A run whose start was attempted and that nothing else has happened to than losing it. -/
def World.Stalled (w : World) (key : JobKey) : Prop :=
  ∃ job, w.lookup key = some job ∧ job.delegation = none ∧
    (job.status = .queued ∧ job.operation.effect ≠ .none ∨ job.status = .unknownNeedsAttention)

variable {now : JsDate}

theorem notified_ok {job : Except String JobRun} {next : JobRun} (h : orThrow (notified job now) = .ok next) :
    ∃ ended, job = .ok ended ∧ next.status = ended.status := by
  obtain ⟨ended, hended, hnotified⟩ := bind_ok (orThrow_ok h)
  refine ⟨ended, hended, ?_⟩
  obtain ⟨_, _, rfl | rfl⟩ := markWakeupNotified_ok hnotified
  · rfl
  · rfl

theorem running_of_complete {job after : JobRun} {result : DurableJobResult} {business : Option JobBusinessResult}
    (h : completeDurableJob job result now business = .ok after) : job.status = .running := by
  unfold completeDurableJob at h
  obtain ⟨_, _, _, hstatus, _⟩ := bind_ok₂ h
  exact not_not.1 (refuse_ok hstatus)

theorem unknown_of_markUnknown {job after : JobRun} {reason : String} {completedSteps : List DurableJobStepResult}
    (h : markDurableJobUnknown job reason completedSteps now = .ok after) :
    after.status = .unknownNeedsAttention := by
  unfold markDurableJobUnknown at h
  iterate 4 obtain ⟨_, _, h⟩ := bind_ok h
  obtain ⟨rfl, _⟩ := validateDurableJob_ok h
  rfl

variable {key : JobKey}

theorem stalled_transition {w : World} {t : Token} {transition : JobTransition}
    {current next : JobRun} (hinv : StartInv w t)
    (hpermitted : transition.permitted t key) (hevident : ¬ w.Evident key)
    (hcommits : Commits w key current next) (happly : transition.apply w now current = .ok next)
    (hqueued : current.status = .queued) (heffect : current.operation.effect ≠ .none) :
    next.status = .queued ∨ next.status = .unknownNeedsAttention := by
  have hrunning : current.status ≠ .running := by
    rw [hqueued]
    decide
  cases transition with
  | adopt process => exact absurd (hinv.evident key hpermitted) hevident
  | attempt => exact absurd (attempt_ok happly).2.1 heffect
  | reject message =>
    obtain ⟨ended, hended, _⟩ := notified_ok happly
    obtain ⟨_, _, _, hstate, _⟩ := bind_ok₂ hended
    exact absurd (.inr heffect) (refuse_ok hstate)
  | cancel =>
    obtain ⟨job, hjob, hnone, _⟩ := hinv.fresh key hpermitted
    rw [hcommits.lookup, Option.some.injEq] at hjob
    exact absurd (hjob ▸ hnone) heffect
  | acceptanceUnknown =>
    obtain ⟨ended, hended, hstatus⟩ := notified_ok happly
    exact .inr (hstatus.trans (unknown_of_markUnknown hended))
  | heartbeat date =>
    obtain ⟨_, _, htouch⟩ := bind_ok (orThrow_ok happly)
    obtain ⟨_, hstate, _⟩ := bind_ok htouch
    exact absurd (not_not.1 (refuse_ok hstate)) hrunning
  | receipt exit =>
    obtain ⟨operation, _, happly⟩ := bind_ok happly
    cases happly
    exact .inl hqueued
  | harvest result business =>
    unfold JobTransition.apply at happly
    dsimp only at happly
    split at happly
    · next completed hcomplete => exact absurd (running_of_complete hcomplete) hrunning
    · obtain ⟨ended, hended, _⟩ := notified_ok happly
      exact absurd (running_of_complete hended) hrunning
  | prove result =>
    obtain ⟨ended, hended, _⟩ := notified_ok happly
    exact absurd (running_of_complete hended) hrunning
  | lose completedSteps =>
    obtain ⟨ended, hended, hstatus⟩ := notified_ok happly
    exact .inr (hstatus.trans (unknown_of_markUnknown hended))

theorem stalled_put {w : World} {key other : JobKey} {current next : JobRun}
    (hcommits : Commits w other current next) (h : w.Stalled key)
    (hnext : ∀ _ : other = key, current.status = .queued → current.operation.effect ≠ .none →
      next.status = .queued ∨ next.status = .unknownNeedsAttention) : (w.put next).Stalled key := by
  obtain ⟨job, hjob, hprocess, hstatus⟩ := h
  by_cases hkey : other = key
  · subst hkey
    rw [hcommits.lookup, Option.some.injEq] at hjob
    subst hjob
    refine ⟨next, hcommits.lookup_put, (delegation_of_accepted hcommits.accepted).trans hprocess, ?_⟩
    rcases hstatus with ⟨hqueued, heffect⟩ | hunknown
    · rcases hnext rfl hqueued heffect with hnext | hnext
      · exact .inl ⟨hnext, effect_ne_none hcommits.accepted heffect⟩
      · exact .inr hnext
    · have hterminal : isDurableJobTerminal current.status = true := by
        rw [hunknown]
        rfl
      exact .inr ((hcommits.accepted.unchanged.terminal hterminal).1.symm.trans hunknown)
  · refine ⟨job, ?_, hprocess, hstatus⟩
    rw [hcommits.lookup_other (Ne.symm hkey)]
    exact hjob

theorem stalled_moved {w w' : World} {t : Token} {c : JobCommand}
    (hinv : StartInv w t) (hpermits : startProtocol.permits t c) (hmoves : Moves w c w')
    (h : w.Stalled key) (hevident : ¬ w'.Evident key) : w'.Stalled key := by
  cases hmoves with
  | quiet c w' hjobs hready hmarkers hlog =>
    unfold World.Stalled World.lookup
    rw [hjobs]
    exact h
  | marks k marker => exact h
  | commits k transition now current next hcommits happly =>
    refine stalled_put hcommits h fun hkey hqueued heffect => ?_
    subst hkey
    exact stalled_transition hinv hpermits hevident hcommits happly hqueued heffect
  | spawns k => exact h

theorem stalled_changed {w w' : World} (hchange : Changes w w') (h : w.Stalled key) : w'.Stalled key := by
  cases hchange with
  | rewrite k current next hlookup hsave hstatus hoperation =>
    exact stalled_put (Commits.of_save hlookup hsave) h fun _ hqueued _ =>
      .inl (hstatus.trans hqueued)
  | delegated k current next hlookup hsave hdelegation =>
    obtain ⟨job, hjob, hprocess, hstatus⟩ := h
    have hkey : key ≠ k := by
      rintro rfl
      rw [hlookup, Option.some.injEq] at hjob
      exact hdelegation (hjob ▸ hprocess)
    refine ⟨job, ?_, hprocess, hstatus⟩
    rw [(Commits.of_save hlookup hsave).lookup_other hkey]
    exact hjob
  | create job hnew hvalid hstart =>
    obtain ⟨other, hother, hrest⟩ := h
    refine ⟨other, ?_, hrest⟩
    rw [World.lookup_append, hother]
    rfl
  | _ => exact h

theorem stalled_step {config next : World × Option (Pass Unit)}
    (hguarded : Machine.Guarded startProtocol Token.idle StartInv config)
    (hstep : SupervisorStep config next) (h : config.1.Stalled key)
    (hevident : ¬ next.1.Evident key) : next.1.Stalled key := by
  cases hstep with
  | begin w p hp => exact h
  | perform w w' c rest answer hperforms =>
    obtain ⟨t, hinv, hkeeps⟩ := hguarded
    exact stalled_moved hinv hkeeps.1 (Performs.moves hperforms) h hevident
  | finish w value => exact h
  | fail w error => exact h
  | change w w' p hchange => exact stalled_changed hchange h
  | crash w p => exact h

end Stalled

section Recovery

/-- The record and the evidence of one run are as they were. -/
structure SameFor (key : JobKey) (w w' : World) : Prop where
  lookup : w'.lookup key = w.lookup key
  markers : w'.startMarkers key = w.startMarkers key
  ready : w'.readyFiles key = w.readyFiles key

theorem SameFor.refl (key : JobKey) (w : World) : SameFor key w w := ⟨rfl, rfl, rfl⟩

variable {key : JobKey}

theorem SameFor.trans {a b c : World} (hab : SameFor key a b) (hbc : SameFor key b c) : SameFor key a c :=
  ⟨hbc.lookup.trans hab.lookup, hbc.markers.trans hab.markers, hbc.ready.trans hab.ready⟩

/-- The commands that leave the record and the marker of a run alone. -/
def JobCommand.Apart (key : JobKey) : JobCommand → Prop
  | .transition k _ _ => k ≠ key
  | .writeStartMarker k _ => k ≠ key
  | _ => True

theorem JobCommand.Own.apart {key other : JobKey} (hne : other ≠ key) {c : JobCommand}
    (h : c.Own other) : c.Apart key := by
  cases c with
  | transition k transition now => exact fun hk => hne (h.symm.trans hk)
  | writeStartMarker k marker => exact fun hk => hne (h.symm.trans hk)
  | _ => trivial

theorem apart_of_routine {α : Type} {p : Pass α} (h : ∀ key, p.Issues (JobCommand.Routine key))
    (key : JobKey) : p.Issues (JobCommand.Apart key) := by
  have hne : ((key.1 ++ "/", key.2) : JobKey) ≠ key := by
    intro heq
    have hlength := congrArg (fun k : JobKey => k.1.length) heq
    simp at hlength
  exact .mono (fun c hc => JobCommand.Own.apart hne (JobCommand.Routine.own hc)) (h _)

theorem Moves.sameFor {w w' : World} {c : JobCommand} (h : Moves w c w') (hc : c.Apart key) : SameFor key w w' := by
  cases h with
  | quiet c w' hjobs hready hmarkers hlog =>
    refine ⟨?_, congrFun hmarkers key, congrFun hready key⟩
    unfold World.lookup
    rw [hjobs]
  | marks k marker => exact ⟨rfl, Function.update_of_ne (Ne.symm hc) _ _, rfl⟩
  | commits k transition now current next hcommits happly =>
    exact ⟨hcommits.lookup_other (Ne.symm hc), rfl, rfl⟩
  | spawns k => exact ⟨rfl, rfl, rfl⟩

theorem sameFor_run {α : Type} {p : Pass α} (hp : p.Issues (JobCommand.Apart key))
    (w : World) : SameFor key w (run World.perform w p).2 :=
  hp.run (fun _ _ hc hw => hw.trans ((perform_moves _ _).sameFor hc)) (SameFor.refl key w)

/-- One turn of the loop with its error handler. -/
def guardedTurn (job : JobRun) (now : JsDate) : Pass Bool :=
  (reconcileTurn job now).handle fun failure => do
    ask (.report job.key failure)
    pure true

theorem guardedTurn_own (job : JobRun) (now : JsDate) : (guardedTurn job now).Issues (JobCommand.Own job.key) :=
  Issues.handle (reconcileTurn_own job now) fun _ => .bind (.issue trivial) fun _ => trivial

theorem reconcileAll_apart (now : JsDate) {jobs : List JobRun}
    (h : ∀ job ∈ jobs, job.key ≠ key) : (reconcileAll now jobs).Issues (JobCommand.Apart key) := by
  induction jobs with
  | nil => trivial
  | cons job jobs ih =>
    have hturn : (guardedTurn job now).Issues (JobCommand.Apart key) :=
      Issues.mono (fun c => JobCommand.Own.apart (h job (by simp))) (guardedTurn_own job now)
    refine .bind hturn fun go => ?_
    split_ifs
    · exact ih fun other hother => h other (by simp [hother])
    · trivial

variable {job : JobRun}

theorem guardedTurn_goes (hwaiting : isWaiting job = false) (now : JsDate)
    (w : World) : (run World.perform w (guardedTurn job now)).1 = .ok true := by
  have hturn : reconcileTurn job now = (reconcileJob job now).bind fun _ => .done true := by
    unfold reconcileTurn hasRoom
    rw [hwaiting]
    rfl
  obtain ⟨value, w', hrun, rfl⟩ : ∃ value w', run World.perform w (guardedTurn job now) =
      (.ok value, w') ∧ value = true := by
    apply run_handle_ok
    · intro value w' h
      rw [hturn, run_bind] at h
      split at h
      · cases h
        rfl
      · cases h
    · exact fun w' failure => ⟨true, _, rfl, rfl⟩
  rw [hrun]

theorem guardedTurn_world (hwaiting : isWaiting job = false) (now : JsDate)
    (w : World) : (run World.perform w (guardedTurn job now)).2 = (run World.perform w (reconcileJob job now)).2 := by
  have hturn : reconcileTurn job now = (reconcileJob job now).bind fun _ => .done true := by
    unfold reconcileTurn hasRoom
    rw [hwaiting]
    rfl
  unfold guardedTurn
  rw [hturn, run_handle, run_bind]
  cases hrun : run World.perform w (reconcileJob job now) with
  | mk result w' =>
    cases result with
    | ok value => rfl
    | error failure => rfl

theorem run_reconcileAll_append (now : JsDate) {before : List JobRun}
    (hwaiting : ∀ job ∈ before, isWaiting job = false) (hkey : ∀ job ∈ before, job.key ≠ key)
    (after : List JobRun) (w : World) :
    ∃ w', SameFor key w w' ∧ run World.perform w (reconcileAll now (before ++ after)) =
      run World.perform w' (reconcileAll now after) := by
  induction before generalizing w with
  | nil => exact ⟨w, .refl key w, rfl⟩
  | cons job before ih =>
    have hgoes := guardedTurn_goes (hwaiting job (by simp)) now w
    have hsame : SameFor key w (run World.perform w (guardedTurn job now)).2 :=
      sameFor_run (.mono (fun c => JobCommand.Own.apart (hkey job (by simp)))
        (guardedTurn_own job now)) w
    obtain ⟨w', hrest, hrun⟩ := ih (fun other h => hwaiting other (by simp [h]))
      (fun other h => hkey other (by simp [h])) (run World.perform w (guardedTurn job now)).2
    refine ⟨w', hsame.trans hrest, ?_⟩
    rw [← hrun]
    exact run_bind_ok (Prod.ext hgoes rfl) _

variable {w : World}

theorem spawnedProcess_of_not_evident (h : ¬ w.Evident key) :
    spawnedProcess (w.readyFiles key) (w.startMarkers key) = none := by
  unfold World.Evident at h
  rw [not_or, not_not] at h
  obtain ⟨hready, hmarker⟩ := h
  rw [hready]
  cases hstart : w.startMarkers key with
  | none => rfl
  | some marker =>
    unfold spawnedProcess
    dsimp only
    rw [if_neg]
    intro hreal
    exact hmarker ⟨marker, hstart, hreal⟩

theorem run_fenceCancelled (job : JobRun) (w : World) :
    ∃ w', run World.perform w (fenceCancelled job none) = (.ok (), w') := by
  unfold fenceCancelled
  split_ifs
  · exact ⟨_, rfl⟩
  · exact ⟨w, rfl⟩

theorem ValidRun.checkpointed (h : ValidRun job) :
    ∀ step ∈ (job.checkpoint.map DurableJobCheckpoint.completedSteps).getD [], validateStepResult step = .ok () := by
  have hprogress := h.progress
  unfold validateRunProgress at hprogress
  simp only [seq_iff] at hprogress
  cases hcheckpoint : job.checkpoint with
  | none => simp
  | some checkpoint =>
    have hsteps := hprogress.2.1
    rw [hcheckpoint] at hsteps
    simp only [whenPresent, seq_iff, checkAll_iff] at hsteps
    simpa using hsteps.2

variable {now : JsDate}

theorem acceptanceUnknown_commits
    (hvalid : ValidRun job) (hshort : job.toJobFacts.Short) (hlookup : w.lookup key = some job)
    (hqueued : job.status = .queued) (heffect : job.operation.effect ≠ .none)
    (hclock : movesBack job.updatedAt now.iso = false) :
    ∃ next w', w.perform (.transition key .acceptanceUnknown now) = (.ok (some next), w') ∧
      w'.lookup key = some next ∧ next.status = .unknownNeedsAttention := by
  have hreason : JsText.NormalText "runner acceptance is unknown; inspect the original request" := by
    decide
  obtain ⟨next, hnext, hended⟩ := notified_unknown hvalid now (.inr ⟨hqueued, heffect⟩) hreason
    hshort hvalid.checkpointed
  have happly : JobTransition.acceptanceUnknown.apply w now job = .ok next := by
    unfold JobTransition.apply
    dsimp only
    rw [hnext]
    rfl
  refine ⟨next, _, transitionDurableJob_of_ended hlookup happly hended hclock, ?_, hended.status⟩
  exact (Commits.of_save hlookup (hended.saved hclock)).lookup_put

theorem run_reconcileQueued (hvalid : ValidRun job)
    (hshort : job.toJobFacts.Short) (hlookup : w.lookup job.key = some job)
    (hqueued : job.status = .queued) (heffect : job.operation.effect ≠ .none)
    (hevident : ¬ w.Evident job.key) (hclock : movesBack job.updatedAt now.iso = false) :
    ∃ next, (run World.perform w (reconcileQueued job now)).2.lookup job.key = some next ∧
      next.status = .unknownNeedsAttention := by
  obtain ⟨w1, hfence⟩ := run_fenceCancelled job w
  have hsame : SameFor job.key w w1 := by
    have hframe := sameFor_run (apart_of_routine (fun _ => fenceCancelled_routine job none) job.key) w
    rw [hfence] at hframe
    exact hframe
  rw [← hsame.lookup] at hlookup
  obtain ⟨next, w2, hcommit, hnext, hunknown⟩ :=
    acceptanceUnknown_commits hvalid hshort hlookup hqueued heffect hclock
  have hmarker : run World.perform w (ask (.readStartMarker job.key)) = (.ok (w.startMarkers job.key), w) := rfl
  have hspawned : run World.perform w (spawnedProcessFromEvidence job (w.startMarkers job.key)) =
      (.ok none, w) := by
    rw [← spawnedProcess_of_not_evident hevident]
    rfl
  have htransition : run World.perform w1 (ask (.transition job.key .acceptanceUnknown now)) =
      (.ok (some next), w2) := by
    rw [← hcommit]
    exact run_issue w1 _
  have hrun : run World.perform w (reconcileQueued job now) =
      run World.perform w2 (deliverTerminalEvent (some next)) := by
    refine (run_bind_ok hmarker _).trans ((run_bind_ok hspawned _).trans ((run_bind_ok hfence _).trans ?_))
    dsimp only
    rw [if_pos heffect]
    exact run_bind_ok htransition _
  refine ⟨next, ?_, hunknown⟩
  have hdeliver := sameFor_run (apart_of_routine (fun _ => deliverTerminalEvent_routine (some next)) job.key) w2
  rw [hrun, hdeliver.lookup]
  exact hnext

theorem run_reconcile {t : Token} (hinv : StartInv w t)
    (hlookup : w.lookup job.key = some job) (hprocess : job.delegation = none)
    (hqueued : job.status = .queued) (heffect : job.operation.effect ≠ .none)
    (hevident : ¬ w.Evident job.key) (hshort : job.toJobFacts.Short)
    (hclock : movesBack job.updatedAt now.iso = false) :
    ∃ next, (run World.perform w (reconcile now)).2.lookup job.key = some next ∧
      next.status = .unknownNeedsAttention := by
  have hmem := World.lookup_mem hlookup
  have hvalid : ValidRun job := (validRun_iff hprocess).1 (hinv.checked job hmem)
  have hkeys := World.listActive_nodup hinv.keyed
  have hlisted : job ∈ w.listActiveDurableJobs := by
    unfold World.listActiveDurableJobs
    simp [hmem, World.isActive, hqueued]
  have hwaiting : isWaiting job = false := by
    unfold isWaiting
    simp [heffect]
  obtain ⟨before, after, hsplit⟩ := List.append_of_mem
    (List.mem_filter.2 ⟨hlisted, by simp [hwaiting]⟩ :
      job ∈ w.listActiveDurableJobs.filter fun other => !isWaiting other)
  have hperm : (w.listActiveDurableJobs.filter (fun other => !isWaiting other) ++
      w.listActiveDurableJobs.filter isWaiting).Perm w.listActiveDurableJobs :=
    List.perm_append_comm.trans (List.filter_append_perm isWaiting _)
  rw [← (hperm.map JobRun.key).nodup_iff, hsplit, List.append_assoc, List.cons_append,
    List.map_append, List.map_cons, List.nodup_append] at hkeys
  obtain ⟨_, hafter, hdisjoint⟩ := hkeys
  have hbefore : ∀ other ∈ before, other.key ≠ job.key := fun other hother =>
    hdisjoint _ (List.mem_map.2 ⟨other, hother, rfl⟩) _ (by simp)
  have hrest : ∀ other ∈ after ++ w.listActiveDurableJobs.filter isWaiting,
      other.key ≠ job.key := fun other hother heq =>
    (List.nodup_cons.1 hafter).1 (heq ▸ List.mem_map.2 ⟨other, hother, rfl⟩)
  have hready : ∀ other ∈ before, isWaiting other = false := fun other hother => by
    have hfiltered : other ∈ w.listActiveDurableJobs.filter fun other => !isWaiting other := by
      rw [hsplit]
      exact List.mem_append_left _ hother
    simpa using (List.mem_filter.1 hfiltered).2
  obtain ⟨w1, hsame, hrun⟩ := run_reconcileAll_append now hready hbefore
    (job :: (after ++ w.listActiveDurableJobs.filter isWaiting)) w
  have hevident1 : ¬ w1.Evident job.key := by
    unfold World.Evident
    rw [hsame.ready, hsame.markers]
    exact hevident
  obtain ⟨next, hnext, hunknown⟩ := run_reconcileQueued hvalid hshort
    (hsame.lookup.trans hlookup) hqueued heffect hevident1 hclock
  have hturn : (run World.perform w1 (guardedTurn job now)).2.lookup job.key = some next := by
    have hjob : reconcileJob job now = reconcileQueued job now := by
      unfold reconcileJob
      rw [if_neg (not_not.2 hprocess), hqueued]
    rw [guardedTurn_world hwaiting, hjob]
    exact hnext
  refine ⟨next, ?_, hunknown⟩
  have hlist : run World.perform w (ask .listActive) = (.ok w.listActiveDurableJobs, w) := rfl
  have hwhole : run World.perform w (reconcile now) =
      run World.perform (run World.perform w1 (guardedTurn job now)).2
        (reconcileAll now (after ++ w.listActiveDurableJobs.filter isWaiting)) := by
    refine (run_bind_ok hlist _).trans ?_
    rw [hsplit, List.append_assoc, List.cons_append, hrun]
    exact run_bind_ok (Prod.ext (guardedTurn_goes hwaiting now w1) rfl) _
  rw [hwhole, (sameFor_run (reconcileAll_apart now hrest) _).lookup]
  exact hturn

end Recovery

/-- The world after a pass that is not interrupted. -/
def World.afterPass (w : World) (now : JsDate) : World := (run World.perform w (reconcile now)).2

theorem Reached.created {w w' : World} (hjobs : w.jobs = []) (hlog : w.log = [])
    (hchange : Changes w w') (now : JsDate) : Reached (w'.afterPass now, none) := by
  refine ⟨w, hjobs, hlog, ?_⟩
  refine .head (.change _ _ none hchange) (.head (.begin _ (reconcile now) ?_) ?_)
  · exact .inl ⟨now, rfl⟩
  · exact Machine.steps_run supervisor IsPass (fun w c => Performs.done c) _ _

/-- A runner is spawned at most once for each run, after the attempt was committed; once a run was
attempted no later pass spawns; and an attempted run that left no evidence stays queued until a pass
makes it unknown. -/
theorem at_most_one_runner {config : World × Option (Pass Unit)} (h : Reached config) :
    (∀ key, config.1.log.count (.spawned key) ≤ 1) ∧
    (∀ before key after, config.1.log = before ++ .spawned key :: after → .attempted key ∈ before) ∧
    (∀ key job later, config.2 = none → config.1.lookup key = some job →
      job.operation.effect ≠ .none → ReflTransGen SupervisorStep config later →
      later.1.log.count (.spawned key) = config.1.log.count (.spawned key)) ∧
    (∀ key job later, config.1.lookup key = some job → job.delegation = none →
      job.status = .queued → job.operation.effect ≠ .none →
      ReflTransGen (fun a b => SupervisorStep a b ∧ ¬ b.1.Evident key) config later →
      ∃ next, later.1.lookup key = some next ∧ (next.status = .queued ∧
        next.operation.effect ≠ .none ∨ next.status = .unknownNeedsAttention)) ∧
    ∀ key job now, config.1.lookup key = some job → job.delegation = none →
      job.status = .queued → job.operation.effect ≠ .none → ¬ config.1.Evident key →
      job.toJobFacts.Short → movesBack job.updatedAt now.iso = false →
      ∃ next, (run World.perform config.1 (reconcile now)).2.lookup key = some next ∧
        next.status = .unknownNeedsAttention := by
  have hguarded := h.guarded
  obtain ⟨t, hinv⟩ := hguarded.world
  refine ⟨hinv.once, hinv.order, ?_, ?_, ?_⟩
  · intro key job later hidle hlookup heffect hsteps
    obtain ⟨w, program⟩ := config
    subst hidle
    exact spawns_settled hguarded ⟨job, hlookup, heffect⟩ hsteps
  · intro key job later hlookup hprocess hqueued heffect hsteps
    have hstalled : later.1.Stalled key ∧
        Machine.Guarded startProtocol Token.idle StartInv later := by
      induction hsteps with
      | refl => exact ⟨⟨job, hlookup, hprocess, .inl ⟨hqueued, heffect⟩⟩, hguarded⟩
      | tail _ hstep ih =>
        exact ⟨stalled_step ih.2 hstep.1 ih.1 hstep.2, startInv_sound.step ih.2 hstep.1⟩
    obtain ⟨next, hnext, _, hstatus⟩ := hstalled.1
    exact ⟨next, hnext, hstatus⟩
  · intro key job now hlookup hprocess hqueued heffect hevident hshort hclock
    have hkey := World.lookup_key hlookup
    subst hkey
    exact run_reconcile hinv hlookup hprocess hqueued heffect hevident hshort hclock

end

section Sample

/-- The sample run before its start. -/
def queuedRun : JobRun :=
  { sampleRun with
    status := .queued
    operation := { sampleOperation with effect := .none, receiptRefs := [] }
    startedAt := none
    heartbeatAt := none
    process := none }

def emptyWorld : @World sampleJobHost :=
  letI := sampleJobHost
  { home := "/yui"
    jobs := []
    startMarkers := fun _ => none
    readyFiles := fun _ => none
    exits := fun _ => none
    checkpoints := fun _ => none
    receipts := fun _ => none
    heartbeats := fun _ => none
    fences := fun _ => false
    specs := fun _ => none
    identities := fun _ => none
    alive := fun _ => false
    authorization := fun _ => .ok ()
    nextProcess := (4242, some "4242:1")
    sigkillAt := fun _ => none
    log := [] }

/-- The sample run created and one pass over it. -/
def startedWorld : @World sampleJobHost :=
  letI := sampleJobHost
  (run World.perform { emptyWorld with jobs := emptyWorld.jobs ++ [queuedRun] }
    (reconcile sampleNow)).2

theorem queuedRun_checked : @checkDurableJob queuedRun sampleJobHost.toJsHost = .ok () :=
  (exists_of_isOk (by decide +kernel)).choose_spec

theorem startedWorld_reached : @Reached sampleJobHost (startedWorld, none) :=
  @Reached.created sampleJobHost emptyWorld _ rfl rfl
    (@Changes.create sampleJobHost _ queuedRun rfl queuedRun_checked (.inr ⟨rfl, rfl⟩)) sampleNow

theorem startedWorld_spawned :
    (@World.log sampleJobHost startedWorld).count (.spawned ("task-1", "job-1")) = 1 ∧
      (@World.lookup sampleJobHost startedWorld ("task-1", "job-1")).map
        (fun job => job.operation.effect) = some .possible := by
  decide +kernel

theorem at_most_one_runner_started :
    (@World.log sampleJobHost startedWorld).count (.spawned ("task-1", "job-1")) = 1 ∧
      ∀ later, ReflTransGen (@SupervisorStep sampleJobHost) (startedWorld, none) later →
        (@World.log sampleJobHost later.1).count (.spawned ("task-1", "job-1")) = 1 := by
  obtain ⟨hspawned, hstored⟩ := startedWorld_spawned
  refine ⟨hspawned, fun later hsteps => ?_⟩
  obtain ⟨job, hlookup, hpossible⟩ := Option.map_eq_some_iff.1 hstored
  have heffect : job.operation.effect ≠ .none := by
    rw [hpossible]
    decide
  obtain ⟨-, -, hsettled, -⟩ := @at_most_one_runner sampleJobHost _ startedWorld_reached
  dsimp only at hsettled
  have hsame := hsettled _ job later rfl hlookup heffect hsteps
  exact hsame.trans hspawned

end Sample
