import Yui.FairTrace
import Yui.MailboxSchedulerInvariant

/-!
# No dirty key is stranded

A pending key stays pending until a batch takes it. The step that brings the batch closer is owed
by the drain under way, or else by the timer, and every other action leaves it owed. In a run in
which timers fire or are cleared and drains leave their phases, every signalled key is taken by a
batch that starts after the signal.
-/

open FallibleRun

namespace MailboxScheduler

open Scheduler

variable {Key : Type*}

/-- How many phases may pass before a batch starts. -/
def Phase.rank : Phase Key → ℕ
  | .starting => 1
  | .settled _ => 3
  | .answered _ => 4
  | .processing _ => 5

def rank (s : Scheduler Key) : ℕ :=
  match s.drains with
  | [] => 2
  | d :: _ => d.phase.rank

/-- Who owes the next step: the drains under way, or the timers if there is none. -/
def owing (s : Scheduler Key) : List (Drain Key) × List ℕ :=
  (s.drains, if s.drains.isEmpty then s.timers else [])

def Drain.isProcessing (d : Drain Key) : Bool :=
  match d.phase with
  | .processing _ => true
  | _ => false

/-- The step started a batch that takes the key. -/
def Takes (s t : Scheduler Key) (k : Key) : Prop :=
  ∃ id keys, t.events = s.events ++ [Event.batch id keys] ∧ k ∈ keys

def Closer (s t : Scheduler Key) : Prop :=
  rank t < rank s ∨ rank t = rank s ∧ owing t = owing s

variable {s : Scheduler Key} {d : Drain Key}

theorem rank_singleton (hd : s.drains = [d]) : rank s = d.phase.rank := by
  simp [rank, hd]

theorem Closer.of_drains_eq {s t : Scheduler Key} (h : t.drains = s.drains)
    (ht : s.drains = [] → t.timers = s.timers) : Closer s t := by
  refine .inr ⟨by simp [rank, h], ?_⟩
  unfold owing
  rw [h]
  by_cases hd : s.drains = []
  · simp [hd, ht hd]
  · simp [hd]

theorem schedule_drains (s : Scheduler Key) : s.schedule.drains = s.drains := by
  unfold Scheduler.schedule
  split_ifs <;> rfl

theorem schedule_pendingKeys (s : Scheduler Key) : s.schedule.pendingKeys = s.pendingKeys := by
  unfold Scheduler.schedule
  split_ifs <;> rfl

theorem schedule_timers (h : s.timer.isSome = true) : s.schedule.timers = s.timers := by
  simp [Scheduler.schedule, h]

theorem cancelTimer_eq (s : Scheduler Key) : ∃ timers timer,
    s.cancelTimer = { s with timers := timers, timer := timer } := by
  unfold Scheduler.cancelTimer
  split
  · exact ⟨s.timers, s.timer, rfl⟩
  · exact ⟨_, _, rfl⟩

theorem drain_pendingKeys (s : Scheduler Key) : s.drain.1.pendingKeys = s.pendingKeys := by
  obtain ⟨timers, timer, hc⟩ := cancelTimer_eq s
  unfold Scheduler.drain
  rw [hc]
  cases hcurrent : s.current with
  | some running => split_ifs <;> rfl
  | none => dsimp only; split_ifs <;> rfl

theorem drainReported_pendingKeys (s : Scheduler Key) : s.drainReported.pendingKeys = s.pendingKeys := by
  have h := drain_pendingKeys s
  unfold Scheduler.drainReported
  split
  · next u heq => rwa [heq] at h
  · next u running heq => rwa [heq] at h

theorem drain_starts (hstopped : s.stopped = false) (hd : s.drains = [])
    (hc : s.current = none) (hp : s.pendingKeys ≠ []) : s.drain.1.drains = [⟨s.nextDrain, .starting, false⟩] ∧
      s.drain.1.current = some s.nextDrain ∧ s.drain.2 = some s.nextDrain := by
  obtain ⟨timers, timer, hcancel⟩ := cancelTimer_eq s
  unfold Scheduler.drain
  rw [hcancel]
  simp [hstopped, hc, hp, hd]

theorem drainReported_starts (hstopped : s.stopped = false)
    (hd : s.drains = []) (hc : s.current = none) (hp : s.pendingKeys ≠ []) :
    s.drainReported.drains = [⟨s.nextDrain, .starting, true⟩] ∧ s.drainReported.current = some s.nextDrain := by
  obtain ⟨hdrains, hcurrent, hreturned⟩ := drain_starts hstopped hd hc hp
  unfold Scheduler.drainReported
  split
  · next u heq => simp [heq] at hreturned
  · next u running heq =>
      rw [heq] at hdrains hcurrent hreturned
      dsimp only at hdrains hcurrent hreturned
      cases hreturned
      exact ⟨by simp [Scheduler.mapDrain, hdrains], hcurrent⟩

theorem drain_requests {running : ℕ} (hstopped : s.stopped = false)
    (hc : s.current = some running) : s.drain.1.drains = s.drains := by
  obtain ⟨timers, timer, hcancel⟩ := cancelTimer_eq s
  unfold Scheduler.drain
  rw [hcancel]
  simp [hstopped, hc]

variable {k : Key}

theorem takes_of_takeBatch (id : ℕ) (hk : k ∈ s.pendingKeys) : Takes s (s.takeBatch id) k := by
  have hne : ¬ s.pendingKeys.isEmpty = true := by
    rw [List.isEmpty_iff]
    exact List.ne_nil_of_mem hk
  refine ⟨id, s.pendingKeys, ?_, hk⟩
  unfold Scheduler.takeBatch
  dsimp only
  rw [if_neg hne]

theorem react_wakes (hd : s.drains = [d])
    (hc : s.current = some d.id) (fulfilled : Bool) (hstopped : s.stopped = false)
    (hp : s.pendingKeys ≠ []) : (s.react d fulfilled).pendingKeys = s.pendingKeys ∧
      ((∃ e, (s.react d fulfilled).drains = [e] ∧ e.phase = .starting ∧ (s.react d fulfilled).current = some e.id) ∨
        (s.react d fulfilled).drains = [] ∧ (s.react d fulfilled).timer.isSome = true) := by
  have hsettled : (({ s with drains := [] } : Scheduler Key).onSettled d.id).pendingKeys =
      s.pendingKeys ∧
      ((∃ e, (({ s with drains := [] } : Scheduler Key).onSettled d.id).drains = [e] ∧
          e.phase = .starting ∧
          (({ s with drains := [] } : Scheduler Key).onSettled d.id).current = some e.id) ∨
        (({ s with drains := [] } : Scheduler Key).onSettled d.id).drains = [] ∧
        (({ s with drains := [] } : Scheduler Key).onSettled d.id).timer.isSome = true) := by
    unfold Scheduler.onSettled
    dsimp only
    rw [if_neg (by simp [hc]), if_neg (by simp [hstopped, hp])]
    split_ifs
    · obtain ⟨hdrains, hcurrent⟩ := drainReported_starts
        (s := { s with drains := [], current := none, drainRequested := false }) hstopped rfl rfl hp
      exact ⟨drainReported_pendingKeys _, .inl ⟨_, hdrains, rfl, hcurrent⟩⟩
    · refine ⟨schedule_pendingKeys _, .inr ⟨schedule_drains _, ?_⟩⟩
      unfold Scheduler.schedule
      split_ifs with hskip
      · simpa [hstopped, hp] using hskip
      · rfl
  have hdrains : s.drains.filter (·.id ≠ d.id) = [] := by simp [hd]
  unfold Scheduler.react
  rw [hdrains]
  dsimp only
  split_ifs
  · exact hsettled
  · exact hsettled

variable [DecidableEq Key]

theorem signal_pendingKeys (hstopped : s.stopped = false) (k : Key) :
    (s.signal k).pendingKeys = appendUnique id s.pendingKeys [k] := by
  unfold Scheduler.signal
  rw [if_neg (by simp [hstopped]), schedule_pendingKeys]

theorem Inv.active (h : Inv s) (hk : k ∈ s.pendingKeys) : s.stopped = false := by
  by_contra hs
  rw [Bool.not_eq_false] at hs
  simp [h.idle hs] at hk

theorem Inv.progress {s t : Scheduler Key} {action : Action Key} (h : Inv s)
    (hk : k ∈ s.pendingKeys) (hstop : action ≠ .stop) (hstep : MailboxScheduler.step s action = .ok t) :
    Takes s t k ∨ k ∈ t.pendingKeys ∧ Closer s t := by
  have hactive := h.active hk
  have hp : s.pendingKeys ≠ [] := List.ne_nil_of_mem hk
  have hwoken : s.drains = [] → s.current = none ∧ s.timer.isSome = true := by
    intro hd
    have hc : s.current = none := by
      rcases h.single.cases with ⟨_, hc⟩ | ⟨d, hd', _⟩
      · exact hc
      · simp [hd] at hd'
    exact ⟨hc, (h.woken hp).resolve_right (by simp [hc])⟩
  cases h.toBase.moves hstep with
  | signal j =>
    refine .inr ?_
    unfold Scheduler.signal
    rw [if_neg (by simp [hactive])]
    refine ⟨?_, .of_drains_eq (schedule_drains _) (fun hd => ?_)⟩
    · rw [schedule_pendingKeys]
      exact appendUnique.mem_id.2 (.inl hk)
    · refine schedule_timers ?_
      exact (hwoken hd).2
  | schedule =>
    exact .inr ⟨by rwa [schedule_pendingKeys],
      .of_drains_eq (schedule_drains s) fun hd => schedule_timers (hwoken hd).2⟩
  | drain =>
    refine .inr ⟨by rwa [drain_pendingKeys], ?_⟩
    rcases h.single.cases with ⟨hd, hc⟩ | ⟨d, hd, hc⟩
    · refine .inl ?_
      rw [rank_singleton (drain_starts hactive hd hc hp).1]
      simp [rank, hd, Phase.rank]
    · exact .of_drains_eq (drain_requests hactive hc) (by simp [hd])
  | stop => exact absurd rfl hstop
  | fire timer ht =>
    unfold Scheduler.onTimer
    dsimp only
    rcases h.single.cases with ⟨hd, hc⟩ | ⟨d, hd, hc⟩
    · rw [if_neg (by simp [hc])]
      refine .inr ⟨by rwa [drainReported_pendingKeys], .inl ?_⟩
      have hstarts := (drainReported_starts
        (s := { s with timers := s.timers.erase timer, timer := none }) hactive hd hc hp).1
      rw [rank_singleton hstarts]
      simp [rank, hd, Phase.rank]
    · rw [if_pos (by simp [hc])]
      exact .inr ⟨hk, .of_drains_eq rfl (by simp [hd])⟩
  | start d hd hphase => exact .inl (takes_of_takeBatch d.id hk)
  | answer d fulfilled hd hphase =>
    obtain ⟨keys, hkeys⟩ := hphase
    refine .inr ⟨hk, .inl ?_⟩
    rw [rank_singleton (setPhase_singleton hd _), rank_singleton hd, hkeys]
    simp [Phase.rank]
  | resume d fulfilled hd hphase =>
    unfold Scheduler.resume
    split_ifs
    · exact .inl (takes_of_takeBatch d.id hk)
    · refine .inr ⟨hk, .inl ?_⟩
      rw [rank_singleton (setPhase_singleton hd _), rank_singleton hd, hphase]
      simp [Phase.rank]
  | react d fulfilled hd hc hphase =>
    obtain ⟨hpending, hwakes⟩ := react_wakes hd hc fulfilled hactive hp
    refine .inr ⟨hpending ▸ hk, .inl ?_⟩
    rw [rank_singleton hd, hphase]
    rcases hwakes with ⟨e, he, hstarting, _⟩ | ⟨hnone, _⟩
    · rw [rank_singleton he, hstarting]
      simp [Phase.rank]
    · simp [rank, hnone, Phase.rank]

/-- Live timers fire or are cleared, and drains leave their phases. -/
def Fair (s : Scheduler Key) (schedule : ℕ → Action Key) : Prop :=
  ∀ n, (∀ t ∈ (trace step s schedule n).timers,
      ∃ m, n ≤ m ∧ t ∉ (trace step s schedule m).timers) ∧
    ∀ d ∈ (trace step s schedule n).drains, ∃ m, n ≤ m ∧ d ∉ (trace step s schedule m).drains

theorem Inv.owed (hs : Inv s) (hk : k ∈ s.pendingKeys) :
    (∃ d ∈ s.drains, ∀ t : Scheduler Key, owing t = owing s → d ∈ t.drains) ∨
      ∃ timer ∈ s.timers, ∀ t : Scheduler Key, owing t = owing s → timer ∈ t.timers := by
  rcases hs.single.cases with ⟨hd, hc⟩ | ⟨d, hd, _⟩
  · have htimer := (hs.woken (List.ne_nil_of_mem hk)).resolve_right (by simp [hc])
    obtain ⟨timer, ht⟩ := Option.isSome_iff_exists.1 htimer
    have hmem : timer ∈ s.timers := by simp [hs.timers, ht]
    refine .inr ⟨timer, hmem, fun t hsame => ?_⟩
    have hdrains : t.drains = s.drains := congrArg Prod.fst hsame
    have htimers : t.timers = s.timers := by
      have hsnd := congrArg Prod.snd hsame
      simpa [owing, hdrains, hd] using hsnd
    exact htimers ▸ hmem
  · refine .inl ⟨d, by simp [hd], fun t hsame => ?_⟩
    have hdrains : t.drains = s.drains := congrArg Prod.fst hsame
    simp [hdrains, hd]

theorem handed_of_pending {schedule : ℕ → Action Key} (hs : Inv s)
    (hfair : Fair s schedule) (hstop : ∀ n, schedule n ≠ .stop) {n : ℕ}
    (hk : k ∈ (trace step s schedule n).pendingKeys) :
    ∃ m, n ≤ m ∧ Takes (trace step s schedule m) (trace step s schedule (m + 1)) k := by
  have hinv : ∀ m, Inv (trace step s schedule m) := trace_preserves hs fun _ _ _ hi ht => hi.step ht
  refine @RankedProgress.goal_of_waiting _ (fun m => k ∈ (trace step s schedule m).pendingKeys) _
    (fun m => rank (trace step s schedule m)) (fun m => owing (trace step s schedule m))
    (fun m hm => ?_) (fun m hm => ?_) n hk
  · cases hstep : step (trace step s schedule m) (schedule m) with
    | error e =>
      have hsame : trace step s schedule (m + 1) = trace step s schedule m := attempt_error hstep
      exact .inr ⟨hsame ▸ hm, .inr ⟨by rw [hsame], by rw [hsame]⟩⟩
    | ok t =>
      have hnext : trace step s schedule (m + 1) = t := attempt_ok hstep
      rw [hnext]
      exact (hinv m).progress hm (hstop m) hstep
  · rcases (hinv m).owed hm with ⟨d, hd, hkept⟩ | ⟨timer, ht, hkept⟩
    · obtain ⟨m', hm', hgone⟩ := (hfair m).2 d hd
      exact ⟨m', hm', fun hsame => hgone (hkept _ hsame)⟩
    · obtain ⟨m', hm', hgone⟩ := (hfair m).1 timer ht
      exact ⟨m', hm', fun hsame => hgone (hkept _ hsame)⟩

/-- What the scheduler grants in one state and for every fair run without a stop from there. -/
structure NeverStrands (s : Scheduler Key) : Prop where
  single : (s.drains.filter Drain.isProcessing).length ≤ 1
  batches : ∀ before after drain keys, s.events = before ++ Event.batch drain keys :: after →
    keys.Nodup ∧ ∀ k, k ∈ keys ↔ k ∈ signalledSince before
  woken : s.stopped = false → s.pendingKeys ≠ [] →
    (∃ t, s.timer = some t ∧ t ∈ s.timers) ∨ ∃ d ∈ s.drains, s.current = some d.id
  reaction : ∀ d ∈ s.drains, ∀ fulfilled, d.phase = .settled fulfilled → s.stopped = false →
    s.pendingKeys ≠ [] → ∃ next, step s (.react d.id) = .ok next ∧
      ((∃ e ∈ next.drains, e.phase = .starting ∧ next.current = some e.id) ∨
        ∃ t, next.timer = some t ∧ t ∈ next.timers)
  handed : ∀ k schedule, s.stopped = false → schedule 0 = .signal k → (∀ n, schedule n ≠ .stop) →
    Fair s schedule →
    ∃ n, 0 < n ∧ Takes (trace step s schedule n) (trace step s schedule (n + 1)) k

theorem Inv.react_ok (h : Inv s) (hd : d ∈ s.drains) {fulfilled : Bool} (hp : d.phase = .settled fulfilled) :
    s.drains = [d] ∧ s.current = some d.id ∧ MailboxScheduler.step s (.react d.id) = .ok (s.react d fulfilled) := by
  rcases h.single.cases with ⟨hnil, _⟩ | ⟨e, he, hc⟩
  · simp [hnil] at hd
  · rw [he, List.mem_singleton] at hd
    subst hd
    refine ⟨he, hc, ?_⟩
    obtain ⟨id, phase, reported⟩ := d
    cases hp
    simp [MailboxScheduler.step, he]

theorem neverStrands (past : List (Action Key)) : NeverStrands (run step (Scheduler.fresh : Scheduler Key) past) := by
  have hs : Inv (run step (Scheduler.fresh : Scheduler Key) past) :=
    run_preserves past Inv.initial fun _ _ _ _ hi ht => hi.step ht
  generalize run step (Scheduler.fresh : Scheduler Key) past = s at hs
  refine ⟨?_, fun before after drain keys hevents => ?_, fun _ hp => ?_, ?_, ?_⟩
  · refine (List.length_filter_le _ _).trans ?_
    rcases hs.single.cases with ⟨hnil, _⟩ | ⟨d, hd, _⟩
    · simp [hnil]
    · simp [hd]
  · rw [hs.batches before after drain keys hevents]
    exact ⟨appendUnique.nodup_id List.nodup_nil _, fun k => by simp [appendUnique.mem_id]⟩
  · rcases hs.single.cases with ⟨_, hc⟩ | ⟨d, hd, hc⟩
    · obtain ⟨t, ht⟩ := Option.isSome_iff_exists.1 ((hs.woken hp).resolve_right (by simp [hc]))
      exact .inl ⟨t, ht, by simp [hs.timers, ht]⟩
    · exact .inr ⟨d, by simp [hd], hc⟩
  · intro d hd fulfilled hphase hstopped hp
    obtain ⟨hdrains, hc, hok⟩ := hs.react_ok hd hphase
    refine ⟨_, hok, ?_⟩
    rcases (react_wakes hdrains hc fulfilled hstopped hp).2 with ⟨e, he, hstarting, hcurrent⟩ | h
    · exact .inl ⟨e, by simp [he], hstarting, hcurrent⟩
    · obtain ⟨t, ht⟩ := Option.isSome_iff_exists.1 h.2
      exact .inr ⟨t, ht, by simp [(hs.step hok).timers, ht]⟩
  · intro k schedule hstopped hsignal hstop hfair
    have hk : k ∈ (trace step s schedule 1).pendingKeys := by
      have hfirst : trace step s schedule 1 = s.signal k := by
        change attempt step s (schedule 0) = _
        rw [hsignal]
        rfl
      rw [hfirst, signal_pendingKeys hstopped]
      exact appendUnique.mem_id.2 (.inr (by simp))
    exact handed_of_pending hs hfair hstop hk

/-- A signal, the timer, one batch and its reactions, and then nothing more. -/
def oneBatch : ℕ → Action ℕ
  | 0 => .signal 7
  | 1 => .fire 0
  | 2 => .start 0
  | 3 => .answer 0 true
  | 4 => .resume 0
  | 5 => .react 0
  | _ => .schedule

theorem oneBatch_quiet (n : ℕ) : (trace step fresh oneBatch (n + 6)).timers = [] ∧
      (trace step fresh oneBatch (n + 6)).drains = [] ∧ (trace step fresh oneBatch (n + 6)).pendingKeys = [] := by
  induction n with
  | zero => decide
  | succ n ih =>
    have hquiet : trace step fresh oneBatch (n + 6 + 1) = (trace step fresh oneBatch (n + 6)).schedule := rfl
    have hsame : (trace step fresh oneBatch (n + 6)).schedule =
        trace step fresh oneBatch (n + 6) := by
      simp [Scheduler.schedule, ih.2.2]
    rw [Nat.add_right_comm, hquiet, hsame]
    exact ih

theorem oneBatch_fair : Fair fresh oneBatch := by
  intro n
  refine ⟨fun t _ => ⟨n + 6, by omega, ?_⟩, fun d _ => ⟨n + 6, by omega, ?_⟩⟩
  · simp [(oneBatch_quiet n).1]
  · simp [(oneBatch_quiet n).2.1]

theorem oneBatch_ne_stop (n : ℕ) : oneBatch n ≠ .stop := by
  unfold oneBatch
  split <;> simp

theorem neverStrands_oneBatch : Fair fresh oneBatch ∧
    ∃ n, 0 < n ∧ Takes (trace step fresh oneBatch n) (trace step fresh oneBatch (n + 1)) 7 :=
  ⟨oneBatch_fair, (neverStrands []).handed 7 oneBatch rfl rfl oneBatch_ne_stop oneBatch_fair⟩

end MailboxScheduler
