import Yui.MailboxScheduler

/-!
# The invariant of the mailbox scheduler

At most one timer is live and at most one drain is under way, and these are the ones the scheduler
remembers. The pending keys are the distinct keys signalled since the last batch was taken. While a
key is pending there is a timer or a drain that is responsible for it.
-/

namespace MailboxScheduler

open Scheduler

variable {Key : Type*}

/-- The keys signalled after the last batch of the events. -/
def signalledSince (events : List (Event Key)) : List Key :=
  events.foldl (fun keys event =>
    match event with
    | .signalled key => keys ++ [key]
    | .batch _ _ => []
    | .error _ => keys) []

@[simp] theorem signalledSince_signalled (events : List (Event Key)) (k : Key) :
    signalledSince (events ++ [Event.signalled k]) = signalledSince events ++ [k] := by
  simp [signalledSince]

@[simp] theorem signalledSince_batch (events : List (Event Key)) (id : ℕ) (keys : List Key) :
    signalledSince (events ++ [Event.batch id keys]) = [] := by
  simp [signalledSince]

@[simp] theorem signalledSince_error (events : List (Event Key)) (id : ℕ) :
    signalledSince (events ++ [Event.error id]) = signalledSince events := by
  simp [signalledSince]

section Shape

def Single (s : Scheduler Key) : Prop := s.drains.map Drain.id = s.current.toList

variable {s : Scheduler Key}

theorem Single.cases (h : Single s) :
    (s.drains = [] ∧ s.current = none) ∨ ∃ d, s.drains = [d] ∧ s.current = some d.id := by
  unfold Single at h
  cases hc : s.current with
  | none =>
    rw [hc] at h
    exact .inl ⟨List.map_eq_nil_iff.1 h, rfl⟩
  | some id =>
    rw [hc] at h
    obtain ⟨d, hd, hid⟩ := List.map_eq_singleton_iff.1 h
    exact .inr ⟨d, hd, by rw [hid]⟩

theorem Single.eq_of_find (h : Single s) {id : ℕ} {d : Drain Key} (hd : s.drains.find? (·.id = id) = some d) :
    s.drains = [d] ∧ s.current = some d.id ∧ d.id = id := by
  have hid : d.id = id := by simpa using List.find?_some hd
  have hmem := List.mem_of_find?_eq_some hd
  rcases h.cases with ⟨hnil, _⟩ | ⟨e, he, hc⟩
  · simp [hnil] at hmem
  · rw [he, List.mem_singleton] at hmem
    exact ⟨hmem ▸ he, hmem ▸ hc, hid⟩

theorem setPhase_singleton {d : Drain Key} (hd : s.drains = [d])
    (phase : Phase Key) : (s.setPhase d.id phase).drains = [{ d with phase := phase }] := by
  simp [Scheduler.setPhase, Scheduler.mapDrain, hd]

end Shape

variable [DecidableEq Key]

/-- What holds in the middle of an action as well. -/
structure Base (s : Scheduler Key) : Prop where
  timers : s.timers = s.timer.toList
  single : Single s
  starting : ∀ d ∈ s.drains, d.phase = .starting → s.stopped = true ∨ s.pendingKeys ≠ []
  idle : s.stopped = true → s.pendingKeys = []
  pending : s.stopped = false → s.pendingKeys = appendUnique id [] (signalledSince s.events)
  batches : ∀ before after drain keys, s.events = before ++ Event.batch drain keys :: after →
    keys = appendUnique id [] (signalledSince before)

structure Inv (s : Scheduler Key) : Prop extends Base s where
  woken : s.pendingKeys ≠ [] → s.timer.isSome ∨ s.current.isSome

theorem Inv.initial : Inv (fresh : Scheduler Key) where
  timers := rfl
  single := rfl
  starting := by simp [fresh]
  idle := fun _ => rfl
  pending := fun _ => rfl
  batches := by simp [fresh]
  woken := fun h => absurd rfl h

theorem batches_snoc {events : List (Event Key)} {event : Event Key}
    (h : ∀ before after drain keys, events = before ++ Event.batch drain keys :: after →
      keys = appendUnique id [] (signalledSince before)) (hevent : ∀ drain keys, event = .batch drain keys →
      keys = appendUnique id [] (signalledSince events)) :
    ∀ before after drain keys, events ++ [event] = before ++ Event.batch drain keys :: after →
      keys = appendUnique id [] (signalledSince before) := by
  intro before after drain keys heq
  rcases List.eq_nil_or_concat after with rfl | ⟨after, last, rfl⟩
  · obtain ⟨rfl, hlast⟩ := List.append_inj' heq rfl
    exact hevent drain keys (List.singleton_inj.1 hlast)
  · rw [List.concat_eq_append, ← List.cons_append, ← List.append_assoc] at heq
    obtain ⟨heq, -⟩ := List.append_inj' heq rfl
    exact h before after drain keys heq

variable {s : Scheduler Key}

theorem Base.schedule (h : Base s) : Inv s.schedule := by
  unfold Scheduler.schedule
  split_ifs with hskip
  · refine ⟨h, fun hpending => .inl ?_⟩
    rcases Bool.or_eq_true_iff.1 hskip with hidle | htimer
    · rcases Bool.or_eq_true_iff.1 hidle with hstopped | hempty
      · exact absurd (h.idle hstopped) hpending
      · exact absurd (List.isEmpty_iff.1 hempty) hpending
    · exact htimer
  · rw [Bool.or_eq_true_iff, not_or] at hskip
    have htimer : s.timer = none := by simpa using hskip.2
    refine ⟨⟨?_, h.single, h.starting, h.idle, h.pending, h.batches⟩, fun _ => .inl rfl⟩
    simp [h.timers, htimer]

theorem Base.cancelTimer (h : Base s) : Base s.cancelTimer ∧ s.cancelTimer.timer = none := by
  unfold Scheduler.cancelTimer
  split
  · next htimer => exact ⟨h, htimer⟩
  · next t htimer =>
      refine ⟨⟨?_, h.single, h.starting, h.idle, h.pending, h.batches⟩, rfl⟩
      simp [h.timers, htimer]

theorem Inv.signal (h : Inv s) (k : Key) : Inv (s.signal k) := by
  unfold Scheduler.signal
  split_ifs with hstopped
  · exact h
  · rw [Bool.not_eq_true] at hstopped
    refine Base.schedule ⟨h.timers, h.single, fun d hd hp => ?_, fun hs => ?_, fun _ => ?_, ?_⟩
    · refine .inr (List.ne_nil_of_mem (a := k) ?_)
      exact appendUnique.mem_id.2 (.inr (by simp))
    · simp [hstopped] at hs
    · simp [h.pending hstopped, appendUnique.append_right]
    · exact batches_snoc h.batches (by simp)

theorem Base.mapDrain (h : Base s) (id : ℕ) {f : Drain Key → Drain Key} (hid : ∀ d, (f d).id = d.id)
    (hstart : ∀ d, (f d).phase = .starting → d.phase = .starting) : Base (s.mapDrain id f) := by
  refine ⟨h.timers, ?_, fun d hd hp => ?_, h.idle, h.pending, h.batches⟩
  · have hsame : ∀ d : Drain Key, (if d.id = id then f d else d).id = d.id := fun d => by
      split_ifs
      · exact hid d
      · rfl
    unfold Single Scheduler.mapDrain
    rw [List.map_map, ← h.single]
    exact List.map_congr_left fun d _ => hsame d
  · obtain ⟨e, he, rfl⟩ := List.mem_map.1 hd
    refine h.starting e he ?_
    split_ifs at hp
    · exact hstart e hp
    · exact hp

theorem Base.drain (h : Base s) : Inv s.drain.1 := by
  obtain ⟨hc, htimer⟩ := h.cancelTimer
  unfold Scheduler.drain
  split_ifs with hstopped
  · exact ⟨h, fun hp => absurd (h.idle hstopped) hp⟩
  · generalize s.cancelTimer = u at hc htimer
    dsimp only
    split
    · next running hrunning =>
        refine ⟨⟨hc.timers, hc.single, hc.starting, hc.idle, hc.pending, hc.batches⟩, fun _ => ?_⟩
        simp [hrunning]
    · next hrunning =>
        have hdrains : u.drains = [] := by
          have hsingle := hc.single
          unfold Single at hsingle
          rw [hrunning] at hsingle
          exact List.map_eq_nil_iff.1 hsingle
        split_ifs with hempty
        · exact ⟨hc, fun hp => absurd (List.isEmpty_iff.1 hempty) hp⟩
        · refine ⟨⟨hc.timers, ?_, fun d _ _ => .inr ?_, hc.idle, hc.pending, hc.batches⟩,
            fun _ => .inr rfl⟩
          · simp [Single, hdrains]
          · simpa using hempty

theorem Base.drainReported (h : Base s) : Inv s.drainReported := by
  have hd := h.drain
  unfold Scheduler.drainReported
  split
  · next u heq => rwa [heq] at hd
  · next u running heq =>
      rw [heq] at hd
      exact ⟨hd.toBase.mapDrain running (fun _ => rfl) (fun _ hp => hp), hd.woken⟩

theorem Inv.stop (h : Inv s) : Inv s.stop := by
  have htimers : ({ s with stopped := true } : Scheduler Key).cancelTimer.timers = [] ∧
      ({ s with stopped := true } : Scheduler Key).cancelTimer.timer = none ∧
      ({ s with stopped := true } : Scheduler Key).cancelTimer.stopped = true := by
    unfold Scheduler.cancelTimer
    split
    · next htimer =>
        have hnone : s.timer = none := htimer
        simp [h.timers, hnone]
    · next t htimer =>
        have hsome : s.timer = some t := htimer
        simp [h.timers, hsome]
  have hkept : ({ s with stopped := true } : Scheduler Key).cancelTimer.drains = s.drains ∧
      ({ s with stopped := true } : Scheduler Key).cancelTimer.current = s.current ∧
      ({ s with stopped := true } : Scheduler Key).cancelTimer.events = s.events := by
    unfold Scheduler.cancelTimer
    split <;> exact ⟨rfl, rfl, rfl⟩
  unfold Scheduler.stop
  generalize ({ s with stopped := true } : Scheduler Key).cancelTimer = u at htimers hkept
  obtain ⟨htimers, htimer, hstopped⟩ := htimers
  obtain ⟨hdrains, hcurrent, hevents⟩ := hkept
  refine ⟨⟨by simp [htimers, htimer], ?_, fun _ _ _ => .inl hstopped, fun _ => rfl, ?_, ?_⟩,
    fun hp => absurd rfl hp⟩
  · simpa [Single, hdrains, hcurrent] using h.single
  · simp [hstopped]
  · simpa [hevents] using h.batches

theorem Inv.fire (h : Inv s) {t : ℕ} (ht : t ∈ s.timers) : Inv { s with timers := s.timers.erase t }.onTimer := by
  have htimer : s.timer = some t := by
    rw [h.timers] at ht
    exact Option.mem_toList.1 ht
  have hbase : Base ({ s with timers := s.timers.erase t, timer := none } : Scheduler Key) := by
    refine ⟨?_, h.single, h.starting, h.idle, h.pending, h.batches⟩
    simp [h.timers, htimer]
  unfold Scheduler.onTimer
  dsimp only
  split_ifs with hcurrent
  · exact ⟨⟨hbase.timers, h.single, h.starting, h.idle, h.pending, h.batches⟩, fun _ => .inr hcurrent⟩
  · exact hbase.drainReported

theorem Base.setPhase (h : Base s) (id : ℕ) {phase : Phase Key}
    (hphase : phase ≠ .starting) : Base (s.setPhase id phase) :=
  h.mapDrain id (fun _ => rfl) (fun _ hp => absurd hp hphase)

theorem Inv.setPhase (h : Inv s) (id : ℕ) {phase : Phase Key}
    (hphase : phase ≠ .starting) : Inv (s.setPhase id phase) :=
  ⟨h.toBase.setPhase id hphase, h.woken⟩

variable {d : Drain Key}

theorem Inv.takeBatch (h : Inv s) (hd : s.drains = [d]) : Inv (s.takeBatch d.id) := by
  have hsingle : ∀ phase : Phase Key, Single (s.setPhase d.id phase) := fun phase => by
    have hs := h.single
    unfold Single at hs ⊢
    rw [setPhase_singleton hd]
    rw [hd] at hs
    exact hs
  have hphase : ∀ phase : Phase Key, phase ≠ .starting →
      ∀ e ∈ (s.setPhase d.id phase).drains, e.phase = .starting → False := by
    intro phase hne e he hp
    rw [setPhase_singleton hd, List.mem_singleton] at he
    exact hne (by rw [← hp, he])
  unfold Scheduler.takeBatch
  dsimp only
  split_ifs with hempty
  · have hnil := List.isEmpty_iff.1 hempty
    refine ⟨⟨h.timers, hsingle _, fun e he hp => (hphase _ (by simp) e he hp).elim, fun _ => rfl,
      fun hs => ?_, h.batches⟩, fun hp => absurd rfl hp⟩
    exact hnil ▸ h.pending hs
  · have hactive : s.stopped = false := by
      by_contra hs
      exact hempty (List.isEmpty_iff.2 (h.idle (Bool.not_eq_false _ ▸ hs)))
    refine ⟨⟨h.timers, hsingle _, fun e he hp => (hphase _ (by simp) e he hp).elim, fun _ => rfl,
      fun _ => ?_, ?_⟩, fun hp => absurd rfl hp⟩
    · exact (congrArg (appendUnique id []) (signalledSince_batch s.events d.id _)).symm
    · refine batches_snoc h.batches ?_
      rintro drain keys ⟨rfl, rfl⟩
      exact h.pending hactive

theorem Inv.resume (h : Inv s) (hd : s.drains = [d]) (fulfilled : Bool) : Inv (s.resume d.id fulfilled) := by
  unfold Scheduler.resume
  split_ifs
  · exact h.takeBatch hd
  · exact h.setPhase d.id (by simp)

theorem Inv.react (h : Inv s) (hd : s.drains = [d])
    (hc : s.current = some d.id) (fulfilled : Bool) : Inv (s.react d fulfilled) := by
  have hdrains : s.drains.filter (·.id ≠ d.id) = [] := by simp [hd]
  have hbase : Base ({ s with drains := [], current := none } : Scheduler Key) :=
    ⟨h.timers, rfl, by simp, h.idle, h.pending, h.batches⟩
  have hsettled : Inv (({ s with drains := [] } : Scheduler Key).onSettled d.id) := by
    unfold Scheduler.onSettled
    dsimp only
    rw [if_neg (by simp [hc])]
    split_ifs with hidle hrequested
    · refine ⟨hbase, fun hp => ?_⟩
      rcases Bool.or_eq_true_iff.1 hidle with hstopped | hempty
      · exact absurd (h.idle hstopped) hp
      · exact absurd (List.isEmpty_iff.1 hempty) hp
    · exact Base.drainReported ⟨hbase.timers, hbase.single, hbase.starting, hbase.idle, hbase.pending, hbase.batches⟩
    · exact hbase.schedule
  unfold Scheduler.react
  rw [hdrains]
  dsimp only
  split_ifs
  · refine ⟨⟨hsettled.timers, hsettled.single, hsettled.starting, hsettled.idle, fun hs => ?_,
      batches_snoc hsettled.batches (by simp)⟩, hsettled.woken⟩
    rw [signalledSince_error]
    exact hsettled.pending hs
  · exact hsettled

/-- Every action the host and the callers may take, with what it does. -/
inductive Moves (s : Scheduler Key) : Action Key → Scheduler Key → Prop where
  | signal (k : Key) : Moves s (.signal k) (s.signal k)
  | schedule : Moves s .schedule s.schedule
  | drain : Moves s .drain s.drain.1
  | stop : Moves s .stop s.stop
  | fire (t : ℕ) (ht : t ∈ s.timers) :
      Moves s (.fire t) { s with timers := s.timers.erase t }.onTimer
  | start (d : Drain Key) (hd : s.drains = [d]) (hp : d.phase = .starting) :
      Moves s (.start d.id) (s.takeBatch d.id)
  | answer (d : Drain Key) (fulfilled : Bool) (hd : s.drains = [d])
      (hp : ∃ keys, d.phase = .processing keys) :
      Moves s (.answer d.id fulfilled) (s.setPhase d.id (.answered fulfilled))
  | resume (d : Drain Key) (fulfilled : Bool) (hd : s.drains = [d])
      (hp : d.phase = .answered fulfilled) : Moves s (.resume d.id) (s.resume d.id fulfilled)
  | react (d : Drain Key) (fulfilled : Bool) (hd : s.drains = [d]) (hc : s.current = some d.id)
      (hp : d.phase = .settled fulfilled) : Moves s (.react d.id) (s.react d fulfilled)

theorem Base.moves {s t : Scheduler Key} {action : Action Key} (h : Base s)
    (hstep : MailboxScheduler.step s action = .ok t) : Moves s action t := by
  cases action with
  | signal k => exact Except.ok.inj hstep ▸ .signal k
  | schedule => exact Except.ok.inj hstep ▸ .schedule
  | drain => exact Except.ok.inj hstep ▸ .drain
  | stop => exact Except.ok.inj hstep ▸ .stop
  | fire timer =>
    unfold MailboxScheduler.step at hstep
    dsimp only at hstep
    split_ifs at hstep with ht
    exact Except.ok.inj hstep ▸ .fire timer ht
  | start id | answer id fulfilled | resume id | react id =>
    unfold MailboxScheduler.step at hstep
    dsimp only at hstep
    split at hstep
    · next hfind =>
        obtain ⟨hd, hc, rfl⟩ := h.single.eq_of_find hfind
        cases hstep
        first
          | exact .start _ hd rfl
          | exact .answer _ _ hd ⟨_, rfl⟩
          | exact .resume _ _ hd rfl
          | exact .react _ _ hd hc rfl
    · cases hstep

theorem Inv.step {s t : Scheduler Key} {action : Action Key} (h : Inv s) (hstep : step s action = .ok t) : Inv t := by
  cases h.toBase.moves hstep with
  | signal k => exact h.signal k
  | schedule => exact h.toBase.schedule
  | drain => exact h.toBase.drain
  | stop => exact h.stop
  | fire timer ht => exact h.fire ht
  | start d hd hp => exact h.takeBatch hd
  | answer d fulfilled hd hp => exact h.setPhase d.id (by simp)
  | resume d fulfilled hd hp => exact h.resume hd fulfilled
  | react d fulfilled hd hc hp => exact h.react hd hc fulfilled

end MailboxScheduler
