import Yui.KeyedWorkQueueReplay

/-!
# Stopping and draining the keyed queue

The stop promise is resolved exactly while the queue is closed and idle, and drain promises are
resolved only when the queue is idle. A closed queue without ready and dirty keys is finished: it
never leases again.
-/

open FallibleRun

namespace KeyedWorkQueue

variable {Key : Type*}

/-- Closed, with nothing left to lease. -/
structure Finished (v : View Key) : Prop where
  closed : v.closed = true
  ready : v.ready = []
  clean : ∀ k t, v.phase k ≠ some (.processing true t)

@[simp] theorem settle_closed (v : View Key) : v.settle.closed = v.closed := by
  unfold View.settle
  split_ifs <;> rfl

variable {v : View Key}

theorem Finished.settle (h : Finished v) : Finished v.settle :=
  ⟨by simp [h.closed], by simp [h.ready], by simpa using h.clean⟩

theorem Inv.finished_of_aborted (hv : Inv v) (ha : v.aborted = true) : Finished v := by
  have hclean := (hv.aborted_clean ha).2
  refine ⟨hv.aborted_closed ha, List.eq_nil_iff_forall_not_mem.2 fun k hk => ?_, fun k => (hclean k).2⟩
  exact (hclean k).1 ((hv.ready_iff k).1 hk)

theorem Inv.finished_of_stopped (hv : Inv v) (hs : v.stop = some true) : Finished v := by
  have hidle := hv.stopped_idle hs
  refine ⟨by rw [hv.closed_iff, hs]; rfl, List.eq_nil_iff_forall_not_mem.2 fun k hk => ?_,
    fun k t ht => ?_⟩
  · have hq := (hv.ready_iff k).1 hk
    rw [hidle k] at hq
    cases hq
  · rw [hidle k] at ht
    cases ht

theorem Inv.stopped_iff (hv : Inv v) : v.stop = some true ↔ v.closed = true ∧ v.Idle :=
  ⟨fun hs => ⟨(hv.finished_of_stopped hs).closed, hv.stopped_idle hs⟩,
    fun h => (hv.stopped h.1 h.2).1⟩

variable {p : ℕ}

theorem mem_settleEvents_drained (h : .drained p ∈ v.settleEvents) : v.Idle := by
  by_contra hidle
  simp [View.settleEvents, hidle] at h

theorem taken_mem_settleEvents (h : v.settle.stop = some true)
    (hs : v.stop ≠ some true) (hp : p ∈ v.waiters) : .taken p none ∈ v.settleEvents := by
  unfold View.settle at h
  unfold View.settleEvents
  split_ifs at h with hidle hclosed
  · simp [hidle, hclosed, hp]
  · exact absurd h hs
  · exact absurd h hs

variable {k : Key}

theorem not_aborted_of_owed (hv : Inv v) (h : Owed v k) : v.aborted = false := by
  by_contra ha
  rw [Bool.not_eq_false] at ha
  have hfinished := hv.finished_of_aborted ha
  rcases h with hr | ⟨t, ht⟩
  · simp [hfinished.ready] at hr
  · exact hfinished.clean k t ht

variable [DecidableEq Key]

variable {events : List (Event Key)} {call : Call Key}

theorem Finished.step {v w : View Key}
    (h : Finished v) (hstep : Step v call w events) : Finished w ∧ leasedKeys events = [] := by
  have hclosed := h.closed
  cases hstep with
  | signalRejected k _ | takeAborted p _ | takeStopped p _ _ | drainIdle p _ | abortAgain _ =>
    exact ⟨h, by simp⟩
  | signalIdle k hopen _ _ | signalHanded k p ws hopen _ _ _ | signalQueued k hopen _
  | signalDirty k d t hopen _ => simp [hclosed] at hopen
  | takeReady p k rest habort hr => simp [h.ready] at hr
  | takeWaits p _ _ _ | drainWaits p _ => exact ⟨⟨h.closed, h.ready, h.clean⟩, rfl⟩
  | shutdown => exact ⟨Finished.settle ⟨rfl, h.ready, h.clean⟩, by simp⟩
  | abort _ =>
    refine ⟨Finished.settle ⟨rfl, rfl, fun k t ht => ?_⟩, by simp⟩
    have hd := (droppedPhase_processing.1 ht).1
    cases hd
  | doneReplay item _ _ hk _ | doneHanded item p ws _ _ hk _ _ => exact absurd hk (h.clean _ _)
  | doneFinal item d _ _ _ =>
    refine ⟨Finished.settle ⟨hclosed, h.ready, fun k t ht => ?_⟩, by simp⟩
    by_cases hk : k = item.key
    · rw [hk, setPhase_phase_self] at ht
      cases ht
    · rw [setPhase_phase_of_ne _ hk] at ht
      exact h.clean k t ht

theorem Finished.run {v w : View Key} {calls : List (Call Key)}
    (hrun : Run v calls w events) (h : Finished v) : leasedKeys events = [] := by
  induction hrun with
  | nil => rfl
  | cons hstep _ ih =>
    obtain ⟨hu, hleased⟩ := h.step hstep
    rw [leasedKeys_append, hleased, ih hu, List.append_nil]
  | raised _ _ ih => exact ih h

theorem idle_of_drained {v w : View Key} (hstep : Step v call w events) (h : .drained p ∈ events) : w.Idle := by
  have hsettle : ∀ {u : View Key}, .drained p ∈ u.settleEvents → u.settle.Idle := fun hu k => by
    rw [settle_phase]
    exact mem_settleEvents_drained hu k
  cases hstep with
  | drainIdle _ hidle => exact hidle
  | shutdown => exact hsettle h
  | abort _ =>
    rcases List.mem_append.1 h with h | h
    · simp at h
    · exact hsettle h
  | doneFinal item d _ _ _ =>
    rcases List.mem_cons.1 h with h | h
    · cases h
    · exact hsettle h
  | signalRejected | signalIdle | signalHanded | signalQueued | signalDirty | takeAborted
  | takeReady | takeStopped | takeWaits | drainWaits | abortAgain | doneReplay | doneHanded =>
    simp at h

theorem taken_of_stopped {v w : View Key}
    (hstep : Step v call w events) (hv : v.stop ≠ some true) (hw : w.stop = some true)
    (hp : p ∈ v.waiters) : .taken p none ∈ events := by
  have hclose : v.close.stop ≠ some true := by
    simp only [View.close, ne_eq, Option.some.injEq]
    cases hs : v.stop with
    | none => simp
    | some b => simpa [hs] using hv
  cases hstep with
  | shutdown => exact taken_mem_settleEvents hw hclose hp
  | abort _ => exact List.mem_append_left _ (List.mem_map_of_mem hp)
  | doneFinal item d _ _ _ => exact List.mem_cons_of_mem _ (taken_mem_settleEvents hw hv hp)
  | signalRejected | signalIdle | signalHanded | signalQueued | signalDirty | takeAborted
  | takeReady | takeStopped | takeWaits | drainIdle | drainWaits | abortAgain | doneReplay
  | doneHanded => exact absurd hw hv

variable {q : Queue Key}

theorem take_leases (hq : Inv q.view) {rest : List Key} (ha : q.aborted = false) (hr : q.ready.live = k :: rest) :
    ∃ next events, step q .take = .ok next ∧ next.events = q.events ++ events ∧
      leasedKeys events = [k] ∧ next.ready.live = rest ∧ next.aborted = false := by
  obtain ⟨next, events, hnext, hevents, hmove⟩ := Queue.take_refines hq
  refine ⟨next, events, hnext, hevents, ?_⟩
  have haborted : q.view.aborted = false := ha
  have hready : q.view.ready = k :: rest := hr
  generalize hw : next.view = w at hmove
  have hnextReady : next.ready.live = w.ready := congrArg View.ready hw
  have hnextAborted : next.aborted = w.aborted := congrArg View.aborted hw
  rw [hnextReady, hnextAborted]
  cases hmove with
  | takeAborted p h => simp [haborted] at h
  | takeReady p j rest' _ hr' =>
    rw [hready, List.cons.injEq] at hr'
    obtain ⟨rfl, rfl⟩ := hr'
    exact ⟨by simp [View.item], rfl, haborted⟩
  | takeStopped p hclosed hidle =>
    have hk := (hq.ready_iff k).1 (by simp [hready])
    rw [hidle k] at hk
    cases hk
  | takeWaits p _ hr' _ => simp [hready] at hr'

theorem takes_lease (hq : Inv q.view) (ha : q.aborted = false) (hk : k ∈ q.ready.live) : ∃ n events,
      (run step q (List.replicate n .take)).events = q.events ++ events ∧ k ∈ leasedKeys events := by
  generalize hready : q.ready.live = ready at hk
  induction ready generalizing q with
  | nil => cases hk
  | cons j rest ih =>
    obtain ⟨next, events, hnext, hevents, hleased, hrest, hactive⟩ := take_leases hq ha hready
    rcases List.mem_cons.1 hk with rfl | hk
    · refine ⟨1, events, ?_, by simp [hleased]⟩
      rw [List.replicate_one, run_cons, run_nil, attempt_ok hnext, hevents]
    · have hinv : Inv next.view := by
        rcases step_refines hq .take with ⟨_, _, h, _, hmove⟩ | ⟨_, h, _⟩
        · rw [hnext, Except.ok.injEq] at h
          exact h ▸ hq.step hmove
        · cases h
      obtain ⟨n, more, hmore, hmem⟩ := ih hinv hactive hrest hk
      refine ⟨n + 1, events ++ more, ?_, by simp [hmem]⟩
      rw [List.replicate_succ, run_cons, attempt_ok hnext, hmore, hevents, List.append_assoc]

theorem owed_served (hq : Inv q.view) (h : Owed q.view k) :
    ∃ calls events, (∀ call ∈ calls, call = .take ∨ ∃ item, call = .done item) ∧
      (run step q calls).events = q.events ++ events ∧ k ∈ leasedKeys events := by
  have htakes : ∀ n, ∀ call ∈ List.replicate n (.take : Call Key),
      call = .take ∨ ∃ item, call = .done item :=
    fun n call hc => .inl (List.eq_of_mem_replicate hc)
  rcases h with hr | ⟨t, ht⟩
  · obtain ⟨n, events, hevents, hmem⟩ := takes_lease hq (not_aborted_of_owed hq (.inl hr)) hr
    exact ⟨_, events, htakes n, hevents, hmem⟩
  · have hopen : q.view.Open ⟨k, t⟩ := (hq.open_iff _).2 ⟨true, ht⟩
    rcases step_refines hq (.done ⟨k, t⟩) with
      ⟨next, events, hnext, hevents, hmove⟩ | ⟨_, hc, hnot, _⟩
    · have hinv := hq.step hmove
      rcases ((replay_of_done hq hmove ht).1 rfl).2 with hready | ⟨-, hleased⟩
      · have hmem : k ∈ next.ready.live := by
          change k ∈ next.view.ready
          simp [hready]
        obtain ⟨n, more, hmore, hmem⟩ := takes_lease hinv (not_aborted_of_owed hinv (.inl hmem)) hmem
        refine ⟨.done ⟨k, t⟩ :: List.replicate n .take, events ++ more, ?_, ?_, by simp [hmem]⟩
        · intro call hcall
          rcases List.mem_cons.1 hcall with rfl | hcall
          · exact .inr ⟨_, rfl⟩
          · exact htakes n call hcall
        · rw [run_cons, attempt_ok hnext, hmore, hevents, List.append_assoc]
      · refine ⟨[.done ⟨k, t⟩], events, by simp, ?_, by simp [hleased]⟩
        rw [run_cons, run_nil, attempt_ok hnext, hevents]
    · cases hc
      exact absurd hopen hnot

/-- What the queue grants to takers, drains and stops, in one state and for every run that starts
there. -/
structure StopProtocol (q : Queue Key) : Prop where
  apart : q.ready.live = [] ∨ q.takeWaiters.live = []
  drained : ∀ call next events p, step q call = .ok next → next.events = q.events ++ events →
    .drained p ∈ events → next.states.keys = []
  stopped_iff : q.closeCompletion = some true ↔ q.closed = true ∧ q.states.keys = []
  untaken : q.closeCompletion = some true → q.takeWaiters.live = []
  taken : ∀ call next events p, step q call = .ok next → next.events = q.events ++ events →
    q.closeCompletion ≠ some true → next.closeCompletion = some true →
    p ∈ q.takeWaiters.live → .taken p none ∈ events
  stopped : q.closeCompletion = some true → ∀ calls,
    leasedKeys (run step q calls).events = leasedKeys q.events
  aborted : ∀ calls,
    leasedKeys (run step q (.abortPending :: calls)).events = leasedKeys q.events
  graceful : ∀ k calls, Owed q.view k → .abortPending ∉ calls →
    ∃ events, (run step q (.shutdown :: calls)).events = q.events ++ events ∧
      (k ∈ leasedKeys events ∨
        (Owed (run step q (.shutdown :: calls)).view k ∧
          (run step q (.shutdown :: calls)).closeCompletion ≠ some true ∧
          ∃ more served, (∀ call ∈ more, call = .take ∨ ∃ item, call = .done item) ∧
            (run step q (.shutdown :: calls ++ more)).events = q.events ++ events ++ served ∧
            k ∈ leasedKeys served))

theorem graceful_of_owed (hq : Inv q.view) {calls : List (Call Key)}
    (h : Owed q.view k) (hcalls : .abortPending ∉ calls) : ∃ events, (run step q calls).events = q.events ++ events ∧
      (k ∈ leasedKeys events ∨ (Owed (run step q calls).view k ∧ (run step q calls).closeCompletion ≠ some true ∧
          ∃ more served, (∀ call ∈ more, call = .take ∨ ∃ item, call = .done item) ∧
            (run step q (calls ++ more)).events = q.events ++ events ++ served ∧ k ∈ leasedKeys served)) := by
  obtain ⟨events, hevents, hrun⟩ := run_refines hq calls
  refine ⟨events, hevents, ?_⟩
  rcases h.run hrun hq hcalls with howed | hleased
  · have hinv := hrun.inv hq
    obtain ⟨more, served, hmore, hserved, hmem⟩ := owed_served hinv howed
    refine .inr ⟨howed, fun hs => ?_, more, served, hmore, ?_, hmem⟩
    · have hfinished := hinv.finished_of_stopped hs
      exact hinv.toBase.not_owed (fun hk => by simpa [hfinished.ready] using (hinv.ready_iff k).2 hk)
        (hfinished.clean k) howed
    · rw [run_append, hserved, hevents]
  · exact .inl hleased

theorem aborted_of_abort {v w : View Key}
    (hstep : Step v .abortPending w events) : w.aborted = true ∧ leasedKeys events = [] := by
  cases hstep with
  | abortAgain ha => exact ⟨ha, rfl⟩
  | abort _ => simp [View.drop]

theorem stopProtocol (past : List (Call Key)) : StopProtocol (reached past) where
  apart := (reached_inv past).apart
  drained call next events p hnext hevents hp :=
    next.idle_iff.2 (idle_of_drained (step_of_ok (reached_inv past) hnext hevents) hp)
  stopped_iff := by
    rw [Queue.idle_iff]
    exact (reached_inv past).stopped_iff
  untaken hs := by
    have hidle := (reached_inv past).stopped_iff.1 hs
    exact ((reached_inv past).stopped hidle.1 hidle.2).2
  taken call next events p hnext hevents hv hw hp :=
    taken_of_stopped (step_of_ok (reached_inv past) hnext hevents) hv hw hp
  stopped hs calls := by
    obtain ⟨events, hevents, hrun⟩ := run_refines (reached_inv past) calls
    rw [hevents, leasedKeys_append, ((reached_inv past).finished_of_stopped hs).run hrun, List.append_nil]
  aborted calls := by
    have hq := reached_inv past
    obtain ⟨first, hfirst, hmove⟩ := Queue.abortPending_refines hq
    have hinv := hq.step hmove
    obtain ⟨haborted, hnone⟩ := aborted_of_abort hmove
    obtain ⟨events, hevents, hrun⟩ := run_refines hinv calls
    change leasedKeys (run step (reached past).abortPending calls).events = _
    rw [hevents, hfirst, leasedKeys_append, leasedKeys_append, hnone,
      (hinv.finished_of_aborted haborted).run hrun, List.append_nil, List.append_nil]
  graceful k calls h hcalls :=
    graceful_of_owed (reached_inv past) h (by simpa using hcalls)

end KeyedWorkQueue
