import Yui.FallibleRun
import Yui.KeyedWorkQueueInvariant

/-!
# The keyed queue refines its transition system

Under the invariant every call either takes a transition of the view and records its events, or
completes an item that is not open and raises without changing anything. The two failures that the
queue guards against never happen.
-/

namespace KeyedWorkQueue

variable {Key : Type*} [DecidableEq Key]

open View Checked

namespace Queue

omit [DecidableEq Key] in
@[simp] theorem events_emit (q : Queue Key) (events : List (Event Key)) :
    (q.emit events).events = q.events ++ events := rfl

def view (q : Queue Key) : View Key where
  phase k := q.states.lookup k
  ready := q.ready.live
  waiters := q.takeWaiters.live
  drains := q.drainWaiters
  closed := q.closed
  aborted := q.aborted
  stop := q.closeCompletion
  nextToken := q.nextToken
  leases := q.leases
  completed := q.completed

@[simp] theorem view_emit (q : Queue Key) (events : List (Event Key)) :
    (q.emit events).view = q.view := rfl

theorem idle_iff (q : Queue Key) : q.states.keys = [] ↔ q.view.Idle := by
  simp only [View.Idle, view, AList.lookup_eq_none, AList.mem_keys]
  exact List.eq_nil_iff_forall_not_mem

theorem lookup_insert_eq (states : AList (fun _ : Key => KeyState)) (k : Key) (s : KeyState) :
    (fun j => (states.insert k s).lookup j) = Function.update (fun j => states.lookup j) k (some s) := by
  funext j
  by_cases hj : j = k
  · subst hj
    simp
  · simp [Function.update_of_ne hj, AList.lookup_insert_ne hj]

theorem lookup_erase_eq (states : AList (fun _ : Key => KeyState)) (k : Key) :
    (fun j => (states.erase k).lookup j) = Function.update (fun j => states.lookup j) k none := by
  funext j
  by_cases hj : j = k
  · subst hj
    simp
  · simp [Function.update_of_ne hj, AList.lookup_erase_ne hj]

variable {q : Queue Key}

theorem leaseReadyWork_spec {k : Key} {rest : List Key}
    (hr : q.view.ready = k :: rest) (hk : q.view.phase k = some .queued) :
    ∃ leased, q.leaseReadyWork = .ok (q.view.item k, leased) ∧ leased.view = { q.view.lease k with ready := rest } ∧
      leased.events = q.events ++ [Event.leased (q.view.item k)] := by
  obtain ⟨b, hshift, hlive⟩ := HeadArray.shift_of_live hr
  have hlookup : q.states.lookup k = some .queued := hk
  refine ⟨_, by rw [leaseReadyWork, hshift]; simp only [hlookup]; rfl, ?_, rfl⟩
  ext1 <;> try rfl
  · exact lookup_insert_eq q.states k _
  · exact (HeadArray.live_compact b).trans hlive

theorem enqueue_waiting (k : Key) (hw : q.view.waiters = []) :
    ∃ queued, q.enqueue k = .ok queued ∧ queued.view = q.view.queue k ∧
      queued.events = q.events ++ [Event.ready k] := by
  have hlive : q.takeWaiters.live = [] := hw
  have henqueue : q.enqueue k = .ok { ({ q with
      states := q.states.insert k .queued, ready := q.ready.push k } : Queue Key).emit [.ready k] with
        takeWaiters := q.takeWaiters.compact } := by
    simp only [enqueue, dispatchReadyWork, emit, hlive, List.length_nil, dispatchLoop, ok_bind]
  refine ⟨_, henqueue, ?_, rfl⟩
  ext1 <;> try rfl
  · exact lookup_insert_eq q.states k _
  · exact HeadArray.live_push q.ready k
  · exact HeadArray.live_compact q.takeWaiters

theorem enqueue_handed (k : Key) {p : ℕ} {ws : List ℕ} (hr : q.view.ready = []) (hw : q.view.waiters = p :: ws) :
    ∃ handed, q.enqueue k = .ok handed ∧ handed.view = { q.view.lease k with waiters := ws } ∧
      handed.events = q.events ++
        [Event.ready k, Event.leased (q.view.item k), Event.taken p (some (q.view.item k))] := by
  have hlive : q.takeWaiters.live = p :: ws := hw
  have hempty : q.ready.live = [] := hr
  obtain ⟨b, hshift, hrest⟩ := HeadArray.shift_of_live hlive
  let pushed : Queue Key := { q with states := q.states.insert k .queued, ready := q.ready.push k }.emit [.ready k]
  let taking : Queue Key := { pushed with takeWaiters := b }
  have hready : taking.view.ready = [k] := by
    change (q.ready.push k).live = [k]
    rw [HeadArray.live_push, hempty, List.nil_append]
  have hqueued : taking.view.phase k = some .queued := AList.lookup_insert q.states
  obtain ⟨leased, hlease, hview, hevents⟩ := leaseReadyWork_spec hready hqueued
  have hnext : leased.ready.hasNext = false := HeadArray.live_eq_nil_iff.mp (congrArg View.ready hview)
  have hstop : ∀ turns, dispatchLoop turns (leased.emit [.taken p (some (q.view.item k))]) =
      .ok (leased.emit [.taken p (some (q.view.item k))]) := by
    intro turns
    cases turns with
    | zero => rfl
    | succ turns => exact if_neg (by simp [emit, hnext])
  have hloop : dispatchLoop (ws.length + 1) pushed =
      .ok (leased.emit [.taken p (some (q.view.item k))]) := by
    have hhas : pushed.ready.hasNext = true := HeadArray.hasNext_of_live hready
    have hwaiting : pushed.takeWaiters.shift = some (p, b) := hshift
    rw [dispatchLoop, if_pos hhas]
    simp only [hwaiting]
    exact (congrArg (fun r => r >>= _) hlease).trans (hstop ws.length)
  refine ⟨{ leased.emit [.taken p (some (q.view.item k))] with
    takeWaiters := leased.takeWaiters.compact }, ?_, ?_, ?_⟩
  · have hlength : pushed.takeWaiters.live.length = ws.length + 1 := congrArg List.length hlive
    change pushed.dispatchReadyWork = _
    rw [dispatchReadyWork, hlength, hloop, ok_bind]
    rfl
  · have hcompact : leased.takeWaiters.compact.live = leased.view.waiters := HeadArray.live_compact leased.takeWaiters
    have hhanded : ({ leased.emit [.taken p (some (q.view.item k))] with
        takeWaiters := leased.takeWaiters.compact } : Queue Key).view = leased.view := by
      ext1 <;> try rfl
      exact hcompact
    rw [hhanded, hview]
    ext1 <;> try rfl
    · change Function.update (fun j => (q.states.insert k .queued).lookup j) k _ = _
      rw [lookup_insert_eq, Function.update_idem]
      rfl
    · exact hr.symm
    · exact hrest
  · change leased.events ++ _ = _
    rw [hevents]
    simp [taking, pushed, emit, view, View.item]

theorem settleIdleWaiters_view (q : Queue Key) : q.settleIdleWaiters.view = q.view.settle ∧
      q.settleIdleWaiters.events = q.events ++ q.view.settleEvents := by
  unfold settleIdleWaiters View.settle View.settleEvents
  by_cases hidle : q.view.Idle
  · have hkeys := q.idle_iff.2 hidle
    rw [if_neg (not_not.2 hkeys), if_pos hidle, if_pos hidle]
    have hclosed : q.view.closed = q.closed := rfl
    cases hc : q.closed with
    | true =>
      simp only [hclosed, hc, emit, if_true]
      rcases hs : q.closeCompletion with _ | _ | _ <;> simp [resolveTakeWaiters, resolveClose, emit, hs, view]
    | false =>
      simp only [hclosed, hc, emit, if_false, Bool.false_eq_true, List.append_nil]
      exact ⟨rfl, rfl⟩
  · have hkeys := fun hk => hidle (q.idle_iff.1 hk)
    rw [if_pos hkeys, if_neg hidle, if_neg hidle, List.append_nil]
    exact ⟨rfl, rfl⟩

theorem lookup_abortKey (states : AList (fun _ : Key => KeyState)) (k j : Key) : (abortKey states k).lookup j =
      if j = k then (states.lookup j).bind droppedPhase else states.lookup j := by
  unfold abortKey
  by_cases hj : j = k
  · subst hj
    rw [if_pos rfl]
    rcases hs : states.lookup j with _ | _ | ⟨d, t⟩
    · simp [hs]
    · simp [droppedPhase]
    · simp [droppedPhase]
  · rw [if_neg hj]
    rcases states.lookup k with _ | _ | ⟨d, t⟩
    · rfl
    · exact AList.lookup_erase_ne hj
    · exact AList.lookup_insert_ne hj

theorem droppedPhase_bind (s : Option KeyState) : (s.bind droppedPhase).bind droppedPhase = s.bind droppedPhase := by
  rcases s with _ | _ | ⟨d, t⟩ <;> rfl

theorem lookup_foldl_abortKey (keys : List Key) (states : AList (fun _ : Key => KeyState))
    (j : Key) : (keys.foldl abortKey states).lookup j =
      if j ∈ keys then (states.lookup j).bind droppedPhase else states.lookup j := by
  induction keys generalizing states with
  | nil => simp
  | cons k keys ih =>
    rw [List.foldl_cons, ih, lookup_abortKey]
    by_cases hj : j = k
    · simp [hj, droppedPhase_bind]
    · simp [hj]

theorem lookup_dropped (states : AList (fun _ : Key => KeyState)) :
    (fun j => (states.keys.foldl abortKey states).lookup j) = fun j => (states.lookup j).bind droppedPhase := by
  funext j
  rw [lookup_foldl_abortKey]
  split_ifs with hj
  · rfl
  · rw [← AList.mem_keys, ← AList.lookup_eq_none] at hj
    simp [hj]

theorem setState_view (q : Queue Key) (k : Key) (s : KeyState) :
    ({ q with states := q.states.insert k s } : Queue Key).view = q.view.setPhase k (some s) := by
  ext1 <;> try rfl
  exact lookup_insert_eq q.states k s

theorem eraseState_view (q : Queue Key) (k : Key) :
    ({ q with states := q.states.erase k } : Queue Key).view = q.view.setPhase k none := by
  ext1 <;> try rfl
  exact lookup_erase_eq q.states k

theorem beginClose_view (h : q.closed = q.closeCompletion.isSome) :
    q.beginClose.view = q.view.close ∧ q.beginClose.events = q.events := by
  unfold beginClose
  cases hs : q.closeCompletion with
  | none =>
    refine ⟨?_, rfl⟩
    ext1 <;> try rfl
    exact (congrArg (fun o => some (Option.getD o false)) hs).symm
  | some b =>
    rw [hs] at h
    refine ⟨?_, rfl⟩
    ext1 <;> try rfl
    · exact h
    · change q.closeCompletion = some (q.closeCompletion.getD false)
      rw [hs]
      rfl

theorem signal_refines (hq : Inv q.view) (k : Key) :
    ∃ next events, q.signal k = .ok next ∧ next.events = q.events ++ events ∧
      Step q.view (.signal k) next.view events := by
  unfold signal
  by_cases hclosed : q.closed = true
  · rw [if_pos hclosed]
    exact ⟨_, _, rfl, rfl, .signalRejected q.view k hclosed⟩
  · rw [if_neg hclosed]
    have hc : q.view.closed = false := Bool.not_eq_true _ ▸ hclosed
    rcases hs : q.states.lookup k with _ | _ | ⟨d, t⟩
    · rcases hw : q.view.waiters with _ | ⟨p, ws⟩
      · obtain ⟨queued, henq, hview, hevents⟩ := enqueue_waiting k hw
        refine ⟨queued.emit [.signalled k true], [.ready k, .signalled k true], ?_, ?_, ?_⟩
        · simp only [henq, ok_bind]
        · simp [hevents]
        · rw [view_emit, hview]
          exact .signalIdle q.view k hc hs hw
      · have hr : q.view.ready = [] := hq.apart.resolve_right (by simp [hw])
        obtain ⟨handed, henq, hview, hevents⟩ := enqueue_handed k hr hw
        refine ⟨handed.emit [.signalled k true], [.ready k, .leased (q.view.item k),
          .taken p (some (q.view.item k)), .signalled k true], ?_, ?_, ?_⟩
        · simp only [henq, ok_bind]
        · simp [hevents]
        · rw [view_emit, hview]
          exact .signalHanded q.view k p ws hc hs hr hw
    · exact ⟨_, _, rfl, rfl, .signalQueued q.view k hc hs⟩
    · refine ⟨_, _, rfl, rfl, ?_⟩
      rw [view_emit, setState_view]
      exact .signalDirty q.view k d t hc hs

theorem take_refines (hq : Inv q.view) : ∃ next events, q.take = .ok next ∧ next.events = q.events ++ events ∧
      Step q.view .take next.view events := by
  let asked : Queue Key := { q with nextPromise := q.nextPromise + 1 }
  have htake : q.take = if asked.aborted then .ok (asked.emit [.taken q.nextPromise none])
      else if asked.ready.hasNext then asked.leaseReadyWork >>= fun r =>
        .ok (r.2.emit [.taken q.nextPromise (some r.1)])
      else if asked.closed ∧ asked.states.keys = [] then
        .ok (asked.emit [.taken q.nextPromise none])
      else .ok { asked with takeWaiters := asked.takeWaiters.push q.nextPromise } := rfl
  rw [htake]
  by_cases haborted : asked.aborted = true
  · rw [if_pos haborted]
    exact ⟨_, _, rfl, rfl, .takeAborted q.view q.nextPromise haborted⟩
  rw [if_neg haborted]
  have ha : q.view.aborted = false := Bool.not_eq_true _ ▸ haborted
  rcases hr : q.view.ready with _ | ⟨k, rest⟩
  · have hnext : asked.ready.hasNext = false := HeadArray.live_eq_nil_iff.1 hr
    rw [hnext, if_neg Bool.false_ne_true]
    by_cases hstop : asked.closed = true ∧ asked.states.keys = []
    · rw [if_pos hstop]
      exact ⟨_, _, rfl, rfl, .takeStopped q.view q.nextPromise hstop.1 (q.idle_iff.1 hstop.2)⟩
    · rw [if_neg hstop]
      refine ⟨_, [], rfl, (List.append_nil _).symm, ?_⟩
      have hview : ({ asked with takeWaiters := asked.takeWaiters.push q.nextPromise } :
          Queue Key).view = { q.view with waiters := q.view.waiters ++ [q.nextPromise] } := by
        ext1 <;> try rfl
        exact HeadArray.live_push q.takeWaiters q.nextPromise
      rw [hview]
      exact .takeWaits q.view q.nextPromise ha hr (fun h => hstop ⟨h.1, q.idle_iff.2 h.2⟩)
  · have hnext : asked.ready.hasNext = true := HeadArray.hasNext_of_live hr
    have hk : asked.view.phase k = some .queued := (hq.ready_iff k).1 (by simp [hr])
    have hready : asked.view.ready = k :: rest := hr
    obtain ⟨leased, hlease, hview, hevents⟩ := leaseReadyWork_spec hready hk
    refine ⟨leased.emit [.taken q.nextPromise (some (q.view.item k))],
      [.leased (q.view.item k), .taken q.nextPromise (some (q.view.item k))], ?_, ?_, ?_⟩
    · rw [if_pos hnext, hlease, ok_bind]
      rfl
    · rw [events_emit, hevents, List.append_assoc]
      rfl
    · rw [view_emit, hview]
      exact .takeReady q.view q.nextPromise k rest ha hr

theorem drain_refines (q : Queue Key) :
    ∃ events, q.drain.events = q.events ++ events ∧ Step q.view .drain q.drain.view events := by
  unfold drain
  by_cases hidle : q.states.keys = []
  · simp only [hidle, if_true]
    exact ⟨_, rfl, .drainIdle q.view q.nextPromise (q.idle_iff.1 hidle)⟩
  · simp only [hidle, if_false]
    exact ⟨[], (List.append_nil _).symm, .drainWaits q.view q.nextPromise (fun h => hidle (q.idle_iff.2 h))⟩

theorem shutdown_refines (hq : Inv q.view) : ∃ events, q.shutdown.events = q.events ++ events ∧
      Step q.view .shutdown q.shutdown.view events := by
  obtain ⟨hview, hevents⟩ := beginClose_view hq.closed_iff
  obtain ⟨hsettle, hsettled⟩ := q.beginClose.settleIdleWaiters_view
  rw [hview] at hsettle hsettled
  rw [hevents] at hsettled
  refine ⟨_, hsettled, ?_⟩
  rw [shutdown, hsettle]
  exact .shutdown q.view

theorem abortPending_refines (hq : Inv q.view) : ∃ events, q.abortPending.events = q.events ++ events ∧
      Step q.view .abortPending q.abortPending.view events := by
  obtain ⟨hview, hevents⟩ := beginClose_view hq.closed_iff
  have habort : q.beginClose.aborted = q.view.aborted := congrArg View.aborted hview
  unfold abortPending
  by_cases ha : q.view.aborted = true
  · rw [if_pos (habort.trans ha)]
    have hclosed : q.view.close = q.view := by
      have hc := hq.aborted_closed ha
      have hs := hq.closed_iff
      rw [hc] at hs
      ext1 <;> try rfl
      · exact hc.symm
      · obtain ⟨b, hb⟩ := Option.isSome_iff_exists.1 hs.symm
        simp [View.close, hb]
    refine ⟨[], by rw [hevents, List.append_nil], ?_⟩
    rw [hview, hclosed]
    exact .abortAgain q.view ha
  · rw [if_neg (by rwa [habort])]
    let dropped : Queue Key := { q.beginClose with
      aborted := true
      states := q.beginClose.states.keys.foldl abortKey q.beginClose.states
      ready := .empty }
    have hdropped : dropped.resolveTakeWaiters.view = q.view.close.drop := by
      rw [← hview]
      ext1 <;> try rfl
      exact lookup_dropped q.beginClose.states
    have hwaiters : dropped.takeWaiters.live = q.view.waiters := congrArg View.waiters hview
    obtain ⟨hsettle, hsettled⟩ := dropped.resolveTakeWaiters.settleIdleWaiters_view
    refine ⟨q.view.waiters.map (.taken · none) ++ q.view.close.drop.settleEvents, ?_, ?_⟩
    · change dropped.resolveTakeWaiters.settleIdleWaiters.events = _
      rw [hsettled, hdropped, ← List.append_assoc, ← hwaiters]
      exact congrArg (fun es => es ++ _ ++ _) hevents
    · change Step q.view .abortPending dropped.resolveTakeWaiters.settleIdleWaiters.view _
      rw [hsettle, hdropped]
      exact .abort q.view (Bool.not_eq_true _ ▸ ha)

theorem done_refines {item : Item Key} (hq : Inv q.view) (hitem : q.view.Open item) :
    ∃ next events, q.done item = .ok next ∧ next.events = q.events ++ events ∧
      Step q.view (.done item) next.view events := by
  obtain ⟨d, hk⟩ := (hq.open_iff item).1 hitem
  let finished : Queue Key := { q with completed := q.completed ++ [item.token] }.emit [.completed item]
  have hfinished : finished.view = q.view.finish item := rfl
  have hlookup : finished.states.lookup item.key = some (.processing d item.token) := hk
  have hcomplete : q.done item = if d && !finished.aborted then finished.enqueue item.key
      else .ok ({ finished with states := finished.states.erase item.key } :
        Queue Key).settleIdleWaiters := by
    have hopen : item.token ∉ q.completed := hitem.2
    rw [done, if_neg hopen]
    change finished.complete item = _
    simp only [complete, hlookup, ne_eq, not_true_eq_false, if_false]
  rw [hcomplete]
  by_cases hreplay : (d && !finished.aborted) = true
  · rw [if_pos hreplay]
    rw [Bool.and_eq_true, Bool.not_eq_true'] at hreplay
    obtain ⟨rfl, ha⟩ := hreplay
    rcases hw : q.view.waiters with _ | ⟨p, ws⟩
    · have hwaiting : finished.view.waiters = [] := hw
      obtain ⟨queued, henq, hview, hevents⟩ := enqueue_waiting item.key hwaiting
      refine ⟨queued, [.completed item, .ready item.key], henq, ?_, ?_⟩
      · rw [hevents]
        simp [finished]
      · rw [hview, hfinished]
        exact .doneReplay q.view item hitem ha hk hw
    · have hr : finished.view.ready = [] := hq.apart.resolve_right (by simp [hw])
      have hwaiting : finished.view.waiters = p :: ws := hw
      obtain ⟨handed, henq, hview, hevents⟩ := enqueue_handed item.key hr hwaiting
      refine ⟨handed, [.completed item, .ready item.key, .leased (q.view.item item.key),
        .taken p (some (q.view.item item.key))], henq, ?_, ?_⟩
      · rw [hevents]
        simp [finished, View.item, view, emit]
      · rw [hview, hfinished]
        exact .doneHanded q.view item p ws hitem ha hk hr hw
  · rw [if_neg hreplay]
    obtain ⟨hsettle, hsettled⟩ := ({ finished with
      states := finished.states.erase item.key } : Queue Key).settleIdleWaiters_view
    rw [eraseState_view, hfinished] at hsettle hsettled
    refine ⟨_, _, rfl, hsettled.trans (List.append_assoc _ _ _), ?_⟩
    rw [hsettle]
    refine .doneFinal q.view item d hitem hk ?_
    cases d with
    | false => exact .inl rfl
    | true =>
      have ha : q.aborted = true := by simpa [finished, emit] using hreplay
      exact .inr ha

end Queue

theorem step_refines {q : Queue Key} (hq : Inv q.view) (call : Call Key) :
    (∃ next events, step q call = .ok next ∧ next.events = q.events ++ events ∧ Step q.view call next.view events) ∨
      ∃ item, call = .done item ∧ ¬ q.view.Open item ∧
        (step q call = .error alreadyCompleted ∨ step q call = .error noSuchLease) := by
  cases call with
  | signal k => exact .inl (Queue.signal_refines hq k)
  | take => exact .inl (Queue.take_refines hq)
  | done item =>
    by_cases hmem : item ∈ q.leases
    · by_cases hdone : item.token ∈ q.completed
      · refine .inr ⟨item, rfl, fun h => h.2 hdone, .inl ?_⟩
        rw [step, if_pos hmem, Queue.done, if_pos hdone]
      · rw [step, if_pos hmem]
        exact .inl (Queue.done_refines hq ⟨hmem, hdone⟩)
    · exact .inr ⟨item, rfl, fun h => hmem h.1, .inr (if_neg hmem)⟩
  | drain =>
    obtain ⟨events, hevents, hstep⟩ := q.drain_refines
    exact .inl ⟨_, events, rfl, hevents, hstep⟩
  | shutdown =>
    obtain ⟨events, hevents, hstep⟩ := Queue.shutdown_refines hq
    exact .inl ⟨_, events, rfl, hevents, hstep⟩
  | abortPending =>
    obtain ⟨events, hevents, hstep⟩ := Queue.abortPending_refines hq
    exact .inl ⟨_, events, rfl, hevents, hstep⟩

theorem step_of_ok {q next : Queue Key} {call : Call Key} {events : List (Event Key)}
    (hq : Inv q.view) (hnext : step q call = .ok next) (hevents : next.events = q.events ++ events) :
    Step q.view call next.view events := by
  rcases step_refines hq call with ⟨next', events', h, hevents', hmove⟩ | ⟨_, _, _, h | h⟩
  · obtain rfl : next = next' := Except.ok.inj (hnext.symm.trans h)
    obtain rfl : events = events' := List.append_cancel_left (hevents.symm.trans hevents')
    exact hmove
  · rw [hnext] at h
    cases h
  · rw [hnext] at h
    cases h

theorem Inv.initial : Inv (Queue.fresh : Queue Key).view where
  ready_iff k := by simp [Queue.view, Queue.fresh]
  ready_nodup := List.nodup_nil
  token_lt := by simp [Queue.view, Queue.fresh]
  tokens_nodup := List.nodup_nil
  completed_lt := by simp [Queue.view, Queue.fresh]
  open_iff item := by simp [View.Open, Queue.view, Queue.fresh]
  closed_iff := rfl
  aborted_closed h := by cases h
  aborted_clean h := by cases h
  stopped_idle h := by cases h
  apart := .inl rfl
  stopped h := by cases h
  undrained _ := rfl

/-- A run of the view. A call that completes an item that is not open raises and is skipped. -/
inductive Run : View Key → List (Call Key) → View Key → List (Event Key) → Prop where
  | nil (v : View Key) : Run v [] v []
  | cons {v u w : View Key} {call : Call Key} {calls : List (Call Key)}
      {events more : List (Event Key)} (hstep : Step v call u events) (hrun : Run u calls w more) :
      Run v (call :: calls) w (events ++ more)
  | raised {v w : View Key} {item : Item Key} {calls : List (Call Key)} {events : List (Event Key)}
      (hitem : ¬ v.Open item) (hrun : Run v calls w events) : Run v (.done item :: calls) w events

theorem Run.inv {v w : View Key} {calls : List (Call Key)} {events : List (Event Key)}
    (h : Run v calls w events) (hv : Inv v) : Inv w := by
  induction h with
  | nil => exact hv
  | cons hstep _ ih => exact ih (hv.step hstep)
  | raised _ _ ih => exact ih hv

theorem run_refines {q : Queue Key} (hq : Inv q.view) (calls : List (Call Key)) :
    ∃ events, (FallibleRun.run step q calls).events = q.events ++ events ∧
      Run q.view calls (FallibleRun.run step q calls).view events := by
  induction calls generalizing q with
  | nil => exact ⟨[], (List.append_nil _).symm, .nil q.view⟩
  | cons call calls ih =>
    rw [FallibleRun.run_cons]
    rcases step_refines hq call with
      ⟨next, events, hnext, hevents, hstep⟩ | ⟨item, rfl, hitem, herror⟩
    · rw [FallibleRun.attempt_ok hnext]
      obtain ⟨more, hmore, hrun⟩ := ih (hq.step hstep)
      exact ⟨events ++ more, by rw [hmore, hevents, List.append_assoc], .cons hstep hrun⟩
    · have hsame : FallibleRun.attempt step q (.done item) = q :=
        herror.elim FallibleRun.attempt_error FallibleRun.attempt_error
      rw [hsame]
      obtain ⟨more, hmore, hrun⟩ := ih hq
      exact ⟨more, hmore, .raised hitem hrun⟩

/-- The queue after a run of calls from a fresh one. -/
def reached (calls : List (Call Key)) : Queue Key := FallibleRun.run step Queue.fresh calls

theorem reached_inv (calls : List (Call Key)) : Inv (reached calls).view := by
  obtain ⟨_, _, hrun⟩ := run_refines (@Inv.initial Key _) calls
  exact hrun.inv Inv.initial

end KeyedWorkQueue
