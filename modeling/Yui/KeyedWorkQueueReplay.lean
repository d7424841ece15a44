import Yui.KeyedWorkQueueSignals

/-!
# Replays of the keyed queue

While an item is open its key is neither readied nor leased again. Completing the item readies the
key once, at the tail, if a signal for it was accepted in between, however many there were.
-/

open FallibleRun

namespace KeyedWorkQueue

variable {Key : Type*}

/-- What a call leaves of an open item: its key is processing under the same token, and dirty
exactly when it was dirty or a signal for it was accepted, unless the pending work is aborted. -/
structure Held (item : Item Key) (d : Bool) (w : View Key) (events : List (Event Key)) : Prop where
  unreadied : item.key ∉ readyKeys events
  unleased : item.key ∉ leasedKeys events
  phase : ∃ d', w.phase item.key = some (.processing d' item.token) ∧
    (d' = true ↔ w.aborted = false ∧ (d = true ∨ .signalled item.key true ∈ events))

variable {v w : View Key} {events : List (Event Key)} {item : Item Key} {d : Bool}

theorem Held.of_phase_eq (hv : Inv v) (hk : v.phase item.key = some (.processing d item.token))
    (hphase : w.phase item.key = v.phase item.key) (haborted : w.aborted = v.aborted)
    (hsignal : .signalled item.key true ∉ events) (hready : item.key ∉ readyKeys events)
    (hleased : item.key ∉ leasedKeys events) : Held item d w events := by
  refine ⟨hready, hleased, d, hphase.trans hk, ?_⟩
  simp only [hsignal, or_false, haborted]
  refine ⟨fun hd => ⟨?_, hd⟩, fun h => h.2⟩
  by_contra ha
  rw [Bool.not_eq_false] at ha
  exact ((hv.aborted_clean ha).2 item.key).2 item.token (hd ▸ hk)

variable [DecidableEq Key]

theorem held_of_step {call : Call Key} (hv : Inv v) (hstep : Step v call w events)
    (hne : call ≠ .done item) (hk : v.phase item.key = some (.processing d item.token)) : Held item d w events := by
  have hitem : v.Open item := (hv.open_iff item).2 ⟨d, hk⟩
  have hother : ∀ {j : Key} {s : Option KeyState}, item.key ≠ j →
      Function.update v.phase j s item.key = v.phase item.key := fun hj =>
    Function.update_of_ne hj _ _
  have hkey : ∀ {j : Key}, v.phase j = none ∨ v.phase j = some .queued → item.key ≠ j := by
    rintro j hj rfl
    rw [hk] at hj
    simp at hj
  have hapart : ∀ {other : Item Key}, v.Open other → Call.done other ≠ .done item →
      item.key ≠ other.key := by
    intro other ho hdone heq
    exact hdone (congrArg Call.done (hv.toBase.open_unique ho hitem heq.symm))
  cases hstep with
  | signalRejected j _ | takeAborted p _ | takeStopped p _ _ | takeWaits p _ _ _ | drainIdle p _
  | drainWaits p _ | abortAgain _ => exact .of_phase_eq hv hk rfl rfl (by simp) (by simp) (by simp)
  | signalQueued j hopen hj =>
    have hne := hkey (.inr hj)
    exact .of_phase_eq hv hk rfl rfl (by simp [hne]) (by simp) (by simp)
  | signalIdle j hopen hj hw =>
    have hne := hkey (.inl hj)
    exact .of_phase_eq hv hk (hother hne) rfl (by simp [hne]) (by simp [hne]) (by simp)
  | signalHanded j p ws hopen hj hr hw =>
    have hne := hkey (.inl hj)
    exact .of_phase_eq hv hk (hother hne) rfl (by simp [hne]) (by simp [hne]) (by simp [View.item, hne])
  | signalDirty j d' t hopen hj =>
    by_cases heq : item.key = j
    · have ht : t = item.token := by
        rw [heq, hj] at hk
        cases hk
        rfl
      refine ⟨by simp, by simp, true, ?_, ?_⟩
      · rw [heq, setPhase_phase_self, ht]
      · simp [heq, View.setPhase, (hv.toBase.of_open hopen).1]
    · exact .of_phase_eq hv hk (hother heq) rfl (by simp [heq]) (by simp) (by simp)
  | takeReady p j rest ha hr =>
    have hne := hkey (.inr ((hv.ready_iff j).1 (by simp [hr])))
    exact .of_phase_eq hv hk (hother hne) rfl (by simp) (by simp) (by simp [View.item, hne])
  | shutdown =>
    exact .of_phase_eq hv hk (by simp [View.close]) (by simp [View.close])
      (signalled_notMem_settleEvents _ _ _) (by simp) (by simp)
  | abort ha =>
    refine ⟨by simp, by simp, false, ?_, ?_⟩
    · simp [View.drop, View.close, hk, View.droppedPhase]
    · simp [View.drop]
  | doneReplay other ho ha hd hw =>
    have hne := hapart ho hne
    exact .of_phase_eq hv hk (hother hne) rfl (by simp) (by simp [hne]) (by simp)
  | doneHanded other p ws ho ha hd hr hw =>
    have hne := hapart ho hne
    exact .of_phase_eq hv hk (hother hne) rfl (by simp) (by simp [hne]) (by simp [View.item, hne])
  | doneFinal other d' ho hd hfinal =>
    have hne := hapart ho hne
    refine .of_phase_eq hv hk ?_ (by simp [View.setPhase, View.finish]) ?_ (by simp) (by simp)
    · rw [settle_phase]
      exact hother hne
    · rw [List.mem_cons, not_or]
      exact ⟨by simp, signalled_notMem_settleEvents _ _ _⟩

theorem step_aborted {call : Call Key} (hv : Inv v)
    (hstep : Step v call w events) (ha : w.aborted = false) : v.aborted = false :=
  ((step_order hv hstep).1 ha).1

variable {calls : List (Call Key)}

theorem Run.aborted (hrun : Run v calls w events) (hv : Inv v) (ha : w.aborted = false) : v.aborted = false := by
  induction hrun with
  | nil => exact ha
  | cons hstep _ ih => exact step_aborted hv hstep (ih (hv.step hstep) ha)
  | raised _ _ ih => exact ih hv ha

theorem held_of_run (hrun : Run v calls w events) (hv : Inv v)
    (hne : .done item ∉ calls) (hk : v.phase item.key = some (.processing d item.token)) : Held item d w events := by
  induction hrun generalizing d with
  | nil v => exact .of_phase_eq hv hk rfl rfl (by simp) (by simp) (by simp)
  | @cons v u w call calls events more hstep hrun ih =>
    rw [List.mem_cons, not_or] at hne
    have hfirst := held_of_step hv hstep (Ne.symm hne.1) hk
    obtain ⟨d', hd', hiff'⟩ := hfirst.phase
    have hrest := ih (hv.step hstep) hne.2 hd'
    obtain ⟨d'', hd'', hiff''⟩ := hrest.phase
    refine ⟨by simp [hfirst.unreadied, hrest.unreadied], by simp [hfirst.unleased, hrest.unleased], d'', hd'', ?_⟩
    have hactive : w.aborted = false → u.aborted = false := hrun.aborted (hv.step hstep)
    rw [hiff'', hiff', List.mem_append]
    exact and_congr_right fun hw => by simp only [hactive hw, true_and, or_assoc]
  | raised _ _ ih => exact ih hv (fun hm => hne (List.mem_cons_of_mem _ hm)) hk

theorem replay_of_done (hv : Inv v) (hstep : Step v (.done item) w events)
    (hk : v.phase item.key = some (.processing d item.token)) :
    (d = true → readyKeys events = [item.key] ∧ (w.ready = v.ready ++ [item.key] ∨
        (v.ready = [] ∧ leasedKeys events = [item.key]))) ∧ (d = false → readyKeys events = []) := by
  cases hstep with
  | doneReplay _ hitem ha hd hw =>
    rw [hk] at hd
    cases hd
    simp [View.queue, View.finish]
  | doneHanded _ p ws hitem ha hd hr hw =>
    rw [hk] at hd
    cases hd
    simp [hr, View.item]
  | doneFinal _ d' hitem hd hfinal =>
    rw [hk] at hd
    cases hd
    have hfalse : d = false := by
      rcases hfinal with hf | ha
      · exact hf
      · by_contra hd
        rw [Bool.not_eq_false] at hd
        exact ((hv.aborted_clean ha).2 item.key).2 item.token (hd ▸ hk)
    simp [hfalse]

/-- What the queue grants to signals, in one state and for every run that starts there. -/
structure SignalsKept (q : Queue Key) : Prop where
  single : ∀ i j, q.view.Open i → q.view.Open j → i.key = j.key → i = j
  guarded : ∀ call, step q call ≠ .error readyKeyNotQueued ∧ step q call ≠ .error leaseNotActive
  kept : ∀ k calls next first, step q (.signal k) = .ok next →
    next.events = q.events ++ first → .signalled k true ∈ first → .abortPending ∉ calls →
    ∃ more, (run step next calls).events = next.events ++ more ∧
      ((run step next calls).ready.live.count k = 1 ∨
        (∃ t, (run step next calls).states.lookup k = some (.processing true t)) ∨
        ∃ item : Item Key, item.key = k ∧ .leased item ∈ first ++ more)
  replayed : ∀ item calls, q.view.Open item → .done item ∉ calls →
    ∃ next events last, step (run step q calls) (.done item) = .ok next ∧
      (run step q calls).events = q.events ++ events ∧
      next.events = q.events ++ events ++ last ∧ .ready item.key ∉ events ∧
      if (run step q calls).aborted = false ∧
          (q.states.lookup item.key = some (.processing true item.token) ∨
            .signalled item.key true ∈ events) then
        readyKeys last = [item.key] ∧
          (next.ready.live = (run step q calls).ready.live ++ [item.key] ∨
            ((run step q calls).ready.live = [] ∧ leasedKeys last = [item.key]))
      else readyKeys last = []
  ordered : leasedKeys q.events <+: readyKeys q.events ∧
    (q.aborted = false → readyKeys q.events = leasedKeys q.events ++ q.ready.live)

theorem kept_of_signal {q next : Queue Key} {k : Key}
    {first : List (Event Key)} (hq : Inv q.view) (hstep : step q (.signal k) = .ok next)
    (hfirst : next.events = q.events ++ first) (hsignal : .signalled k true ∈ first)
    (hcalls : .abortPending ∉ calls) : ∃ more, (run step next calls).events = next.events ++ more ∧
      ((run step next calls).ready.live.count k = 1 ∨
        (∃ t, (run step next calls).states.lookup k = some (.processing true t)) ∨
        ∃ item : Item Key, item.key = k ∧ .leased item ∈ first ++ more) := by
  have hmove := step_of_ok hq hstep hfirst
  have hinv := hq.step hmove
  obtain ⟨more, hmore, hrun⟩ := run_refines hinv calls
  refine ⟨more, hmore, ?_⟩
  rw [← mem_leasedKeys, leasedKeys_append, List.mem_append]
  rcases owed_of_signal hq hmove hsignal with howed | hleased
  · rcases howed.run hrun hinv hcalls with (hready | hdirty) | hleased
    · exact .inl (List.count_eq_one_of_mem (hrun.inv hinv).ready_nodup hready)
    · exact .inr (.inl hdirty)
    · exact .inr (.inr (.inr hleased))
  · exact .inr (.inr (.inl hleased))

theorem signalsKept (past : List (Call Key)) : SignalsKept (reached past) where
  single i j := (reached_inv past).toBase.open_unique
  guarded call := by
    rcases step_refines (reached_inv past) call with ⟨_, _, h, _⟩ | ⟨_, _, _, h | h⟩ <;>
      rw [h] <;> simp [alreadyCompleted, noSuchLease, readyKeyNotQueued, leaseNotActive]
  kept k calls next first := kept_of_signal (reached_inv past)
  replayed item calls hitem hcalls := by
    have hq := reached_inv past
    obtain ⟨d, hd⟩ := (hq.open_iff item).1 hitem
    obtain ⟨events, hevents, hrun⟩ := run_refines hq calls
    have hheld := held_of_run hrun hq hcalls hd
    obtain ⟨d', hd', hiff⟩ := hheld.phase
    have hinv := hrun.inv hq
    have hopen := (hinv.open_iff item).2 ⟨d', hd'⟩
    rcases step_refines hinv (.done item) with
      ⟨next, last, hnext, hlast, hmove⟩ | ⟨_, h, hnot, _⟩
    · refine ⟨next, events, last, hnext, hevents, by rw [hlast, hevents],
        fun hm => hheld.unreadied (mem_readyKeys.2 hm), ?_⟩
      have hreplay := replay_of_done hinv hmove hd'
      have hdirty : d = true ↔
          (reached past).states.lookup item.key = some (.processing true item.token) := by
        change _ ↔ (reached past).view.phase item.key = _
        simp [hd]
      rw [hdirty] at hiff
      split_ifs with hcond
      · exact hreplay.1 (hiff.2 hcond)
      · exact hreplay.2 (Bool.not_eq_true _ ▸ fun ht => hcond (hiff.1 ht))
    · cases h
      exact absurd hopen hnot
  ordered := by
    obtain ⟨events, hevents, hrun⟩ := run_refines (@Inv.initial Key _) past
    have hinit : Ordered [] (Queue.fresh : Queue Key).view := ⟨List.prefix_rfl, fun _ => rfl⟩
    have hordered := hinit.run hrun Inv.initial
    have hpast : (reached past).events = [] ++ events := hevents
    rw [hpast]
    exact ⟨hordered.leased, hordered.pending⟩

/-- A key that is leased right after its signal is neither ready nor dirty. -/
theorem signalled_key_leased_clean : ¬ ∀ (k : ℕ) (calls : List (Call ℕ)), .abortPending ∉ calls →
    (run step (Queue.fresh : Queue ℕ) (.signal k :: calls)).ready.live.count k = 1 ∨
      ∃ t, (run step (Queue.fresh : Queue ℕ) (.signal k :: calls)).states.lookup k = some (.processing true t) := by
  intro h
  rcases h 0 [.take] (by decide) with hready | ⟨t, ht⟩
  · revert hready
    decide
  · have hclean : (run step (Queue.fresh : Queue ℕ) [.signal 0, .take]).states.lookup 0 =
        some (.processing false 0) := by decide
    rw [hclean] at ht
    cases ht

end KeyedWorkQueue
