import Yui.KeyedWorkQueueSpec

/-!
# The invariant of the keyed queue

Every transition changes the phase of at most one key, closes the queue, drops the pending work or
settles the idle waiters. Each of these changes keeps the invariant of the view.
-/

namespace KeyedWorkQueue

variable {Key : Type*}

open View

variable {v : View Key}

theorem Base.open_unique (h : Base v) {i j : Item Key} (hi : v.Open i)
    (hj : v.Open j) (hkey : i.key = j.key) : i = j := by
  obtain ⟨d, hd⟩ := (h.open_iff i).1 hi
  obtain ⟨e, he⟩ := (h.open_iff j).1 hj
  rw [hkey, he] at hd
  cases i
  cases j
  cases hd
  cases hkey
  rfl

variable {item : Item Key}

theorem Base.open_finish (h : Base v) (hitem : v.Open item)
    (j : Item Key) : (v.finish item).Open j ↔ v.Open j ∧ j ≠ item := by
  simp only [View.Open, View.finish, List.mem_append, List.mem_singleton, not_or, ← and_assoc]
  refine and_congr_right fun hj => not_congr ⟨fun ht => ?_, fun hj => by rw [hj]⟩
  exact List.inj_on_of_nodup_map h.tokens_nodup hj.1 hitem.1 ht

variable {k : Key}

theorem Base.stop_of_busy (h : Base v) {s : KeyState} (hk : v.phase k = some s) : v.stop ≠ some true := fun hs => by
  rw [h.stopped_idle hs k] at hk
  cases hk

theorem Base.leases_snoc (h : Base v) (k : Key) : (∀ item ∈ v.leases ++ [v.item k], item.token < v.nextToken + 1) ∧
      ((v.leases ++ [v.item k]).map Item.token).Nodup := by
  constructor
  · intro item hitem
    rcases List.mem_append.1 hitem with hitem | hitem
    · exact Nat.lt_succ_of_lt (h.token_lt item hitem)
    · rw [List.mem_singleton.1 hitem]
      exact Nat.lt_succ_self _
  · rw [List.map_append, List.map_singleton]
    refine List.nodup_append.2 ⟨h.tokens_nodup, List.nodup_singleton _, ?_⟩
    intro a ha b hb hab
    obtain ⟨item, hitem, rfl⟩ := List.mem_map.1 ha
    rw [List.mem_singleton.1 hb] at hab
    exact absurd hab (Nat.ne_of_lt (h.token_lt item hitem))

theorem Base.finish_lt (h : Base v) (hitem : v.Open item) : ∀ t ∈ (v.finish item).completed, t < v.nextToken := by
  intro t ht
  rcases List.mem_append.1 ht with ht | ht
  · exact h.completed_lt t ht
  · rw [List.mem_singleton.1 ht]
    exact h.token_lt item hitem.1

theorem Base.not_open_of_idle (h : Base v) (hk : v.phase k = none) (t : ℕ) : ¬ v.Open ⟨k, t⟩ := by
  intro ho
  obtain ⟨d, hd⟩ := (h.open_iff _).1 ho
  rw [hk] at hd
  cases hd

theorem Base.not_open_of_queued (h : Base v) (hk : v.phase k = some .queued) (t : ℕ) : ¬ v.Open ⟨k, t⟩ := by
  intro ho
  obtain ⟨d, hd⟩ := (h.open_iff _).1 ho
  rw [hk] at hd
  cases hd

/-- The open items of all keys but one, after the item of that key may have been completed. -/
structure Released (v : View Key) (k : Key) (c : List ℕ) : Prop where
  others : ∀ item : Item Key, item.key ≠ k →
    (({ v with completed := c } : View Key).Open item ↔ v.Open item)
  none : ∀ t, ¬ ({ v with completed := c } : View Key).Open ⟨k, t⟩
  completed_lt : ∀ t ∈ c, t < v.nextToken

theorem Base.close (h : Base v) : Base v.close where
  ready_iff := h.ready_iff
  ready_nodup := h.ready_nodup
  token_lt := h.token_lt
  tokens_nodup := h.tokens_nodup
  completed_lt := h.completed_lt
  open_iff := h.open_iff
  closed_iff := rfl
  aborted_closed _ := rfl
  aborted_clean := h.aborted_clean
  stopped_idle hs := by
    refine h.stopped_idle ?_
    simp only [View.close, Option.some.injEq] at hs
    cases hv : v.stop with
    | none => simp [hv] at hs
    | some b => simpa [hv] using hs

variable {d : Bool}

theorem droppedPhase_processing {s : Option KeyState} {t : ℕ} :
    s.bind droppedPhase = some (.processing d t) ↔ d = false ∧ ∃ e, s = some (.processing e t) := by
  rcases s with _ | _ | ⟨e, u⟩ <;> simp [droppedPhase, eq_comm, and_comm]

theorem Base.drop (h : Base v) (hclosed : v.closed = true) : Base v.drop where
  ready_iff k := by
    refine iff_of_false List.not_mem_nil ?_
    rcases hs : v.phase k with _ | _ | ⟨d, t⟩ <;> simp [View.drop, hs, droppedPhase]
  ready_nodup := List.nodup_nil
  token_lt := h.token_lt
  tokens_nodup := h.tokens_nodup
  completed_lt := h.completed_lt
  open_iff item := by
    refine (h.open_iff item).trans ?_
    simp only [View.drop, droppedPhase_processing]
    exact ⟨fun hd => ⟨false, rfl, hd⟩, fun ⟨_, _, hd⟩ => hd⟩
  closed_iff := h.closed_iff
  aborted_closed _ := hclosed
  aborted_clean _ := by
    refine ⟨rfl, fun k => ⟨?_, fun t ht => ?_⟩⟩
    · rcases hs : v.phase k with _ | _ | ⟨d, t⟩ <;> simp [View.drop, hs, droppedPhase]
    · have := (droppedPhase_processing.1 ht).1
      cases this
  stopped_idle hs k := by simp [View.drop, h.stopped_idle hs k]

theorem Base.settle (h : Base v) (hapart : v.ready = [] ∨ v.waiters = []) : Inv v.settle := by
  unfold View.settle
  split_ifs with hidle hclosed
  · have hstop : v.stop.map (fun _ => true) = some true := by
      have := h.closed_iff
      rw [hclosed] at this
      cases hs : v.stop with
      | none => simp [hs] at this
      | some b => rfl
    exact { h with
      closed_iff := by simp [hstop, hclosed]
      aborted_clean := fun ha => ⟨rfl, (h.aborted_clean ha).2⟩
      stopped_idle := fun _ => hidle
      apart := .inr rfl
      stopped := fun _ _ => ⟨hstop, rfl⟩
      undrained := fun _ => rfl }
  · exact { h with
      aborted_clean := h.aborted_clean
      stopped_idle := h.stopped_idle
      apart := hapart
      stopped := fun hc => absurd hc hclosed
      undrained := fun _ => rfl }
  · exact { h with
      apart := hapart
      stopped := fun _ hi => absurd hi hidle
      undrained := fun hi => absurd hi hidle }

theorem Base.busy (h : Base v) (hapart : v.ready = [] ∨ v.waiters = []) (hk : v.phase k ≠ none) : Inv v :=
  { h with
    apart := hapart
    stopped := fun _ hi => absurd (hi k) hk
    undrained := fun hi => absurd (hi k) hk }

theorem Base.of_open (h : Base v) (hopen : v.closed = false) : v.aborted = false ∧ v.stop ≠ some true := by
  constructor
  · by_contra ha
    rw [Bool.not_eq_false] at ha
    rw [h.aborted_closed ha] at hopen
    cases hopen
  · intro hs
    rw [h.closed_iff, hs] at hopen
    cases hopen

theorem Base.not_open_finish (h : Base v) (hitem : v.Open item) (t : ℕ) : ¬ (v.finish item).Open ⟨item.key, t⟩ := by
  intro ho
  obtain ⟨ho, hne⟩ := (h.open_finish hitem _).1 ho
  exact hne (h.open_unique ho hitem rfl)

theorem Base.released_idle (h : Base v) (hk : v.phase k = none) :
    Released v k v.completed := ⟨fun _ _ => Iff.rfl, h.not_open_of_idle hk, h.completed_lt⟩

theorem Base.released_queued (h : Base v) (hk : v.phase k = some .queued) : Released v k v.completed :=
  ⟨fun _ _ => Iff.rfl, h.not_open_of_queued hk, h.completed_lt⟩

theorem Base.released_finish (h : Base v) (hitem : v.Open item) :
    Released v item.key (v.completed ++ [item.token]) := by
  refine ⟨fun j hj => (h.open_finish hitem j).trans (and_iff_left ?_), h.not_open_finish hitem, h.finish_lt hitem⟩
  rintro rfl
  exact hj rfl

variable [DecidableEq Key]

theorem setPhase_phase_self (v : View Key) (k : Key) (s : Option KeyState) :
    (v.setPhase k s).phase k = s := by simp [View.setPhase]

theorem setPhase_phase_of_ne (v : View Key) {j k : Key} (h : j ≠ k) (s : Option KeyState) :
    (v.setPhase k s).phase j = v.phase j := by simp [View.setPhase, Function.update_of_ne h]

theorem open_lease (j : Item Key) : (v.lease k).Open j ↔ v.Open j ∨ (j = v.item k ∧ v.nextToken ∉ v.completed) := by
  simp only [View.Open, View.lease, List.mem_append, List.mem_singleton]
  constructor
  · rintro ⟨hj | rfl, hc⟩
    · exact .inl ⟨hj, hc⟩
    · exact .inr ⟨rfl, hc⟩
  · rintro (⟨hj, hc⟩ | ⟨rfl, hc⟩)
    · exact ⟨.inl hj, hc⟩
    · exact ⟨.inr rfl, hc⟩

theorem Base.rephase {v w : View Key} (h : Base v) (k : Key) (hphase : ∀ j, j ≠ k → w.phase j = v.phase j)
    (hready : ∀ j, j ≠ k → (j ∈ w.ready ↔ j ∈ v.ready))
    (hkready : k ∈ w.ready ↔ w.phase k = some .queued) (hnodup : w.ready.Nodup)
    (htoken : ∀ item ∈ w.leases, item.token < w.nextToken)
    (htokens : (w.leases.map Item.token).Nodup) (hcompleted : ∀ t ∈ w.completed, t < w.nextToken)
    (hopen : ∀ item, item.key ≠ k → (w.Open item ↔ v.Open item))
    (hkopen : ∀ t, w.Open ⟨k, t⟩ ↔ ∃ d, w.phase k = some (.processing d t))
    (hclosed : w.closed = v.closed) (haborted : w.aborted = v.aborted) (hstop : w.stop = v.stop)
    (hwaiters : v.waiters = [] → w.waiters = []) (hkclean : v.aborted = true → w.phase k = none)
    (hkstop : v.stop = some true → w.phase k = none) : Base w where
  ready_iff j := by
    by_cases hj : j = k
    · rw [hj, hkready]
    · rw [hready j hj, h.ready_iff, hphase j hj]
  ready_nodup := hnodup
  token_lt := htoken
  tokens_nodup := htokens
  completed_lt := hcompleted
  open_iff item := by
    by_cases hj : item.key = k
    · obtain ⟨key, t⟩ := item
      subst hj
      exact hkopen t
    · rw [hopen item hj, h.open_iff, hphase _ hj]
  closed_iff := by rw [hclosed, hstop, h.closed_iff]
  aborted_closed ha := by rw [hclosed, h.aborted_closed (haborted ▸ ha)]
  aborted_clean ha := by
    rw [haborted] at ha
    obtain ⟨hw, hclean⟩ := h.aborted_clean ha
    refine ⟨hwaiters hw, fun j => ?_⟩
    by_cases hj : j = k
    · rw [hj, hkclean ha]
      simp
    · rw [hphase j hj]
      exact hclean j
  stopped_idle hs j := by
    rw [hstop] at hs
    by_cases hj : j = k
    · rw [hj, hkstop hs]
    · rw [hphase j hj]
      exact h.stopped_idle hs j

/-- A key without an open item joins the ready list. -/
theorem Base.queue (h : Base v) {c : List ℕ} (hc : Released v k c)
    (hk : v.phase k ≠ some .queued) (haborted : v.aborted = false) (hstop : v.stop ≠ some true) :
    Base (({ v with completed := c } : View Key).queue k) := by
  have hready : k ∉ v.ready := fun hr => hk ((h.ready_iff k).1 hr)
  refine h.rephase k (fun j hj => setPhase_phase_of_ne _ hj _) ?_ ?_ ?_ h.token_lt h.tokens_nodup
    hc.completed_lt hc.others ?_ rfl rfl rfl id ?_ ?_
  · intro j hj
    simp [View.queue, View.setPhase, hj]
  · simp [View.queue, View.setPhase]
  · exact List.nodup_append.2 ⟨h.ready_nodup, List.nodup_singleton _, by
      intro a ha b hb hab
      rw [List.mem_singleton.1 hb] at hab
      exact hready (hab ▸ ha)⟩
  · intro t
    refine iff_of_false (hc.none t) ?_
    simp [View.queue, View.setPhase]
  · intro ha
    rw [haborted] at ha
    cases ha
  · exact fun hs => absurd hs hstop

theorem Base.lease (h : Base v) {c : List ℕ} (ready : List Key)
    (waiters : List ℕ) (hc : Released v k c) (haborted : v.aborted = false)
    (hstop : v.stop ≠ some true) (hready : ∀ j, j ≠ k → (j ∈ ready ↔ j ∈ v.ready))
    (hkready : k ∉ ready) (hnodup : ready.Nodup) (hwaiters : v.waiters = [] → waiters = []) :
    Base { ({ v with completed := c } : View Key).lease k with
      ready := ready, waiters := waiters } := by
  have hfresh : v.nextToken ∉ c := fun ht => absurd (hc.completed_lt _ ht) (lt_irrefl _)
  have hleases := h.leases_snoc k
  refine h.rephase k (fun j hj => setPhase_phase_of_ne _ hj _) hready ?_ hnodup hleases.1 hleases.2
    (fun t ht => Nat.lt_succ_of_lt (hc.completed_lt t ht)) ?_ ?_ rfl rfl rfl hwaiters ?_ ?_
  · simp [View.lease, View.setPhase, hkready]
  · intro item hkey
    refine Iff.trans (open_lease item) ((or_iff_left ?_).trans (hc.others item hkey))
    rintro ⟨rfl, _⟩
    exact hkey rfl
  · intro t
    refine Iff.trans (open_lease ⟨k, t⟩) ?_
    simp only [hc.none t, false_or, View.item, Item.mk.injEq, true_and, View.lease, View.setPhase,
      Function.update_self, Option.some.injEq, KeyState.processing.injEq]
    exact ⟨fun ht => ⟨false, rfl, ht.1.symm⟩, fun ⟨_, _, ht⟩ => ⟨ht.symm, hfresh⟩⟩
  · intro ha
    rw [haborted] at ha
    cases ha
  · exact fun hs => absurd hs hstop

theorem Base.setDirty (h : Base v) {t : ℕ} (hopen : v.closed = false) (hk : v.phase k = some (.processing d t)) :
    Base (v.setPhase k (some (.processing true t))) := by
  have hstop : v.stop = none := by
    have := h.closed_iff
    rw [hopen] at this
    simpa using this.symm
  refine h.rephase k (fun j hj => setPhase_phase_of_ne _ hj _) (fun _ _ => Iff.rfl) ?_ h.ready_nodup
    h.token_lt h.tokens_nodup h.completed_lt (fun _ _ => Iff.rfl) ?_ rfl rfl rfl id ?_ ?_
  · rw [setPhase_phase_self]
    refine iff_of_false (fun hr => ?_) (by simp)
    rw [View.setPhase, h.ready_iff, hk] at hr
    cases hr
  · intro u
    rw [setPhase_phase_self]
    refine (h.open_iff ⟨k, u⟩).trans ?_
    simp [hk]
  · intro ha
    rw [h.aborted_closed ha] at hopen
    cases hopen
  · intro hs
    rw [hstop] at hs
    cases hs

theorem Base.setIdle (h : Base v) (hitem : v.Open item) (hk : v.phase item.key = some (.processing d item.token)) :
    Base ((v.finish item).setPhase item.key none) := by
  have hc := h.released_finish hitem
  refine h.rephase item.key (fun j hj => setPhase_phase_of_ne _ hj _) (fun _ _ => Iff.rfl) ?_
    h.ready_nodup h.token_lt h.tokens_nodup hc.completed_lt hc.others ?_ rfl rfl rfl id ?_ ?_
  · rw [setPhase_phase_self]
    refine iff_of_false (fun hr => ?_) (by simp)
    have hq := (h.ready_iff item.key).1 hr
    rw [hk] at hq
    cases hq
  · intro t
    rw [setPhase_phase_self]
    exact iff_of_false (hc.none t) (by simp)
  · exact fun _ => setPhase_phase_self _ _ _
  · exact fun _ => setPhase_phase_self _ _ _

theorem Base.lease_head (h : Base v) {rest : List Key} (habort : v.aborted = false) (hr : v.ready = k :: rest) :
    Base { v.lease k with ready := rest } := by
  have hk : v.phase k = some .queued := (h.ready_iff k).1 (by simp [hr])
  have hnodup := h.ready_nodup
  rw [hr, List.nodup_cons] at hnodup
  refine h.lease rest v.waiters (h.released_queued hk) habort (h.stop_of_busy hk)
    (fun j hj => ?_) hnodup.1 hnodup.2 id
  simp [hr, hj]

theorem Inv.step {v w : View Key} {call : Call Key} {events : List (Event Key)} (h : Inv v)
    (hstep : Step v call w events) : Inv w := by
  have hbase := h.toBase
  cases hstep with
  | signalRejected k _ | signalQueued k _ _ | takeAborted p _ | takeStopped p _ _ | drainIdle p _
  | abortAgain _ => exact h
  | signalIdle k hopen hk hw =>
    obtain ⟨habort, hstop⟩ := hbase.of_open hopen
    have hq := hbase.queue (hbase.released_idle hk) (by simp [hk]) habort hstop
    exact hq.busy (.inr hw) (k := k) (by simp [View.queue, View.setPhase])
  | signalHanded k p ws hopen hk hr hw =>
    obtain ⟨habort, hstop⟩ := hbase.of_open hopen
    have hl := hbase.lease [] ws (hbase.released_idle hk) habort hstop (by simp [hr])
      List.not_mem_nil List.nodup_nil (by simp [hw])
    rw [← hr] at hl
    exact hl.busy (.inl hr) (k := k) (by simp [View.lease, View.setPhase])
  | signalDirty k d t hopen hk =>
    exact (hbase.setDirty hopen hk).busy h.apart (k := k) (by simp [View.setPhase])
  | takeReady p k rest habort hr =>
    have hw : v.waiters = [] := h.apart.resolve_left (by simp [hr])
    exact (hbase.lease_head habort hr).busy (.inr hw) (k := k) (by simp [View.lease, View.setPhase])
  | takeWaits p habort hr hbusy =>
    exact { hbase with
      aborted_clean := fun ha => by rw [ha] at habort; cases habort
      apart := .inl hr
      stopped := fun hc hi => absurd ⟨hc, hi⟩ hbusy
      undrained := h.undrained }
  | drainWaits p hbusy =>
    exact { hbase with
      apart := h.apart
      stopped := h.stopped
      undrained := fun hi => absurd hi hbusy }
  | shutdown => exact hbase.close.settle h.apart
  | abort habort => exact (hbase.close.drop rfl).settle (.inl rfl)
  | doneReplay item hitem habort hk hw =>
    have hq := hbase.queue (hbase.released_finish hitem) (by simp [hk]) habort (hbase.stop_of_busy hk)
    exact hq.busy (.inr hw) (k := item.key) (by simp [View.queue, View.setPhase])
  | doneHanded item p ws hitem habort hk hr hw =>
    have hl := hbase.lease [] ws (hbase.released_finish hitem) habort
      (hbase.stop_of_busy hk) (by simp [hr]) List.not_mem_nil List.nodup_nil
      (by simp [hw])
    rw [← hr] at hl
    exact hl.busy (.inl hr) (k := item.key) (by simp [View.lease, View.setPhase])
  | doneFinal item d hitem hk hfinal => exact (hbase.setIdle hitem hk).settle h.apart

end KeyedWorkQueue
