import Yui.KeyedWorkQueueEvents

/-!
# Signals of the keyed queue are never lost

An accepted signal leaves its key owed: ready, or leased and marked dirty. The key stays owed until
a lease of it is handed out or the pending work is aborted. Keys are leased in the order in which
they became ready.
-/

namespace KeyedWorkQueue

variable {Key : Type*}

def Owed (v : View Key) (k : Key) : Prop :=
  k ∈ v.ready ∨ ∃ t, v.phase k = some (.processing true t)

variable {v w : View Key} {k : Key}

theorem Owed.of_phase_eq (h : Owed v k) (hready : ∀ j ∈ v.ready, j ∈ w.ready)
    (hphase : w.phase k = v.phase k) : Owed w k :=
  h.imp (hready k) (fun ⟨t, ht⟩ => ⟨t, hphase.trans ht⟩)

theorem Base.not_owed {v : View Key} (hv : Base v) (hq : v.phase k ≠ some .queued)
    (hd : ∀ t, v.phase k ≠ some (.processing true t)) : ¬ Owed v k :=
  fun h => h.elim (fun hr => hq ((hv.ready_iff k).1 hr)) (fun ⟨t, ht⟩ => hd t ht)

variable [DecidableEq Key]

variable {events : List (Event Key)}

theorem Owed.step {call : Call Key}
    (h : Owed v k) (hv : Inv v) (hstep : Step v call w events) (hne : call ≠ .abortPending) :
    Owed w k ∨ k ∈ leasedKeys events := by
  have hother : ∀ {j : Key} {s : Option KeyState}, k ≠ j →
      Function.update v.phase j s k = v.phase k := fun hj => Function.update_of_ne hj _ _
  cases hstep with
  | signalRejected j _ | signalQueued j _ _ | takeAborted p _ | takeStopped p _ _
  | takeWaits p _ _ _ | drainIdle p _ | drainWaits p _ => exact .inl h
  | abortAgain _ | abort _ => exact absurd rfl hne
  | shutdown => exact .inl (h.of_phase_eq (by simp [View.close]) (by simp [View.close]))
  | signalIdle j hopen hj hw =>
    have hkj : k ≠ j := by
      rintro rfl
      exact hv.toBase.not_owed (by simp [hj]) (by simp [hj]) h
    exact .inl (h.of_phase_eq (by simp +contextual [View.queue]) (hother hkj))
  | signalHanded j p ws hopen hj hr hw =>
    have hkj : k ≠ j := by
      rintro rfl
      exact hv.toBase.not_owed (by simp [hj]) (by simp [hj]) h
    exact .inl (h.of_phase_eq (fun _ hi => hi) (hother hkj))
  | signalDirty j d t hopen hj =>
    by_cases hkj : k = j
    · exact .inl (.inr ⟨t, hkj ▸ setPhase_phase_self v j _⟩)
    · exact .inl (h.of_phase_eq (fun _ hi => hi) (hother hkj))
  | takeReady p j rest habort hr =>
    by_cases hkj : k = j
    · exact .inr (by simp [View.item, hkj])
    · refine .inl (h.imp (fun hk => ?_) (Exists.imp fun t ht => (hother hkj).trans ht))
      simpa [hr, hkj] using hk
  | doneReplay item hitem habort hk hw =>
    by_cases hkj : k = item.key
    · exact .inl (.inl (by simp [View.queue, hkj]))
    · exact .inl (h.of_phase_eq (by simp +contextual [View.queue, View.finish]) (hother hkj))
  | doneHanded item p ws hitem habort hk hr hw =>
    by_cases hkj : k = item.key
    · exact .inr (by simp [View.item, hkj])
    · exact .inl (h.of_phase_eq (fun _ hi => hi) (hother hkj))
  | doneFinal item d hitem hk hfinal =>
    have hkj : k ≠ item.key := by
      rintro rfl
      refine hv.toBase.not_owed (by simp [hk]) (fun t ht => ?_) h
      rcases hfinal with rfl | ha
      · rw [hk] at ht
        cases ht
      · exact ((hv.aborted_clean ha).2 _).2 t ht
    refine .inl (h.of_phase_eq (by simp [View.setPhase, View.finish]) ?_)
    rw [settle_phase]
    exact hother hkj

theorem owed_of_signal (hv : Inv v) (hstep : Step v (.signal k) w events) (hs : .signalled k true ∈ events) :
    Owed w k ∨ k ∈ leasedKeys events := by
  cases hstep with
  | signalRejected _ _ => simp at hs
  | signalIdle _ hopen hk hw => exact .inl (.inl (by simp [View.queue]))
  | signalHanded _ p ws hopen hk hr hw =>
    exact .inr (by simp [View.item])
  | signalQueued _ hopen hk => exact .inl (.inl ((hv.ready_iff k).2 hk))
  | signalDirty _ d t hopen hk => exact .inl (.inr ⟨t, setPhase_phase_self v k _⟩)

theorem Owed.run {calls : List (Call Key)}
    (hrun : Run v calls w events) (h : Owed v k) (hv : Inv v) (hne : .abortPending ∉ calls) :
    Owed w k ∨ k ∈ leasedKeys events := by
  induction hrun with
  | nil => exact .inl h
  | cons hstep hrun ih =>
    rw [List.mem_cons, not_or] at hne
    rw [leasedKeys_append, List.mem_append]
    rcases h.step hv hstep (Ne.symm hne.1) with hu | hleased
    · exact (ih hu (hv.step hstep) hne.2).imp_right .inr
    · exact .inr (.inl hleased)
  | raised _ _ ih => exact ih h hv (fun hm => hne (List.mem_cons_of_mem _ hm))

theorem step_order {call : Call Key} (hv : Inv v) (hstep : Step v call w events) :
    (w.aborted = false → v.aborted = false ∧ v.ready ++ readyKeys events = leasedKeys events ++ w.ready) ∧
      (w.aborted = true → readyKeys events = [] ∧ leasedKeys events = []) := by
  have hopened : v.closed = false → v.aborted = false := fun hopen => (hv.toBase.of_open hopen).1
  cases hstep with
  | signalRejected k _ | signalQueued k _ _ | signalDirty k d t _ _ =>
    exact ⟨fun ha => ⟨ha, by simp [View.setPhase]⟩, fun _ => ⟨rfl, rfl⟩⟩
  | takeAborted p _ | takeStopped p _ _ | takeWaits p _ _ _ | drainIdle p _ | drainWaits p _ =>
    exact ⟨fun ha => ⟨ha, by simp⟩, fun _ => ⟨rfl, rfl⟩⟩
  | signalIdle k hopen hk hw =>
    have ha := hopened hopen
    exact ⟨fun _ => ⟨ha, by simp [View.queue]⟩, fun habort => by simp [View.queue, View.setPhase, ha] at habort⟩
  | signalHanded k p ws hopen hk hr hw =>
    have ha := hopened hopen
    exact ⟨fun _ => ⟨ha, by simp [View.lease, View.setPhase, View.item, hr]⟩,
      fun habort => by simp [View.lease, View.setPhase, ha] at habort⟩
  | takeReady p k rest ha hr =>
    exact ⟨fun _ => ⟨ha, by simp [View.item, hr]⟩, fun habort => by simp [View.lease, View.setPhase, ha] at habort⟩
  | shutdown => exact ⟨fun ha => by simpa [View.close] using ha, fun _ => by simp⟩
  | abortAgain ha => exact ⟨fun h => by simp [ha] at h, fun _ => ⟨rfl, rfl⟩⟩
  | abort ha => exact ⟨fun h => by simp [View.drop] at h, fun _ => by simp⟩
  | doneReplay item hitem ha hk hw =>
    exact ⟨fun _ => ⟨ha, by simp [View.queue, View.finish]⟩,
      fun habort => by simp [View.queue, View.setPhase, View.finish, ha] at habort⟩
  | doneHanded item p ws hitem ha hk hr hw =>
    exact ⟨fun _ => ⟨ha, by simp [View.lease, View.setPhase, View.item, View.finish, hr]⟩,
      fun habort => by simp [View.lease, View.setPhase, View.finish, ha] at habort⟩
  | doneFinal item d hitem hk hfinal =>
    have hready : ∀ u : View Key, readyKeys (.completed item :: u.settleEvents) = [] ∧
        leasedKeys (.completed item :: u.settleEvents) = [] := fun u =>
      ⟨readyKeys_settleEvents u, leasedKeys_settleEvents u⟩
    refine ⟨fun ha => ⟨by simpa [View.setPhase, View.finish] using ha, ?_⟩, fun _ => hready _⟩
    rw [(hready _).1, (hready _).2]
    simp [View.setPhase, View.finish]

/-- The keys readied so far are the keys leased so far and then the ready ones. -/
structure Ordered (events : List (Event Key)) (v : View Key) : Prop where
  leased : leasedKeys events <+: readyKeys events
  pending : v.aborted = false → readyKeys events = leasedKeys events ++ v.ready

theorem Ordered.run {calls : List (Call Key)} {past events : List (Event Key)}
    (hrun : Run v calls w events) (h : Ordered past v) (hv : Inv v) : Ordered (past ++ events) w := by
  induction hrun generalizing past with
  | nil => rwa [List.append_nil]
  | @cons v u w call calls events more hstep hrun ih =>
    rw [← List.append_assoc]
    refine ih ?_ (hv.step hstep)
    obtain ⟨hactive, haborted⟩ := step_order hv hstep
    cases ha : u.aborted with
    | true =>
      obtain ⟨hr, hl⟩ := haborted ha
      exact ⟨by simpa [hr, hl] using h.leased, fun hf => by simp [ha] at hf⟩
    | false =>
      obtain ⟨hvactive, heq⟩ := hactive ha
      have hpending : readyKeys (past ++ events) = leasedKeys (past ++ events) ++ u.ready := by
        rw [readyKeys_append, h.pending hvactive, List.append_assoc, heq, leasedKeys_append, List.append_assoc]
      exact ⟨hpending ▸ List.prefix_append _ _, fun _ => hpending⟩
  | raised _ _ ih => exact ih h hv

end KeyedWorkQueue
