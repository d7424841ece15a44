import Yui.BoundedRpc

/-!
# Each request settles once and is posted once

While no call gets its slot between the start of a new worker and the replay, and no call takes the
identity of a pending one, every call settles at most once, its slot is released when it leaves the pending
map, and no worker gets a request twice. A call that gets its slot in between is posted and then replayed.
-/

open FallibleRun

namespace SlotCalls

@[simp] theorem released_release (s : SlotCalls) : s.release.released = s.released := by
  unfold release
  split
  · rfl
  · split <;> rfl

@[simp] theorem called_release (s : SlotCalls) : s.release.called = s.called := by
  unfold release
  split
  · rfl
  · split <;> rfl

@[simp] theorem released_enter (s : SlotCalls) (id : ℕ) : (s.enter id).released = s.released := by
  unfold enter
  split_ifs <;> rfl

@[simp] theorem called_enter (s : SlotCalls) (id : ℕ) : (s.enter id).called = s.called := by
  unfold enter
  split_ifs <;> rfl

end SlotCalls

/-- What a call owes in its phase: no settlement and no release before it is over, one of each after. -/
def RpcSend.Accounted (released : List ℕ) (sent : RpcSend) : Prop :=
  match sent.phase with
  | .ready _ => sent.slot = none ∧ sent.settled = 0
  | .slot => ∃ id, sent.slot = some id ∧ released.count id = 0 ∧ sent.settled = 0
  | .inFlight => ∃ id, sent.slot = some id ∧ released.count id = 0 ∧ sent.settled = 0
  | .ended => sent.settled = 1 ∧ ∀ id ∈ sent.slot, released.count id = 1

namespace RpcClient

structure Once (c : RpcClient) : Prop where
  accounted : ∀ (call : ℕ) (sent : RpcSend), c.sends[call]? = some sent → sent.Accounted c.slots.released
  called : ∀ (call : ℕ) sent id, c.sends[call]? = some sent → sent.slot = some id →
    id < c.slots.called
  distinct : ∀ (call other : ℕ) sent sent' id, c.sends[call]? = some sent →
    c.sends[other]? = some sent' → sent.slot = some id → sent'.slot = some id → call = other
  released : ∀ id ∈ c.slots.released, id < c.slots.called
  pending : ∀ requestId (call : ℕ), (requestId, call) ∈ c.pending ↔
    ∃ sent, c.sends[call]? = some sent ∧ sent.phase = .inFlight ∧ sent.requestId = requestId
  keys : (c.pending.map Prod.fst).Nodup
  posted : ∀ generation call, (generation, call) ∈ c.posts → generation ≤ c.generation ∧
    ∃ sent, c.sends[call]? = some sent ∧ (sent.phase = .inFlight ∨ sent.phase = .ended)
  posts : c.posts.Nodup
  starting : c.restart = .starting →
    ∀ generation call, (generation, call) ∈ c.posts → generation < c.generation

theorem once_create (pool : BoundedSlotPool) : Once (create pool) := by
  constructor
  all_goals simp [create, SlotCalls.start]

def freed (slots : SlotCalls) (id : ℕ) : SlotCalls :=
  { slots with holding := slots.holding.erase id, released := slots.released ++ [id] }.release

variable {c : RpcClient} {sent : RpcSend}

theorem releaseSlot_eq {call id : ℕ} (hsent : c.sends[call]? = some sent) (hslot : sent.slot = some id) :
    c.releaseSlot call = { c with slots := freed c.slots id } := by
  rw [releaseSlot, hsent, Option.bind_some, hslot]
  rfl

variable {f : RpcSend → RpcSend} {sends : List RpcSend}

theorem getElem?_modify_cases {call other : ℕ} (h : (sends.modify call f)[other]? = some sent) :
    (other = call ∧ ∃ before, sends[call]? = some before ∧ sent = f before) ∨
      other ≠ call ∧ sends[other]? = some sent := by
  rw [List.getElem?_modify] at h
  obtain ⟨before, hbefore, hchange⟩ := Option.map_eq_some_iff.1 h
  by_cases heq : call = other
  · subst heq
    rw [if_pos rfl] at hchange
    exact .inl ⟨rfl, before, hbefore, hchange.symm⟩
  · rw [if_neg heq] at hchange
    subst hchange
    exact .inr ⟨fun h => heq h.symm, hbefore⟩

variable {call : ℕ}

theorem getElem?_modify_self (h : sends[call]? = some sent) : (sends.modify call f)[call]? = some (f sent) := by
  rw [List.getElem?_modify, h]
  simp

theorem getElem?_modify_other {call other : ℕ}
    (h : other ≠ call) : (sends.modify call f)[other]? = sends[other]? := by
  rw [List.getElem?_modify]
  have hne : call ≠ other := fun heq => h heq.symm
  cases sends[other]? with
  | none => rfl
  | some sent => simp [hne]

theorem getElem?_modify_eq {call index : ℕ} {found : RpcSend} (hsent : sends[call]? = some sent)
    (hfound : (sends.modify call f)[index]? = some found) :
    index ≠ call ∧ sends[index]? = some found ∨ index = call ∧ found = f sent := by
  rcases getElem?_modify_cases hfound with ⟨rfl, before, hbefore, rfl⟩ | ⟨hne, hsame⟩
  · rw [hsent] at hbefore
    cases hbefore
    exact .inr ⟨rfl, rfl⟩
  · exact .inl ⟨hne, hsame⟩

theorem ne_of_phase {call index : ℕ} {found : RpcSend} (hsent : sends[call]? = some sent)
    (hfound : sends[index]? = some found) (hphase : found.phase ≠ sent.phase) : index ≠ call := by
  rintro rfl
  rw [hsent] at hfound
  cases hfound
  exact hphase rfl

theorem accounted_append {released : List ℕ} {id : ℕ} (h : sent.Accounted released) (hother : sent.slot ≠ some id) :
    sent.Accounted (released ++ [id]) := by
  have hcount : ∀ slot, sent.slot = some slot → (released ++ [id]).count slot = released.count slot := by
    intro slot hslot
    have hne : id ≠ slot := by
      rintro rfl
      exact hother hslot
    rw [List.count_append, List.count_singleton, if_neg (by simpa using hne), Nat.add_zero]
  unfold RpcSend.Accounted at h ⊢
  cases hphase : sent.phase with
  | ready generation =>
    rw [hphase] at h
    exact h
  | slot =>
    rw [hphase] at h
    obtain ⟨slot, hslot, hnone, hsettled⟩ := h
    exact ⟨slot, hslot, (hcount slot hslot).trans hnone, hsettled⟩
  | inFlight =>
    rw [hphase] at h
    obtain ⟨slot, hslot, hnone, hsettled⟩ := h
    exact ⟨slot, hslot, (hcount slot hslot).trans hnone, hsettled⟩
  | ended =>
    rw [hphase] at h
    exact ⟨h.1, fun slot hslot => (hcount slot hslot).trans (h.2 slot hslot)⟩

theorem Once.ended (h : Once c) {call id : ℕ}
    (hsent : c.sends[call]? = some sent) (hphase : sent.phase = .slot ∨ sent.phase = .inFlight)
    (hslot : sent.slot = some id) {pending : List (String × ℕ)}
    (hsub : pending.Sublist c.pending) (hmem : ∀ entry ∈ c.pending, entry.2 ≠ call → entry ∈ pending)
    (hgone : ∀ entry ∈ pending, entry.2 ≠ call) : Once { c with
      sends := c.sends.modify call fun sent =>
        { sent with phase := .ended, settled := sent.settled + 1 }
      pending := pending, slots := freed c.slots id } := by
  have hopen : c.slots.released.count id = 0 ∧ sent.settled = 0 := by
    have hacc := h.accounted call sent hsent
    unfold RpcSend.Accounted at hacc
    rcases hphase with hphase | hphase
    · rw [hphase] at hacc
      obtain ⟨slot, hfound, hnone, hsettled⟩ := hacc
      rw [hslot] at hfound
      cases hfound
      exact ⟨hnone, hsettled⟩
    · rw [hphase] at hacc
      obtain ⟨slot, hfound, hnone, hsettled⟩ := hacc
      rw [hslot] at hfound
      cases hfound
      exact ⟨hnone, hsettled⟩
  have hreleased : (freed c.slots id).released = c.slots.released ++ [id] := by simp [freed]
  have hcalled : (freed c.slots id).called = c.slots.called := by simp [freed]
  constructor
  · intro other after hafter
    show after.Accounted (freed c.slots id).released
    rw [hreleased]
    rcases getElem?_modify_cases hafter with ⟨rfl, before, hbefore, rfl⟩ | ⟨hne, hsame⟩
    · rw [hsent] at hbefore
      cases hbefore
      refine ⟨by simp [hopen.2], ?_⟩
      intro slot hfound
      rw [Option.mem_def] at hfound
      have hsame : slot = id := Option.some.inj (hfound.symm.trans hslot)
      rw [hsame, List.count_append, hopen.1, List.count_singleton_self]
    · apply accounted_append (h.accounted other after hsame)
      intro hshared
      exact hne (h.distinct _ _ _ _ _ hsame hsent hshared hslot)
  · intro other after slot hafter hfound
    show slot < (freed c.slots id).called
    rw [hcalled]
    rcases getElem?_modify_cases hafter with ⟨rfl, before, hbefore, rfl⟩ | ⟨-, hsame⟩
    · exact h.called _ _ _ hbefore hfound
    · exact h.called _ _ _ hsame hfound
  · intro first second after after' slot hfirst hsecond hslot1 hslot2
    have hback : ∀ (index : ℕ) (found : RpcSend), (c.sends.modify call fun sent =>
        { sent with phase := .ended, settled := sent.settled + 1 })[index]? = some found →
          ∃ before, c.sends[index]? = some before ∧ before.slot = found.slot := by
      intro index found hfound
      rcases getElem?_modify_cases hfound with ⟨rfl, before, hbefore, rfl⟩ | ⟨-, hsame⟩
      · exact ⟨before, hbefore, rfl⟩
      · exact ⟨found, hsame, rfl⟩
    obtain ⟨before, hbefore, hsame⟩ := hback _ _ hfirst
    obtain ⟨before', hbefore', hsame'⟩ := hback _ _ hsecond
    exact h.distinct _ _ _ _ _ hbefore hbefore' (hsame.trans hslot1) (hsame'.trans hslot2)
  · intro slot hmem
    show slot < (freed c.slots id).called
    rw [hcalled]
    have hmem' : slot ∈ c.slots.released ++ [id] := hreleased ▸ hmem
    rcases List.mem_append.1 hmem' with hold | hnew
    · exact h.released slot hold
    · rw [List.mem_singleton.1 hnew]
      exact h.called _ _ _ hsent hslot
  · intro requestId other
    constructor
    · intro hentry
      have hne := hgone _ hentry
      obtain ⟨found, hfound, hrest⟩ := (h.pending requestId other).1 (hsub.subset hentry)
      exact ⟨found, (getElem?_modify_other hne).trans hfound, hrest⟩
    · rintro ⟨found, hfound, hflight, hrequest⟩
      rcases getElem?_modify_cases hfound with ⟨rfl, before, hbefore, rfl⟩ | ⟨hne, hsame⟩
      · cases hflight
      · exact hmem _ ((h.pending requestId other).2 ⟨found, hsame, hflight, hrequest⟩) hne
  · exact h.keys.sublist (hsub.map Prod.fst)
  · intro generation other hpost
    obtain ⟨hle, found, hfound, hlater⟩ := h.posted generation other hpost
    refine ⟨hle, ?_⟩
    by_cases heq : other = call
    · subst heq
      exact ⟨_, getElem?_modify_self hfound, .inr rfl⟩
    · exact ⟨found, (getElem?_modify_other heq).trans hfound, hlater⟩
  · exact h.posts
  · exact h.starting

/-- What the invariant reads of a client is unchanged. -/
theorem Once.of_eq {c d : RpcClient} (h : Once c) (hsends : d.sends = c.sends)
    (hpending : d.pending = c.pending) (hreleased : d.slots.released = c.slots.released)
    (hcalled : d.slots.called = c.slots.called) (hgeneration : d.generation = c.generation)
    (hposts : d.posts = c.posts) (hstarting : d.restart = .starting → c.restart = .starting) : Once d := by
  constructor
  · rw [hsends, hreleased]
    exact h.accounted
  · rw [hsends, hcalled]
    exact h.called
  · rw [hsends]
    exact h.distinct
  · rw [hreleased, hcalled]
    exact h.released
  · rw [hpending, hsends]
    exact h.pending
  · rw [hpending]
    exact h.keys
  · rw [hposts, hgeneration, hsends]
    exact h.posted
  · rw [hposts]
    exact h.posts
  · intro hrestart
    rw [hposts, hgeneration]
    exact h.starting (hstarting hrestart)

theorem Once.of_modify (h : Once c) (call : ℕ)
    (hf : ∀ sent, (f sent).requestId = sent.requestId ∧ (f sent).phase = sent.phase ∧
      (f sent).slot = sent.slot ∧ (f sent).settled = sent.settled) :
    Once { c with sends := c.sends.modify call f } := by
  have hback : ∀ (index : ℕ) (found : RpcSend), (c.sends.modify call f)[index]? = some found →
      ∃ before, c.sends[index]? = some before ∧ found.requestId = before.requestId ∧
        found.phase = before.phase ∧ found.slot = before.slot ∧ found.settled = before.settled := by
    intro index found hfound
    rcases getElem?_modify_cases hfound with ⟨rfl, before, hbefore, rfl⟩ | ⟨-, hsame⟩
    · exact ⟨before, hbefore, hf before⟩
    · exact ⟨found, hsame, rfl, rfl, rfl, rfl⟩
  have hforth : ∀ (index : ℕ) (before : RpcSend), c.sends[index]? = some before →
      ∃ found, (c.sends.modify call f)[index]? = some found ∧
        found.requestId = before.requestId ∧ found.phase = before.phase := by
    intro index before hbefore
    by_cases heq : index = call
    · subst heq
      exact ⟨_, getElem?_modify_self hbefore, (hf before).1, (hf before).2.1⟩
    · exact ⟨before, (getElem?_modify_other heq).trans hbefore, rfl, rfl⟩
  constructor
  · intro index found hfound
    obtain ⟨before, hbefore, -, hphase, hslot, hsettled⟩ := hback index found hfound
    have hacc := h.accounted index before hbefore
    unfold RpcSend.Accounted at hacc ⊢
    rw [hphase, hslot, hsettled]
    exact hacc
  · intro index found id hfound hslot
    obtain ⟨before, hbefore, -, -, hsame, -⟩ := hback index found hfound
    exact h.called index before id hbefore (hsame ▸ hslot)
  · intro first second found found' id hfirst hsecond hslot hslot'
    obtain ⟨before, hbefore, -, -, hsame, -⟩ := hback first found hfirst
    obtain ⟨before', hbefore', -, -, hsame', -⟩ := hback second found' hsecond
    exact h.distinct _ _ _ _ id hbefore hbefore' (hsame ▸ hslot) (hsame' ▸ hslot')
  · exact h.released
  · intro requestId index
    rw [h.pending]
    constructor
    · rintro ⟨before, hbefore, hphase, hid⟩
      obtain ⟨found, hfound, hid', hphase'⟩ := hforth index before hbefore
      exact ⟨found, hfound, hphase'.trans hphase, hid'.trans hid⟩
    · rintro ⟨found, hfound, hphase, hid⟩
      obtain ⟨before, hbefore, hid', hphase', -, -⟩ := hback index found hfound
      exact ⟨before, hbefore, hphase'.symm.trans hphase, hid'.symm.trans hid⟩
  · exact h.keys
  · intro generation index hpost
    obtain ⟨hle, before, hbefore, hlater⟩ := h.posted generation index hpost
    obtain ⟨found, hfound, -, hphase⟩ := hforth index before hbefore
    exact ⟨hle, found, hfound, hphase ▸ hlater⟩
  · exact h.posts
  · exact h.starting

theorem Once.pending_slot (h : Once c) {entry : String × ℕ} (hentry : entry ∈ c.pending) :
    ∃ sent id, c.sends[entry.2]? = some sent ∧ sent.phase = .inFlight ∧
      sent.requestId = entry.1 ∧ sent.slot = some id := by
  obtain ⟨sent, hsent, hphase, hid⟩ := (h.pending entry.1 entry.2).1 hentry
  have hacc := h.accounted _ _ hsent
  unfold RpcSend.Accounted at hacc
  rw [hphase] at hacc
  obtain ⟨id, hslot, -, -⟩ := hacc
  exact ⟨sent, id, hsent, hphase, hid, hslot⟩

theorem Once.drop (h : Once c) {entry : String × ℕ} (hentry : entry ∈ c.pending) :
    ∃ id, ((c.forget entry.1).releaseSlot entry.2).settle entry.2 = { c with
          sends := c.sends.modify entry.2 fun sent =>
            { sent with phase := .ended, settled := sent.settled + 1 }
          pending := c.pending.filter fun other => other.1 ≠ entry.1, slots := freed c.slots id } ∧
      Once (((c.forget entry.1).releaseSlot entry.2).settle entry.2) := by
  obtain ⟨sent, id, hsent, hphase, hid, hslot⟩ := h.pending_slot hentry
  have hdrop : ((c.forget entry.1).releaseSlot entry.2).settle entry.2 =
      { c with
        sends := c.sends.modify entry.2 fun sent =>
          { sent with phase := .ended, settled := sent.settled + 1 }
        pending := c.pending.filter fun other => other.1 ≠ entry.1, slots := freed c.slots id } := by
    rw [releaseSlot_eq (c := c.forget entry.1) hsent hslot]
    rfl
  refine ⟨id, hdrop, ?_⟩
  rw [hdrop]
  apply h.ended hsent (.inr hphase) hslot List.filter_sublist
  · intro other hother hne
    apply List.mem_filter.2
    refine ⟨hother, ?_⟩
    rw [decide_eq_true_eq]
    intro hsame
    have heq : other = entry := List.inj_on_of_nodup_map h.keys hother hentry hsame
    exact hne (heq ▸ rfl)
  · intro other hother heq
    obtain ⟨hmem, hkey⟩ := List.mem_filter.1 hother
    rw [decide_eq_true_eq] at hkey
    obtain ⟨sent', hsent', -, hid'⟩ := (h.pending other.1 other.2).1 hmem
    rw [heq, hsent] at hsent'
    cases hsent'
    exact hkey (hid'.symm.trans hid)

theorem Once.failPending (h : Once c) :
    Once c.failPending ∧ c.failPending.pending = [] ∧ c.failPending.restart = c.restart := by
  have hloop : ∀ (entries : List (String × ℕ)) (c : RpcClient), Once c → c.pending = entries →
      Once (entries.foldl (fun c entry =>
        ((c.forget entry.1).releaseSlot entry.2).settle entry.2) c) ∧
      (entries.foldl (fun c entry =>
        ((c.forget entry.1).releaseSlot entry.2).settle entry.2) c).pending = [] ∧
      (entries.foldl (fun c entry =>
        ((c.forget entry.1).releaseSlot entry.2).settle entry.2) c).restart = c.restart := by
    intro entries
    induction entries with
    | nil => exact fun c h hpending => ⟨h, hpending, rfl⟩
    | cons entry entries ih =>
      intro c h hpending
      have hentry : entry ∈ c.pending := hpending ▸ List.mem_cons_self
      obtain ⟨id, hdrop, honce⟩ := h.drop hentry
      have hkeys := h.keys
      rw [hpending, List.map_cons, List.nodup_cons] at hkeys
      have hrest : (((c.forget entry.1).releaseSlot entry.2).settle entry.2).pending = entries := by
        rw [hdrop]
        show c.pending.filter _ = entries
        rw [hpending, List.filter_cons_of_neg (by simp), List.filter_eq_self]
        intro other hother
        rw [decide_eq_true_eq]
        intro hsame
        exact hkeys.1 (List.mem_map.2 ⟨other, hother, hsame⟩)
      obtain ⟨hdone, hnone, hrestart⟩ := ih _ honce hrest
      refine ⟨hdone, hnone, ?_⟩
      rw [List.foldl_cons, hrestart, hdrop]
  exact hloop c.pending c h rfl

theorem Once.fireReady (h : Once c) (outcome : Bool) : Once (c.fireReady outcome) := by
  unfold RpcClient.fireReady
  split_ifs
  · exact h
  · exact h.of_eq rfl rfl rfl rfl rfl rfl fun hrestart => hrestart

/-- A posted call is in flight or over. -/
theorem Once.posted_ne (h : Once c) {generation index : ℕ} (hpost : (generation, index) ∈ c.posts)
    (hsent : c.sends[call]? = some sent) (hflight : sent.phase ≠ .inFlight) (hended : sent.phase ≠ .ended) :
    index ≠ call := by
  obtain ⟨-, found, hfound, hlater⟩ := h.posted generation index hpost
  apply ne_of_phase hsent hfound
  rcases hlater with hlater | hlater
  · exact fun heq => hflight (heq.symm.trans hlater)
  · exact fun heq => hended (heq.symm.trans hlater)

/-- A call that waits for the ready promise goes on, with no slot or with the next one. -/
theorem Once.goOn (h : Once c) {call generation : ℕ}
    (hsent : c.sends[call]? = some sent) (hphase : sent.phase = .ready generation)
    {slots : SlotCalls} (hreleased : slots.released = c.slots.released) (hcalled : c.slots.called ≤ slots.called)
    (hflight : (f sent).phase ≠ .inFlight) (hacc : (f sent).Accounted c.slots.released)
    (hslot : ∀ id, (f sent).slot = some id → c.slots.called ≤ id ∧ id < slots.called) :
    Once { c with slots := slots, sends := c.sends.modify call f } := by
  have hready : sent.phase ≠ .inFlight ∧ sent.phase ≠ .ended := by
    rw [hphase]
    exact ⟨nofun, nofun⟩
  constructor
  · intro index found hfound
    show found.Accounted slots.released
    rw [hreleased]
    rcases getElem?_modify_eq hsent hfound with ⟨-, hsame⟩ | ⟨-, rfl⟩
    · exact h.accounted index found hsame
    · exact hacc
  · intro index found id hfound hid
    rcases getElem?_modify_eq hsent hfound with ⟨-, hsame⟩ | ⟨-, rfl⟩
    · exact (h.called index found id hsame hid).trans_le hcalled
    · exact (hslot id hid).2
  · intro first second found found' id hfirst hsecond hid hid'
    rcases getElem?_modify_eq hsent hfirst with ⟨-, hsame⟩ | ⟨rfl, rfl⟩ <;>
      rcases getElem?_modify_eq hsent hsecond with ⟨-, hsame'⟩ | ⟨rfl, rfl⟩
    · exact h.distinct _ _ _ _ id hsame hsame' hid hid'
    · exact absurd (h.called _ _ _ hsame hid) (hslot id hid').1.not_gt
    · exact absurd (h.called _ _ _ hsame' hid') (hslot id hid).1.not_gt
    · rfl
  · exact fun id hmem => (h.released id (hreleased ▸ hmem)).trans_le hcalled
  · intro requestId index
    rw [h.pending]
    constructor
    · rintro ⟨found, hfound, hfly, hid⟩
      have hne := ne_of_phase hsent hfound fun heq => hready.1 (heq.symm.trans hfly)
      exact ⟨found, (getElem?_modify_other hne).trans hfound, hfly, hid⟩
    · rintro ⟨found, hfound, hfly, hid⟩
      rcases getElem?_modify_eq hsent hfound with ⟨-, hsame⟩ | ⟨-, rfl⟩
      · exact ⟨found, hsame, hfly, hid⟩
      · exact absurd hfly hflight
  · exact h.keys
  · intro posted index hpost
    obtain ⟨hle, found, hfound, hlater⟩ := h.posted posted index hpost
    have hne := h.posted_ne hpost hsent hready.1 hready.2
    exact ⟨hle, found, (getElem?_modify_other hne).trans hfound, hlater⟩
  · exact h.posts
  · exact h.starting

/-- A call that never got a slot is over. -/
theorem Once.reject (h : Once c) {call generation : ℕ}
    (hsent : c.sends[call]? = some sent) (hphase : sent.phase = .ready generation) : Once (c.settle call) := by
  have hacc := h.accounted call sent hsent
  unfold RpcSend.Accounted at hacc
  rw [hphase] at hacc
  have hslot : ∀ id, sent.slot ≠ some id := by simp [hacc.1]
  exact h.goOn hsent hphase (rfl : c.slots.released = c.slots.released) (Nat.le_refl _) nofun
    ⟨by simp [hacc.2], fun id hid => absurd hid (hslot id)⟩ fun id hid => absurd hid (hslot id)

theorem Once.acquire (h : Once c) {call generation : ℕ}
    (hsent : c.sends[call]? = some sent) (hphase : sent.phase = .ready generation)
    {slots : SlotCalls} (hreleased : slots.released = c.slots.released)
    (hcalled : slots.called = c.slots.called + 1) : Once { c with
      slots := slots
      sends := c.sends.modify call fun sent =>
        { sent with phase := .slot, slot := some c.slots.called } } := by
  have hacc := h.accounted call sent hsent
  unfold RpcSend.Accounted at hacc
  rw [hphase] at hacc
  have hfresh : c.slots.released.count c.slots.called = 0 :=
    List.count_eq_zero.2 fun hmem => absurd (h.released _ hmem) (Nat.lt_irrefl _)
  refine h.goOn hsent hphase hreleased (by omega) nofun ⟨_, rfl, hfresh, hacc.2⟩ fun id hid => ?_
  cases hid
  omega

theorem Once.post (h : Once c) (hsent : c.sends[call]? = some sent) (hphase : sent.phase = .slot)
    (hfree : sent.requestId ∉ c.pending.map Prod.fst) (hrestart : c.restart ≠ .starting) : Once { c with
      sends := c.sends.modify call fun sent => { sent with phase := .inFlight }
      pending := KeyedTable.save Prod.fst c.pending (sent.requestId, call)
      posts := c.posts ++ [(c.generation, call)] } := by
  have hacc := h.accounted call sent hsent
  unfold RpcSend.Accounted at hacc
  rw [hphase] at hacc
  have hpending : KeyedTable.save Prod.fst c.pending (sent.requestId, call) =
      c.pending ++ [(sent.requestId, call)] := by
    unfold KeyedTable.save
    rw [if_neg]
    intro hsome
    obtain ⟨row, hrow⟩ := Option.isSome_iff_exists.1 hsome
    apply hfree
    rw [List.mem_map]
    exact ⟨row, KeyedTable.mem_of_get hrow, KeyedTable.key_of_get hrow⟩
  have hflight : sent.phase ≠ .inFlight ∧ sent.phase ≠ .ended := by
    rw [hphase]
    exact ⟨nofun, nofun⟩
  have hfresh : ∀ generation, (generation, call) ∉ c.posts := fun generation hpost =>
    h.posted_ne hpost hsent hflight.1 hflight.2 rfl
  have hslots : ∀ (index : ℕ) (found : RpcSend),
      (c.sends.modify call fun sent => { sent with phase := .inFlight })[index]? = some found →
        ∃ before, c.sends[index]? = some before ∧ before.slot = found.slot := by
    intro index found hfound
    rcases getElem?_modify_eq hsent hfound with ⟨-, hsame⟩ | ⟨rfl, rfl⟩
    · exact ⟨found, hsame, rfl⟩
    · exact ⟨sent, hsent, rfl⟩
  rw [hpending]
  constructor
  · intro index found hfound
    rcases getElem?_modify_eq hsent hfound with ⟨-, hsame⟩ | ⟨-, rfl⟩
    · exact h.accounted index found hsame
    · exact hacc
  · intro index found id hfound hid
    obtain ⟨before, hbefore, hsame⟩ := hslots index found hfound
    exact h.called index before id hbefore (hsame.trans hid)
  · intro first second found found' id hfirst hsecond hid hid'
    obtain ⟨before, hbefore, hsame⟩ := hslots first found hfirst
    obtain ⟨before', hbefore', hsame'⟩ := hslots second found' hsecond
    exact h.distinct _ _ _ _ id hbefore hbefore' (hsame.trans hid) (hsame'.trans hid')
  · exact h.released
  · intro requestId index
    rw [List.mem_append, h.pending]
    constructor
    · rintro (⟨found, hfound, hfly, hid⟩ | hnew)
      · have hne := ne_of_phase hsent hfound fun heq => hflight.1 (heq.symm.trans hfly)
        exact ⟨found, (getElem?_modify_other hne).trans hfound, hfly, hid⟩
      · cases List.mem_singleton.1 hnew
        exact ⟨_, getElem?_modify_self hsent, rfl, rfl⟩
    · rintro ⟨found, hfound, hfly, hid⟩
      rcases getElem?_modify_eq hsent hfound with ⟨-, hsame⟩ | ⟨rfl, rfl⟩
      · exact .inl ⟨found, hsame, hfly, hid⟩
      · right
        rw [← hid]
        exact List.mem_singleton_self _
  · rw [List.map_append, List.nodup_append]
    refine ⟨h.keys, List.nodup_singleton _, ?_⟩
    intro key hkey other hother heq
    rw [List.map_singleton, List.mem_singleton] at hother
    have hsame : key = sent.requestId := heq.trans hother
    exact hfree (hsame ▸ hkey)
  · intro generation index hpost
    rcases List.mem_append.1 hpost with hold | hnew
    · obtain ⟨hle, found, hfound, hlater⟩ := h.posted generation index hold
      have hne : index ≠ call := by
        rintro rfl
        exact hfresh generation hold
      exact ⟨hle, found, (getElem?_modify_other hne).trans hfound, hlater⟩
    · cases List.mem_singleton.1 hnew
      exact ⟨Nat.le_refl _, _, getElem?_modify_self hsent, .inl rfl⟩
  · rw [List.nodup_append]
    refine ⟨h.posts, List.nodup_singleton _, ?_⟩
    intro post hpost other hother heq
    rw [List.mem_singleton.1 hother] at heq
    exact hfresh _ (heq ▸ hpost)
  · exact fun hstarting => absurd hstarting hrestart

theorem Once.begin (h : Once c) (hslot : sent.slot = none)
    (hphase : (∃ generation, sent.phase = .ready generation) ∧ sent.settled = 0 ∨
      sent.phase = .ended ∧ sent.settled = 1) : Once { c with sends := c.sends ++ [sent] } := by
  have hback : ∀ (index : ℕ) (found : RpcSend), (c.sends ++ [sent])[index]? = some found →
      c.sends[index]? = some found ∨ found = sent := by
    intro index found hfound
    rw [List.getElem?_append] at hfound
    split_ifs at hfound
    · exact .inl hfound
    · exact .inr (List.mem_singleton.1 (List.mem_of_getElem? hfound))
  have hforth : ∀ (index : ℕ) (found : RpcSend), c.sends[index]? = some found →
      (c.sends ++ [sent])[index]? = some found := by
    intro index found hfound
    rw [List.getElem?_append_left (List.getElem?_eq_some_iff.1 hfound).1]
    exact hfound
  have hold : ∀ (index : ℕ) (found : RpcSend) (id : ℕ), (c.sends ++ [sent])[index]? = some found →
      found.slot = some id → c.sends[index]? = some found := by
    intro index found id hfound hid
    rcases hback index found hfound with hsame | rfl
    · exact hsame
    · rw [hslot] at hid
      cases hid
  constructor
  · intro index found hfound
    rcases hback index found hfound with hsame | rfl
    · exact h.accounted index found hsame
    · unfold RpcSend.Accounted
      rcases hphase with ⟨⟨generation, hready⟩, hsettled⟩ | ⟨hover, hsettled⟩
      · rw [hready]
        exact ⟨hslot, hsettled⟩
      · rw [hover]
        refine ⟨hsettled, ?_⟩
        rw [hslot]
        exact nofun
  · exact fun index found id hfound hid => h.called _ _ _ (hold _ _ _ hfound hid) hid
  · exact fun first second found found' id hfirst hsecond hid hid' =>
      h.distinct _ _ _ _ id (hold _ _ _ hfirst hid) (hold _ _ _ hsecond hid') hid hid'
  · exact h.released
  · intro requestId index
    rw [h.pending]
    constructor
    · rintro ⟨found, hfound, hrest⟩
      exact ⟨found, hforth index found hfound, hrest⟩
    · rintro ⟨found, hfound, hflight, hid⟩
      rcases hback index found hfound with hsame | rfl
      · exact ⟨found, hsame, hflight, hid⟩
      · rw [hflight] at hphase
        rcases hphase with ⟨⟨generation, hready⟩, -⟩ | ⟨hover, -⟩
        · cases hready
        · cases hover
  · exact h.keys
  · intro generation index hpost
    obtain ⟨hle, found, hfound, hlater⟩ := h.posted generation index hpost
    exact ⟨hle, found, hforth index found hfound, hlater⟩
  · exact h.posts
  · exact h.starting

theorem Once.replay (h : Once c) (hstarting : c.restart = .starting) : Once { c.replay with restart := .idle } := by
  have hcalls : (c.pending.map Prod.snd).Nodup := by
    apply List.Nodup.of_map (f := fun call => (c.sends[call]?).map RpcSend.requestId)
    have hsame : (c.pending.map Prod.snd).map (fun call => (c.sends[call]?).map RpcSend.requestId) =
        (c.pending.map Prod.fst).map some := by
      rw [List.map_map, List.map_map]
      apply List.map_congr_left
      intro entry hentry
      obtain ⟨sent, hsent, -, hid⟩ := (h.pending entry.1 entry.2).1 hentry
      simp [hsent, hid]
    rw [hsame]
    exact h.keys.map fun first second heq => Option.some.inj heq
  constructor
  · exact h.accounted
  · exact h.called
  · exact h.distinct
  · exact h.released
  · exact h.pending
  · exact h.keys
  · intro generation index hpost
    rcases List.mem_append.1 hpost with hold | hnew
    · exact h.posted generation index hold
    · obtain ⟨entry, hentry, heq⟩ := List.mem_map.1 hnew
      cases heq
      obtain ⟨sent, hsent, hflight, -⟩ := (h.pending entry.1 entry.2).1 hentry
      exact ⟨Nat.le_refl _, sent, hsent, .inl hflight⟩
  · show (c.posts ++ c.pending.map fun entry => (c.generation, entry.2)).Nodup
    rw [List.nodup_append]
    refine ⟨h.posts, ?_, ?_⟩
    · have hpairs : (c.pending.map fun entry => (c.generation, entry.2)) =
          (c.pending.map Prod.snd).map fun call => (c.generation, call) := by
        rw [List.map_map]
        rfl
      rw [hpairs]
      exact hcalls.map fun first second heq => congrArg Prod.snd heq
    · intro post hpost other hother heq
      obtain ⟨entry, -, rfl⟩ := List.mem_map.1 hother
      subst heq
      exact absurd (h.starting hstarting _ _ hpost) (Nat.lt_irrefl _)
  · exact fun hrestart => by cases hrestart

theorem Once.advance (h : Once c) (readyFired : Bool) (restart : RestartPhase) :
    Once { c with generation := c.generation + 1, readyFired := readyFired, restart := restart } := by
  constructor
  · exact h.accounted
  · exact h.called
  · exact h.distinct
  · exact h.released
  · exact h.pending
  · exact h.keys
  · intro generation index hpost
    obtain ⟨hle, hrest⟩ := h.posted generation index hpost
    exact ⟨Nat.le_succ_of_le hle, hrest⟩
  · exact h.posts
  · intro _ generation index hpost
    exact Nat.lt_succ_of_le (h.posted generation index hpost).1

theorem Once.abortListener (h : Once c) (hsent : c.sends[call]? = some sent) (hphase : sent.phase = .inFlight) :
    Once (c.abortListener call sent.requestId) ∧ (c.abortListener call sent.requestId).closed = c.closed ∧
      (c.pending = [] → (c.abortListener call sent.requestId).pending = []) := by
  have hentry : (sent.requestId, call) ∈ c.pending := (h.pending _ _).2 ⟨sent, hsent, hphase, rfl⟩
  have hget : KeyedTable.get Prod.fst c.pending sent.requestId = some (sent.requestId, call) :=
    KeyedTable.get_of_mem h.keys hentry
  obtain ⟨id, hdrop, honce⟩ := h.drop hentry
  obtain ⟨found, slot, hfound, -, -, hslot⟩ := h.pending_slot hentry
  have hsame : c.abortListener call sent.requestId =
      ((c.forget sent.requestId).releaseSlot call).settle call := by
    unfold RpcClient.abortListener
    rw [hget]
    show ((c.releaseSlot call).forget sent.requestId).settle call = _
    rw [releaseSlot_eq hfound hslot, releaseSlot_eq (c := c.forget sent.requestId) hfound hslot]
    rfl
  rw [hsame]
  refine ⟨honce, by rw [hdrop], ?_⟩
  intro hempty
  rw [hdrop]
  show c.pending.filter _ = []
  rw [hempty, List.filter_nil]

theorem Once.handleResponse (h : Once c) (requestId : String) :
    Once (c.handleResponse requestId) ∧ (c.handleResponse requestId).closed = c.closed ∧
      (c.pending = [] → (c.handleResponse requestId).pending = []) := by
  unfold RpcClient.handleResponse
  cases hget : KeyedTable.get Prod.fst c.pending requestId with
  | none => exact ⟨h, rfl, fun hempty => hempty⟩
  | some entry =>
    have hkey := KeyedTable.key_of_get hget
    obtain ⟨id, hdrop, honce⟩ := h.drop (KeyedTable.mem_of_get hget)
    dsimp only
    rw [← hkey]
    refine ⟨honce, by rw [hdrop], ?_⟩
    intro hempty
    rw [hempty] at hget
    cases hget

/-- The invariant of a client: calls and posts are accounted for, and nothing is pending once closed. -/
structure Invariant (c : RpcClient) : Prop where
  once : Once c
  closed : c.closed = true → c.pending = []

theorem fireReady_fields (c : RpcClient) (outcome : Bool) :
    (c.fireReady outcome).closed = c.closed ∧ (c.fireReady outcome).pending = c.pending ∧
      (c.fireReady outcome).restart = c.restart := by
  unfold RpcClient.fireReady
  split_ifs <;> exact ⟨rfl, rfl, rfl⟩

end RpcClient

/-- The condition on an operation: a call that goes on with its slot does not find a new worker that is not
ready yet, nor a pending request with its identity, and a new worker does not exit before it is ready. -/
def RpcOp.Orderly (c : RpcClient) : RpcOp → Prop
  | .proceed call => ∀ sent, c.sends[call]? = some sent → c.closed = false → sent.aborted = false →
      c.restart ≠ .starting ∧ sent.requestId ∉ c.pending.map Prod.fst
  | .exit generation => generation = c.generation → c.restart ≠ .starting
  | _ => True

namespace RpcClient

theorem Invariant.proceed {c : RpcClient} (h : Invariant c) {call id : ℕ} {sent : RpcSend}
    (hsent : c.sends[call]? = some sent) (hphase : sent.phase = .slot) (hslot : sent.slot = some id)
    (horderly : RpcOp.Orderly c (.proceed call)) : Invariant (c.proceed call sent) := by
  unfold RpcClient.proceed
  by_cases hrefused : c.closed = true ∨ sent.aborted = true
  · rw [if_pos hrefused, releaseSlot_eq hsent hslot]
    constructor
    · apply h.once.ended hsent (.inl hphase) hslot (List.Sublist.refl _)
      · exact fun entry hentry _ => hentry
      · intro entry hentry heq
        obtain ⟨found, hfound, hflight, -⟩ := (h.once.pending entry.1 entry.2).1 hentry
        rw [heq, hsent] at hfound
        cases hfound
        rw [hphase] at hflight
        cases hflight
    · exact h.closed
  · rw [if_neg hrefused]
    rw [not_or, Bool.not_eq_true, Bool.not_eq_true] at hrefused
    obtain ⟨hrestart, hfree⟩ := horderly sent hsent hrefused.1 hrefused.2
    constructor
    · exact h.once.post hsent hphase hfree hrestart
    · intro hclosed
      rw [show c.closed = true from hclosed] at hrefused
      cases hrefused.1

theorem Invariant.slotOp {c t : RpcClient} (h : Invariant c) {op : SlotOp}
    (hop : ∀ slots, op.apply c.slots = .ok slots → slots.released = c.slots.released ∧ slots.called = c.slots.called)
    (ht : RpcOp.slotOp c op = .ok t) : Invariant t := by
  unfold RpcOp.slotOp at ht
  cases hslots : op.apply c.slots with
  | error refused =>
    rw [hslots] at ht
    cases ht
  | ok slots =>
    rw [hslots] at ht
    cases ht
    obtain ⟨hreleased, hcalled⟩ := hop slots hslots
    exact ⟨h.once.of_eq rfl rfl hreleased hcalled rfl rfl fun hrestart => hrestart, h.closed⟩

theorem Invariant.apply {c t : RpcClient} {op : RpcOp} (h : Invariant c)
    (horderly : op.Orderly c) (ht : op.apply c = .ok t) : Invariant t := by
  cases op with
  | send requestId signal aborted =>
    simp only [RpcOp.apply] at ht
    cases ht
    refine ⟨h.once.begin ?_ ?_, h.closed⟩
    · split_ifs <;> rfl
    · split_ifs
      · exact .inr ⟨rfl, rfl⟩
      · exact .inl ⟨⟨_, rfl⟩, rfl⟩
  | readied call =>
    simp only [RpcOp.apply] at ht
    split at ht
    · cases ht
    · rename_i sent hsent
      split at ht
      · rename_i generation hphase
        split at ht
        · cases ht
        · cases ht
          exact ⟨h.once.reject hsent hphase, h.closed⟩
        · cases ht
          exact ⟨h.once.acquire hsent hphase (by simp) (by simp), h.closed⟩
      · cases ht
  | resume slot =>
    apply h.slotOp ?_ ht
    intro slots hslots
    simp only [SlotOp.apply] at hslots
    split_ifs at hslots
    cases hslots
    exact ⟨by simp, by simp⟩
  | finish slot =>
    apply h.slotOp ?_ ht
    intro slots hslots
    simp only [SlotOp.apply] at hslots
    split_ifs at hslots
    cases hslots
    exact ⟨rfl, rfl⟩
  | proceed call =>
    simp only [RpcOp.apply] at ht
    split at ht
    · cases ht
    · rename_i sent hsent
      split_ifs at ht with hready
      cases ht
      obtain ⟨hphase, id, hslot, -⟩ := hready
      exact h.proceed hsent hphase hslot horderly
  | abort call =>
    simp only [RpcOp.apply] at ht
    split at ht
    · cases ht
    · rename_i sent hsent
      split_ifs at ht with hsignal hflight
      · cases ht
        have hmarked := h.once.of_modify call (f := fun sent => { sent with aborted := true })
          fun sent => ⟨rfl, rfl, rfl, rfl⟩
        obtain ⟨honce, hclosed, hempty⟩ := hmarked.abortListener (getElem?_modify_self hsent) (by exact hflight)
        exact ⟨honce, fun hc => hempty (h.closed (hclosed ▸ hc))⟩
      · cases ht
        exact ⟨h.once.of_modify call fun sent => ⟨rfl, rfl, rfl, rfl⟩, h.closed⟩
  | ready =>
    simp only [RpcOp.apply] at ht
    split_ifs at ht with hfired hstarting
    · cases ht
      exact h
    · cases ht
      obtain ⟨hclosed, hpending, hrestart⟩ := c.fireReady_fields true
      refine ⟨(h.once.fireReady true).replay (hrestart.trans hstarting), ?_⟩
      intro hc
      exact hpending.trans (h.closed (hclosed.symm.trans hc))
    · cases ht
      obtain ⟨hclosed, hpending, -⟩ := c.fireReady_fields true
      exact ⟨h.once.fireReady true, fun hc => hpending.trans (h.closed (hclosed.symm.trans hc))⟩
  | respond requestId =>
    simp only [RpcOp.apply] at ht
    cases ht
    obtain ⟨honce, hclosed, hempty⟩ := h.once.handleResponse requestId
    exact ⟨honce, fun hc => hempty (h.closed (hclosed ▸ hc))⟩
  | error =>
    simp only [RpcOp.apply] at ht
    split_ifs at ht with hfired hstarting
    · cases ht
      exact h
    · cases ht
      obtain ⟨honce, hempty, -⟩ := (h.once.fireReady false).failPending
      exact ⟨honce.of_eq rfl rfl rfl rfl rfl rfl (by simp), fun _ => hempty⟩
    · cases ht
      obtain ⟨hclosed, hpending, -⟩ := c.fireReady_fields false
      exact ⟨h.once.fireReady false, fun hc => hpending.trans (h.closed (hclosed.symm.trans hc))⟩
  | exit generation =>
    simp only [RpcOp.apply] at ht
    split_ifs at ht
    · cases ht
      exact h
    · cases ht
      obtain ⟨hclosed, hpending, -⟩ := c.fireReady_fields false
      refine ⟨(h.once.fireReady false).of_eq rfl rfl rfl rfl rfl rfl fun hrestart => ?_, ?_⟩
      · cases hrestart
      · exact fun hc => hpending.trans (h.closed (hclosed.symm.trans hc))
  | timer spawned =>
    simp only [RpcOp.apply] at ht
    split_ifs at ht with hwaiting hclosed hspawned
    · cases ht
      exact ⟨h.once.of_eq rfl rfl rfl rfl rfl rfl (by simp), h.closed⟩
    · cases ht
      exact ⟨h.once.advance false .starting, h.closed⟩
    · cases ht
      obtain ⟨honce, hempty, -⟩ := (h.once.advance false c.restart).failPending
      exact ⟨honce.of_eq rfl rfl rfl rfl rfl rfl (by simp), fun _ => hempty⟩
  | close =>
    simp only [RpcOp.apply] at ht
    by_cases hclosed : c.closed = true
    · rw [if_pos hclosed] at ht
      cases ht
      exact h
    · rw [if_neg hclosed] at ht
      cases ht
      have hopen : Once { c with closed := true } := h.once.of_eq rfl rfl rfl rfl rfl rfl fun hrestart => hrestart
      obtain ⟨honce, hempty, -⟩ := (hopen.fireReady false).failPending
      refine ⟨honce.of_eq rfl rfl rfl rfl rfl rfl fun hrestart => ?_, fun _ => hempty⟩
      by_cases hstarting : c.restart = .starting
      · simp [hstarting] at hrestart
      · simp [hstarting] at hrestart

end RpcClient

namespace RpcClient

/-- What holds of a client: each call settles at most once, its slot is released once when it is over and
not before, it is pending exactly while it is in flight, no worker gets it twice, and nothing is pending
once closed. -/
structure Sound (c : RpcClient) : Prop where
  settled : ∀ (call : ℕ) (sent : RpcSend), c.sends[call]? = some sent → sent.settled ≤ 1
  released : ∀ (call : ℕ) (sent : RpcSend) (id : ℕ), c.sends[call]? = some sent →
    sent.slot = some id → c.slots.released.count id = if sent.phase = .ended then 1 else 0
  pending : ∀ requestId (call : ℕ), (requestId, call) ∈ c.pending ↔
    ∃ sent, c.sends[call]? = some sent ∧ sent.phase = .inFlight ∧ sent.requestId = requestId
  posts : ∀ generation call, c.posts.count (generation, call) ≤ 1
  closed : c.closed = true → c.pending = []

theorem Invariant.sound {c : RpcClient} (h : Invariant c) : Sound c := by
  constructor
  · intro call sent hsent
    have hacc := h.once.accounted call sent hsent
    unfold RpcSend.Accounted at hacc
    cases hphase : sent.phase with
    | ready generation =>
      rw [hphase] at hacc
      omega
    | slot =>
      rw [hphase] at hacc
      obtain ⟨id, -, -, hsettled⟩ := hacc
      omega
    | inFlight =>
      rw [hphase] at hacc
      obtain ⟨id, -, -, hsettled⟩ := hacc
      omega
    | ended =>
      rw [hphase] at hacc
      omega
  · intro call sent id hsent hslot
    have hacc := h.once.accounted call sent hsent
    unfold RpcSend.Accounted at hacc
    cases hphase : sent.phase with
    | ready generation =>
      rw [hphase, hslot] at hacc
      cases hacc.1
    | slot =>
      rw [hphase, hslot] at hacc
      obtain ⟨slot, heq, hnone, -⟩ := hacc
      cases heq
      exact hnone
    | inFlight =>
      rw [hphase, hslot] at hacc
      obtain ⟨slot, heq, hnone, -⟩ := hacc
      cases heq
      exact hnone
    | ended =>
      rw [hphase] at hacc
      exact hacc.2 id hslot
  · exact h.once.pending
  · exact fun generation call => List.nodup_iff_count_le_one.1 h.once.posts _
  · exact h.closed

theorem Invariant.failsRestart {c : RpcClient} (h : Invariant c) {op : RpcOp} (horderly : op.Orderly c)
    (hfails : op.failsRestart c) : (attempt RpcOp.apply c op).pending = [] := by
  cases op with
  | error =>
    obtain ⟨hstarting, hfired⟩ := hfails
    have hstep : RpcOp.apply c .error =
        .ok { (c.fireReady false).failPending with restart := .idle } := by
      simp [RpcOp.apply, hstarting, hfired]
    rw [attempt_ok hstep]
    exact (h.once.fireReady false).failPending.2.1
  | exit generation => exact absurd hfails.2.1 (horderly hfails.1)
  | timer spawned =>
    obtain ⟨hwaiting, hclosed, rfl⟩ := hfails
    have hstep : RpcOp.apply c (.timer false) = .ok { { c with
        generation := c.generation + 1, readyFired := false }.failPending with
          restart := .idle } := by
      simp [RpcOp.apply, hwaiting, hclosed]
    rw [attempt_ok hstep]
    exact (h.once.advance false c.restart).failPending.2.1
  | _ => exact hfails.elim

/-- In a run whose calls never go on with their slot while a new worker is not ready, nor under the identity
of a pending request, and whose new workers do not exit before they are ready, every state is sound and a
restart that fails leaves nothing pending. -/
theorem requests_settle_once (pool : BoundedSlotPool) (ops : List RpcOp)
    (horderly : Along RpcOp.apply RpcOp.Orderly (create pool) ops) : Sound (run RpcOp.apply (create pool) ops) ∧
      ∀ op : RpcOp, op.Orderly (run RpcOp.apply (create pool) ops) →
        op.failsRestart (run RpcOp.apply (create pool) ops) →
          (run RpcOp.apply (create pool) (ops ++ [op])).pending = [] := by
  have hstart : Invariant (create pool) := ⟨once_create pool, fun _ => rfl⟩
  have hinv := (run_relates (R := fun _ _ => True) (fun _ _ => trivial) (fun _ _ _ _ _ => trivial)
    (fun _ _ _ h hmeets hstep => ⟨h.apply hmeets hstep, trivial⟩) hstart horderly).1
  refine ⟨hinv.sound, ?_⟩
  intro op hnext hfails
  rw [run_snoc]
  exact hinv.failsRestart hnext hfails

end RpcClient

section Samples

def onePlace : BoundedSlotPool := ⟨1, 1, 1, [], []⟩

/-- The worker of a request exits, and another one is started. -/
def restarted : List RpcOp :=
  [.ready, .send "a" false false, .readied 0, .proceed 0, .exit 0, .timer true]

/-- The request is replayed to the second worker and answered there, or the second worker fails. -/
theorem requests_settle_once_sample :
    RpcClient.Sound (run RpcOp.apply (RpcClient.create onePlace) (restarted ++ [.ready, .respond "a"])) ∧
      (run RpcOp.apply (RpcClient.create onePlace) restarted).pending = [("a", 0)] ∧
      (run RpcOp.apply (RpcClient.create onePlace) (restarted ++ [.error])).pending = [] := by
  have horderly : Along RpcOp.apply RpcOp.Orderly (RpcClient.create onePlace) restarted := by
    refine ⟨trivial, trivial, trivial, ?_, ?_, trivial, trivial⟩
    · intro sent hsent _ _
      cases hsent
      decide
    · exact fun _ => by decide
  obtain ⟨-, -, -, hproceed, hexit, -⟩ := horderly
  exact ⟨(RpcClient.requests_settle_once onePlace (restarted ++ [RpcOp.ready, .respond "a"])
    ⟨trivial, trivial, trivial, hproceed, hexit, trivial, trivial, trivial, trivial⟩).1, rfl,
    (RpcClient.requests_settle_once onePlace restarted
      ⟨trivial, trivial, trivial, hproceed, hexit, trivial, trivial⟩).2 .error trivial ⟨rfl, rfl⟩⟩

/-- The second call gets its slot from an abort while the new worker starts: it is posted to that worker,
and posted again when the worker is ready. Another new worker exits before it is ready, and its restart leaves the
request pending. -/
theorem request_posted_twice :
    ¬ RpcClient.Sound (run RpcOp.apply (RpcClient.create onePlace)
      [.ready, .send "a" true false, .readied 0, .proceed 0, .send "b" false false, .readied 1,
        .exit 0, .timer true, .abort 0, .finish 1, .proceed 1, .ready]) ∧
    ¬ ∀ op : RpcOp, op.failsRestart (run RpcOp.apply (RpcClient.create onePlace) restarted) →
      (run RpcOp.apply (RpcClient.create onePlace) (restarted ++ [op])).pending = [] :=
  ⟨fun h => absurd (h.posts 1 1) (by decide), fun h => absurd (h (.exit 1) ⟨rfl, rfl, rfl⟩) (by decide)⟩

end Samples
