import Yui.FallibleRun
import Yui.JsText

/-!
# The bounded slot pool

`BoundedSlotPool` of `core/boundedRpc.ts`, an asynchronous semaphore. A call of `acquire` takes a permit,
waits for one or waits for room in the queue of waiters, and a promise that `release` resolves lets its
caller go on in a later microtask. An acquire is named by the number of the calls before it.
-/

structure BoundedSlotPool where
  maxInFlight : ℕ
  permits : ℕ
  maxQueue : ℕ
  waiters : List ℕ
  backpressure : List ℕ
  deriving DecidableEq

namespace BoundedSlotPool

def create (maxInFlight maxQueue : ℤ) : Except String BoundedSlotPool :=
  if maxSafeInteger < maxInFlight.natAbs ∨ maxInFlight < 1 then
    .error ("maxInFlight must be a positive integer: " ++ toString maxInFlight)
  else if maxSafeInteger < maxQueue.natAbs ∨ maxQueue < 0 then
    .error ("maxQueue must be a non-negative integer: " ++ toString maxQueue)
  else .ok ⟨maxInFlight.toNat, maxInFlight.toNat, maxQueue.toNat, [], []⟩

def queueDepth (pool : BoundedSlotPool) : ℕ := pool.waiters.length

def inFlight (pool : BoundedSlotPool) : ℕ := pool.maxInFlight - pool.permits

end BoundedSlotPool

/-- The pool with its callers: `woken` and `handed` have a promise reaction pending, after a wait for room
and after a wait for a permit. -/
structure SlotCalls where
  pool : BoundedSlotPool
  called : ℕ
  woken : List ℕ
  handed : List ℕ
  holding : List ℕ
  released : List ℕ

inductive SlotOp where
  | acquire
  | resume (id : ℕ)
  | finish (id : ℕ)
  | release (id : ℕ)

namespace SlotCalls

def start (pool : BoundedSlotPool) : SlotCalls := ⟨pool, 0, [], [], [], []⟩

/-- The body of `acquire` from the test of its loop on. -/
def enter (s : SlotCalls) (id : ℕ) : SlotCalls :=
  if s.pool.maxQueue ≤ s.pool.waiters.length then
    { s with pool := { s.pool with backpressure := s.pool.backpressure ++ [id] } }
  else if 0 < s.pool.permits then
    { s with pool := { s.pool with permits := s.pool.permits - 1 }, holding := s.holding ++ [id] }
  else { s with pool := { s.pool with waiters := s.pool.waiters ++ [id] } }

/-- `release`, with the callers that it wakes. -/
def release (s : SlotCalls) : SlotCalls :=
  match s.pool.waiters with
  | waiter :: waiters =>
    { s with pool := { s.pool with waiters := waiters }, handed := s.handed ++ [waiter] }
  | [] =>
    match s.pool.backpressure with
    | [] => { s with pool := { s.pool with permits := s.pool.permits + 1 } }
    | drained :: backpressure =>
      { s with
        pool := { s.pool with permits := s.pool.permits + 1, backpressure := backpressure }
        woken := s.woken ++ [drained] }

/-- The acquires that were called and have not completed. -/
def unresolved (s : SlotCalls) : List ℕ :=
  s.pool.waiters ++ s.pool.backpressure ++ s.woken ++ s.handed

end SlotCalls

/-- A caller releases once for an acquire that completed, and a reaction runs once. -/
def SlotOp.apply (s : SlotCalls) : SlotOp → Except Unit SlotCalls
  | .acquire => .ok ({ s with called := s.called + 1 }.enter s.called)
  | .resume id =>
    if id ∈ s.woken then .ok ({ s with woken := s.woken.erase id }.enter id) else .error ()
  | .finish id =>
    if id ∈ s.handed then
      .ok { s with handed := s.handed.erase id, holding := s.holding ++ [id] }
    else .error ()
  | .release id =>
    if id ∈ s.holding then
      .ok { s with holding := s.holding.erase id, released := s.released ++ [id] }.release
    else .error ()

namespace SlotCalls

structure Tended (s : SlotCalls) : Prop where
  permits : s.pool.permits + s.holding.length + s.handed.length = s.pool.maxInFlight
  queue : s.pool.waiters.length ≤ s.pool.maxQueue
  waiting : s.pool.waiters ≠ [] → s.pool.permits = 0
  wakes : 1 ≤ s.pool.maxQueue → s.pool.backpressure ≠ [] → s.pool.permits ≤ s.woken.length
  placed : ∀ id, s.released.count id + s.holding.count id + s.handed.count id + s.woken.count id +
    s.pool.waiters.count id + s.pool.backpressure.count id = if id < s.called then 1 else 0

/-- A caller on its way into the pool. -/
structure Entering (s : SlotCalls) (id : ℕ) : Prop where
  permits : s.pool.permits + s.holding.length + s.handed.length = s.pool.maxInFlight
  queue : s.pool.waiters.length ≤ s.pool.maxQueue
  waiting : s.pool.waiters ≠ [] → s.pool.permits = 0
  wakes : 1 ≤ s.pool.maxQueue → s.pool.backpressure ≠ [] → s.pool.permits ≤ s.woken.length + 1
  placed : ∀ other, s.released.count other + s.holding.count other + s.handed.count other +
    s.woken.count other + s.pool.waiters.count other + s.pool.backpressure.count other +
    (if other = id then 1 else 0) = if other < s.called then 1 else 0

theorem count_snoc (ids : List ℕ) (id other : ℕ) :
    (ids ++ [id]).count other = ids.count other + if other = id then 1 else 0 := by
  rw [List.count_append, List.count_singleton]
  by_cases h : other = id
  · simp [h]
  · simp [h, Ne.symm h]

theorem count_cons_ite (ids : List ℕ) (id other : ℕ) :
    (id :: ids).count other = ids.count other + if other = id then 1 else 0 := by
  rw [List.count_cons]
  by_cases h : other = id
  · simp [h]
  · simp [h, Ne.symm h]

variable {id : ℕ}

theorem count_erase_add {ids : List ℕ} (h : id ∈ ids) (other : ℕ) :
    (ids.erase id).count other + (if other = id then 1 else 0) = ids.count other := by
  by_cases heq : other = id
  · subst heq
    have hpos := List.count_pos_iff.2 h
    rw [List.count_erase_self, if_pos rfl]
    omega
  · rw [List.count_erase_of_ne (fun h => heq h), if_neg heq, Nat.add_zero]

variable {s : SlotCalls}

theorem Entering.enter (h : Entering s id) : Tended (s.enter id) := by
  unfold SlotCalls.enter
  by_cases hfull : s.pool.maxQueue ≤ s.pool.waiters.length
  · rw [if_pos hfull]
    refine ⟨h.permits, h.queue, h.waiting, ?_, ?_⟩
    · intro hroom _
      have hwaiting : s.pool.waiters ≠ [] := by
        intro hnil
        simp only at hroom
        rw [hnil, List.length_nil] at hfull
        omega
      simp only [h.waiting hwaiting, Nat.zero_le]
    · intro other
      have hplaced := h.placed other
      simp only [count_snoc]
      omega
  · rw [if_neg hfull]
    by_cases hfree : 0 < s.pool.permits
    · rw [if_pos hfree]
      have hnone : s.pool.waiters = [] := by
        by_contra hsome
        have hzero := h.waiting hsome
        omega
      refine ⟨?_, h.queue, fun hsome => absurd hnone hsome, ?_, ?_⟩
      · have hpermits := h.permits
        simp only [List.length_append, List.length_singleton]
        omega
      · intro hroom hsome
        have hwakes := h.wakes hroom hsome
        simp only
        omega
      · intro other
        have hplaced := h.placed other
        simp only [count_snoc]
        omega
    · rw [if_neg hfree]
      refine ⟨h.permits, ?_, ?_, ?_, ?_⟩
      · simp only [List.length_append, List.length_singleton]
        omega
      · intro _
        simp only
        omega
      · intro _ _
        simp only
        omega
      · intro other
        have hplaced := h.placed other
        simp only [count_snoc]
        omega

theorem Tended.release (h : Tended s) (hid : id ∈ s.holding) : Tended ({ s with
      holding := s.holding.erase id, released := s.released ++ [id] } : SlotCalls).release := by
  have hlength := List.length_erase_of_mem hid
  have hpos := List.length_pos_of_mem hid
  have hpermits := h.permits
  unfold SlotCalls.release
  cases hwaiters : s.pool.waiters with
  | cons waiter waiters =>
    have hzero := h.waiting (by simp [hwaiters])
    have hqueue := h.queue
    rw [hwaiters, List.length_cons] at hqueue
    refine ⟨?_, by simp only; omega, fun _ => hzero, ?_, ?_⟩
    · simp only [List.length_append, List.length_singleton, hlength]
      omega
    · intro _ _
      simp only [hzero, Nat.zero_le]
    · intro other
      have hplaced := h.placed other
      have herase := count_erase_add hid other
      rw [hwaiters, count_cons_ite] at hplaced
      simp only [count_snoc]
      omega
  | nil =>
    cases hbackpressure : s.pool.backpressure with
    | nil =>
      refine ⟨?_, by simp [hwaiters], by simp [hwaiters], by simp [hbackpressure], ?_⟩
      · simp only [hlength]
        omega
      · intro other
        have hplaced := h.placed other
        have herase := count_erase_add hid other
        simp only [count_snoc]
        omega
    | cons drained backpressure =>
      refine ⟨?_, by simp [hwaiters], by simp [hwaiters], ?_, ?_⟩
      · simp only [hlength]
        omega
      · intro hroom _
        have hwakes := h.wakes hroom (by simp [hbackpressure])
        simp only [List.length_append, List.length_singleton]
        omega
      · intro other
        have hplaced := h.placed other
        have herase := count_erase_add hid other
        rw [hbackpressure, count_cons_ite] at hplaced
        simp only [count_snoc]
        omega

variable {op : SlotOp}

theorem Tended.of_op {s after : SlotCalls} (h : Tended s) (hop : op.apply s = .ok after) : Tended after := by
  cases op with
  | acquire =>
    injection hop with hop
    subst hop
    apply Entering.enter
    refine ⟨h.permits, h.queue, h.waiting, fun hroom hsome => (h.wakes hroom hsome).trans (by simp), ?_⟩
    intro other
    have hplaced := h.placed other
    simp only
    by_cases hnew : other = s.called
    · rw [if_pos hnew, if_pos (by omega)]
      rw [if_neg (by omega)] at hplaced
      omega
    · rw [if_neg hnew, Nat.add_zero, hplaced]
      by_cases hold : other < s.called
      · rw [if_pos hold, if_pos (by omega)]
      · rw [if_neg hold, if_neg (by omega)]
  | resume id =>
    simp only [SlotOp.apply] at hop
    split_ifs at hop with hwoken
    injection hop with hop
    subst hop
    have hlength := List.length_erase_of_mem hwoken
    have hpos := List.length_pos_of_mem hwoken
    apply Entering.enter
    refine ⟨h.permits, h.queue, h.waiting, ?_, ?_⟩
    · intro hroom hsome
      have hwakes := h.wakes hroom hsome
      simp only [hlength]
      omega
    · intro other
      have hplaced := h.placed other
      have herase := count_erase_add hwoken other
      simp only
      omega
  | finish id =>
    simp only [SlotOp.apply] at hop
    split_ifs at hop with hhanded
    injection hop with hop
    subst hop
    have hlength := List.length_erase_of_mem hhanded
    have hpos := List.length_pos_of_mem hhanded
    have hpermits := h.permits
    refine ⟨?_, h.queue, h.waiting, h.wakes, ?_⟩
    · simp only [List.length_append, List.length_singleton, hlength]
      omega
    · intro other
      have hplaced := h.placed other
      have herase := count_erase_add hhanded other
      simp only [count_snoc]
      omega
  | release id =>
    simp only [SlotOp.apply] at hop
    split_ifs at hop with hholding
    injection hop with hop
    subst hop
    exact h.release hholding

theorem Tended.start {pool : BoundedSlotPool} (hpermits : pool.permits = pool.maxInFlight)
    (hwaiters : pool.waiters = []) (hbackpressure : pool.backpressure = []) : Tended (SlotCalls.start pool) := by
  refine ⟨by simp [SlotCalls.start, hpermits], by simp [SlotCalls.start, hwaiters],
    by simp [SlotCalls.start, hwaiters], by simp [SlotCalls.start, hbackpressure], ?_⟩
  intro id
  simp [SlotCalls.start, hwaiters, hbackpressure]

theorem limits_of_op {s after : SlotCalls} (hop : op.apply s = .ok after) :
    after.pool.maxInFlight = s.pool.maxInFlight ∧ after.pool.maxQueue = s.pool.maxQueue := by
  have henter : ∀ (t : SlotCalls) id, (t.enter id).pool.maxInFlight = t.pool.maxInFlight ∧
      (t.enter id).pool.maxQueue = t.pool.maxQueue := by
    intro t id
    unfold SlotCalls.enter
    split_ifs <;> exact ⟨rfl, rfl⟩
  cases op with
  | acquire =>
    injection hop with hop
    subst hop
    exact henter _ _
  | resume id =>
    simp only [SlotOp.apply] at hop
    split_ifs at hop
    injection hop with hop
    subst hop
    exact henter _ _
  | finish id =>
    simp only [SlotOp.apply] at hop
    split_ifs at hop
    injection hop with hop
    subst hop
    exact ⟨rfl, rfl⟩
  | release id =>
    simp only [SlotOp.apply] at hop
    split_ifs at hop
    injection hop with hop
    subst hop
    unfold SlotCalls.release
    split
    · exact ⟨rfl, rfl⟩
    · split <;> exact ⟨rfl, rfl⟩

/-- The releases and reactions that are still to come when nobody calls `acquire` again. -/
def rank (s : SlotCalls) : ℕ :=
  2 * (s.holding.length + s.pool.waiters.length + s.pool.backpressure.length) +
    3 * (s.woken.length + s.handed.length)

theorem rank_enter (s : SlotCalls) (id : ℕ) : (s.enter id).rank = s.rank + 2 := by
  unfold SlotCalls.enter rank
  split_ifs
  · simp only [List.length_append, List.length_singleton]
    omega
  · simp only [List.length_append, List.length_singleton]
    omega
  · simp only [List.length_append, List.length_singleton]
    omega

theorem rank_release (s : SlotCalls) : s.release.rank ≤ s.rank + 1 := by
  unfold SlotCalls.release rank
  cases hwaiters : s.pool.waiters with
  | cons waiter waiters =>
    simp only [List.length_append, List.length_cons, List.length_nil]
    omega
  | nil =>
    cases hbackpressure : s.pool.backpressure with
    | nil => simp [hwaiters, hbackpressure]
    | cons drained backpressure =>
      simp only [hwaiters, List.length_append, List.length_cons, List.length_nil]
      omega

theorem rank_of_op {s after : SlotCalls} (hquiet : op ≠ .acquire)
    (hop : op.apply s = .ok after) : after.rank < s.rank := by
  cases op with
  | acquire => exact absurd rfl hquiet
  | resume id =>
    simp only [SlotOp.apply] at hop
    split_ifs at hop with hwoken
    injection hop with hop
    subst hop
    rw [rank_enter]
    have hlength := List.length_erase_of_mem hwoken
    have hpos := List.length_pos_of_mem hwoken
    simp only [rank, hlength]
    omega
  | finish id =>
    simp only [SlotOp.apply] at hop
    split_ifs at hop with hhanded
    injection hop with hop
    subst hop
    have hlength := List.length_erase_of_mem hhanded
    have hpos := List.length_pos_of_mem hhanded
    simp only [rank, hlength, List.length_append, List.length_singleton]
    omega
  | release id =>
    simp only [SlotOp.apply] at hop
    split_ifs at hop with hholding
    injection hop with hop
    subst hop
    have hlength := List.length_erase_of_mem hholding
    have hpos := List.length_pos_of_mem hholding
    apply lt_of_le_of_lt (rank_release _)
    simp only [rank, hlength]
    omega

/-- The operations of the callers, each of which takes effect. -/
def Performs (s : SlotCalls) : List SlotOp → SlotCalls → Prop
  | [], t => t = s
  | op :: ops, t => ∃ next, op.apply s = .ok next ∧ Performs next ops t

/-- The permit of a released acquire goes to one waiter, or back to the pool. -/
def HandsOver (s after : SlotCalls) : Prop :=
  (∃ waiter, s.pool.waiters = waiter :: after.pool.waiters ∧ after.handed = s.handed ++ [waiter] ∧
    after.pool.permits = s.pool.permits) ∨
  (s.pool.waiters = [] ∧ after.pool.waiters = [] ∧ after.handed = s.handed ∧
    after.pool.permits = s.pool.permits + 1)

/-- A correct bounded semaphore in one of its states. -/
structure Correct (s : SlotCalls) : Prop where
  bounded : s.holding.length ≤ s.pool.maxInFlight
  counted : s.holding.length + s.handed.length = s.pool.inFlight
  queue : s.pool.queueDepth ≤ s.pool.maxQueue
  handsOver : ∀ id after, SlotOp.apply s (.release id) = .ok after → HandsOver s after
  notStranded : s.unresolved ≠ [] → s.woken = [] → s.handed = [] →
    s.holding.length = s.pool.maxInFlight
  drains : ∀ ops t, .acquire ∉ ops → Performs s ops t → ops.length ≤ s.rank ∧
    (t.holding = [] → t.woken = [] → t.handed = [] → ∀ id < t.called, id ∈ t.released)

theorem handsOver_release {s after : SlotCalls}
    (h : SlotOp.apply s (.release id) = .ok after) : HandsOver s after := by
  simp only [SlotOp.apply] at h
  split_ifs at h with hholding
  injection h with h
  subst h
  unfold SlotCalls.release
  cases hwaiters : s.pool.waiters with
  | cons waiter waiters => exact .inl ⟨waiter, hwaiters, rfl, rfl⟩
  | nil =>
    refine .inr ⟨hwaiters, ?_⟩
    cases hbackpressure : s.pool.backpressure with
    | nil => exact ⟨hwaiters, rfl, rfl⟩
    | cons drained backpressure => exact ⟨hwaiters, rfl, rfl⟩

theorem Tended.notStranded (h : Tended s) (hroom : 1 ≤ s.pool.maxQueue)
    (hunresolved : s.unresolved ≠ []) (hwoken : s.woken = []) (hhanded : s.handed = []) :
    s.holding.length = s.pool.maxInFlight := by
  have hpermits := h.permits
  have hzero : s.pool.permits = 0 := by
    by_cases hwaiters : s.pool.waiters = []
    · have hbackpressure : s.pool.backpressure ≠ [] := by
        intro hnone
        apply hunresolved
        simp [unresolved, hwaiters, hnone, hwoken, hhanded]
      have hwakes := h.wakes hroom hbackpressure
      rw [hwoken, List.length_nil] at hwakes
      omega
    · exact h.waiting hwaiters
  rw [hzero, hhanded, List.length_nil] at hpermits
  omega

theorem Tended.performs {s t : SlotCalls} (h : Tended s) {ops : List SlotOp}
    (hquiet : SlotOp.acquire ∉ ops) (hops : Performs s ops t) :
    Tended t ∧ ops.length + t.rank ≤ s.rank ∧ t.pool.maxInFlight = s.pool.maxInFlight ∧
      t.pool.maxQueue = s.pool.maxQueue := by
  induction ops generalizing s with
  | nil =>
    rw [hops]
    exact ⟨h, by simp, rfl, rfl⟩
  | cons op ops ih =>
    obtain ⟨next, hop, hrest⟩ := hops
    rw [List.mem_cons, not_or] at hquiet
    obtain ⟨htended, hlength, hmax, hqueue⟩ := ih (h.of_op hop) hquiet.2 hrest
    have hrank := rank_of_op (fun heq => hquiet.1 heq.symm) hop
    obtain ⟨hmax', hqueue'⟩ := limits_of_op hop
    refine ⟨htended, ?_, hmax.trans hmax', hqueue.trans hqueue'⟩
    rw [List.length_cons]
    omega

theorem Tended.completed (h : Tended s) (hroom : 1 ≤ s.pool.maxQueue)
    (hmax : 1 ≤ s.pool.maxInFlight) (hholding : s.holding = []) (hwoken : s.woken = [])
    (hhanded : s.handed = []) (hid : id < s.called) : id ∈ s.released := by
  have hnone : s.unresolved = [] := by
    by_contra hsome
    have hheld := h.notStranded hroom hsome hwoken hhanded
    rw [hholding, List.length_nil] at hheld
    omega
  simp only [unresolved, List.append_eq_nil_iff] at hnone
  have hplaced := h.placed id
  rw [hholding, hwoken, hhanded, hnone.1.1.1, hnone.1.1.2, if_pos hid] at hplaced
  simp only [List.count_nil, Nat.add_zero] at hplaced
  apply List.count_pos_iff.1
  omega

theorem Tended.correct (h : Tended s) (hroom : 1 ≤ s.pool.maxQueue) (hmax : 1 ≤ s.pool.maxInFlight) : Correct s where
  bounded := by
    have hpermits := h.permits
    omega
  counted := by
    have hpermits := h.permits
    unfold BoundedSlotPool.inFlight
    omega
  queue := h.queue
  handsOver _ _ := handsOver_release
  notStranded := h.notStranded hroom
  drains ops t hquiet hops := by
    obtain ⟨htended, hlength, hmax', hqueue'⟩ := h.performs hquiet hops
    refine ⟨by omega, fun hholding hwoken hhanded id hid => ?_⟩
    exact htended.completed (hqueue' ▸ hroom) (hmax' ▸ hmax) hholding hwoken hhanded hid

theorem create_ok {maxInFlight maxQueue : ℤ} {pool : BoundedSlotPool}
    (h : BoundedSlotPool.create maxInFlight maxQueue = .ok pool) :
    pool = ⟨maxInFlight.toNat, maxInFlight.toNat, maxQueue.toNat, [], []⟩ ∧ 1 ≤ maxInFlight ∧ 0 ≤ maxQueue := by
  unfold BoundedSlotPool.create at h
  split_ifs at h with hmax hqueue
  injection h with h
  refine ⟨h.symm, ?_, ?_⟩
  · omega
  · omega

theorem tended_run (pool : BoundedSlotPool) (hpermits : pool.permits = pool.maxInFlight)
    (hwaiters : pool.waiters = []) (hbackpressure : pool.backpressure = []) (ops : List SlotOp) :
    Tended (FallibleRun.run SlotOp.apply (start pool) ops) ∧
      (FallibleRun.run SlotOp.apply (start pool) ops).pool.maxInFlight = pool.maxInFlight ∧
      (FallibleRun.run SlotOp.apply (start pool) ops).pool.maxQueue = pool.maxQueue := by
  apply @FallibleRun.run_preserves _ _ _ _ (fun s : SlotCalls =>
    Tended s ∧ s.pool.maxInFlight = pool.maxInFlight ∧ s.pool.maxQueue = pool.maxQueue) _ ops
    ⟨Tended.start hpermits hwaiters hbackpressure, rfl, rfl⟩
  rintro op _ s after ⟨htended, hmax, hqueue⟩ hop
  obtain ⟨hmax', hqueue'⟩ := limits_of_op hop
  exact ⟨htended.of_op hop, hmax'.trans hmax, hqueue'.trans hqueue⟩

end SlotCalls

/-- A pool that its constructor accepts is a correct bounded semaphore along every run exactly when its
queue of waiters has room for one. -/
theorem slotPool_correct_iff {maxInFlight maxQueue : ℤ} {pool : BoundedSlotPool}
    (hcreate : BoundedSlotPool.create maxInFlight maxQueue = .ok pool) :
    (∀ ops, (FallibleRun.run SlotOp.apply (SlotCalls.start pool) ops).Correct) ↔ 1 ≤ maxQueue := by
  obtain ⟨rfl, hmax, hqueue⟩ := SlotCalls.create_ok hcreate
  constructor
  · intro hcorrect
    by_contra hnone
    have hzero : maxQueue.toNat = 0 := by omega
    -- the only caller waits for room that never comes
    have hstranded := (hcorrect [.acquire]).notStranded
    simp [SlotOp.apply, FallibleRun.attempt, SlotCalls.start, SlotCalls.enter, SlotCalls.unresolved,
      hzero] at hstranded
    omega
  · intro hroom ops
    obtain ⟨htended, hmax', hqueue'⟩ := SlotCalls.tended_run
      ⟨maxInFlight.toNat, maxInFlight.toNat, maxQueue.toNat, [], []⟩ rfl rfl rfl ops
    apply htended.correct
    · rw [hqueue']
      simp only
      omega
    · rw [hmax']
      simp only
      omega

theorem slotPool_correct_iff_one : BoundedSlotPool.create 1 1 = .ok ⟨1, 1, 1, [], []⟩ ∧
      ((∀ ops, (FallibleRun.run SlotOp.apply (SlotCalls.start ⟨1, 1, 1, [], []⟩) ops).Correct) ↔ (1 : ℤ) ≤ 1) := by
  have hcreate : BoundedSlotPool.create 1 1 = .ok ⟨1, 1, 1, [], []⟩ := by decide
  exact ⟨hcreate, slotPool_correct_iff hcreate⟩

/-- The constructor accepts a pool without a queue, and its first caller waits for ever. -/
theorem slotPool_strands : BoundedSlotPool.create 1 0 = .ok ⟨1, 1, 0, [], []⟩ ∧
      ¬ (FallibleRun.run SlotOp.apply (SlotCalls.start ⟨1, 1, 0, [], []⟩) [.acquire]).Correct := by
  refine ⟨by decide, fun hcorrect => ?_⟩
  have hstranded := hcorrect.notStranded (by decide) (by decide) (by decide)
  revert hstranded
  decide
