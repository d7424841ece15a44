import Mathlib.Data.List.AList
import Yui.Checked
import Yui.HeadArray

/-!
# The keyed work queue

The FIFO queue of `coordination/keyedWorkQueue.ts` that coalesces signals by key. Promises and
lease tokens are fresh numbers, and every call records what it returns and which promises it
resolves as events. A reaction to a resolved promise is a later call, so no method re-enters
another.
-/

open Checked

namespace KeyedWorkQueue

inductive KeyState where
  | queued
  | processing (dirty : Bool) (token : ℕ)
  deriving DecidableEq

structure Item (Key : Type*) where
  key : Key
  token : ℕ
  deriving DecidableEq

inductive Event (Key : Type*) where
  | signalled (key : Key) (accepted : Bool)
  | ready (key : Key)
  | leased (item : Item Key)
  | taken (promise : ℕ) (item : Option (Item Key))
  | completed (item : Item Key)
  | drained (promise : ℕ)
  | stopped
  deriving DecidableEq

/-- The fields of the queue, followed by what the host keeps for it: the next token and promise,
the items handed out, the tokens of the items whose `done` was called, and the events. -/
structure Queue (Key : Type*) where
  states : AList (fun _ : Key => KeyState)
  ready : HeadArray Key
  takeWaiters : HeadArray ℕ
  drainWaiters : List ℕ
  closed : Bool
  aborted : Bool
  closeCompletion : Option Bool
  nextToken : ℕ
  nextPromise : ℕ
  leases : List (Item Key)
  completed : List ℕ
  events : List (Event Key)

def alreadyCompleted : String := "Keyed work item was already completed."

def readyKeyNotQueued : String := "Keyed work queue invariant failed: ready key was not queued."

def leaseNotActive : String := "Keyed work queue invariant failed: completed lease is not active."

def noSuchLease : String := "No such lease was handed out."

namespace Queue

variable {Key : Type*}

def fresh : Queue Key where
  states := ∅
  ready := .empty
  takeWaiters := .empty
  drainWaiters := []
  closed := false
  aborted := false
  closeCompletion := none
  nextToken := 0
  nextPromise := 0
  leases := []
  completed := []
  events := []

def emit (q : Queue Key) (events : List (Event Key)) : Queue Key :=
  { q with events := q.events ++ events }

/-- `closeCompletion?.resolve()`; resolving a resolved promise does nothing. -/
def resolveClose (q : Queue Key) : Queue Key :=
  match q.closeCompletion with
  | some false => { q with closeCompletion := some true }.emit [.stopped]
  | _ => q

def beginClose (q : Queue Key) : Queue Key :=
  match q.closeCompletion with
  | none => { q with closeCompletion := some false, closed := true }
  | some _ => q

def resolveTakeWaiters (q : Queue Key) : Queue Key :=
  { q with takeWaiters := .empty }.emit (q.takeWaiters.live.map (.taken · none))

def settleIdleWaiters (q : Queue Key) : Queue Key :=
  if q.states.keys ≠ [] then q
  else
    let drained := { q with drainWaiters := [] }.emit (q.drainWaiters.map .drained)
    if drained.closed then drained.resolveTakeWaiters.resolveClose else drained

variable [DecidableEq Key]

def leaseReadyWork (q : Queue Key) : Except String (Item Key × Queue Key) :=
  match q.ready.shift with
  | none => .error readyKeyNotQueued
  | some (key, rest) =>
    match q.states.lookup key with
    | some .queued =>
      let item : Item Key := ⟨key, q.nextToken⟩
      .ok (item, { q with
        ready := rest.compact
        states := q.states.insert key (.processing false q.nextToken)
        nextToken := q.nextToken + 1
        leases := q.leases ++ [item] }.emit [.leased item])
    | _ => .error readyKeyNotQueued

/-- The `while` loop of `#dispatchReadyWork`; every turn takes one waiter. -/
def dispatchLoop : ℕ → Queue Key → Except String (Queue Key)
  | 0, q => .ok q
  | turns + 1, q =>
    if q.ready.hasNext then
      match q.takeWaiters.shift with
      | none => .ok q
      | some (promise, rest) => do
        let (item, leased) ← { q with takeWaiters := rest }.leaseReadyWork
        dispatchLoop turns (leased.emit [.taken promise (some item)])
    else .ok q

def dispatchReadyWork (q : Queue Key) : Except String (Queue Key) := do
  let dispatched ← dispatchLoop q.takeWaiters.live.length q
  .ok { dispatched with takeWaiters := dispatched.takeWaiters.compact }

def enqueue (q : Queue Key) (key : Key) : Except String (Queue Key) :=
  ({ q with states := q.states.insert key .queued, ready := q.ready.push key }.emit
    [.ready key]).dispatchReadyWork

def signal (q : Queue Key) (key : Key) : Except String (Queue Key) :=
  if q.closed then .ok (q.emit [.signalled key false])
  else match q.states.lookup key with
    | none => do
      let queued ← q.enqueue key
      .ok (queued.emit [.signalled key true])
    | some .queued => .ok (q.emit [.signalled key true])
    | some (.processing _ token) =>
      .ok ({ q with states := q.states.insert key (.processing true token) }.emit
        [.signalled key true])

def take (q : Queue Key) : Except String (Queue Key) :=
  let promise := q.nextPromise
  let q := { q with nextPromise := promise + 1 }
  if q.aborted then .ok (q.emit [.taken promise none])
  else if q.ready.hasNext then do
    let (item, leased) ← q.leaseReadyWork
    .ok (leased.emit [.taken promise (some item)])
  else if q.closed ∧ q.states.keys = [] then .ok (q.emit [.taken promise none])
  else .ok { q with takeWaiters := q.takeWaiters.push promise }

def drain (q : Queue Key) : Queue Key :=
  let promise := q.nextPromise
  let q := { q with nextPromise := promise + 1 }
  if q.states.keys = [] then q.emit [.drained promise]
  else { q with drainWaiters := q.drainWaiters ++ [promise] }

def shutdown (q : Queue Key) : Queue Key := q.beginClose.settleIdleWaiters

/-- One turn of the loop over the states in `abortPending`. -/
def abortKey (states : AList (fun _ : Key => KeyState)) (key : Key) : AList (fun _ : Key => KeyState) :=
  match states.lookup key with
  | some .queued => states.erase key
  | some (.processing _ token) => states.insert key (.processing false token)
  | none => states

def abortPending (q : Queue Key) : Queue Key :=
  let q := q.beginClose
  if q.aborted then q
  else
    let dropped := { q with
      aborted := true
      states := q.states.keys.foldl abortKey q.states
      ready := .empty }
    dropped.resolveTakeWaiters.settleIdleWaiters

def complete (q : Queue Key) (item : Item Key) : Except String (Queue Key) :=
  match q.states.lookup item.key with
  | some (.processing dirty token) =>
    if token ≠ item.token then .error leaseNotActive
    else if dirty && !q.aborted then q.enqueue item.key
    else .ok { q with states := q.states.erase item.key }.settleIdleWaiters
  | _ => .error leaseNotActive

def done (q : Queue Key) (item : Item Key) : Except String (Queue Key) :=
  if item.token ∈ q.completed then .error alreadyCompleted
  else ({ q with completed := q.completed ++ [item.token] }.emit [.completed item]).complete item

end Queue

inductive Call (Key : Type*) where
  | signal (key : Key)
  | take
  | done (item : Item Key)
  | drain
  | shutdown
  | abortPending
  deriving DecidableEq

/-- Only an item that was handed out can be completed. -/
def step {Key : Type*} [DecidableEq Key] (q : Queue Key) : Call Key → Except String (Queue Key)
  | .signal key => q.signal key
  | .take => q.take
  | .done item => if item ∈ q.leases then q.done item else .error noSuchLease
  | .drain => .ok q.drain
  | .shutdown => .ok q.shutdown
  | .abortPending => .ok q.abortPending

end KeyedWorkQueue
