import Yui.KeyedWorkQueue

/-!
# The keyed queue as a transition system

`View` keeps what the queue means: the phase of every key, the ready keys and the waiting promises
in order. `Step` lists every transition of a call with the events it records. `Inv` is the
invariant of the transition system: a key is ready exactly once while it is queued, it is leased by
exactly one open item while it is processing, no ready key meets a waiting taker, and idle waiters
are settled as soon as the queue is idle.
-/

namespace KeyedWorkQueue

variable {Key : Type*}

@[ext] structure View (Key : Type*) where
  phase : Key → Option KeyState
  ready : List Key
  waiters : List ℕ
  drains : List ℕ
  closed : Bool
  aborted : Bool
  stop : Option Bool
  nextToken : ℕ
  leases : List (Item Key)
  completed : List ℕ

namespace View

def Idle (v : View Key) : Prop := ∀ k, v.phase k = none

def Open (v : View Key) (item : Item Key) : Prop :=
  item ∈ v.leases ∧ item.token ∉ v.completed

def item (v : View Key) (k : Key) : Item Key := ⟨k, v.nextToken⟩

section DecidableKey

variable [DecidableEq Key]

def setPhase (v : View Key) (k : Key) (s : Option KeyState) : View Key :=
  { v with phase := Function.update v.phase k s }

def queue (v : View Key) (k : Key) : View Key :=
  { v.setPhase k (some .queued) with ready := v.ready ++ [k] }

def lease (v : View Key) (k : Key) : View Key :=
  { v.setPhase k (some (.processing false v.nextToken)) with
    nextToken := v.nextToken + 1
    leases := v.leases ++ [v.item k] }

end DecidableKey

def finish (v : View Key) (item : Item Key) : View Key :=
  { v with completed := v.completed ++ [item.token] }

def close (v : View Key) : View Key := { v with closed := true, stop := some (v.stop.getD false) }

def droppedPhase : KeyState → Option KeyState
  | .queued => none
  | .processing _ token => some (.processing false token)

def drop (v : View Key) : View Key :=
  { v with
    aborted := true
    phase := fun k => (v.phase k).bind droppedPhase
    ready := []
    waiters := [] }

open Classical in
noncomputable def settle (v : View Key) : View Key :=
  if v.Idle then
    if v.closed then { v with drains := [], waiters := [], stop := v.stop.map fun _ => true }
    else { v with drains := [] }
  else v

open Classical in
noncomputable def settleEvents (v : View Key) : List (Event Key) :=
  if v.Idle then
    v.drains.map Event.drained ++
      if v.closed then
        v.waiters.map (Event.taken · none) ++ if v.stop = some false then [Event.stopped] else []
      else []
  else []

end View

open View

inductive Step [DecidableEq Key] : View Key → Call Key → View Key → List (Event Key) → Prop where
  | signalRejected (v : View Key) (k : Key) (hclosed : v.closed = true) :
      Step v (.signal k) v [.signalled k false]
  | signalIdle (v : View Key) (k : Key) (hopen : v.closed = false) (hk : v.phase k = none)
      (hw : v.waiters = []) :
      Step v (.signal k) (v.queue k) [.ready k, .signalled k true]
  | signalHanded (v : View Key) (k : Key) (p : ℕ) (ws : List ℕ) (hopen : v.closed = false)
      (hk : v.phase k = none) (hr : v.ready = []) (hw : v.waiters = p :: ws) :
      Step v (.signal k) { v.lease k with waiters := ws }
        [.ready k, .leased (v.item k), .taken p (some (v.item k)), .signalled k true]
  | signalQueued (v : View Key) (k : Key) (hopen : v.closed = false)
      (hk : v.phase k = some .queued) : Step v (.signal k) v [.signalled k true]
  | signalDirty (v : View Key) (k : Key) (d : Bool) (t : ℕ) (hopen : v.closed = false)
      (hk : v.phase k = some (.processing d t)) :
      Step v (.signal k) (v.setPhase k (some (.processing true t))) [.signalled k true]
  | takeAborted (v : View Key) (p : ℕ) (habort : v.aborted = true) :
      Step v .take v [.taken p none]
  | takeReady (v : View Key) (p : ℕ) (k : Key) (rest : List Key) (habort : v.aborted = false)
      (hr : v.ready = k :: rest) :
      Step v .take { v.lease k with ready := rest } [.leased (v.item k), .taken p (some (v.item k))]
  | takeStopped (v : View Key) (p : ℕ) (hclosed : v.closed = true) (hidle : v.Idle) :
      Step v .take v [.taken p none]
  | takeWaits (v : View Key) (p : ℕ) (habort : v.aborted = false) (hr : v.ready = [])
      (hbusy : ¬ (v.closed = true ∧ v.Idle)) :
      Step v .take { v with waiters := v.waiters ++ [p] } []
  | drainIdle (v : View Key) (p : ℕ) (hidle : v.Idle) : Step v .drain v [.drained p]
  | drainWaits (v : View Key) (p : ℕ) (hbusy : ¬ v.Idle) :
      Step v .drain { v with drains := v.drains ++ [p] } []
  | shutdown (v : View Key) : Step v .shutdown v.close.settle v.close.settleEvents
  | abortAgain (v : View Key) (habort : v.aborted = true) : Step v .abortPending v []
  | abort (v : View Key) (habort : v.aborted = false) :
      Step v .abortPending v.close.drop.settle
        (v.waiters.map (Event.taken · none) ++ v.close.drop.settleEvents)
  | doneReplay (v : View Key) (item : Item Key) (hitem : v.Open item) (habort : v.aborted = false)
      (hk : v.phase item.key = some (.processing true item.token)) (hw : v.waiters = []) :
      Step v (.done item) ((v.finish item).queue item.key) [.completed item, .ready item.key]
  | doneHanded (v : View Key) (item : Item Key) (p : ℕ) (ws : List ℕ) (hitem : v.Open item)
      (habort : v.aborted = false) (hk : v.phase item.key = some (.processing true item.token))
      (hr : v.ready = []) (hw : v.waiters = p :: ws) :
      Step v (.done item) { (v.finish item).lease item.key with waiters := ws }
        [.completed item, .ready item.key, .leased (v.item item.key),
          .taken p (some (v.item item.key))]
  | doneFinal (v : View Key) (item : Item Key) (d : Bool) (hitem : v.Open item)
      (hk : v.phase item.key = some (.processing d item.token))
      (hfinal : d = false ∨ v.aborted = true) :
      Step v (.done item) ((v.finish item).setPhase item.key none).settle
        (.completed item :: ((v.finish item).setPhase item.key none).settleEvents)

/-- What holds in the middle of a call as well. -/
structure Base (v : View Key) : Prop where
  ready_iff : ∀ k, k ∈ v.ready ↔ v.phase k = some .queued
  ready_nodup : v.ready.Nodup
  token_lt : ∀ item ∈ v.leases, item.token < v.nextToken
  tokens_nodup : (v.leases.map Item.token).Nodup
  completed_lt : ∀ t ∈ v.completed, t < v.nextToken
  open_iff : ∀ item, v.Open item ↔ ∃ d, v.phase item.key = some (.processing d item.token)
  closed_iff : v.closed = v.stop.isSome
  aborted_closed : v.aborted = true → v.closed = true
  aborted_clean : v.aborted = true → v.waiters = [] ∧ ∀ k,
    v.phase k ≠ some .queued ∧ ∀ t, v.phase k ≠ some (.processing true t)
  stopped_idle : v.stop = some true → v.Idle

structure Inv (v : View Key) : Prop extends Base v where
  apart : v.ready = [] ∨ v.waiters = []
  stopped : v.closed = true → v.Idle → v.stop = some true ∧ v.waiters = []
  undrained : v.Idle → v.drains = []

end KeyedWorkQueue
