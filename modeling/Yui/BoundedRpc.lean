import Mathlib.Data.List.Nodup
import Yui.BoundedSlotPool
import Yui.KeyedTable

/-!
# The bounded RPC client

`BoundedRpcClient` of `core/boundedRpc.ts`: requests wait for the worker to be ready and for a slot, are
posted, and stay in the pending map until a response, an abort, a failed restart or `close` removes them.
After a crash a new worker is started and all pending requests are posted to it when it is ready. A restart
was the first to await that promise, so the replay runs before any other reaction to it.
-/

open FallibleRun

inductive SendPhase where
  | ready (generation : ℕ)
  | slot
  | inFlight
  | ended
  deriving DecidableEq

/-- A call of `send`. `settled` counts the calls of its `resolve` and `reject`. -/
structure RpcSend where
  requestId : String
  signal : Bool
  aborted : Bool
  phase : SendPhase
  slot : Option ℕ
  settled : ℕ

inductive RestartPhase where
  | idle | backingOff | starting
  deriving DecidableEq

/-- `outcomes` are the settled ready promises by generation, `pending` the pending map with the number of
the call of each request, and `posts` the requests that were posted, with the generation of the worker. -/
structure RpcClient where
  sends : List RpcSend
  pending : List (String × ℕ)
  slots : SlotCalls
  generation : ℕ
  readyFired : Bool
  outcomes : List (ℕ × Bool)
  closed : Bool
  restart : RestartPhase
  posts : List (ℕ × ℕ)

namespace RpcClient

def create (pool : BoundedSlotPool) : RpcClient :=
  { sends := [], pending := [], slots := SlotCalls.start pool, generation := 0, readyFired := false,
    outcomes := [], closed := false, restart := .idle, posts := [] }

variable (c : RpcClient)

/-- `this.#slots.release()` for a call. -/
def releaseSlot (call : ℕ) : RpcClient :=
  match (c.sends[call]?).bind RpcSend.slot with
  | none => c
  | some id =>
    { c with slots := { c.slots with
        holding := c.slots.holding.erase id, released := c.slots.released ++ [id] }.release }

/-- `resolve` or `reject` of a call. -/
def settle (call : ℕ) : RpcClient :=
  { c with sends := c.sends.modify call fun send =>
      { send with phase := .ended, settled := send.settled + 1 } }

def forget (requestId : String) : RpcClient :=
  { c with pending := c.pending.filter fun entry => entry.1 ≠ requestId }

/-- `#handleResponse`. -/
def handleResponse (requestId : String) : RpcClient :=
  match KeyedTable.get Prod.fst c.pending requestId with
  | none => c
  | some entry => ((c.forget requestId).releaseSlot entry.2).settle entry.2

/-- The loop of `close` and of a failed restart over the pending requests. -/
def failPending : RpcClient :=
  c.pending.foldl (fun c entry => ((c.forget entry.1).releaseSlot entry.2).settle entry.2) c

def abortListener (call : ℕ) (requestId : String) : RpcClient :=
  match KeyedTable.get Prod.fst c.pending requestId with
  | none => c.settle call
  | some entry => ((c.releaseSlot entry.2).forget requestId).settle call

/-- The first settlement of the ready promise, before what a restart does with it. -/
def fireReady (outcome : Bool) : RpcClient :=
  if c.readyFired then c
  else { c with readyFired := true, outcomes := c.outcomes ++ [(c.generation, outcome)] }

def replay (c : RpcClient) : RpcClient :=
  { c with posts := c.posts ++ c.pending.map fun entry => (c.generation, entry.2) }

/-- The part of `send` after its slot was acquired. -/
def proceed (call : ℕ) (send : RpcSend) : RpcClient :=
  if c.closed ∨ send.aborted then (c.releaseSlot call).settle call
  else
    { c with
      sends := c.sends.modify call fun send => { send with phase := .inFlight },
      pending := KeyedTable.save Prod.fst c.pending (send.requestId, call),
      posts := c.posts ++ [(c.generation, call)] }

end RpcClient

/-- `resume` and `finish` are the reactions of the slot pool, `readied` and `proceed` those of a call to the
ready promise and to its slot. `timer` ends the wait of a restart, and its worker may fail to spawn. -/
inductive RpcOp where
  | send (requestId : String) (signal aborted : Bool)
  | readied (call : ℕ)
  | resume (slot : ℕ)
  | finish (slot : ℕ)
  | proceed (call : ℕ)
  | abort (call : ℕ)
  | ready
  | respond (requestId : String)
  | error
  | exit (generation : ℕ)
  | timer (spawned : Bool)
  | close

namespace RpcOp

def slotOp (c : RpcClient) (op : SlotOp) : Except Unit RpcClient := do
  let slots ← op.apply c.slots
  .ok { c with slots }

def apply (c : RpcClient) : RpcOp → Except Unit RpcClient
  | .send requestId signal aborted =>
    .ok { c with sends := c.sends ++
      [if c.closed then ⟨requestId, signal, signal && aborted, .ended, none, 1⟩
        else ⟨requestId, signal, signal && aborted, .ready c.generation, none, 0⟩] }
  | .readied call =>
    match c.sends[call]? with
    | none => .error ()
    | some sent =>
      match sent.phase with
      | .ready generation =>
        match c.outcomes.lookup generation with
        | none => .error ()
        | some false => .ok (c.settle call)
        | some true =>
          .ok { c with
            slots := { c.slots with called := c.slots.called + 1 }.enter c.slots.called,
            sends := c.sends.modify call fun sent =>
              { sent with phase := .slot, slot := some c.slots.called } }
      | _ => .error ()
  | .resume slot => slotOp c (.resume slot)
  | .finish slot => slotOp c (.finish slot)
  | .proceed call =>
    match c.sends[call]? with
    | none => .error ()
    | some sent =>
      if sent.phase = .slot ∧ ∃ id ∈ sent.slot, id ∈ c.slots.holding then .ok (c.proceed call sent)
      else .error ()
  | .abort call =>
    match c.sends[call]? with
    | none => .error ()
    | some sent =>
      if sent.signal = true ∧ sent.aborted = false then
        let aborted := { c with sends := c.sends.modify call fun sent => { sent with aborted := true } }
        if sent.phase = .inFlight then .ok (aborted.abortListener call sent.requestId)
        else .ok aborted
      else .error ()
  | .ready =>
    if c.readyFired then .ok c
    else if c.restart = .starting then .ok { (c.fireReady true).replay with restart := .idle }
    else .ok (c.fireReady true)
  | .respond requestId => .ok (c.handleResponse requestId)
  | .error =>
    if c.readyFired then .ok c
    else if c.restart = .starting then .ok { (c.fireReady false).failPending with restart := .idle }
    else .ok (c.fireReady false)
  | .exit generation =>
    if c.closed = true ∨ generation ≠ c.generation ∨ c.restart ≠ .idle then .ok c
    else .ok { c.fireReady false with restart := .backingOff }
  | .timer spawned =>
    if c.restart = .backingOff then
      if c.closed then .ok { c with restart := .idle }
      else
        let next := { c with generation := c.generation + 1, readyFired := false }
        if spawned then .ok { next with restart := .starting }
        else .ok { next.failPending with restart := .idle }
    else .error ()
  | .close =>
    if c.closed then .ok c
    else .ok { ({ c with closed := true }.fireReady false).failPending with
      restart := if c.restart = .starting then .idle else c.restart }

/-- The operations with which a restart fails: its worker does not spawn, or fails or exits before it is ready. -/
def failsRestart (c : RpcClient) : RpcOp → Prop
  | .error => c.restart = .starting ∧ c.readyFired = false
  | .exit generation => generation = c.generation ∧ c.restart = .starting ∧ c.readyFired = false
  | .timer spawned => c.restart = .backingOff ∧ c.closed = false ∧ spawned = false
  | _ => False

end RpcOp
