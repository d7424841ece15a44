import Yui.FallibleRun
import Yui.UniqueAppend

/-!
# The mailbox scheduler

The scheduler of `coordination/mailboxScheduler.ts` that coalesces dirty mailbox keys over a
window. The host keeps the live timers and the drains under way. A drain is the promise `running`:
it waits for its first microtask, awaits a batch, has the answer of a batch, or has left its loop
with its `finally` reaction still to run. Timer callbacks, answers and reactions are steps of
their own.
-/

namespace MailboxScheduler

inductive Phase (Key : Type*) where
  | starting
  | processing (keys : List Key)
  | answered (fulfilled : Bool)
  | settled (fulfilled : Bool)

structure Drain (Key : Type*) where
  id : ℕ
  phase : Phase Key
  reported : Bool

inductive Event (Key : Type*) where
  | signalled (key : Key)
  | batch (drain : ℕ) (keys : List Key)
  | error (drain : ℕ)

/-- The fields of the scheduler, followed by what the host keeps for it. -/
structure Scheduler (Key : Type*) where
  pendingKeys : List Key
  timer : Option ℕ
  current : Option ℕ
  drainRequested : Bool
  stopped : Bool
  timers : List ℕ
  nextTimer : ℕ
  drains : List (Drain Key)
  nextDrain : ℕ
  events : List (Event Key)

inductive Action (Key : Type*) where
  | signal (key : Key)
  | schedule
  | drain
  | stop
  | fire (timer : ℕ)
  | start (drain : ℕ)
  | answer (drain : ℕ) (fulfilled : Bool)
  | resume (drain : ℕ)
  | react (drain : ℕ)

def notEnabled : String := "The host offers no such step."

namespace Scheduler

variable {Key : Type*}

def fresh : Scheduler Key where
  pendingKeys := []
  timer := none
  current := none
  drainRequested := false
  stopped := false
  timers := []
  nextTimer := 0
  drains := []
  nextDrain := 0
  events := []

def schedule (s : Scheduler Key) : Scheduler Key :=
  if s.stopped || s.pendingKeys.isEmpty || s.timer.isSome then s
  else
    { s with
      timer := some s.nextTimer
      timers := s.timers ++ [s.nextTimer]
      nextTimer := s.nextTimer + 1 }

def signal [DecidableEq Key] (s : Scheduler Key) (key : Key) : Scheduler Key :=
  if s.stopped then s
  else
    ({ s with
      pendingKeys := appendUnique id s.pendingKeys [key]
      events := s.events ++ [.signalled key] } : Scheduler Key).schedule

def cancelTimer (s : Scheduler Key) : Scheduler Key :=
  match s.timer with
  | none => s
  | some timer => { s with timers := s.timers.erase timer, timer := none }

/-- The scheduler after `drain()` and the drain whose promise it returns; a resolved promise is
`none`. -/
def drain (s : Scheduler Key) : Scheduler Key × Option ℕ :=
  if s.stopped then (s, none)
  else
    let s := s.cancelTimer
    match s.current with
    | some running => ({ s with drainRequested := true }, some running)
    | none =>
      if s.pendingKeys.isEmpty then (s, none)
      else
        ({ s with
          current := some s.nextDrain
          drains := s.drains ++ [⟨s.nextDrain, .starting, false⟩]
          nextDrain := s.nextDrain + 1 }, some s.nextDrain)

def mapDrain (s : Scheduler Key) (id : ℕ) (f : Drain Key → Drain Key) : Scheduler Key :=
  { s with drains := s.drains.map fun d => if d.id = id then f d else d }

def setPhase (s : Scheduler Key) (id : ℕ) (phase : Phase Key) : Scheduler Key :=
  s.mapDrain id fun d => { d with phase := phase }

/-- `this.drain().catch(this.#onError)`. -/
def drainReported (s : Scheduler Key) : Scheduler Key :=
  match s.drain with
  | (s, none) => s
  | (s, some running) => s.mapDrain running fun d => { d with reported := true }

def onTimer (s : Scheduler Key) : Scheduler Key :=
  let s := { s with timer := none }
  if s.current.isSome then { s with drainRequested := true } else s.drainReported

def stop (s : Scheduler Key) : Scheduler Key :=
  { ({ s with stopped := true } : Scheduler Key).cancelTimer with
    pendingKeys := []
    drainRequested := false }

/-- The body of the loop of `#drainDueBatches`. Without keys nothing is pending, so the loop ends
at once. -/
def takeBatch (s : Scheduler Key) (id : ℕ) : Scheduler Key :=
  let keys := s.pendingKeys
  let s := { s with drainRequested := false, pendingKeys := [] }
  if keys.isEmpty then s.setPhase id (.settled true)
  else { s.setPhase id (.processing keys) with events := s.events ++ [.batch id keys] }

/-- The condition of the loop of `#drainDueBatches`. -/
def isDue (s : Scheduler Key) : Bool :=
  !s.stopped && s.drainRequested && !s.pendingKeys.isEmpty

/-- `#drainDueBatches` goes on after `await this.processBatch(keys)`. -/
def resume (s : Scheduler Key) (id : ℕ) (fulfilled : Bool) : Scheduler Key :=
  if fulfilled && s.isDue then s.takeBatch id else s.setPhase id (.settled fulfilled)

/-- The `finally` reaction of a drain. -/
def onSettled (s : Scheduler Key) (running : ℕ) : Scheduler Key :=
  if s.current ≠ some running then s
  else
    let s := { s with current := none }
    if s.stopped || s.pendingKeys.isEmpty then s
    else if s.drainRequested then
      ({ s with drainRequested := false } : Scheduler Key).drainReported
    else s.schedule

/-- The reactions of a settled drain: `finally` first, then `#onError` if it was attached. -/
def react (s : Scheduler Key) (d : Drain Key) (fulfilled : Bool) : Scheduler Key :=
  let s := { s with drains := s.drains.filter (·.id ≠ d.id) }.onSettled d.id
  if d.reported && !fulfilled then { s with events := s.events ++ [.error d.id] } else s

end Scheduler

def step {Key : Type*} [DecidableEq Key] (s : Scheduler Key) :
    Action Key → Except String (Scheduler Key)
  | .signal key => .ok (s.signal key)
  | .schedule => .ok s.schedule
  | .drain => .ok s.drain.1
  | .stop => .ok s.stop
  | .fire timer =>
    if timer ∈ s.timers then .ok { s with timers := s.timers.erase timer }.onTimer
    else .error notEnabled
  | .start id =>
    match s.drains.find? (·.id = id) with
    | some ⟨_, .starting, _⟩ => .ok (s.takeBatch id)
    | _ => .error notEnabled
  | .answer id fulfilled =>
    match s.drains.find? (·.id = id) with
    | some ⟨_, .processing _, _⟩ => .ok (s.setPhase id (.answered fulfilled))
    | _ => .error notEnabled
  | .resume id =>
    match s.drains.find? (·.id = id) with
    | some ⟨_, .answered fulfilled, _⟩ => .ok (s.resume id fulfilled)
    | _ => .error notEnabled
  | .react id =>
    match s.drains.find? (·.id = id) with
    | some ⟨id, .settled fulfilled, reported⟩ =>
      .ok (s.react ⟨id, .settled fulfilled, reported⟩ fulfilled)
    | _ => .error notEnabled

end MailboxScheduler
