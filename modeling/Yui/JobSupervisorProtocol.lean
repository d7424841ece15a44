import Yui.JobSupervisorEnds

/-!
# The start protocol of the supervisor

The supervisor as a machine: it performs the commands of its passes, each of which may fail before
or after it took effect, others change the store and the artifact files in between, and a crash
loses the pass under way. Its passes keep to a protocol. A runner is spawned only by the pass that
committed the attempt, a queued run is cancelled only if the pass listed it unattempted, and a run is
adopted only on evidence that the pass has read.
-/

open Checked

variable [JobHost]

/-- What shows that a runner was spawned: its own ready file or a start marker that is not the
pending one. -/
def World.Evident (w : World) (key : JobKey) : Prop :=
  w.readyFiles key ≠ none ∨
    ∃ marker, w.startMarkers key = some marker ∧ marker.startIdentity ≠ pendingIdentity

section Machine

/-- A command takes effect, fails without effect, or takes effect and fails. -/
inductive Performs (w : World) : (c : JobCommand) → Except Failure c.Answer → World → Prop where
  | done (c : JobCommand) : Performs w c (w.perform c).1 (w.perform c).2
  | failed (c : JobCommand) (failure : Failure) : Performs w c (.error failure) w
  | lost (c : JobCommand) (failure : Failure) : Performs w c (.error failure) (w.perform c).2

/-- What others do to the world. The control plane requests cancellations, acknowledges and
publishes artifacts, which leaves the status and the effect of a run as they are, and it creates runs
and moves delegated ones. A spawned runner writes its files. The host is free. -/
inductive Changes (w : World) : World → Prop where
  | rewrite (key : JobKey) (current next : JobRun) (hlookup : w.lookup key = some current)
      (hsave : saveJobRun current next = .ok ()) (hstatus : next.status = current.status)
      (hoperation : next.operation = current.operation) : Changes w (w.put next)
  | delegated (key : JobKey) (current next : JobRun) (hlookup : w.lookup key = some current)
      (hsave : saveJobRun current next = .ok ()) (hdelegation : current.delegation ≠ none) :
      Changes w (w.put next)
  | create (job : JobRun) (hnew : w.lookup job.key = none) (hvalid : checkDurableJob job = .ok ())
      (hstart : job.delegation ≠ none ∨ job.status = .queued ∧ job.operation.effect = .none) :
      Changes w { w with jobs := w.jobs ++ [job] }
  | ready (key : JobKey) (ready : DurableJobReadyMarker) (hspawned : .spawned key ∈ w.log)
      (hfirst : w.readyFiles key = none) :
      Changes w { w with readyFiles := Function.update w.readyFiles key (some ready) }
  | checkpoint (key : JobKey) (checkpoint : DurableJobCheckpoint) (hspawned : .spawned key ∈ w.log) :
      Changes w { w with checkpoints := Function.update w.checkpoints key (some checkpoint) }
  | exit (key : JobKey) (exit : DurableJobExit) (hspawned : .spawned key ∈ w.log) :
      Changes w { w with exits := Function.update w.exits key (some exit) }
  | receipt (key : JobKey) (receipt : BusinessReceipt) (hspawned : .spawned key ∈ w.log) :
      Changes w { w with receipts := Function.update w.receipts key (some receipt) }
  | heartbeat (key : JobKey) (date : JsDate) (hspawned : .spawned key ∈ w.log) :
      Changes w { w with heartbeats := Function.update w.heartbeats key (some date) }
  | host (identities : ℚ → Option String) (alive : ℚ → Bool)
      (authorization : JobRun → Except Failure Unit) (nextProcess : ℚ × Option String) :
      Changes w { w with
        identities := identities
        alive := alive
        authorization := authorization
        nextProcess := nextProcess }

/-- The SIGKILL deadlines live in the memory of the Controller. -/
def supervisor : Machine World JobCommand JobCommand.Answer Failure where
  performs := Performs
  changes := Changes
  forgets w := { w with sigkillAt := fun _ => none }

def IsPass (p : Pass Unit) : Prop :=
  (∃ now, p = reconcile now) ∨ ∃ key now, p = confirmResult key now

abbrev SupervisorStep := supervisor.Step IsPass

/-- The configurations that are reached from a store without runs. -/
def Reached (config : World × Option (Pass Unit)) : Prop :=
  ∃ w, w.jobs = [] ∧ w.log = [] ∧ Relation.ReflTransGen SupervisorStep (w, none) config

end Machine

section Moves

/-- What a command may do to the stored runs, the markers and the log. -/
inductive Moves (w : World) : JobCommand → World → Prop where
  | quiet (c : JobCommand) (w' : World) (hjobs : w'.jobs = w.jobs)
      (hready : w'.readyFiles = w.readyFiles) (hmarkers : w'.startMarkers = w.startMarkers)
      (hlog : ∃ events, w'.log = w.log ++ events ∧ ∀ key, JobEvent.spawned key ∉ events) :
      Moves w c w'
  | marks (key : JobKey) (marker : DurableJobStartMarker) :
      Moves w (.writeStartMarker key marker)
        { w with startMarkers := Function.update w.startMarkers key (some marker) }
  | commits (key : JobKey) (transition : JobTransition) (now : JsDate) (current next : JobRun)
      (hcommits : Commits w key current next) (happly : transition.apply w now current = .ok next) :
      Moves w (.transition key transition now)
        ((w.put next).record (transitionEvents transition current next))
  | spawns (key : JobKey) : Moves w (.spawnJobRunner key) (w.record [.spawned key])

theorem Moves.still (w : World) (c : JobCommand) : Moves w c w := .quiet c w rfl rfl rfl ⟨[], by simp⟩

theorem perform_moves (w : World) (c : JobCommand) : Moves w c (w.perform c).2 := by
  cases c with
  | transition key transition now =>
    rcases transitionDurableJob_cases w key transition now with ⟨hsame, _⟩ | ⟨current, next, h⟩
    · have hstill : (w.perform (.transition key transition now)).2 = w := hsame
      rw [hstill]
      exact .still w _
    · obtain ⟨hcommits, happly, heq⟩ := h
      have hworld : (w.perform (.transition key transition now)).2 =
          (w.put next).record (transitionEvents transition current next) := congrArg Prod.snd heq
      rw [hworld]
      exact .commits key transition now current next hcommits happly
  | writeStartMarker key marker => exact .marks key marker
  | spawnJobRunner key => exact .spawns key
  | deliverTerminalEvent key status =>
    exact .quiet _ _ rfl rfl rfl ⟨[.noticed key status], rfl, by simp⟩
  | _ => exact .quiet _ _ rfl rfl rfl ⟨[], by simp [World.perform]⟩

theorem Performs.moves {w w' : World} {c : JobCommand} {answer : Except Failure c.Answer}
    (h : Performs w c answer w') : Moves w c w' := by
  cases h with
  | done => exact perform_moves w c
  | failed failure => exact .still w c
  | lost failure => exact perform_moves w c

theorem transitionEvents_quiet (transition : JobTransition) (current next : JobRun)
    (key : JobKey) : JobEvent.spawned key ∉ transitionEvents transition current next := by
  unfold transitionEvents
  split_ifs <;> simp

end Moves

section Protocol

/-- What a pass knows: the runs it has seen unattempted and not touched since, the runs it has seen
evidence for, and the run whose attempt it committed and has not spawned. -/
structure Token where
  fresh : Set JobKey
  evident : Set JobKey
  holding : Option JobKey

def Token.idle : Token := ⟨∅, ∅, none⟩

def Unattempted (job : JobRun) : Prop := job.operation.effect = .none ∧ job.delegation = none

def JobTransition.permitted (t : Token) (key : JobKey) : JobTransition → Prop
  | .cancel => key ∈ t.fresh
  | .adopt _ => key ∈ t.evident
  | _ => True

def Token.transitioned (t : Token) (key : JobKey) : JobTransition →
    Except Failure (Option JobRun) → Token
  | .attempt, .ok (some _) => { t with fresh := t.fresh \ {key}, holding := some key }
  | _, _ => { t with fresh := t.fresh \ {key} }

def Token.marked (t : Token) (key : JobKey) (marker : DurableJobStartMarker) : Token :=
  if marker.startIdentity ≠ pendingIdentity then { t with evident := insert key t.evident } else t

def Token.after (t : Token) : (c : JobCommand) → Except Failure c.Answer → Token
  | .listActive, .ok jobs =>
    { t with fresh := t.fresh ∪ { key | ∃ job ∈ jobs, job.key = key ∧ Unattempted job } }
  | .transition key transition _, answer => t.transitioned key transition answer
  | .readStartMarker key, .ok (some marker) => t.marked key marker
  | .readReadyFile key, .ok (some _) => { t with evident := insert key t.evident }
  | .writeStartMarker key _, _ => { t with evident := t.evident \ {key} }
  | .spawnJobRunner _, _ => { t with holding := none }
  | _, _ => t

def startProtocol : Protocol JobCommand JobCommand.Answer Failure Token where
  permits t c := match c with
    | .spawnJobRunner key => t.holding = some key
    | .transition key transition _ => transition.permitted t key
    | _ => True
  answers c answer := match c, answer with
    | .listActive, .ok jobs => (jobs.map JobRun.key).Nodup
    | _, _ => True
  after := Token.after

end Protocol
