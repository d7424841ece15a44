import Mathlib.Logic.Function.Basic
import Yui.EventJournal
import Yui.ReleasePointer

/-!
# The fence of a handover

Three processes write the fence file: the Controller that is handed over, the candidate, and the activator, which may
crash and be run again. Each reads the fence, decides, and writes a whole new record.
-/

open Program EventJournal

namespace HandoverFences

open ReleaseHandover

inductive Entry where
  | wrote (handoverId : String) (phase : HandoverFencePhase)
  /-- A candidate published its discovery and its identity. -/
  | published (handoverId : String)
  | promoted (handoverId : String)
  /-- A rollback was answered as done. -/
  | rollbackReported (handoverId : String)

inductive HandlerKind where
  | commit | rollback

def HandlerKind.phase : HandlerKind → HandoverFencePhase
  | .commit => .committed
  | .rollback => .rolledBack

/-- A handler of the Controller between its read and its write of the fence. -/
structure Handling where
  kind : HandlerKind
  handoverId : String
  existing : Option HandoverFence

inductive CandidateState where
  | absent | ended
  | starting (handoverId : String)
  /-- It read the fence, and has not published itself. -/
  | read (fence : HandoverFence)
  | published (fence : HandoverFence)
  | polling (handoverId : String)
  /-- It polled the fence. -/
  | checked (fence : HandoverFence)
  | promoting (handoverId : String)

structure Scene where
  fence : Option HandoverFence := none
  pointer : Option ActiveReleasePointer
  controller : Option Controller
  handler : Option Handling := none
  /-- The generation of the next Controller. -/
  generations : ℕ
  issued : List String := []
  begun : List String := []
  /-- The handovers whose rollback a Controller has served. -/
  served : List String := []
  candidates : ℕ → CandidateState := fun _ => .absent
  journal : List Entry := []

namespace Scene

variable (w : Scene)

def log (entry : Entry) : Scene := { w with journal := w.journal ++ [entry] }

def writeFence (fence : HandoverFence) : Scene := { w with fence := some fence }.log (.wrote fence.handoverId fence.phase)

def setCandidate (i : ℕ) (state : CandidateState) : Scene :=
  { w with candidates := Function.update w.candidates i state }

def ownerOf (generation : ℕ) : HandoverOwner := ⟨generation, "", "unknown", "unknown"⟩

def ownerLive (owner : HandoverOwner) : Bool :=
  w.controller.any fun controller => ownerOf controller.generation = owner

/-- A handler writes what it read with the new phase, and a rollback drops the fence in memory. -/
def finishHandler (handling : Handling) (updatedAt : String) : Scene :=
  let written := match handling.existing with
    | none => w
    | some fence => w.writeFence { fence with phase := handling.kind.phase, updatedAt := updatedAt }
  match handling.kind with
  | .commit => { written with handler := none }
  | .rollback => { written with
      handler := none
      served := handling.handoverId :: written.served
      controller := written.controller.map fun controller => { controller with fence := none } }

end Scene

/-- A candidate acts on the fence that is still in the file. -/
def Current (w : Scene) (fence : HandoverFence) : Prop := w.fence = some fence

/-- The write of a handler meets the fence that it read, a rollback no committed one and a commit no rolled-back one. -/
def HandlerCurrent (w : Scene) (handling : Handling) : Prop :=
  w.fence = handling.existing ∧ ∀ fence ∈ handling.existing,
    fence.phase = .committed ∨ fence.phase = .rolledBack → fence.phase = handling.kind.phase

/-- The activator repeats the rolled-back fence that the Controller left. -/
def RollbackCurrent (w : Scene) (fence : HandoverFence) : Prop :=
  ∃ found, w.fence = some found ∧ found.handoverId = fence.handoverId ∧ found.phase = .rolledBack

variable (orderly : Prop)

/-- What a command of the activator does. A request of it may be served at any time, also when the activator has
crashed, so a rollback is answered when the Controller has served it. -/
inductive Performs : Scene → (c : Command) → Except ReleaseHandover.Failure (Answer c) → Scene → Prop where
  | readPointer (w) : Performs w .readPointer (.ok w.pointer) w
  | writePointer (w) (pointer) : Performs w (.writePointer pointer) (.ok ()) { w with pointer := some pointer }
  | removePointer (w) : Performs w .removePointer (.ok ()) { w with pointer := none }
  | readFence (w) : Performs w .readFence (.ok w.fence) w
  | writeFence (w) (fence) (h : orderly → RollbackCurrent w fence) :
      Performs w (.writeFence fence) (.ok ()) (w.writeFence fence)
  | removeFence (w) : Performs w .removeFence (.ok ()) { w with fence := none }
  | newHandoverId (w) (handoverId) (h : handoverId ∉ w.issued) :
      Performs w .newHandoverId (.ok handoverId) { w with issued := handoverId :: w.issued }
  | rollbackHandover (w) (handoverId) (h : handoverId ∈ w.served) :
      Performs w (.rollbackHandover handoverId) (.ok ()) (w.log (.rollbackReported handoverId))
  | other (w) (c) (answer) (h : Idle c) (hfence : c ≠ .readFence ∧ (∀ fence, c ≠ .writeFence fence) ∧
      c ≠ .removeFence ∧ c ≠ .newHandoverId) : Performs w c answer w
  | begun (w) (handoverId fromReleaseId toReleaseId)
      (h : w.controller.any (fun controller => controller.fence = some handoverId) = true) :
      Performs w (.beginHandover handoverId fromReleaseId toReleaseId) (.ok ()) w
  | committed (w) (handoverId) (h : w.controller.any (fun controller => controller.fence = some handoverId) = true) :
      Performs w (.commitHandover handoverId) (.ok ()) w
  | lock (w) (c) (h : c = .acquireLock ∨ c = .releaseLock) (answer) : Performs w c answer w
  | failed (w) (c) (failure) : Performs w c (.error failure) w

/-- What the Controller and the candidates do, one statement at a time. -/
inductive Changes : Scene → Scene → Prop where
  | begin (w) (controller : Controller) (hrunning : w.controller = some controller) (hopen : controller.fence = none)
      (hidle : w.handler = none) (handoverId fromReleaseId toReleaseId fencedAt) (hissued : handoverId ∈ w.issued)
      (hnew : handoverId ∉ w.begun) :
      Changes w { w.writeFence ⟨handoverId, .fenced, Scene.ownerOf controller.generation, none, fromReleaseId,
          toReleaseId, fencedAt, fencedAt⟩ with
        controller := some { controller with fence := some handoverId }
        begun := handoverId :: w.begun }
  | handle (w) (controller : Controller) (hrunning : w.controller = some controller) (hidle : w.handler = none)
      (kind : HandlerKind) (handoverId) (hfence : controller.fence = some handoverId) :
      Changes w { w with handler := some ⟨kind, handoverId, w.fence⟩ }
  | finish (w) (handling : Handling) (hhandling : w.handler = some handling) (updatedAt)
      (h : orderly → HandlerCurrent w handling) : Changes w (w.finishHandler handling updatedAt)
  | refuse (w) : Changes w { w with handler := none }
  | exit (w) : Changes w { w with controller := none, handler := none }
  | start (w) (hnone : w.controller = none) :
      Changes w { w with controller := some ⟨w.generations, none⟩, generations := w.generations + 1 }
  | spawn (w) (i) (handoverId) (h : w.candidates i = .absent) : Changes w (w.setCandidate i (.starting handoverId))
  | read (w) (i) (fence : HandoverFence) (h : w.candidates i = .starting fence.handoverId) (hfence : w.fence = some fence)
      (hphase : fence.phase = .fenced) : Changes w (w.setCandidate i (.read fence))
  | publish (w) (i) (fence : HandoverFence) (h : w.candidates i = .read fence) (hcurrent : orderly → Current w fence) :
      Changes w ((w.setCandidate i (.published fence)).log (.published fence.handoverId))
  | advance (w) (i) (fence : HandoverFence) (updatedAt) (h : w.candidates i = .published fence)
      (hcurrent : orderly → Current w fence) :
      Changes w ((w.setCandidate i (.polling fence.handoverId)).writeFence
        { fence with phase := .candidateReady, updatedAt := updatedAt })
  | poll (w) (i) (fence : HandoverFence) (h : w.candidates i = .polling fence.handoverId) (hfence : w.fence = some fence)
      (hphase : fence.phase ≠ .rolledBack) : Changes w (w.setCandidate i (.checked fence))
  | wait (w) (i) (fence : HandoverFence) (h : w.candidates i = .checked fence) :
      Changes w (w.setCandidate i (.polling fence.handoverId))
  | promote (w) (i) (fence : HandoverFence) (h : w.candidates i = .checked fence)
      (hold : w.ownerLive fence.old = false)
      (hpointer : w.pointer.any (fun pointer => pointer.releaseId = fence.toReleaseId) = true)
      (hcurrent : orderly → Current w fence) :
      Changes w ((w.setCandidate i (.promoting fence.handoverId)).log (.promoted fence.handoverId))
  | release (w) (i) (handoverId) (h : w.candidates i = .promoting handoverId) :
      Changes w { w.setCandidate i .ended with fence := none }
  /-- A candidate aborts, crashes or is killed. -/
  | lose (w) (i) : Changes w (w.setCandidate i .ended)

def handover : Machine Scene Command Answer ReleaseHandover.Failure where
  performs := Performs orderly
  changes := Changes orderly
  forgets := id

/-- The activations that are run, each after the end or the crash of the one before. -/
def Activation (p : Activator Unit) : Prop :=
  ∃ manifest, p = (activateRelease manifest).bind fun _ => .done ()

end HandoverFences
