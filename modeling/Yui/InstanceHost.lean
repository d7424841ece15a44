import Yui.FallibleRun
import Yui.JsText
import Yui.OperationFacts

/-!
# The instance host

`kernel/instanceHost.ts`: instances that are attached once, used through counted handles, and disposed of
after they were detached and their last handle was released. A disposal runs the disposers one after
another; it calls the first one synchronously, before the promise of the disposal is stored, so operations
that this disposer calls run while the disposal is `opening`. `use` is an `acquire` and a later `release`.
-/

open JsText FallibleRun

inductive Drain where
  | pending | resolved | rejected
  deriving DecidableEq

/-- One execution of the body of `#dispose`. -/
structure DisposalLoop (δ : Type) where
  remaining : List δ
  current : Option δ
  opening : Bool
  errors : List δ

/-- `registered`, `started` and `failures` record what was attached and what the disposals did. -/
structure Instance (δ : Type) where
  implementation : ImplementationRef
  references : ℤ
  detached : Bool
  disposers : List δ
  loops : List (DisposalLoop δ)
  disposal : Option ℕ
  disposed : Bool
  drained : Drain
  registered : List δ
  started : List δ
  failures : List δ

structure ImplementationHandle where
  implementation : ImplementationRef
  released : Bool

/-- `closing` are the instances that a `close` under way has still to detach. -/
structure InstanceHost (δ : Type) where
  closed : Bool
  instances : List (Instance δ)
  handles : List ImplementationHandle
  closing : List ImplementationRef

inductive HostOp (δ : Type) where
  | attach (implementation : ImplementationRef) (ownedDisposers : List δ)
  | acquire (implementation : ImplementationRef)
  | release (handle : ℕ)
  | detach (implementation : ImplementationRef)
  | close
  | closeNext
  | opened (implementation : ImplementationRef) (loop : ℕ)
  | disposerEnds (implementation : ImplementationRef) (loop : ℕ) (failed : Bool)
  | settle (implementation : ImplementationRef) (loop : ℕ)

section

variable {δ : Type}

namespace Instance

/-- The loop calls its next disposer, or ends. -/
def advance (inst : Instance δ) (index : ℕ) (loop : DisposalLoop δ) : Instance δ :=
  match loop.remaining with
  | next :: rest =>
    { inst with
      loops := inst.loops.set index { loop with remaining := rest, current := some next }
      started := inst.started ++ [next] }
  | [] =>
    { inst with
      loops := inst.loops.set index { loop with current := none }
      disposers := []
      disposed := true }

/-- `#dispose`: a disposal that is stored is not run again. -/
def dispose (inst : Instance δ) : Instance δ :=
  match inst.disposal with
  | some _ => inst
  | none =>
    let loop : DisposalLoop δ := ⟨inst.disposers.reverse, none, true, []⟩
    { inst with loops := inst.loops ++ [loop] }.advance inst.loops.length loop

def detach (inst : Instance δ) : Instance δ :=
  if inst.references = 0 then { inst with detached := true }.dispose
  else { inst with detached := true }

def release (inst : Instance δ) : Instance δ :=
  if inst.detached = true ∧ inst.references - 1 = 0 then
    { inst with references := inst.references - 1 }.dispose
  else { inst with references := inst.references - 1 }

/-- The synchronous part of a disposal returns, and its promise is stored. -/
def opened (inst : Instance δ) (index : ℕ) : Except String (Instance δ) :=
  match inst.loops[index]? with
  | none => .error "no disposal"
  | some loop =>
    if loop.opening = true then
      .ok { inst with loops := inst.loops.set index { loop with opening := false }
                      disposal := some index }
    else .error "no disposal"

/-- A disposer returns, throws, or its promise settles. -/
def disposerEnds (inst : Instance δ) (index : ℕ) (failed : Bool) : Except String (Instance δ) :=
  match inst.loops[index]? with
  | none => .error "no disposer"
  | some loop =>
    match loop.current with
    | none => .error "no disposer"
    | some disposer =>
      let errors := if failed then [disposer] else []
      .ok ({ inst with failures := inst.failures ++ errors }.advance index
        { loop with current := none, errors := loop.errors ++ errors })

/-- The reaction of the promise of a disposal. A promise settles once. -/
def settle (inst : Instance δ) (index : ℕ) : Except String (Instance δ) :=
  match inst.loops[index]? with
  | none => .error "no disposal"
  | some loop =>
    if loop.opening = true ∨ loop.current.isSome = true ∨ loop.remaining ≠ [] then
      .error "no disposal"
    else .ok (if inst.drained = .pending then
      { inst with drained := if loop.errors = [] then .resolved else .rejected } else inst)

end Instance

/-- The source joins the parts to a key; what it refuses is no key. -/
def implementationKey (ref : ImplementationRef) : Except String ImplementationRef :=
  if ∃ value ∈ [ref.id, ref.generation], trim value = "" ∨ includesNul value = true then
    .error "Implementation identity is invalid."
  else .ok ref

namespace InstanceHost

def find (host : InstanceHost δ) (ref : ImplementationRef) : Option (Instance δ) :=
  host.instances.find? fun inst => inst.implementation = ref

def update (host : InstanceHost δ) (next : Instance δ) : InstanceHost δ :=
  { host with instances := host.instances.map fun inst =>
      if inst.implementation = next.implementation then next else inst }

def attach (host : InstanceHost δ) (ref : ImplementationRef) (ownedDisposers : List δ) :
    Except String (InstanceHost δ) := do
  if host.closed then .error "Instance Host is closed."
  let key ← implementationKey ref
  if (host.find key).isSome then .error "Implementation already attached."
  .ok { host with instances := host.instances ++
    [⟨ref, 0, false, ownedDisposers, [], none, false, .pending, ownedDisposers, [], []⟩] }

def acquire (host : InstanceHost δ) (ref : ImplementationRef) : Except String (InstanceHost δ) := do
  let key ← implementationKey ref
  match host.find key with
  | none => .error "Implementation unavailable."
  | some inst =>
    if host.closed = true ∨ inst.detached = true then .error "Implementation unavailable."
    else .ok { host.update { inst with references := inst.references + 1 } with
      handles := host.handles ++ [⟨ref, false⟩] }

/-- Further calls of `release` on a handle do nothing. -/
def release (host : InstanceHost δ) (index : ℕ) : Except String (InstanceHost δ) :=
  match host.handles[index]? with
  | none => .error "no handle"
  | some handle =>
    if handle.released = true then .ok host
    else
      match host.find handle.implementation with
      | none => .error "no handle"
      | some inst => .ok { host.update inst.release with
          handles := host.handles.set index { handle with released := true } }

def detach (host : InstanceHost δ) (ref : ImplementationRef) : Except String (InstanceHost δ) := do
  let key ← implementationKey ref
  match host.find key with
  | none => .error "Implementation is not attached."
  | some inst => .ok (host.update inst.detach)

/-- A step of an instance of its own. -/
def within (host : InstanceHost δ) (ref : ImplementationRef)
    (step : Instance δ → Except String (Instance δ)) : Except String (InstanceHost δ) :=
  match host.find ref with
  | none => .error "no instance"
  | some inst => do
    let next ← step inst
    .ok (host.update next)

end InstanceHost

def HostOp.apply (host : InstanceHost δ) : HostOp δ → Except String (InstanceHost δ)
  | .attach ref ownedDisposers => host.attach ref ownedDisposers
  | .acquire ref => host.acquire ref
  | .release index => host.release index
  | .detach ref => host.detach ref
  | .close => .ok { host with
      closed := true
      closing := host.closing ++ host.instances.map Instance.implementation }
  | .closeNext =>
    match host.closing with
    | [] => .error "no close"
    | ref :: closing => do
      let next ← host.detach ref
      .ok { next with closing := closing }
  | .opened ref index => host.within ref fun inst => inst.opened index
  | .disposerEnds ref index failed => host.within ref fun inst => inst.disposerEnds index failed
  | .settle ref index => host.within ref fun inst => inst.settle index

def InstanceHost.start : InstanceHost δ := ⟨false, [], [], []⟩

end
