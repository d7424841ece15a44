import Mathlib.Data.List.Perm.Subperm
import Mathlib.Order.MinMax
import Yui.InstanceHost
import Yui.JsText

/-!
# Capability calls

`kernel/capabilityRegistry.ts`: a call selects one descriptor, checks the boundary that its parent hands
down, enters the implementation and returns its evidence. An implementation observes operations and calls
capabilities itself while its invocation is open; the calls it issued are awaited after it ended, so
evidence arrives in any order. What a schema refuses is a parameter.
-/

open JsText

inductive CapabilityEffect where
  | query | localMutation | externalOperation
  deriving DecidableEq

def effectRank : CapabilityEffect → ℕ
  | .query => 0
  | .localMutation => 1
  | .externalOperation => 2

inductive CapabilityScope where
  | global
  | project (id : String)
  | task (id : String)
  deriving DecidableEq

structure CapabilityDescriptor (σ : Type) where
  name : String
  contractVersion : String
  inputSchema : σ
  outputSchema : σ
  effect : CapabilityEffect
  requiredPermissions : List String
  provider : ImplementationRef
  scope : CapabilityScope
  required : List (String × String)
  unavailable : Option String
  deriving DecidableEq

structure CapabilityCall (ν : Type) where
  name : String
  input : ν
  contractVersion : Option String
  providerId : Option String
  requestId : Option String

/-- What is known of the effect of a call or an operation. -/
inductive EffectEvidence where
  | none | possible | confirmed
  deriving DecidableEq

namespace EffectEvidence

def rank : EffectEvidence → ℕ
  | .none => 0
  | .possible => 1
  | .confirmed => 2

theorem eq_confirmed_iff (effect : EffectEvidence) : effect = .confirmed ↔ 2 ≤ effect.rank := by
  cases effect <;> decide

end EffectEvidence

def accumulatedEffect (a b : EffectEvidence) : EffectEvidence :=
  if a = .confirmed ∨ b = .confirmed then .confirmed
  else if a = .possible ∨ b = .possible then .possible
  else .none

@[simp] theorem rank_accumulatedEffect (a b : EffectEvidence) : (accumulatedEffect a b).rank = max a.rank b.rank := by
  cases a <;> cases b <;> decide

structure CapabilityOperation where
  taskId : String
  jobId : String
  effect : EffectEvidence
  state : String
  outcome : Option String
  receiptRefs : List String
  partialResultRefs : List String

inductive CapabilityResultKind where
  | value | operation | unavailable | ambiguous | denied | invalid | failed

inductive CapabilitySelection where
  | explicit | unique

structure CapabilityResult (σ ν : Type) where
  kind : CapabilityResultKind
  effect : EffectEvidence
  operations : List CapabilityOperation
  value : Option ν
  detail : Option String
  candidates : Option (List (CapabilityDescriptor σ))
  provider : Option ImplementationRef
  selection : Option CapabilitySelection

structure CapabilityVisibility where
  taskIds : List String
  projectIds : List String

inductive AccessState where
  | hidden | authorized | requestable
  deriving DecidableEq

/-- The registry, the authority and the host as one call finds them. `visibility` and `authorizes` are
`authorize` without and with a descriptor, `revoked` says that it throws for the exact input, and `acquire`
is the message with which the host refuses a handle. -/
structure CallEnv (σ ν : Type) where
  descriptors : List (CapabilityDescriptor σ)
  visibility : Option CapabilityVisibility
  authorizes : CapabilityDescriptor σ → Bool
  revoked : CapabilityDescriptor σ → ν → Bool
  assess : CapabilityDescriptor σ → ν → Except (Option String) (Option AccessState)
  isAvailable : ImplementationRef → Bool
  acquire : ImplementationRef → Option String

namespace Capability

variable {σ ν : Type} [DecidableEq σ]

def visible (scope : CapabilityScope) (visibility : CapabilityVisibility) : Bool :=
  match scope with
  | .global => true
  | .task id => id ∈ visibility.taskIds
  | .project id => id ∈ visibility.projectIds

def result (kind : CapabilityResultKind) (detail : Option String) : CapabilityResult σ ν :=
  { kind, effect := .none, operations := [], value := none, detail, candidates := none,
    provider := none, selection := none }

def authorized (env : CallEnv σ ν) (visibility : CapabilityVisibility) : List (CapabilityDescriptor σ) :=
  (env.descriptors.filter fun entry => visible entry.scope visibility).filter env.authorizes

/-- `#unavailable`. The entries of a path are distinct, so the fuel of one step more than there are
descriptors is not used up. -/
def unavailable (env : CallEnv σ ν) (entries : List (CapabilityDescriptor σ)) :
    ℕ → List (CapabilityDescriptor σ) → CapabilityDescriptor σ → Option String
  | 0, _, _ => some "Required capability dependency cycle."
  | fuel + 1, visiting, entry =>
    match entry.unavailable with
    | some reason => some reason
    | none =>
      if env.isAvailable entry.provider = false then
        some "Provider implementation is not available."
      else if entry ∈ visiting then some "Required capability dependency cycle."
      else
        let missing := entry.required.filter fun dependency => !entries.any fun candidate =>
          candidate.name = dependency.1 ∧ candidate.contractVersion = dependency.2 ∧
            unavailable env entries fuel (visiting ++ [entry]) candidate = none
        if missing = [] then none
        else some ("Missing available required capabilities: " ++
          ", ".intercalate (missing.map fun dependency => dependency.1 ++ "@" ++ dependency.2) ++ ".")

/-- `#select` for an execution: the selected descriptor, or the result that says why there is none. -/
def select (env : CallEnv σ ν) (request : CapabilityCall ν) :
    Except (CapabilityResult σ ν) (CapabilityDescriptor σ) :=
  match env.visibility with
  | none => .error (result .denied (some "Current call authority is unavailable."))
  | some visibility =>
    let entries := authorized env visibility
    let reason := unavailable env entries (entries.length + 1) []
    let candidates := entries.filter fun entry => entry.name = request.name ∧
      (∀ version ∈ request.contractVersion, version = entry.contractVersion) ∧
      ∀ id ∈ request.providerId, id = entry.provider.id
    if candidates = [] then
      .error (result .unavailable (some "No authorized compatible Provider is available."))
    else
      match candidates.filter fun entry => reason entry = none with
      | [] => .error
        { (result .unavailable (some ("; ".intercalate (candidates.map fun entry =>
            entry.provider.id ++ ": " ++ (reason entry).getD "undefined"))) : CapabilityResult σ ν) with
          candidates := some candidates }
      | [selected] => .ok selected
      | _ => .error
        { (result .ambiguous (some "Select an explicit Provider and contract version.") :
            CapabilityResult σ ν) with
          candidates := some candidates }

def selection (request : CapabilityCall ν) : CapabilitySelection :=
  if request.providerId.isSome then .explicit else .unique

/-- What a parent hands down to the calls of its implementation. -/
structure Boundary where
  ceiling : CapabilityEffect
  permissions : Option (List String)

def Boundary.root : Boundary := ⟨.externalOperation, none⟩

def boundary (descriptor : CapabilityDescriptor σ) : Boundary :=
  ⟨descriptor.effect, some descriptor.requiredPermissions⟩

variable (schemaError : σ → ν → Option String)

/-- The part of `#call` before the implementation is entered. -/
def admission (bound : Boundary) (env : CallEnv σ ν) (call : Option (CapabilityCall ν)) :
    Except (CapabilityResult σ ν) (CapabilityDescriptor σ × CapabilitySelection) :=
  match call with
  | none => .error (result .invalid (some "Capability request must be cloneable data."))
  | some request =>
    match select env request with
    | .error resolved => .error resolved
    | .ok descriptor =>
      let refuse (kind : CapabilityResultKind) (detail : String) : CapabilityResult σ ν :=
        { result kind (some detail) with
          provider := some descriptor.provider, selection := some (selection request) }
      if effectRank bound.ceiling < effectRank descriptor.effect then
        .error (refuse .denied "Nested call exceeds the parent's effect boundary.")
      else if ∃ permissions ∈ bound.permissions,
          ∃ permission ∈ descriptor.requiredPermissions, permission ∉ permissions then
        .error (refuse .denied "Nested call exceeds the parent's declared permissions.")
      else
        match schemaError descriptor.inputSchema request.input with
        | some inputError => .error (refuse .invalid inputError)
        | none =>
          if descriptor.effect ≠ .query ∧ ∀ id ∈ request.requestId, trim id = "" then
            .error (refuse .invalid "Effectful calls require requestId.")
          else if env.revoked descriptor request.input then
            .error (refuse .denied "Current call authority was revoked.")
          else
            match env.assess descriptor request.input with
            | .error message =>
              .error (refuse .failed (message.getD "Authorization assessment failed."))
            | .ok access =>
              if ∃ state ∈ access, state ≠ AccessState.authorized then
                .error (refuse .denied "Exact target authorization is required.")
              else
                match env.acquire descriptor.provider with
                | some message => .error (refuse .unavailable message)
                | none => .ok (descriptor, selection request)

/-- Evidence as an invocation gathers it. -/
structure Evidence where
  operations : List CapabilityOperation
  effect : EffectEvidence

def Evidence.observe (evidence : Evidence) (operation : CapabilityOperation) : Evidence :=
  { operations := evidence.operations ++ [operation],
    effect := accumulatedEffect evidence.effect operation.effect }

/-- A nested call settles: its operations are observed, then its effect counts. -/
def Evidence.absorb (evidence : Evidence) (outcome : CapabilityResult σ ν) : Evidence :=
  let observed := outcome.operations.foldl Evidence.observe evidence
  { observed with effect := accumulatedEffect observed.effect outcome.effect }

/-- An invocation: whether it is open, its nested calls that have not settled, and its evidence. -/
structure Invocation (σ ν : Type) where
  «open» : Bool
  children : List (CapabilityResult σ ν)
  evidence : Evidence

namespace Invocation

def start : Invocation σ ν := ⟨true, [], ⟨[], .none⟩⟩

def observe (invocation : Invocation σ ν) (operation : CapabilityOperation) : Invocation σ ν :=
  if invocation.open then { invocation with evidence := invocation.evidence.observe operation }
  else invocation

def issue (invocation : Invocation σ ν) (child : CapabilityResult σ ν) : Invocation σ ν :=
  if invocation.open then { invocation with children := invocation.children ++ [child] }
  else invocation

def settle (invocation : Invocation σ ν) (child : ℕ) : Invocation σ ν :=
  match invocation.children[child]? with
  | none => invocation
  | some outcome =>
    { invocation with
      children := invocation.children.eraseIdx child,
      evidence := invocation.evidence.absorb outcome }

def close (invocation : Invocation σ ν) : Invocation σ ν := { invocation with «open» := false }

/-- `Promise.all(children)`. -/
def settled (invocation : Invocation σ ν) : Evidence :=
  invocation.children.foldl Evidence.absorb invocation.evidence

end Invocation

/-- What an implementation threw: the message of an `Error`, the value of a `CapabilityExecutionError`. -/
structure Thrown (ν : Type) where
  message : Option String
  value : Option ν

/-- How the use of an implementation ended. A returned value is given by its JSON copy, if it has one. -/
inductive Ending (ν : Type) where
  | returned (output : Option ν)
  | threw (error : Thrown ν)

/-- The part of `#call` after the implementation ended and its nested calls settled. -/
def conclude (descriptor : CapabilityDescriptor σ) (selection : CapabilitySelection)
    (evidence : Evidence) : Ending ν → CapabilityResult σ ν
  | .threw error =>
    { kind := .failed,
      detail := some (error.message.getD "Capability invocation failed."), value := error.value,
      effect := if descriptor.effect ≠ .query then accumulatedEffect evidence.effect .possible
        else evidence.effect,
      operations := evidence.operations, candidates := none,
      provider := some descriptor.provider, selection := some selection }
  | .returned output =>
    let effect := if descriptor.effect = .localMutation then
      accumulatedEffect evidence.effect .confirmed else evidence.effect
    let uncertain := if descriptor.effect ≠ .query then accumulatedEffect effect .possible else effect
    let origin : CapabilityResult σ ν :=
      { kind := .failed, detail := none, value := none, effect,
        operations := evidence.operations, candidates := none,
        provider := some descriptor.provider, selection := some selection }
    if descriptor.effect = .externalOperation ∧ evidence.operations = [] then
      { origin with
        detail := some "External implementation returned no operation evidence.", effect := .possible }
    else
      match output with
      | none => { origin with
          kind := .invalid, detail := some "Output is not JSON serializable.", effect := uncertain }
      | some value =>
        match schemaError descriptor.outputSchema value with
        | some outputError => { origin with
            kind := .invalid, detail := some ("Output " ++ outputError), effect := uncertain }
        | none => { origin with
            kind := if evidence.operations = [] then .value else .operation, value := some value }

mutual

/-- A call: what it asks for, what it finds, what its implementation does while its invocation is open,
how that ends, and what happens until its nested calls have settled. -/
inductive CallTree (σ ν : Type) where
  | mk (request : Option (CapabilityCall ν)) (env : CallEnv σ ν) (acts : Acts σ ν)
      (ending : Ending ν) (late : Acts σ ν)

/-- The acts of an implementation, with the moments at which its nested calls settle. -/
inductive Acts (σ ν : Type) where
  | done
  | observe (operation : CapabilityOperation) (rest : Acts σ ν)
  | call (nested : CallTree σ ν) (rest : Acts σ ν)
  | settle (child : ℕ) (rest : Acts σ ν)

end

namespace CallTree

def acts : CallTree σ ν → Acts σ ν
  | .mk _ _ acts _ _ => acts

def ending : CallTree σ ν → Ending ν
  | .mk _ _ _ ending _ => ending

omit [DecidableEq σ] in
theorem sizeOf_acts (tree : CallTree σ ν) : sizeOf tree.acts < sizeOf tree := by
  cases tree
  simp only [acts, mk.sizeOf_spec]
  omega

end CallTree

namespace Acts

def observed : Acts σ ν → List CapabilityOperation
  | .done => []
  | .observe operation rest => operation :: observed rest
  | .call _ rest => observed rest
  | .settle _ rest => observed rest

def issued : Acts σ ν → List (CallTree σ ν)
  | .done => []
  | .observe _ rest => issued rest
  | .call nested rest => nested :: issued rest
  | .settle _ rest => issued rest

omit [DecidableEq σ] in
theorem sizeOf_issued {acts : Acts σ ν} {nested : CallTree σ ν} (h : nested ∈ acts.issued) :
    sizeOf nested < sizeOf acts := by
  induction acts using issued.induct with
  | case1 => cases h
  | case2 operation rest ih =>
    have := ih h
    simp only [observe.sizeOf_spec]
    omega
  | case3 first rest ih =>
    simp only [call.sizeOf_spec]
    rcases List.mem_cons.1 h with rfl | hrest
    · omega
    · have := ih hrest
      omega
  | case4 child rest ih =>
    have := ih h
    simp only [settle.sizeOf_spec]
    omega

end Acts

mutual

def call (bound : Boundary) : CallTree σ ν → CapabilityResult σ ν
  | .mk request env acts ending late =>
    match admission schemaError bound env request with
    | .error refused => refused
    | .ok (descriptor, selection) =>
      conclude schemaError descriptor selection
        (run descriptor late (run descriptor acts Invocation.start).close).settled ending

/-- The acts of the implementation of a descriptor, one after another. -/
def run (descriptor : CapabilityDescriptor σ) : Acts σ ν → Invocation σ ν → Invocation σ ν
  | .done, invocation => invocation
  | .observe operation rest, invocation => run descriptor rest (invocation.observe operation)
  | .call nested rest, invocation =>
    run descriptor rest (invocation.issue (call (boundary descriptor) nested))
  | .settle child rest, invocation => run descriptor rest (invocation.settle child)

end

end Capability
