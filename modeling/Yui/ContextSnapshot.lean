import Mathlib.Data.List.Sort
import Yui.JobRecord
import Yui.KeyedMap
import Yui.RecordReference

/-!
# Context Snapshots

A Context Snapshot freezes the references and the values that an AgentRun may read. Its references are checked, sorted
by layer, store, id, revision and digest, and covered by its resources; its digest is taken of the whole content.
-/

open JsText Checked

namespace RunContext

inductive ContextRefLayer where
  | l1 | l2 | l3 | l4
  deriving DecidableEq

def ContextRefLayer.text : ContextRefLayer → String
  | .l1 => "L1"
  | .l2 => "L2"
  | .l3 => "L3"
  | .l4 => "L4"

inductive ContextSnapshotScope where
  | task | workitem | stage
  deriving DecidableEq

def ContextSnapshotScope.text : ContextSnapshotScope → String
  | .task => "task"
  | .workitem => "workitem"
  | .stage => "stage"

inductive FrozenBy where
  | leader | controller
  deriving DecidableEq

def FrozenBy.text : FrozenBy → String
  | .leader => "leader"
  | .controller => "controller"

structure ContextRef where
  layer : ContextRefLayer
  store : String
  refId : String
  revision : String
  digest : String
  summary : Option String
  evidenceOf : Option String
  deriving DecidableEq

structure ContextSnapshotIdentity where
  id : String
  taskId : String
  scope : ContextSnapshotScope
  scopeRef : Option String
  sequence : ℕ
  deriving DecidableEq

/-- The `schemaVersion` is fixed. -/
structure ContextSnapshotRef extends ContextSnapshotIdentity where
  digest : String
  deriving DecidableEq

structure ContextSnapshotResource where
  ref : ContextRef
  value : Json
  deriving DecidableEq

/-- What a Snapshot freezes besides its identity and its digest. -/
structure ContextSnapshotContent where
  refs : List ContextRef
  resources : List ContextSnapshotResource
  repoCommit : Option String
  acceptRefs : List String
  parentRef : Option ContextSnapshotRef
  frozenAt : String
  frozenBy : FrozenBy
  deriving DecidableEq

structure ContextSnapshot extends ContextSnapshotRef, ContextSnapshotContent
  deriving DecidableEq

section Texts

def ContextRef.json (ref : ContextRef) : Json :=
  .present [("layer", some (.str ref.layer.text)), ("store", some (.str ref.store)), ("refId", some (.str ref.refId)),
    ("revision", some (.str ref.revision)), ("digest", some (.str ref.digest)),
    ("summary", ref.summary.map .str), ("evidenceOf", ref.evidenceOf.map .str)]

def ContextSnapshotResource.json (resource : ContextSnapshotResource) : Json :=
  .obj [("ref", resource.ref.json), ("value", resource.value)]

def ContextSnapshotRef.json (ref : ContextSnapshotRef) : Json :=
  .present [("schemaVersion", some (.num "1")), ("id", some (.str ref.id)), ("taskId", some (.str ref.taskId)),
    ("scope", some (.str ref.scope.text)), ("scopeRef", ref.scopeRef.map .str),
    ("sequence", some (.num (Nat.repr ref.sequence))), ("digest", some (.str ref.digest))]

/-- What the digest of a Snapshot is taken of. -/
def snapshotContent (identity : ContextSnapshotIdentity) (content : ContextSnapshotContent) : Json :=
  .present [("taskId", some (.str identity.taskId)), ("scope", some (.str identity.scope.text)),
    ("scopeRef", identity.scopeRef.map .str), ("sequence", some (.num (Nat.repr identity.sequence))),
    ("refs", some (.arr (content.refs.map ContextRef.json))),
    ("resources", some (.arr (content.resources.map ContextSnapshotResource.json))),
    ("repoCommit", content.repoCommit.map .str), ("acceptRefs", some (.arr (content.acceptRefs.map .str))),
    ("parentRef", content.parentRef.map ContextSnapshotRef.json), ("frozenAt", some (.str content.frozenAt)),
    ("frozenBy", some (.str content.frozenBy.text))]

theorem ContextRef.json_injective {a b : ContextRef} (h : a.json = b.json) : a = b := by
  obtain ⟨layer, store, refId, revision, digest, summary, evidenceOf⟩ := a
  obtain ⟨layer', store', refId', revision', digest', summary', evidenceOf'⟩ := b
  have hlayer : layer.text = layer'.text → layer = layer' := by cases layer <;> cases layer' <;> decide
  cases summary <;> cases summary' <;> cases evidenceOf <;> cases evidenceOf' <;>
    simp_all [ContextRef.json, Json.present]

end Texts

section Checks

variable [JobHost]

def contextContentDigest (value : Json) : String := JobHost.sha256 value.stringify

def optionalText (value : Option String) (label : String) : Except String (Option String) :=
  onSome (fun text => Validation.requireText text label) value

def requirePositiveInteger (value : ℕ) (label : String) : Except String ℕ :=
  if value < 1 ∨ maxSafeInteger < value then .error (label ++ " must be a positive integer.") else .ok value

def requireTimestamp (value label : String) : Except String String :=
  if JsHost.dateParse value = none then .error (label ++ " must be an ISO timestamp.") else .ok value

def requireDigest (value label : String) : Except String String :=
  if isHexDigest value = false then .error (label ++ " must be SHA-256 hex.") else .ok value

/-- A stable sort by the order of the texts. -/
def sortBy {α : Type} (key : α → String) (values : List α) : List α :=
  values.insertionSort fun left right => JobHost.localeCompare (key left) (key right) ≤ 0

def normalizedUniqueText (values : List String) (label : String) : Except String (List String) := do
  let normalized ← mapIndexed (fun value _ => Validation.requireText value label) 0 values
  refuse (¬ normalized.Nodup) (label ++ " must be unique.")
  .ok normalized

def normalizeAcceptRefs (values : List String) : Except String (List String) := do
  let acceptRefs ← normalizedUniqueText values "Context Snapshot acceptance reference"
  .ok (sortBy id acceptRefs)

def separator : String := String.singleton nul

def contextRefKey (ref : ContextRef) : String :=
  ref.layer.text ++ separator ++ ref.store ++ separator ++ ref.refId ++ separator ++ ref.revision ++ separator ++
    ref.digest

def validateContextRef (value : ContextRef) : Except String ContextRef := do
  let store ← Validation.requireIdentity value.store "Context ref store"
  let refId ← Validation.requireText value.refId "Context ref id"
  let revision ← Validation.requireText value.revision "Context ref revision"
  let digest ← requireDigest value.digest "Context ref digest"
  let summary ← optionalText value.summary "Context ref summary"
  let evidenceOf ← optionalText value.evidenceOf "Context ref evidence target"
  .ok ⟨value.layer, store, refId, revision, digest, summary, evidenceOf⟩

def normalizeContextRefs (values : List ContextRef) : Except String (List ContextRef) := do
  let refs ← mapIndexed (fun value _ => validateContextRef value) 0 values
  refuse (¬ ((sortBy contextRefKey refs).map contextRefKey).Nodup) "Context Snapshot refs must be unique."
  .ok (sortBy contextRefKey refs)

/-- A resource carries the reference of the Snapshot with its key. -/
def normalizeSnapshotResource (refs : List ContextRef) (resource : ContextSnapshotResource) :
    Except String ContextSnapshotResource := do
  let ref ← validateContextRef resource.ref
  match KeyedMap.lastOf contextRefKey refs (contextRefKey ref) with
  | none => .error s!"Context Snapshot resource does not match its ref: {ref.store}/{ref.refId}."
  | some exact =>
    if contextContentDigest resource.value ≠ ref.digest then
      .error s!"Context Snapshot resource does not match its ref: {ref.store}/{ref.refId}."
    else if 4 * 1024 * 1024 < resource.value.byteLength then
      .error "Context Snapshot resource exceeds 4194304 bytes."
    else .ok ⟨exact, resource.value⟩

def resourceBytes (resources : List ContextSnapshotResource) : ℕ :=
  (Json.arr (resources.map ContextSnapshotResource.json)).byteLength

def isSourceRun (resource : ContextSnapshotResource) : Bool := resource.ref.store = "source-run"

def checkSnapshotResources (resources : List ContextSnapshotResource) (refs : List ContextRef) :
    Except String Unit := do
  refuse (resources.length ≠ refs.length ∨
    (resources.map fun resource => contextRefKey resource.ref).dedup.length ≠ refs.length)
    "Context Snapshot resources must cover every ref exactly once."
  refuse (8 * 1024 * 1024 < resourceBytes (resources.filter fun resource => !isSourceRun resource))
    "Context Snapshot resources exceed 8388608 bytes."
  refuse (9 * (512 * 1024 + 16 * 1024) < resourceBytes (resources.filter isSourceRun))
    "Context Snapshot source AgentRuns exceed 4866048 bytes."

def normalizeSnapshotResources (values : List ContextSnapshotResource) (refs : List ContextRef) :
    Except String (List ContextSnapshotResource) := do
  refuse (64 < values.countP isSourceRun) "Context Snapshot exceeds 64 source AgentRuns."
  refuse (256 < values.length - values.countP isSourceRun) "Context Snapshot exceeds 256 resources."
  let resources ← mapIndexed (fun value _ => normalizeSnapshotResource refs value) 0 values
  checkSnapshotResources (sortBy (fun resource => contextRefKey resource.ref) resources) refs
  .ok (sortBy (fun resource => contextRefKey resource.ref) resources)

def snapshotIdentity (input : ContextSnapshotIdentity) : Except String ContextSnapshotIdentity := do
  let id ← Validation.requireIdentity input.id "Context Snapshot id"
  let taskId ← Validation.requireIdentity input.taskId "Context Snapshot Task id"
  let scopeRef ← optionalText input.scopeRef "Context Snapshot scope ref"
  refuse (input.scope = .task ∧ scopeRef ≠ none) "A task Context Snapshot cannot carry scopeRef."
  refuse (input.scope ≠ .task ∧ scopeRef = none) s!"A {input.scope.text} Context Snapshot requires scopeRef."
  let sequence ← requirePositiveInteger input.sequence "Context Snapshot sequence"
  .ok ⟨id, taskId, input.scope, scopeRef, sequence⟩

def validateContextSnapshotRef (ref : ContextSnapshotRef) : Except String ContextSnapshotRef := do
  let identity ← snapshotIdentity ref.toContextSnapshotIdentity
  let digest ← requireDigest ref.digest "Context Snapshot ref digest"
  .ok ⟨identity, digest⟩

def createContextSnapshot (input : ContextSnapshotIdentity) (content : ContextSnapshotContent) :
    Except String ContextSnapshot := do
  let identity ← snapshotIdentity input
  let refs ← normalizeContextRefs content.refs
  let resources ← normalizeSnapshotResources content.resources refs
  let acceptRefs ← normalizeAcceptRefs content.acceptRefs
  let repoCommit ← optionalText content.repoCommit "Context Snapshot repository commit"
  let parentRef ← onSome validateContextSnapshotRef content.parentRef
  refuse (parentRef.any (fun parent => parent.taskId ≠ identity.taskId) = true)
    "Context Snapshot parent belongs to another Task."
  refuse (parentRef.any (fun parent => identity.sequence ≤ parent.sequence) = true)
    "Context Snapshot parent sequence must precede its child."
  let frozenAt ← requireTimestamp content.frozenAt "Context Snapshot frozenAt"
  let frozen : ContextSnapshotContent := ⟨refs, resources, repoCommit, acceptRefs, parentRef, frozenAt, content.frozenBy⟩
  .ok ⟨⟨identity, contextContentDigest (snapshotContent identity frozen)⟩, frozen⟩

/-- The checks of a Snapshot up to its digest, and the content that the digest must be of. -/
def normalizedContent (snapshot : ContextSnapshot) :
    Except String (ContextSnapshotIdentity × ContextSnapshotContent) := do
  let identity ← snapshotIdentity snapshot.toContextSnapshotIdentity
  let refs ← normalizeContextRefs snapshot.refs
  refuse ((Json.arr (refs.map ContextRef.json)).stringify ≠ (Json.arr (snapshot.refs.map ContextRef.json)).stringify)
    "Context Snapshot refs must use canonical order."
  let resources ← normalizeSnapshotResources snapshot.resources refs
  refuse ((Json.arr (resources.map ContextSnapshotResource.json)).stringify ≠
    (Json.arr (snapshot.resources.map ContextSnapshotResource.json)).stringify)
    "Context Snapshot resources must use canonical ref order."
  let acceptRefs ← normalizeAcceptRefs snapshot.acceptRefs
  refuse ((Json.arr (acceptRefs.map .str)).stringify ≠ (Json.arr (snapshot.acceptRefs.map .str)).stringify)
    "Context Snapshot acceptance refs must use canonical order."
  let repoCommit ← optionalText snapshot.repoCommit "Context Snapshot repository commit"
  let parentRef ← onSome validateContextSnapshotRef snapshot.parentRef
  refuse (parentRef.any (fun parent => parent.taskId ≠ identity.taskId || identity.sequence ≤ parent.sequence) = true)
    "Context Snapshot parent is invalid."
  let frozenAt ← requireTimestamp snapshot.frozenAt "Context Snapshot frozenAt"
  .ok (identity, ⟨refs, resources, repoCommit, acceptRefs, parentRef, frozenAt, snapshot.frozenBy⟩)

def validateContextSnapshot (snapshot : ContextSnapshot) : Except String ContextSnapshot := do
  let content ← normalizedContent snapshot
  let digest ← requireDigest snapshot.digest "Context Snapshot digest"
  refuse (digest ≠ contextContentDigest (snapshotContent content.1 content.2))
    "Context Snapshot digest does not match its content."
  .ok snapshot

def contextSnapshotRef (snapshot : ContextSnapshot) : Except String ContextSnapshotRef := do
  let snapshot ← validateContextSnapshot snapshot
  .ok snapshot.toContextSnapshotRef

end Checks

end RunContext
