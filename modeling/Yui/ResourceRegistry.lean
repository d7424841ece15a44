import Yui.FallibleRun
import Yui.JobValidation
import Yui.KeyedTable
import Yui.ResourceQuarantine
import Yui.SnapshotDelta

/-!
# The resource registry

`resources/resourceRegistry.ts` and `resources/sqliteResourceRegistry.ts`. A snapshot of the registry is an
object whose properties are the records by their ids. Its records are read by plain property access, which
also finds what a plain object inherits.
-/

open JsText Checked
open ResourceGc (CleanupMethod QuarantineMethod ResourceCleanliness ResourceDisposition ResourceKind ResourceOwnerBasis)

namespace ResourceRegistry

section Records

/-- An optional property: left out, present with `undefined`, or present with a value. -/
inductive Property (α : Type) where
  | absent | undefined
  | value (value : α)
  deriving DecidableEq

inductive ByteCount where
  | finite (value : ℚ)
  | negativeZero
  /-- `NaN` and the infinities. -/
  | nonFinite
  deriving DecidableEq

structure ResourceOwner where
  home : String
  projectId : Property String
  taskId : Property String
  workItemId : Property String
  reviewRoundId : Property String
  integrationAttemptId : Property String
  basis : ResourceOwnerBasis
  deriving DecidableEq

structure ResourceGitMetadata where
  repositoryPath : String
  commonDir : Property String
  branch : Property String
  head : Property String
  deriving DecidableEq

structure GitRestore where
  repositoryPath : String
  branch : Property String
  head : Property String
  deriving DecidableEq

structure ResourceQuarantineState where
  path : String
  originalPath : String
  movedAt : String
  method : QuarantineMethod
  gitRestore : Property GitRestore
  deriving DecidableEq

structure ResourceCleanupReceipt where
  removedAt : String
  method : CleanupMethod
  deriving DecidableEq

structure ResourceRecord where
  schemaVersion : ℕ
  id : String
  kind : ResourceKind
  path : String
  owner : ResourceOwner
  git : Property ResourceGitMetadata
  createdAt : Property String
  lastReferencedAt : Property String
  sizeBytes : Property ByteCount
  cleanliness : ResourceCleanliness
  activeRefs : List String
  disposition : ResourceDisposition
  blocker : Property String
  quarantine : Property ResourceQuarantineState
  cleanupReceipt : Property ResourceCleanupReceipt
  updatedAt : String
  deriving DecidableEq

/-- The own enumerable properties of the records of a snapshot. -/
abbrev Entries := List (String × ResourceRecord)

structure ResourceRegistryState where
  schemaVersion : ℕ
  records : Entries

def emptyResourceRegistry : ResourceRegistryState := ⟨1, []⟩

def upsertResourceRecord (state : ResourceRegistryState) (record : ResourceRecord) : ResourceRegistryState :=
  { state with records := KeyedTable.save Prod.fst state.records (record.id, record) }

def removeResourceRecord (state : ResourceRegistryState) (id : String) : ResourceRegistryState :=
  { state with records := state.records.filter fun entry => entry.1 ≠ id }

end Records

section Json

variable {α : Type}

/-- `JSON.parse(JSON.stringify(…))` of a property: what is `undefined` is left out. -/
def Property.json (write : α → α) : Property α → Property α
  | .absent => .absent
  | .undefined => .absent
  | .value present => .value (write present)

/-- A property of which the value is written as it is. -/
def Property.kept (property : Property α) : Property α := property.json fun present => present

def ByteCount.json : ByteCount → ByteCount
  | .negativeZero => .finite 0
  | count => count

def ResourceOwner.json (owner : ResourceOwner) : ResourceOwner :=
  { owner with
    projectId := owner.projectId.kept
    taskId := owner.taskId.kept
    workItemId := owner.workItemId.kept
    reviewRoundId := owner.reviewRoundId.kept
    integrationAttemptId := owner.integrationAttemptId.kept }

def ResourceGitMetadata.json (git : ResourceGitMetadata) : ResourceGitMetadata :=
  { git with
    commonDir := git.commonDir.kept
    branch := git.branch.kept
    head := git.head.kept }

def GitRestore.json (restore : GitRestore) : GitRestore :=
  { restore with
    branch := restore.branch.kept
    head := restore.head.kept }

def ResourceQuarantineState.json (quarantine : ResourceQuarantineState) : ResourceQuarantineState :=
  { quarantine with gitRestore := quarantine.gitRestore.json GitRestore.json }

/-- The record that a row holds. -/
def ResourceRecord.json (record : ResourceRecord) : ResourceRecord :=
  { record with
    owner := record.owner.json
    git := record.git.json ResourceGitMetadata.json
    createdAt := record.createdAt.kept
    lastReferencedAt := record.lastReferencedAt.kept
    sizeBytes := record.sizeBytes.json ByteCount.json
    blocker := record.blocker.kept
    quarantine := record.quarantine.json ResourceQuarantineState.json
    cleanupReceipt := record.cleanupReceipt.kept }

end Json

section Parsing

variable [JsHost] {α : Type}

/-- `if (record[field] !== undefined)` -/
def whenDefined (property : Property α) (check : α → Except String Unit) : Except String Unit :=
  match property with
  | .value value => check value
  | _ => .ok ()

def malformed (key field : String) : String :=
  s!"Resource registry record {key} is malformed at {field}; stored evidence was not repaired."

def checkText (key field value : String) : Except String Unit := refuse (trim value = "") (malformed key field)

def checkTimestamp (key field value : String) : Except String Unit := do
  checkText key field value
  refuse (JsHost.dateParse value = none) (malformed key field)

def checkOwner (key : String) (owner : ResourceOwner) : Except String Unit := do
  checkText key "owner.home" owner.home
  whenDefined owner.projectId (checkText key "owner.projectId")
  whenDefined owner.taskId (checkText key "owner.taskId")
  whenDefined owner.workItemId (checkText key "owner.workItemId")
  whenDefined owner.reviewRoundId (checkText key "owner.reviewRoundId")
  whenDefined owner.integrationAttemptId (checkText key "owner.integrationAttemptId")

def checkGit (key : String) (git : ResourceGitMetadata) : Except String Unit := do
  checkText key "git.repositoryPath" git.repositoryPath
  whenDefined git.commonDir (checkText key "git.commonDir")
  whenDefined git.branch (checkText key "git.branch")
  whenDefined git.head (checkText key "git.head")

def checkRestore (key : String) (restore : GitRestore) : Except String Unit := do
  checkText key "quarantine.gitRestore.repositoryPath" restore.repositoryPath
  whenDefined restore.branch (checkText key "quarantine.gitRestore.branch")
  whenDefined restore.head (checkText key "quarantine.gitRestore.head")

def checkQuarantine (key : String) (quarantine : ResourceQuarantineState) : Except String Unit := do
  checkText key "quarantine.path" quarantine.path
  checkText key "quarantine.originalPath" quarantine.originalPath
  checkTimestamp key "quarantine.movedAt" quarantine.movedAt
  whenDefined quarantine.gitRestore (checkRestore key)

def checkSize (key : String) (size : ByteCount) : Except String Unit :=
  match size with
  | .finite value => refuse (value < 0) (malformed key "sizeBytes")
  | .negativeZero => .ok ()
  | .nonFinite => .error (malformed key "sizeBytes")

def checkRecord (key : String) (record : ResourceRecord) : Except String Unit := do
  refuse (record.schemaVersion ≠ 1) (malformed key "schemaVersion")
  checkText key "id" record.id
  checkText key "path" record.path
  checkTimestamp key "updatedAt" record.updatedAt
  checkAll record.activeRefs.zipIdx fun (ref, index) => checkText key s!"activeRefs[{index}]" ref
  checkOwner key record.owner
  whenDefined record.createdAt (checkTimestamp key "createdAt")
  whenDefined record.lastReferencedAt (checkTimestamp key "lastReferencedAt")
  whenDefined record.sizeBytes (checkSize key)
  whenDefined record.git (checkGit key)
  whenDefined record.quarantine (checkQuarantine key)
  whenDefined record.cleanupReceipt fun receipt => checkTimestamp key "cleanupReceipt.removedAt" receipt.removedAt

/-- The record comes back with copies of its parts. -/
def parseResourceRecord (record : ResourceRecord) (key : String) : Except String ResourceRecord := do
  checkRecord key record
  .ok record

end Parsing

section Objects

/-- What a plain object inherits. -/
def inheritedNames : List String :=
  ["__proto__", "constructor", "hasOwnProperty", "isPrototypeOf", "propertyIsEnumerable", "toLocaleString",
    "toString", "valueOf", "__defineGetter__", "__defineSetter__", "__lookupGetter__", "__lookupSetter__"]

def Property.isValue {α : Type} : Property α → Bool
  | .value _ => true
  | _ => false

/-- `record[name] !== undefined`, for the names that a record has. -/
def ResourceRecord.defines (record : ResourceRecord) (name : String) : Bool :=
  ["schemaVersion", "id", "kind", "path", "owner", "cleanliness", "activeRefs", "disposition",
      "updatedAt"].contains name ||
    (name == "git" && record.git.isValue) || (name == "createdAt" && record.createdAt.isValue) ||
    (name == "lastReferencedAt" && record.lastReferencedAt.isValue) ||
    (name == "sizeBytes" && record.sizeBytes.isValue) || (name == "blocker" && record.blocker.isValue) ||
    (name == "quarantine" && record.quarantine.isValue) ||
    (name == "cleanupReceipt" && record.cleanupReceipt.isValue)

/-- The object that a parse fills by assignments. The one to `__proto__` gives it another prototype. -/
structure Records where
  own : Entries
  prototype : Option ResourceRecord

/-- What a property access gives. -/
inductive Lookup where
  | undefined
  | record (record : ResourceRecord)
  /-- A value that is no record. -/
  | foreign
  deriving DecidableEq

/-- `records[key] = record` -/
def Records.assign (records : Records) (key : String) (record : ResourceRecord) : Records :=
  if key = "__proto__" then { records with prototype := some record }
  else { records with own := KeyedTable.save Prod.fst records.own (key, record) }

def Records.get (records : Records) (key : String) : Lookup :=
  match KeyedTable.get Prod.fst records.own key with
  | some entry => .record entry.2
  | none =>
    if records.prototype.any (·.defines key) || inheritedNames.contains key then .foreign else .undefined

end Objects

section Registry

variable [JsHost]

def parseEntries (records : Records) : Entries → Except String Records
  | [] => .ok records
  | (key, entry) :: entries => do
    let parsed ← parseResourceRecord entry key
    refuse (parsed.id ≠ key) s!"Resource registry record key {key} does not match id {parsed.id}."
    parseEntries (records.assign key parsed) entries

def parseResourceRegistryState (state : ResourceRegistryState) : Except String Records := do
  refuse (state.schemaVersion ≠ 1) s!"Resource registry schemaVersion is {state.schemaVersion}; expected 1."
  parseEntries ⟨[], none⟩ state.records

/-- `Object.assign(records, parsed)` for every row. -/
def loadRows (records : Entries) : Entries → Except String Entries
  | [] => .ok records
  | row :: rows => do
    let parsed ← parseResourceRegistryState ⟨1, [row]⟩
    loadRows (parsed.own.foldl (KeyedTable.save Prod.fst) records) rows

/-- The rows hold the ids and the payloads as JSON. -/
def load (rows : Entries) : Except String ResourceRegistryState := do
  let records ← loadRows [] rows
  .ok ⟨1, records⟩

def currentRecord (rows : Entries) (id : String) : Except String Lookup :=
  match KeyedTable.get Prod.fst rows id with
  | none => .ok .undefined
  | some row => do
    let parsed ← parseResourceRegistryState ⟨1, [(id, row.2)]⟩
    .ok (parsed.get id)

def writeRecord (next : Records) (rows : Entries) (id : String) : Except String Entries :=
  match next.get id with
  | .undefined => .ok (rows.filter fun row => row.1 ≠ id)
  | .record record => .ok (KeyedTable.save Prod.fst rows (record.id, record.json))
  | .foreign => .error "Cannot read properties of undefined (reading 'taskId')"

def changedIds (before next : Records) : List String :=
  ((before.own.map Prod.fst ++ next.own.map Prod.fst).eraseDups).filter fun id => before.get id ≠ next.get id

/-- One transaction reads the changed rows, compares them with what the caller read, and writes them. -/
def save (rows : Entries) (state previous : ResourceRegistryState) : Except String Entries := do
  let next ← parseResourceRegistryState state
  let before ← parseResourceRegistryState previous
  let ids := changedIds before next
  checkAll ids fun id => do
    let current ← currentRecord rows id
    refuse (current ≠ before.get id)
      s!"Resource registry record changed since inspection: {id}. Inspect and retry."
  ids.foldlM (writeRecord next) rows

end Registry

end ResourceRegistry
