import Mathlib.Data.Int.Order.Basic
import Mathlib.Logic.Function.Basic
import Yui.KeyedMap

/-!
# The quarantine of resource GC

GC moves a releasable resource to a place in the quarantine that depends only on the record's id, and the record says
where its content lies and where it came from. It is restored from there, or purged when its time is over. A move of a
worktree that fails after it has moved is left out.
-/

namespace ResourceGc

inductive ResourceKind where
  | worktree | deployment | runtimeArtifact
  deriving DecidableEq

def ResourceKind.text : ResourceKind → String
  | .worktree => "worktree"
  | .deployment => "deployment"
  | .runtimeArtifact => "runtime-artifact"

inductive ResourceDisposition where
  | active | releasable | quarantined | deleted | retainedDirty | retainedUnowned | retainedUnproven | cleanupFailed
  deriving DecidableEq

inductive ResourceOwnerBasis where
  | durableRecord | marker | descriptor | namingConvention | unattributed
  deriving DecidableEq

structure ResourceOwner where
  home : String
  projectId : Option String
  taskId : Option String
  workItemId : Option String
  reviewRoundId : Option String
  integrationAttemptId : Option String
  basis : ResourceOwnerBasis
  deriving DecidableEq

inductive ResourceCleanliness where
  | clean | dirty | unknown | notApplicable
  deriving DecidableEq

inductive QuarantineMethod where
  | move | gitWorktreeRemove
  deriving DecidableEq

def QuarantineMethod.text : QuarantineMethod → String
  | .move => "move"
  | .gitWorktreeRemove => "git-worktree-remove"

/-- Times are in milliseconds. -/
structure ResourceQuarantineState where
  path : String
  originalPath : String
  movedAt : ℤ
  method : QuarantineMethod
  deriving DecidableEq

inductive CleanupMethod where
  | gitWorktreeRemove | quarantinePurge | runtimeCleanup
  deriving DecidableEq

structure ResourceRecord where
  id : String
  kind : ResourceKind
  path : String
  owner : ResourceOwner
  cleanliness : ResourceCleanliness
  activeRefs : List String
  disposition : ResourceDisposition
  blocker : Option String
  quarantine : Option ResourceQuarantineState
  cleanupReceipt : Option (ℤ × CleanupMethod)
  updatedAt : ℤ
  deriving DecidableEq

def isReleasable (record : ResourceRecord) : Bool :=
  record.disposition = .releasable && record.activeRefs.isEmpty && record.cleanliness ≠ .dirty &&
    record.cleanliness ≠ .unknown

/-- `path` is `parent` or lies below it. -/
def within (path parent : String) : Bool := path = parent || (parent ++ "/").toList.isPrefixOf path.toList

section Registry

abbrev Registry := List ResourceRecord

def record? (records : Registry) (id : String) : Option ResourceRecord :=
  records.find? fun record => record.id = id

def upsertResourceRecord (records : Registry) (record : ResourceRecord) : Registry :=
  KeyedMap.set ResourceRecord.id records record

def removeResourceRecord (records : Registry) (id : String) : Registry := records.filter fun record => record.id ≠ id

def removeResourceRecords (records : Registry) (removed : List ResourceRecord) : Registry :=
  removed.foldl (fun records record => removeResourceRecord records record.id) records

end Registry

/-- A piece of content that was moved into the quarantine, as the number-th entry of the journal. -/
structure Piece where
  number : ℕ
  origin : String
  movedAt : ℤ

inductive Entry where
  | moved (piece : Piece)
  | restored (piece : Piece) (path : String)
  /-- Deleted after it had been in the quarantine for the time to live. -/
  | purged (piece : Piece) (removedAt ttl : ℤ)

structure World where
  records : Registry
  /-- What lies at a path of the quarantine. -/
  held : String → Option Piece := fun _ => none
  /-- The paths outside the quarantine that exist. -/
  there : String → Bool
  journal : List Entry := []

def quarantinePath (root id : String) : String := root ++ "/" ++ id

section Classify

def dirtyWorktreeSuggestion (record : ResourceRecord) : String :=
  "\n".intercalate ["Worktree has uncommitted changes; preserve dirty evidence before release.",
    s!"  git -C {record.path} diff > {record.path}.patch",
    s!"  git -C {record.path} bundle create {record.path}.bundle --all",
    "  or commit the changes to a branch."]

/-- `existing` is what the registry has under the id of the record. -/
def classifyRecord (record : ResourceRecord) (ownerTerminal : Bool) (liveRefs : List String) (untrusted : Bool)
    (existing : Option ResourceRecord) (now : ℤ) : ResourceRecord :=
  match existing.filter fun existing => existing.disposition = .quarantined || existing.disposition = .deleted with
  | some existing => existing
  | none =>
    if untrusted = true then
      { record with
        activeRefs := liveRefs
        disposition := .retainedUnproven
        blocker := some "Live-reference source is untrusted; retained."
        updatedAt := now }
    else if liveRefs ≠ [] then
      { record with activeRefs := liveRefs, disposition := .active, updatedAt := now }
    else if record.cleanliness = .dirty then
      { record with
        activeRefs := []
        disposition := .retainedDirty
        blocker := some (dirtyWorktreeSuggestion record)
        updatedAt := now }
    else if record.cleanliness = .unknown then
      { record with
        activeRefs := []
        disposition := .retainedUnproven
        blocker := some "Cleanliness cannot be proven; retained. Verify the worktree state manually."
        updatedAt := now }
    else if record.owner.basis = .unattributed then
      { record with
        activeRefs := []
        disposition := .retainedUnowned
        blocker := some "Ownership cannot be proven; reported, never removed."
        updatedAt := now }
    else if ownerTerminal = false then
      { record with
        activeRefs := [], disposition := .active, blocker := some "Owner is not terminal.", updatedAt := now }
    else { record with activeRefs := [], disposition := .releasable, updatedAt := now }

end Classify

section Moves

variable (root : String)

def cleanupFailed (record : ResourceRecord) (blocker : String) (now : ℤ) : ResourceRecord :=
  { record with disposition := .cleanupFailed, blocker := some blocker, updatedAt := now }

/-- The move to the quarantine. It fails with the error of the outcome, and then the content stays where it is. -/
def quarantineResource (w : World) (record : ResourceRecord) (outcome : Option String) (now : ℤ) :
    Bool × ResourceRecord × World :=
  match outcome with
  | some error => (false, cleanupFailed record s!"Quarantine failed: {error}" now, w)
  | none =>
    -- The rename of a file replaces what lies at the place of the id already.
    let piece : Piece := ⟨w.journal.length, record.path, now⟩
    (true,
      { record with
        disposition := .quarantined
        quarantine := some ⟨quarantinePath root record.id, record.path, now, .move⟩
        updatedAt := now },
      { w with
        held := Function.update w.held (quarantinePath root record.id) (some piece)
        there := fun path => w.there path && !within path record.path
        journal := w.journal ++ [.moved piece] })

def restoreQuarantinedRecord (w : World) (record : ResourceRecord) (liveRefs : List String) (outcome : Option String)
    (now : ℤ) : ResourceRecord × World :=
  match record.quarantine with
  | none => (record, w)
  | some quarantine =>
    if quarantine.method ≠ .move ∨ record.kind = .deployment then
      (cleanupFailed record s!"Restore failed: Unsupported quarantine provenance: {record.kind.text}/{quarantine.method.text}; preserve its evidence for explicit recovery." now, w)
    else match w.held quarantine.path, outcome with
      | none, _ => (cleanupFailed record s!"Restore failed: quarantine path missing: {quarantine.path}" now, w)
      | some piece, outcome =>
        if w.there quarantine.originalPath = true then
          (cleanupFailed record s!"Restore failed: original path already exists: {quarantine.originalPath}" now, w)
        else match outcome with
          | some error => (cleanupFailed record s!"Restore failed: {error}" now, w)
          | none =>
            ({ record with
                disposition := .active
                activeRefs := liveRefs
                quarantine := none
                blocker := some "Restored from quarantine."
                updatedAt := now },
              { w with
                held := Function.update w.held quarantine.path none
                there := Function.update w.there quarantine.originalPath true
                journal := w.journal ++ [.restored piece quarantine.originalPath] })

def restoreAndSave (w : World) (record : ResourceRecord) (liveRefs : List String) (outcome : Option String) (now : ℤ) :
    World :=
  let (restored, after) := restoreQuarantinedRecord w record liveRefs outcome now
  { after with records := upsertResourceRecord after.records restored }

end Moves

section Operations

variable (root : String)

/-- `#save` of the registrar. -/
def registerAll (w : World) (records : List ResourceRecord) : World :=
  { w with records := records.foldl upsertResourceRecord w.records }

def sameOwner (owner other : ResourceOwner) : Bool :=
  owner.home = other.home && owner.taskId = other.taskId && owner.workItemId = other.workItemId &&
    owner.reviewRoundId = other.reviewRoundId && owner.integrationAttemptId = other.integrationAttemptId

def markDeleted (record : ResourceRecord) (now : ℤ) : ResourceRecord :=
  { record with
    activeRefs := []
    disposition := .deleted
    blocker := none
    quarantine := none
    cleanupReceipt := some (now, if record.kind = .worktree then .gitWorktreeRemove else .runtimeCleanup)
    updatedAt := now }

def isDeletionTarget (paths : List String) (record : ResourceRecord) : Bool :=
  record.path ∈ paths && record.disposition ≠ .deleted

def markPathsDeleted (w : World) (paths : List String) (owner : Option ResourceOwner) (now : ℤ) : World :=
  let targets := w.records.filter (isDeletionTarget paths)
  if owner.any (fun owner => targets.any fun record => !sameOwner record.owner owner) = true then w
  else { w with records := targets.foldl (fun records record => upsertResourceRecord records (markDeleted record now)) w.records }

def applyRestore (w : World) (record : ResourceRecord) (refs : List String) (outcome : Option String) (now : ℤ) : World :=
  if record? w.records record.id ≠ some record ∨ refs = [] then w else restoreAndSave w record refs outcome now

def subtree (w : World) (candidate : ResourceRecord) : List ResourceRecord :=
  w.records.filter fun record => within record.path candidate.path && w.there record.path

/-- The move of a candidate, whose runtime descendants need no records of their own any more. -/
def moveCandidate (w : World) (candidate : ResourceRecord) (outcome : Option String) (now : ℤ) : World :=
  let (ok, record, after) := quarantineResource root w candidate outcome now
  let next := upsertResourceRecord after.records record
  let receipts := (subtree w candidate).filter fun record => record.id ≠ candidate.id
  { after with records := if ok = true then removeResourceRecords next receipts else next }

/-- The transaction of an apply that moves a candidate. `inspected` is the registry that it loaded at its start, and
`durableRefs` reads the store again. -/
def applyMove (w : World) (inspected : Registry) (candidate : ResourceRecord)
    (durableRefs : ResourceRecord → List String) (outcome : Option String) (now : ℤ) : World :=
  let moved := candidate :: subtree w candidate
  if moved.any (fun record => record? w.records record.id ≠ record? inspected record.id) = true then w
  else if moved.any (fun record => durableRefs record ≠ []) = true then w
  else if w.there candidate.path = false then w
  else moveCandidate root w candidate outcome now

def isPurgeable (record : ResourceRecord) : Bool :=
  record.quarantine.isSome && (record.disposition = .quarantined || record.disposition = .cleanupFailed)

/-- The content at a place of the quarantine is deleted. -/
def emptied (w : World) (quarantine : ResourceQuarantineState) (ttl now : ℤ) : World :=
  { w with
    held := Function.update w.held quarantine.path none
    journal := w.journal ++ ((w.held quarantine.path).map fun piece => Entry.purged piece now ttl).toList }

/-- The transaction of a purge for one record. `refs` are the references to both of its paths and the durable ones. A
failed deletion says whether the content was gone already. -/
def purgeOne (w : World) (record : ResourceRecord) (ttl : ℤ) (ownerKnown : Bool) (refs : List String)
    (outcome : Option (String × Bool)) (restoreOutcome : Option String) (now : ℤ) : World :=
  match record.quarantine with
  | none => w
  | some quarantine =>
    if now - quarantine.movedAt < ttl ∨ record? w.records record.id ≠ some record then w
    else if quarantine.method ≠ .move ∨ record.kind = .deployment then
      { w with records := upsertResourceRecord w.records (cleanupFailed record
        s!"Unsupported quarantine provenance: {record.kind.text}/{quarantine.method.text}; preserve its evidence for explicit recovery." now) }
    else if ownerKnown = false then
      { w with records := upsertResourceRecord w.records { record with
        blocker := some "Current Task ownership cannot be proven; quarantine retained.", updatedAt := now } }
    else if refs ≠ [] then restoreAndSave w record refs restoreOutcome now
    else match outcome with
      | some (error, gone) =>
        let after := if gone = true then emptied w quarantine ttl now else w
        { after with
          records := upsertResourceRecord after.records (cleanupFailed record s!"Purge failed: {error}" now) }
      | none =>
        let after := emptied w quarantine ttl now
        { after with
          records := upsertResourceRecord after.records { record with
            disposition := .deleted
            quarantine := none
            cleanupReceipt := some (now, .quarantinePurge)
            updatedAt := now } }

def restoreAllResourceGc (w : World) (outcome : String → Option String) (now : ℤ) : World :=
  (w.records.filter isPurgeable).foldl (fun w record => restoreAndSave w record [] (outcome record.id) now) w

end Operations

section Runs

variable (resourceId : ResourceKind → String → String) (root : String) (orderly : Prop)

/-- A record that the registrar or the discovery makes. -/
structure Made (record : ResourceRecord) : Prop where
  id : record.id = resourceId record.kind record.path
  quarantine : record.quarantine = none

/-- A candidate of an apply: a discovered record or one of the registry, classified with a fresh scan. -/
def Candidate (inspected : Registry) (candidate : ResourceRecord) : Prop :=
  ∃ record ownerTerminal liveRefs untrusted now, (Made resourceId record ∨ record ∈ inspected) ∧
    candidate = classifyRecord record ownerTerminal liveRefs untrusted (record? inspected record.id) now

/-- Nothing lies at the place that the id has in the quarantine. -/
def Vacant (w : World) (id : String) : Prop := w.held (quarantinePath root id) = none

/-- In an orderly run no record is written over or removed while content lies at the place of its id, except by the
operations that look at its quarantine state. -/
inductive Step : World → World → Prop where
  | register (w) (records : List ResourceRecord) (hmade : ∀ record ∈ records, Made resourceId record)
      (h : orderly → ∀ record ∈ records, Vacant root w record.id) : Step w (registerAll w records)
  | markPathsDeleted (w) (paths) (owner) (now)
      (h : orderly → ∀ record ∈ w.records, isDeletionTarget paths record = true → Vacant root w record.id) :
      Step w (markPathsDeleted w paths owner now)
  | restore (w) (record : ResourceRecord) (refs) (outcome) (now) (hdisposition : record.disposition = .quarantined) :
      Step w (applyRestore w record refs outcome now)
  | move (w) (inspected) (candidate : ResourceRecord) (durableRefs) (outcome) (now)
      (hids : (inspected.map ResourceRecord.id).Nodup) (hcandidate : Candidate resourceId inspected candidate)
      (hreleasable : isReleasable candidate = true)
      (h : orderly → w.there candidate.path = true → ∀ record ∈ candidate :: subtree w candidate, Vacant root w record.id) :
      Step w (applyMove root w inspected candidate durableRefs outcome now)
  | purge (w) (record : ResourceRecord) (ttl) (ownerKnown) (refs) (outcome) (restoreOutcome) (now)
      (hpurgeable : isPurgeable record = true) :
      Step w (purgeOne w record ttl ownerKnown refs outcome restoreOutcome now)
  | restoreAll (w) (outcome) (now) : Step w (restoreAllResourceGc w outcome now)
  /-- Files and worktrees are created and removed at any path outside the quarantine. -/
  | change (w) (there : String → Bool) : Step w { w with there := there }

end Runs

end ResourceGc
