import Yui.Checked
import Yui.UniqueAppend
import Yui.RecordReference

/-!
# The work mailbox

The durable mailbox of `coordination/workMailbox.ts`: signals are merged into one pending batch,
a controller claims the batch for processing, and batches are completed, released back or consumed
whole or up to a sequence number. Every operation builds a draft of the next mailbox from its own
checks and passes it through `validateWorkMailbox`.
-/

open JsText Checked

namespace WorkMailbox

inductive MailboxTarget where
  | task (taskId : String)
  | role (taskId roleName : String)
  | roleRuntime (taskId roleName : String)
  | globalRoleRuntime (roleName : String)
  | operator
  deriving DecidableEq

inductive GlobalEntityType where
  | task | session | globalJobRun
  deriving DecidableEq

inductive TaskEntityType where
  | run | workItem | input | message | event
  deriving DecidableEq

inductive MailboxEntityRef where
  | global (type : GlobalEntityType) (id : String)
  | ofTask (type : TaskEntityType) (taskId id : String)
  deriving DecidableEq

/-- A durable hint to reread current facts, never a Provider delivery log. -/
structure WorkSignal where
  reason : String
  refs : List MailboxEntityRef
  occurredAt : String
  source : Option String
  dedupeKey : Option String
  factRevision : Option JsNumber

structure PendingBatch where
  fromSequence : ℕ
  toSequence : ℕ
  reasons : List String
  refs : List MailboxEntityRef
  requestCount : ℕ
  firstQueuedAt : String
  lastQueuedAt : String
  sources : List String
  dedupeKeys : List String
  highestFactRevision : Option ℕ

/-- Generic controller claim used only by atomic non-Provider work. -/
structure ProcessingBatch where
  batchId : String
  batch : PendingBatch
  owner : String
  startedAt : String
  executionRef : Option MailboxEntityRef

structure Mailbox where
  schemaVersion : ℕ
  target : MailboxTarget
  nextSequence : ℕ
  processing : Option ProcessingBatch
  pending : Option PendingBatch
  recentDedupeKeys : List String

structure ClaimOptions where
  batchId : String
  owner : String
  startedAt : String

/-- The `through` argument of `consumePendingBatch`. -/
structure SequenceRange where
  fromSequence : JsNumber
  toSequence : JsNumber

def recentDedupeKeyLimit : ℕ := 256

def requireText (value label : String) : Except String String :=
  requireTextWith (label ++ " is invalid") (label ++ " must not be empty") value

def requireInteger (value : JsNumber) (minimum : ℕ) (label : String) : Except String ℕ :=
  match value with
  | some n =>
    if (minimum : ℤ) ≤ n then .ok n.toNat
    else .error (label ++ " must be an integer greater than or equal to " ++ toString minimum)
  | none => .error (label ++ " must be an integer greater than or equal to " ++ toString minimum)

def requireStringArray (values : List String) (label : String) : Except String (List String) := do
  let result ← mapIndexed
    (fun item index => requireText item (label ++ "[" ++ toString index ++ "]")) 0 values
  if result.Nodup then .ok result else .error (label ++ " must not contain duplicates")

def GlobalEntityType.text : GlobalEntityType → String
  | .task => "task"
  | .session => "session"
  | .globalJobRun => "global-job-run"

def TaskEntityType.text : TaskEntityType → String
  | .run => "run"
  | .workItem => "work-item"
  | .input => "input"
  | .message => "message"
  | .event => "event"

def mailboxTaskRecordKind : TaskEntityType → TaskRecordKind
  | .run => .run
  | .workItem => .workItem
  | .input => .inputRequest
  | .message => .message
  | .event => .event

def nulText : String := String.ofList [nul]

def mailboxEntityRefKey : MailboxEntityRef → String
  | .global type id => type.text ++ nulText ++ id
  | .ofTask type taskId id => type.text ++ nulText ++ taskId ++ nulText ++ id

def copyRef : MailboxEntityRef → Except String MailboxEntityRef
  | .global type id => do
    let id ← requireText id "entity reference id"
    .ok (.global type id)
  | .ofTask type taskId id => do
    let validated ← validateTaskRecordReference ⟨taskId, id⟩ (mailboxTaskRecordKind type)
    .ok (.ofTask type validated.taskId validated.localId)

/-- The shared shape of `copyTarget` and `parseTarget`, with the labels of their messages. -/
def checkTarget (taskLabel roleLabel : String) : MailboxTarget → Except String MailboxTarget
  | .operator => .ok .operator
  | .task taskId => do
    let taskId ← requireText taskId taskLabel
    .ok (.task taskId)
  | .role taskId roleName => do
    let taskId ← requireText taskId taskLabel
    let roleName ← requireText roleName roleLabel
    .ok (.role taskId roleName)
  | .roleRuntime taskId roleName => do
    let taskId ← requireText taskId taskLabel
    let roleName ← requireText roleName roleLabel
    .ok (.roleRuntime taskId roleName)
  | .globalRoleRuntime roleName => do
    let roleName ← requireText roleName roleLabel
    .ok (.globalRoleRuntime roleName)

def copyTarget : MailboxTarget → Except String MailboxTarget := checkTarget "taskId" "roleName"

def parseTarget : MailboxTarget → Except String MailboxTarget :=
  checkTarget "WorkMailbox target taskId" "WorkMailbox target roleName"

def createWorkMailbox (target : MailboxTarget) : Except String Mailbox := do
  let target ← copyTarget target
  .ok { schemaVersion := 1, target, nextSequence := 1, processing := none, pending := none,
        recentDedupeKeys := [] }

def parseRef (ref : MailboxEntityRef) (label : String) : Except String MailboxEntityRef :=
  match ref with
  | .global type id => do
    let id ← requireText id (label ++ " id")
    .ok (.global type id)
  | .ofTask type taskId id => do
    let taskId ← requireText taskId (label ++ " taskId")
    let id ← requireText id (label ++ " id")
    copyRef (.ofTask type taskId id)

section Host

variable [JsHost]

def requireTimestamp (value label : String) : Except String String := do
  let timestamp ← requireText value label
  if (JsHost.dateParse timestamp).isSome then .ok timestamp
  else .error (label ++ " must be a timestamp")

def parseBatch (batch : PendingBatch) (label : String) : Except String PendingBatch := do
  let fromSequence ← requireInteger (.ofNat batch.fromSequence) 1 (label ++ " fromSequence")
  let toSequence ←
    requireInteger (.ofNat batch.toSequence) fromSequence (label ++ " toSequence")
  let requestCount ← requireInteger (.ofNat batch.requestCount) 1 (label ++ " requestCount")
  let _ ← refuse (requestCount > toSequence - fromSequence + 1)
    (label ++ " requestCount exceeds its sequence envelope")
  let reasons ← requireStringArray batch.reasons (label ++ " reasons")
  let _ ← refuse (reasons = []) (label ++ " reasons must not be empty")
  let refs ← mapIndexed
    (fun ref index => parseRef ref (label ++ " refs[" ++ toString index ++ "]")) 0 batch.refs
  let _ ← refuse (¬ (refs.map mailboxEntityRefKey).Nodup)
    (label ++ " refs must not contain duplicates")
  let firstQueuedAt ← requireTimestamp batch.firstQueuedAt (label ++ " firstQueuedAt")
  let lastQueuedAt ← requireTimestamp batch.lastQueuedAt (label ++ " lastQueuedAt")
  let sources ← requireStringArray batch.sources (label ++ " sources")
  let dedupeKeys ← requireStringArray batch.dedupeKeys (label ++ " dedupeKeys")
  let highestFactRevision ← onSome
    (fun revision => requireInteger (.ofNat revision) 0 (label ++ " highestFactRevision"))
    batch.highestFactRevision
  .ok { fromSequence, toSequence, reasons, refs, requestCount, firstQueuedAt, lastQueuedAt,
        sources, dedupeKeys, highestFactRevision }

def parseProcessing (processing : ProcessingBatch) : Except String ProcessingBatch := do
  let batchId ← requireText processing.batchId "WorkMailbox processing batchId"
  let batch ← parseBatch processing.batch "WorkMailbox processing batch"
  let owner ← requireText processing.owner "WorkMailbox processing owner"
  let startedAt ← requireTimestamp processing.startedAt "WorkMailbox processing startedAt"
  let executionRef ← onSome
    (fun ref => parseRef ref "WorkMailbox processing executionRef") processing.executionRef
  .ok { batchId, batch, owner, startedAt, executionRef }

/-- The loop over one batch's keys that fills `activeKeys`. -/
def claimActiveKeys (recent : List String) : List String → List String → Except String (List String)
  | active, [] => .ok active
  | active, key :: keys =>
    if active.contains key || recent.contains key then
      .error "WorkMailbox batches contain an already-consumed dedupe key"
    else claimActiveKeys recent (active ++ [key]) keys

def claimBatchKeys (nextSequence : ℕ) (recent active : List String) :
    Option PendingBatch → Except String (List String)
  | none => .ok active
  | some batch =>
    if batch.toSequence ≥ nextSequence then
      .error "WorkMailbox batch sequence must be lower than nextSequence"
    else claimActiveKeys recent active batch.dedupeKeys

def validateWorkMailbox (mailbox : Mailbox) : Except String Mailbox := do
  let _ ← refuse (mailbox.schemaVersion ≠ 1) "WorkMailbox must use schemaVersion 1"
  let target ← parseTarget mailbox.target
  let nextSequence ← requireInteger (.ofNat mailbox.nextSequence) 1 "WorkMailbox nextSequence"
  let processing ← onSome parseProcessing mailbox.processing
  let pending ← onSome (fun batch => parseBatch batch "WorkMailbox pending") mailbox.pending
  let recentDedupeKeys ←
    requireStringArray mailbox.recentDedupeKeys "WorkMailbox recent dedupe keys"
  let _ ← refuse (recentDedupeKeys.length > recentDedupeKeyLimit)
    "WorkMailbox recent dedupe keys exceed the bounded limit"
  let active ←
    claimBatchKeys nextSequence recentDedupeKeys [] (processing.map ProcessingBatch.batch)
  let _ ← claimBatchKeys nextSequence recentDedupeKeys active pending
  .ok { schemaVersion := 1, target, nextSequence, processing, pending, recentDedupeKeys }

variable (mailbox : Mailbox)

def Mailbox.processingKeys : List String :=
  (mailbox.processing.map fun processing => processing.batch.dedupeKeys).getD []

def Mailbox.pendingKeys : List String :=
  (mailbox.pending.map PendingBatch.dedupeKeys).getD []

def mailboxContainsDedupeKey (key : String) : Bool :=
  mailbox.recentDedupeKeys.contains key || mailbox.pendingKeys.contains key
    || mailbox.processingKeys.contains key

/-- `list.slice(-limit)`. -/
def lastEntries (limit : ℕ) (keys : List String) : List String := keys.drop (keys.length - limit)

def rememberDedupeKeys (existing dedupeKeys : List String) : List String :=
  lastEntries recentDedupeKeyLimit (appendUnique id existing dedupeKeys)

/-- `Date.parse(left) <= Date.parse(right)`, false when either text has no time value. -/
def parsedNotAfter (left right : String) : Bool :=
  match JsHost.dateParse left, JsHost.dateParse right with
  | some l, some r => l ≤ r
  | _, _ => false

def mergeBatches (left right : PendingBatch) : PendingBatch where
  fromSequence := min left.fromSequence right.fromSequence
  toSequence := max left.toSequence right.toSequence
  reasons := appendUnique id left.reasons right.reasons
  refs := appendUnique mailboxEntityRefKey left.refs right.refs
  requestCount := left.requestCount + right.requestCount
  firstQueuedAt :=
    if parsedNotAfter left.firstQueuedAt right.firstQueuedAt then left.firstQueuedAt
    else right.firstQueuedAt
  lastQueuedAt :=
    if parsedNotAfter right.lastQueuedAt left.lastQueuedAt then left.lastQueuedAt
    else right.lastQueuedAt
  sources := appendUnique id left.sources right.sources
  dedupeKeys := appendUnique id left.dedupeKeys right.dedupeKeys
  highestFactRevision :=
    match left.highestFactRevision, right.highestFactRevision with
    | none, none => none
    | l, r => some (max (l.getD 0) (r.getD 0))

/-- `pending === null ? incoming : mergeBatches(pending, incoming)`. -/
def appendToPending (pending : Option PendingBatch) (incoming : PendingBatch) : PendingBatch :=
  match pending with
  | none => incoming
  | some pending => mergeBatches pending incoming

/-- `pending === null ? released : mergeBatches(released, pending)`. -/
def prependToPending (released : PendingBatch) (pending : Option PendingBatch) : PendingBatch :=
  match pending with
  | none => released
  | some pending => mergeBatches released pending

def sequenceKey (sequence : ℕ) : String := "sequence:" ++ toString sequence

/-- The pending batch that holds exactly one accepted signal. -/
def incomingBatch (sequence : ℕ) (reason occurredAt source dedupeKey : String)
    (refs : List MailboxEntityRef) (factRevision : Option ℕ) : PendingBatch where
  fromSequence := sequence
  toSequence := sequence
  reasons := [reason]
  refs := appendUnique mailboxEntityRefKey [] refs
  requestCount := 1
  firstQueuedAt := occurredAt
  lastQueuedAt := occurredAt
  sources := [source]
  dedupeKeys := [dedupeKey]
  highestFactRevision := factRevision

def signalDedupeKey (signal : WorkSignal) : Except String String :=
  match signal.dedupeKey with
  | none => .ok (sequenceKey mailbox.nextSequence)
  | some key => requireText key "signal dedupeKey"

/-- `enqueueSignal` up to its closing validation. No draft means that the signal repeats a key
and the mailbox is returned as it is. -/
def enqueueSignalDraft (signal : WorkSignal) :
    Except String (Option Mailbox) := do
  let _ ← validateWorkMailbox mailbox
  let reason ← requireText signal.reason "signal reason"
  let occurredAt ← requireTimestamp signal.occurredAt "signal occurredAt"
  let source ← requireText (signal.source.getD "yui") "signal source"
  let sequence := mailbox.nextSequence
  let dedupeKey ← signalDedupeKey mailbox signal
  if mailboxContainsDedupeKey mailbox dedupeKey then .ok none
  else do
    let refs ← mapIndexed (fun ref _ => copyRef ref) 0 signal.refs
    let factRevision ←
      onSome (fun revision => requireInteger revision 0 "signal factRevision") signal.factRevision
    let incoming := incomingBatch sequence reason occurredAt source dedupeKey refs factRevision
    .ok (some { mailbox with
      nextSequence := sequence + 1
      pending := some (appendToPending mailbox.pending incoming) })

def claimPendingDraft (options : ClaimOptions) :
    Except String (Option Mailbox) := do
  let _ ← validateWorkMailbox mailbox
  if mailbox.processing.isSome then .error "Mailbox is already processing a batch"
  else match mailbox.pending with
    | none => .error "Mailbox has no pending work to claim"
    | some pending => do
      let batchId ← requireText options.batchId "batch id"
      let owner ← requireText options.owner "claim owner"
      let startedAt ← requireTimestamp options.startedAt "claim startedAt"
      .ok (some { mailbox with
        processing := some { batchId, batch := pending, owner, startedAt, executionRef := none }
        pending := none })

def requireProcessing (batchId : String) : Except String ProcessingBatch := do
  let _ ← validateWorkMailbox mailbox
  let normalizedBatchId ← requireText batchId "batch id"
  match mailbox.processing with
  | none => .error "Mailbox has no processing batch"
  | some processing =>
    if processing.batchId ≠ normalizedBatchId then
      .error ("Mailbox processing batch id does not match " ++ normalizedBatchId)
    else .ok processing

def bindExecutionDraft (batchId : String) (executionRef : MailboxEntityRef) :
    Except String (Option Mailbox) := do
  let processing ← requireProcessing mailbox batchId
  let executionRef ← copyRef executionRef
  .ok (some { mailbox with
    processing := some { processing with executionRef := some executionRef } })

def completeProcessingDraft (batchId : String) :
    Except String (Option Mailbox) := do
  let processing ← requireProcessing mailbox batchId
  .ok (some { mailbox with
    processing := none
    recentDedupeKeys := rememberDedupeKeys mailbox.recentDedupeKeys processing.batch.dedupeKeys })

def releaseProcessingDraft (batchId : String) :
    Except String (Option Mailbox) := do
  let processing ← requireProcessing mailbox batchId
  .ok (some { mailbox with
    processing := none
    pending := some (prependToPending processing.batch mailbox.pending) })

/-- The last sequence number of a `through` argument that is a prefix of the pending batch. -/
def SequenceRange.matchedEnd? (through : SequenceRange) (pending : PendingBatch) : Option ℕ :=
  match through.fromSequence, through.toSequence with
  | some first, some last =>
    if first = pending.fromSequence ∧ first ≤ last ∧ last ≤ pending.toSequence then
      some last.toNat
    else none
  | _, _ => none

def keysAreSequenceAligned (pending : PendingBatch) : Bool :=
  pending.dedupeKeys.length == pending.requestCount

def consumeThrough (pending : PendingBatch) (toSequence : ℕ) : Mailbox :=
  let consumedCount := toSequence - pending.fromSequence + 1
  let aligned := keysAreSequenceAligned pending
  let consumedKeys := if aligned then pending.dedupeKeys.take consumedCount else []
  { mailbox with
    pending := some { pending with
      fromSequence := toSequence + 1
      requestCount := pending.toSequence - toSequence
      dedupeKeys :=
        if aligned then pending.dedupeKeys.drop consumedCount else pending.dedupeKeys }
    recentDedupeKeys := rememberDedupeKeys mailbox.recentDedupeKeys consumedKeys }

def consumeWhole (pending : PendingBatch) : Mailbox :=
  { mailbox with
    recentDedupeKeys := rememberDedupeKeys mailbox.recentDedupeKeys pending.dedupeKeys
    pending := none }

def consumePendingBatchDraft (through : Option SequenceRange) :
    Except String (Option Mailbox) := do
  let _ ← validateWorkMailbox mailbox
  match mailbox.pending with
  | none => .error "Mailbox has no pending batch"
  | some pending =>
    match through with
    | none => .ok (some (consumeWhole mailbox pending))
    | some range =>
      match range.matchedEnd? pending with
      | none => .error "Mailbox consumed sequence does not match the pending prefix"
      | some last =>
        if last < pending.toSequence then .ok (some (consumeThrough mailbox pending last))
        else .ok (some (consumeWhole mailbox pending))

def sealDraft (draft : Except String (Option Mailbox)) :
    Except String Mailbox := do
  match ← draft with
  | none => .ok mailbox
  | some next => validateWorkMailbox next

def enqueueSignal (signal : WorkSignal) : Except String Mailbox :=
  sealDraft mailbox (enqueueSignalDraft mailbox signal)

def claimPending (mailbox : Mailbox) (options : ClaimOptions) : Except String Mailbox :=
  sealDraft mailbox (claimPendingDraft mailbox options)

def bindExecution (batchId : String) (executionRef : MailboxEntityRef) : Except String Mailbox :=
  sealDraft mailbox (bindExecutionDraft mailbox batchId executionRef)

def completeProcessing (batchId : String) : Except String Mailbox :=
  sealDraft mailbox (completeProcessingDraft mailbox batchId)

def releaseProcessing (mailbox : Mailbox) (batchId : String) : Except String Mailbox :=
  sealDraft mailbox (releaseProcessingDraft mailbox batchId)

/-- Consumes a whole wake or the exact submitted sequence prefix. -/
def consumePendingBatch (mailbox : Mailbox) (through : Option SequenceRange) : Except String Mailbox :=
  sealDraft mailbox (consumePendingBatchDraft mailbox through)

inductive Operation where
  | enqueueSignal (signal : WorkSignal)
  | claimPending (options : ClaimOptions)
  | bindExecution (batchId : String) (executionRef : MailboxEntityRef)
  | completeProcessing (batchId : String)
  | releaseProcessing (batchId : String)
  | consumePendingBatch (through : Option SequenceRange)

/-- What an operation hands to its closing validation. -/
def Operation.draft : Operation → Except String (Option Mailbox)
  | .enqueueSignal signal => enqueueSignalDraft mailbox signal
  | .claimPending options => claimPendingDraft mailbox options
  | .bindExecution batchId executionRef => bindExecutionDraft mailbox batchId executionRef
  | .completeProcessing batchId => completeProcessingDraft mailbox batchId
  | .releaseProcessing batchId => releaseProcessingDraft mailbox batchId
  | .consumePendingBatch through => consumePendingBatchDraft mailbox through

def step (mailbox : Mailbox) : Operation → Except String Mailbox
  | .enqueueSignal signal => enqueueSignal mailbox signal
  | .claimPending options => claimPending mailbox options
  | .bindExecution batchId executionRef => bindExecution mailbox batchId executionRef
  | .completeProcessing batchId => completeProcessing mailbox batchId
  | .releaseProcessing batchId => releaseProcessing mailbox batchId
  | .consumePendingBatch through => consumePendingBatch mailbox through

theorem step_eq_sealDraft (op : Operation) :
    step mailbox op = sealDraft mailbox (op.draft mailbox) := by
  cases op <;> rfl

theorem sealDraft_ok {mailbox next : Mailbox} {draft : Except String (Option Mailbox)}
    (h : sealDraft mailbox draft = .ok next) : (draft = .ok none ∧ next = mailbox) ∨
      ∃ built, draft = .ok (some built) ∧ validateWorkMailbox built = .ok next := by
  obtain ⟨result, hdraft, h⟩ := bind_ok h
  cases result with
  | none => exact .inl ⟨hdraft, by cases h; rfl⟩
  | some built => exact .inr ⟨built, hdraft, h⟩

end Host

end WorkMailbox
