import Yui.CompletionReadiness
import Yui.FallibleRun
import Yui.StoredRecords
import Yui.Supersession

/-!
# Publication references

`task/publicationReference.ts` and the publication references of `storage/sqliteStore.ts`. A reference
to a pull request that replaces an earlier one names it as superseded. What the store accepts under one
external key is a single chain of one Task, whatever is saved in whatever order.
-/

open JsText Checked Validation FallibleRun
open TaskProtocol (Collator)

namespace Publication

section Records

inductive PublicationProvider where
  | github | gitlab
  deriving DecidableEq

inductive PublicationExternalKind where
  | pullRequest | mergeRequest
  deriving DecidableEq

inductive PublicationState where
  | «open» | merged | closed
  deriving DecidableEq

inductive PublicationVerification where
  | reported | verified
  deriving DecidableEq

inductive PublicationRecordedBy where
  | user | operator | leader
  deriving DecidableEq

inductive PublicationSource where
  | manual | releaseWorkflow | integration
  deriving DecidableEq

structure PublicationReference where
  schemaVersion : ℕ
  id : String
  taskId : String
  projectId : String
  provider : PublicationProvider
  repository : String
  externalKind : PublicationExternalKind
  externalId : String
  externalUrl : Option String
  title : Option String
  sourceBranch : Option String
  targetBranch : Option String
  localCommit : Option String
  headCommit : Option String
  remoteCommit : Option String
  state : PublicationState
  verification : PublicationVerification
  evidence : Option String
  supersedes : Option String
  recordedBy : PublicationRecordedBy
  source : PublicationSource
  mergedAt : Option String
  createdAt : String
  deriving DecidableEq

def PublicationProvider.text : PublicationProvider → String
  | .github => "github"
  | .gitlab => "gitlab"

def publicationExternalKey (reference : PublicationReference) : String :=
  reference.provider.text ++ "/" ++ reference.repository ++ "/" ++ reference.externalId

end Records

section Checks

variable [JsHost]

/-- `/^[0-9a-f]{40}$/iu` -/
def isGitSha (text : String) : Bool :=
  text.toList.length == 40 && text.toList.all fun c => isHexChar c.toLower

def requireCommit (value label : String) : Except String Unit := do
  let commit ← requireText value label
  refuse (isGitSha commit = false) (label ++ " must be a full 40-character Git SHA.")

def validatePublicationReference (reference : PublicationReference) : Except String Unit := do
  refuse (reference.schemaVersion ≠ 1) "Publication reference must use schemaVersion 1."
  checkRecordReference reference.taskId reference.id .publicationReference
  checkIdentity reference.projectId "Publication Project id"
  checkText reference.repository "Publication repository"
  checkText reference.externalId "Publication external id"
  whenPresent reference.externalUrl (checkText · "Publication external URL")
  whenPresent reference.title (checkText · "Publication title")
  whenPresent reference.sourceBranch (checkText · "Publication source branch")
  whenPresent reference.targetBranch (checkText · "Publication target branch")
  whenPresent reference.localCommit (requireCommit · "Publication local commit")
  whenPresent reference.headCommit (requireCommit · "Publication remote head")
  refuse (reference.headCommit.isSome = true ∧ reference.verification = .verified ∧
      reference.headCommit ≠ reference.localCommit)
    "Verified publication remote head must match its local commit."
  whenPresent reference.remoteCommit (requireCommit · "Publication remote commit")
  refuse (reference.verification = .verified ∧
      (reference.state ≠ .merged ∨ reference.remoteCommit = none))
    "Verified publication requires state merged and a remote commit."
  refuse (reference.mergedAt.isSome = true ∧ reference.state ≠ .merged)
    "Publication mergedAt requires state merged."
  whenPresent reference.evidence (checkText · "Publication evidence")
  whenPresent reference.supersedes (checkText · "Publication supersedes id")
  refuse (reference.supersedes = some reference.id) "Publication reference cannot supersede itself."
  requireTimestamp reference.createdAt "Publication createdAt"

/-- A record of other fields, or one that holds `undefined`, is refused before its values are read. -/
def storedPublicationReference (reference : PublicationReference) : Except String PublicationReference := do
  refuse (reference.schemaVersion ≠ 1) "Publication reference must use schemaVersion 1."
  StoredRecord.requireRecordIdentity reference.id "Publication reference id"
  StoredRecord.requireRecordIdentity reference.taskId "Publication reference Task id"
  checkRecordReference reference.taskId reference.id .publicationReference
  StoredRecord.requireRecordIdentity reference.projectId "Publication reference Project id"
  StoredRecord.requireNormalizedText reference.repository "Publication reference repository"
  StoredRecord.requireNormalizedText reference.externalId "Publication reference external id"
  whenPresent reference.externalUrl
    (StoredRecord.requireNormalizedText · "Publication reference external URL")
  whenPresent reference.title (StoredRecord.requireNormalizedText · "Publication reference title")
  whenPresent reference.sourceBranch
    (StoredRecord.requireNormalizedText · "Publication reference source branch")
  whenPresent reference.targetBranch
    (StoredRecord.requireNormalizedText · "Publication reference target branch")
  whenPresent reference.localCommit
    (StoredRecord.requireNormalizedText · "Publication reference local commit")
  whenPresent reference.remoteCommit
    (StoredRecord.requireNormalizedText · "Publication reference remote commit")
  whenPresent reference.evidence (StoredRecord.requireNormalizedText · "Publication reference evidence")
  whenPresent reference.supersedes
    (StoredRecord.requireNormalizedText · "Publication reference supersedes id")
  whenPresent reference.mergedAt (StoredRecord.requireTimestamp · "Publication reference mergedAt")
  StoredRecord.requireTimestamp reference.createdAt "Publication reference createdAt"
  validatePublicationReference reference
  .ok reference

theorem storedPublicationReference_ok {reference stored : PublicationReference}
    (h : storedPublicationReference reference = .ok stored) : stored = reference := by
  unfold storedPublicationReference at h
  repeat obtain ⟨-, h⟩ := seq_iff.1 h
  cases h
  rfl

end Checks

section Store

variable [JsHost] [Collator]

/-- The order in which the database returns the rows of a query without `ORDER BY`. -/
structure Listing where
  order : List PublicationReference → List PublicationReference
  perm : ∀ rows, (order rows).Perm rows

/-- `references.sort((left, right) => numericCompare(right.id, left.id))`. -/
def sortedByIdDescending (references : List PublicationReference) : List PublicationReference :=
  references.mergeSort fun left right => Collator.compareNumeric right.id left.id ≠ .gt

def faultText : Supersession.WalkFault PublicationReference String → String
  | .cycle current => s!"Publication supersession cycle at {current.id}."
  | .missing current target => s!"Publication supersession target not found: {current.id}/{target}."

def latestSqlitePublicationReference (references : List PublicationReference) : Except String PublicationReference :=
  let roots := Supersession.roots PublicationReference.id PublicationReference.supersedes references
  let latest := match roots with
    | [root] => some root
    | _ => (sortedByIdDescending references).head?
  match latest with
  | none => .error "Cannot read properties of undefined (reading 'supersedes')"
  | some latest =>
    match Supersession.walkFrom PublicationReference.id PublicationReference.supersedes references latest with
    | .ok _ => .ok latest
    | .error fault => .error (faultText fault)

variable (rows : List PublicationReference)

def withKey (key : String) : List PublicationReference :=
  rows.filter fun row => publicationExternalKey row = key

/-- Every row that is read is validated again. -/
def listPayload : Except String (List PublicationReference) :=
  rows.mapM storedPublicationReference

def getPayload (taskId id : String) :
    Except String (Option PublicationReference) :=
  match rows.find? fun row => row.taskId = taskId ∧ row.id = id with
  | none => .ok none
  | some row => do
    let value ← storedPublicationReference row
    .ok (some value)

def findPublicationReferenceByExternalKey (listing : Listing) (rows : List PublicationReference)
    (externalKey : String) : Except String (Option PublicationReference) := do
  let found ← listPayload (listing.order (withKey rows externalKey))
  if found = [] then .ok none
  else
    let latest ← latestSqlitePublicationReference found
    .ok (some latest)

/-- The conditions on a reference whose id is new in its Task. -/
def checkNew (listing : Listing) (rows : List PublicationReference) (stored : PublicationReference) :
    Except String Unit := do
  let key := publicationExternalKey stored
  let sameExternal ← listPayload (listing.order (withKey rows key))
  match sameExternal.find? fun candidate => candidate.taskId ≠ stored.taskId with
  | some otherTask =>
    .error s!"Publication external identity already belongs to Task {otherTask.taskId}: {key}."
  | none =>
    if sameExternal ≠ [] then do
      let latest ← latestSqlitePublicationReference sameExternal
      refuse (stored.supersedes ≠ some latest.id)
        s!"Publication external identity conflicts with current record {latest.id}: {key}."
    else
      whenPresent stored.supersedes fun target =>
        .error s!"Publication supersedes target has a different external identity: {target}."

/-- `INSERT … ON CONFLICT(task_id, publication_id) DO UPDATE SET payload = excluded.payload`, under the
unique index of the external keys of references that supersede nothing. -/
def upsert (rows : List PublicationReference) (stored : PublicationReference) :
    Except String (List PublicationReference) :=
  if rows.any fun row => row.taskId = stored.taskId ∧ row.id = stored.id then
    .ok (rows.map fun row => if row.taskId = stored.taskId ∧ row.id = stored.id then stored else row)
  else do
    refuse (stored.supersedes = none ∧
        ∃ row ∈ withKey rows (publicationExternalKey stored), row.supersedes = none)
      "UNIQUE constraint failed: publication_references.external_key"
    .ok (rows ++ [stored])

structure SaveCall where
  taskId : String
  reference : PublicationReference
  /-- Whether the database holds the Task. -/
  hasTask : Bool
  listing : Listing

def savePublicationReference (call : SaveCall) :
    Except String (List PublicationReference) := do
  let stored ← storedPublicationReference call.reference
  refuse (stored.taskId ≠ call.taskId) s!"Publication reference belongs to another Task: {stored.taskId}"
  refuse (call.hasTask = false) s!"Task not found: {call.taskId}"
  let existing ← getPayload rows call.taskId stored.id
  match existing with
  | some existing =>
    refuse (existing ≠ stored) s!"Publication reference cannot be overwritten: {call.taskId}/{stored.id}"
  | none => checkNew call.listing rows stored
  upsert rows stored

end Store

section Chains

variable [JsHost] [Collator] {rows next : List PublicationReference}
  {reference row stored : PublicationReference} {listing : Listing} {key : String}

abbrev Linear (rows : List PublicationReference) : Prop :=
  Supersession.Linear PublicationReference.id PublicationReference.supersedes rows

/-- What holds of the rows in the order in which they were accepted. -/
structure Chained (rows : List PublicationReference) : Prop where
  accepted : ∀ row ∈ rows, storedPublicationReference row = .ok row
  named : (rows.map fun row => (row.taskId, row.id)).Nodup
  sameTask : ∀ row ∈ rows, ∀ other ∈ rows,
    publicationExternalKey row = publicationExternalKey other → row.taskId = other.taskId
  linear : ∀ key, Linear (withKey rows key)

omit [JsHost] [Collator] in
theorem mem_withKey : row ∈ withKey rows key ↔ row ∈ rows ∧ publicationExternalKey row = key := by
  simp [withKey]

omit [Collator] in
theorem listPayload_ok (h : ∀ row ∈ rows, storedPublicationReference row = .ok row) :
    listPayload rows = .ok rows := by
  induction rows with
  | nil => rfl
  | cons row rows ih =>
    unfold listPayload at ih ⊢
    rw [List.mapM_cons, h row (by simp), ok_bind, ih fun other hother => h other (by simp [hother])]
    rfl

omit [Collator] in
theorem getPayload_ok (h : Chained rows) (taskId id : String) :
    getPayload rows taskId id = .ok (rows.find? fun row => row.taskId = taskId ∧ row.id = id) := by
  unfold getPayload
  cases hfind : rows.find? fun row => row.taskId = taskId ∧ row.id = id with
  | none => rfl
  | some row =>
    dsimp only
    rw [h.accepted row (List.mem_of_find?_eq_some hfind), ok_bind]

omit [Collator] in
theorem Chained.eq_of_name (h : Chained rows) (hrow : row ∈ rows) (hstored : stored ∈ rows)
    (htask : row.taskId = stored.taskId) (hid : row.id = stored.id) : row = stored :=
  List.inj_on_of_nodup_map h.named hrow hstored (by rw [htask, hid])

omit [Collator] in
theorem Chained.upsert_same (h : Chained rows) (hrow : row ∈ rows) : upsert rows row = .ok rows := by
  unfold upsert
  rw [if_pos (List.any_eq_true.2 ⟨row, hrow, by simp⟩)]
  congr 1
  refine (List.map_congr_left fun other hother => ?_).trans (List.map_id rows)
  split_ifs with hname
  · exact (h.eq_of_name hother hrow hname.1 hname.2).symm
  · rfl

omit [JsHost] in
theorem latest_of_linear {before : List PublicationReference} (h : Linear (before ++ [row]))
    (hperm : rows.Perm (before ++ [row])) : latestSqlitePublicationReference rows = .ok row := by
  unfold latestSqlitePublicationReference
  rw [h.roots_eq hperm]
  dsimp only
  rw [h.walkFrom_ok hperm]

omit [Collator] in
theorem Chained.listed (h : Chained rows) (listing : Listing) (key : String) :
    listPayload (listing.order (withKey rows key)) = .ok (listing.order (withKey rows key)) :=
  listPayload_ok fun row hrow =>
    h.accepted row (mem_withKey.1 ((listing.perm _).mem_iff.1 hrow)).1

theorem Chained.latest {before : List PublicationReference} (h : Chained rows)
    (hkey : withKey rows key = before ++ [row]) {references : List PublicationReference}
    (hperm : references.Perm (withKey rows key)) : latestSqlitePublicationReference references = .ok row :=
  latest_of_linear (hkey ▸ h.linear key) (hkey ▸ hperm)

theorem Chained.admitted (h : Chained rows) (hcheck : checkNew listing rows stored = .ok ()) :
    (∀ row ∈ withKey rows (publicationExternalKey stored), row.taskId = stored.taskId) ∧
      (withKey rows (publicationExternalKey stored) = [] → stored.supersedes = none) ∧
      ∀ last ∈ (withKey rows (publicationExternalKey stored)).getLast?, stored.supersedes = some last.id := by
  unfold checkNew at hcheck
  dsimp only at hcheck
  rw [h.listed, ok_bind] at hcheck
  have hperm := listing.perm (withKey rows (publicationExternalKey stored))
  split at hcheck
  · cases hcheck
  · next hsame =>
    have htask : ∀ row ∈ withKey rows (publicationExternalKey stored), row.taskId = stored.taskId := by
      intro row hrow
      have hrow := List.find?_eq_none.1 hsame row (hperm.mem_iff.2 hrow)
      simpa using hrow
    refine ⟨htask, ?_⟩
    rcases List.eq_nil_or_concat' (withKey rows (publicationExternalKey stored)) with hnil | ⟨before, last, hlast⟩
    · rw [hnil] at hperm ⊢
      rw [hnil, List.perm_nil.1 hperm, if_neg (not_not.2 rfl)] at hcheck
      refine ⟨fun _ => ?_, by simp⟩
      cases hsupersedes : stored.supersedes with
      | none => rfl
      | some target =>
        rw [hsupersedes] at hcheck
        cases hcheck
    · have hne : listing.order (withKey rows (publicationExternalKey stored)) ≠ [] := by
        intro hnil
        rw [hnil, hlast] at hperm
        simpa using hperm.length_eq
      rw [if_pos hne, h.latest hlast hperm, ok_bind, refuse_iff, not_not] at hcheck
      rw [hlast]
      exact ⟨by simp, by simpa using hcheck⟩

variable {call : SaveCall}

theorem save_cases (h : Chained rows) (hsave : savePublicationReference rows call = .ok next) :
    storedPublicationReference call.reference = .ok call.reference ∧ (call.reference ∈ rows ∧ next = rows ∨
        (∀ row ∈ rows, row.taskId = call.reference.taskId → row.id ≠ call.reference.id) ∧
          checkNew call.listing rows call.reference = .ok () ∧ next = rows ++ [call.reference]) := by
  unfold savePublicationReference at hsave
  obtain ⟨stored, hstored, hsave⟩ := bind_ok hsave
  obtain rfl := storedPublicationReference_ok hstored
  refine ⟨hstored, ?_⟩
  obtain ⟨_, htask, _, -, hsave⟩ := bind_ok₂ hsave
  have htask := not_not.1 (refuse_ok htask)
  rw [getPayload_ok h, ok_bind, ← htask] at hsave
  cases hfind : rows.find? fun row => row.taskId = call.reference.taskId ∧ row.id = call.reference.id with
  | some existing =>
    rw [hfind] at hsave
    obtain ⟨_, hsame, hupsert⟩ := bind_ok hsave
    obtain rfl := not_not.1 (refuse_ok hsame)
    have hmem := List.mem_of_find?_eq_some hfind
    change upsert rows call.reference = .ok next at hupsert
    rw [h.upsert_same hmem] at hupsert
    cases hupsert
    exact .inl ⟨hmem, rfl⟩
  | none =>
    rw [hfind] at hsave
    obtain ⟨_, hcheck, hsave⟩ := bind_ok hsave
    have hfresh : ∀ row ∈ rows, row.taskId = call.reference.taskId → row.id ≠ call.reference.id := by
      intro row hrow hrowTask hid
      have hnone := List.find?_eq_none.1 hfind row hrow
      simp [hrowTask, hid] at hnone
    refine .inr ⟨hfresh, hcheck, ?_⟩
    unfold upsert at hsave
    rw [if_neg] at hsave
    · obtain ⟨_, -, hsave⟩ := bind_ok hsave
      cases hsave
      rfl
    · rw [List.any_eq_true]
      rintro ⟨row, hrow, hname⟩
      have hname : row.taskId = call.reference.taskId ∧ row.id = call.reference.id := by simpa using hname
      exact hfresh row hrow hname.1 hname.2

omit [JsHost] [Collator] in
theorem withKey_append (rows : List PublicationReference) (row : PublicationReference) (key : String) :
    withKey (rows ++ [row]) key =
      if publicationExternalKey row = key then withKey rows key ++ [row] else withKey rows key := by
  unfold withKey
  rw [List.filter_append]
  split_ifs with hkey
  · rw [List.filter_cons_of_pos (by simpa using hkey), List.filter_nil]
  · rw [List.filter_cons_of_neg (by simpa using hkey), List.filter_nil, List.append_nil]

omit [Collator] in
theorem Chained.nil : Chained [] where
  accepted := by simp
  named := by simp
  sameTask := by simp
  linear _ := Supersession.Linear.nil

theorem Chained.append (h : Chained rows) (hstored : storedPublicationReference stored = .ok stored)
    (hfresh : ∀ row ∈ rows, row.taskId = stored.taskId → row.id ≠ stored.id)
    (hcheck : checkNew listing rows stored = .ok ()) : Chained (rows ++ [stored]) := by
  obtain ⟨htask, hfirst, hlast⟩ := h.admitted hcheck
  refine ⟨?_, ?_, ?_, ?_⟩
  · intro row hrow
    rcases List.mem_append.1 hrow with hrow | hrow
    · exact h.accepted row hrow
    · rw [List.mem_singleton.1 hrow]
      exact hstored
  · rw [List.map_append, List.map_singleton]
    refine h.named.append (List.nodup_singleton _) ?_
    rw [List.disjoint_singleton]
    intro hmem
    obtain ⟨row, hrow, hname⟩ := List.mem_map.1 hmem
    rw [Prod.mk.injEq] at hname
    exact hfresh row hrow hname.1 hname.2
  · have hsame : ∀ row ∈ rows, publicationExternalKey row = publicationExternalKey stored →
        row.taskId = stored.taskId := fun row hrow hkey => htask row (mem_withKey.2 ⟨hrow, hkey⟩)
    intro row hrow other hother hkey
    rcases List.mem_append.1 hrow with hrow | hrow <;> rcases List.mem_append.1 hother with hother | hother
    · exact h.sameTask row hrow other hother hkey
    · rw [List.mem_singleton.1 hother] at hkey ⊢
      exact hsame row hrow hkey
    · rw [List.mem_singleton.1 hrow] at hkey ⊢
      exact (hsame other hother hkey.symm).symm
    · rw [List.mem_singleton.1 hrow, List.mem_singleton.1 hother]
  · intro key
    rw [withKey_append]
    split_ifs with hkey
    · subst hkey
      refine (h.linear _).snoc hfirst hlast fun hmem => ?_
      obtain ⟨row, hrow, hid⟩ := List.mem_map.1 hmem
      exact hfresh row (mem_withKey.1 hrow).1 (htask row hrow) hid
    · exact h.linear key

theorem Chained.save (h : Chained rows) (hsave : savePublicationReference rows call = .ok next) : Chained next := by
  obtain ⟨hstored, ⟨-, rfl⟩ | ⟨hfresh, hcheck, rfl⟩⟩ := save_cases h hsave
  · exact h
  · exact h.append hstored hfresh hcheck

omit [Collator] in
theorem Chained.find_self (h : Chained rows) (hrow : row ∈ rows) :
    (rows.find? fun other => other.taskId = row.taskId ∧ other.id = row.id) = some row := by
  cases hfind : rows.find? fun other => other.taskId = row.taskId ∧ other.id = row.id with
  | none =>
    have hnone := List.find?_eq_none.1 hfind row hrow
    simp at hnone
  | some other =>
    have hname : other.taskId = row.taskId ∧ other.id = row.id := by simpa using List.find?_some hfind
    rw [h.eq_of_name (List.mem_of_find?_eq_some hfind) hrow hname.1 hname.2]

theorem Chained.resave (h : Chained rows) (hrow : row ∈ rows) (listing : Listing) :
    savePublicationReference rows ⟨row.taskId, row, true, listing⟩ = .ok rows := by
  unfold savePublicationReference
  rw [h.accepted row hrow, ok_bind, refuse_of_not (not_not.2 rfl), ok_bind, refuse_of_not (by simp), ok_bind,
    getPayload_ok h, h.find_self hrow, ok_bind]
  dsimp only
  rw [refuse_of_not (not_not.2 rfl), ok_bind, h.upsert_same hrow]

theorem Chained.changed_refused (h : Chained rows) (hrow : row ∈ rows)
    (htask : call.reference.taskId = row.taskId) (hid : call.reference.id = row.id)
    (hchanged : call.reference ≠ row) : ∃ error, savePublicationReference rows call = .error error := by
  cases hsave : savePublicationReference rows call with
  | error error => exact ⟨error, rfl⟩
  | ok next =>
    obtain ⟨-, ⟨hmem, -⟩ | ⟨hfresh, -, -⟩⟩ := save_cases h hsave
    · exact absurd (h.eq_of_name hmem hrow htask hid) hchanged
    · exact absurd hid.symm (hfresh row hrow htask.symm)

theorem Chained.find_last (h : Chained rows) (listing : Listing) (key : String) :
    findPublicationReferenceByExternalKey listing rows key = .ok (withKey rows key).getLast? := by
  unfold findPublicationReferenceByExternalKey
  rw [h.listed, ok_bind]
  have hperm := listing.perm (withKey rows key)
  rcases List.eq_nil_or_concat' (withKey rows key) with hnil | ⟨before, last, hlast⟩
  · rw [hnil] at hperm ⊢
    rw [if_pos (List.perm_nil.1 hperm)]
    rfl
  · have hne : listing.order (withKey rows key) ≠ [] := by
      intro hnil
      rw [hnil, hlast] at hperm
      simpa using hperm.length_eq
    rw [if_neg hne, h.latest hlast hperm, ok_bind, hlast, List.getLast?_concat]

/-- Whatever is saved in whatever order, the accepted references of an external key belong to one Task and
each supersedes the one accepted before it. The last one is found, a reference is saved again without
change, and a changed one is refused. -/
theorem publication_supersession_chain (calls : List SaveCall) :
    let rows := run savePublicationReference [] calls
    (∀ key, (∀ row ∈ withKey rows key, ∀ other ∈ withKey rows key, row.taskId = other.taskId) ∧
      Linear (withKey rows key) ∧ (∀ references, references.Perm (withKey rows key) → references ≠ [] →
        ∃ latest, latestSqlitePublicationReference references = .ok latest ∧
          (withKey rows key).getLast? = some latest) ∧
      ∀ listing, findPublicationReferenceByExternalKey listing rows key = .ok (withKey rows key).getLast?) ∧
    (∀ call next, savePublicationReference rows call = .ok next →
      call.reference ∈ rows ∧ next = rows ∨ call.reference ∉ rows ∧ next = rows ++ [call.reference]) ∧ ∀ row ∈ rows,
      (∀ listing, savePublicationReference rows ⟨row.taskId, row, true, listing⟩ = .ok rows) ∧
      ∀ call : SaveCall, call.reference.taskId = row.taskId → call.reference.id = row.id →
        call.reference ≠ row → ∃ error, savePublicationReference rows call = .error error := by
  intro rows
  have h : Chained rows := run_preserves calls Chained.nil fun _ _ _ _ hchained hsave => hchained.save hsave
  refine ⟨fun key => ⟨?_, h.linear key, ?_, fun listing => h.find_last listing key⟩, ?_, fun row hrow => ?_⟩
  · intro row hrow other hother
    rw [mem_withKey] at hrow hother
    exact h.sameTask row hrow.1 other hother.1 (hrow.2.trans hother.2.symm)
  · intro references hperm hne
    rcases List.eq_nil_or_concat' (withKey rows key) with hnil | ⟨before, last, hlast⟩
    · rw [hnil] at hperm
      exact absurd (List.perm_nil.1 hperm) hne
    · exact ⟨last, h.latest hlast hperm, by rw [hlast, List.getLast?_concat]⟩
  · intro call next hsave
    obtain ⟨-, hfound | ⟨hfresh, -, hnext⟩⟩ := save_cases h hsave
    · exact .inl hfound
    · exact .inr ⟨fun hmem => hfresh _ hmem rfl rfl, hnext⟩
  · exact ⟨fun listing => h.resave hrow listing, fun call htask hid hchanged =>
      h.changed_refused hrow htask hid hchanged⟩

end Chains

def sampleCall (id : String) (supersedes : Option String) : SaveCall where
  taskId := "task-1"
  hasTask := true
  listing := ⟨List.reverse, List.reverse_perm⟩
  reference := ⟨1, id, "task-1", "project-1", .github, "yui/yui", .pullRequest, "7", none, none, none, none, none, none,
    none, .open, .reported, none, supersedes, .leader, .manual, none, "2026-01-05T08:00:00.000Z"⟩

/-- A reference and the one that supersedes it. -/
example : let _ : JsHost := ⟨fun _ => some 1767600000000⟩
    let _ : Collator := ⟨compare, compare⟩
    (run savePublicationReference []
      [sampleCall "publication-1" none, sampleCall "publication-2" (some "publication-1")]).map PublicationReference.id =
      ["publication-1", "publication-2"] := by decide +kernel

end Publication
