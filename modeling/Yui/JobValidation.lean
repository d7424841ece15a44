import Yui.Checked
import Yui.JobRecord
import Yui.RecordReference

/-!
# Validation of job run records

The checks of `validateDurableJob` and of the functions it calls, in the order of the source and
with its messages. A check that only refuses returns nothing.
-/

open JsText Checked Validation

/-- `Number.isSafeInteger(value)`. -/
def isSafeInteger (value : ℚ) : Bool := value.den == 1 && value.num.natAbs ≤ maxSafeInteger

def requirePositiveInteger (value : ℚ) (label : String) : Except String Unit :=
  refuse (isSafeInteger value = false ∨ value < 1) (label ++ " must be a positive integer.")

def checkText (value label : String) : Except String Unit := do
  let _ ← requireText value label
  .ok ()

def checkIdentity (value label : String) : Except String Unit := do
  let _ ← requireIdentity value label
  .ok ()

def checkRecordReference (taskId localId : String) (kind : TaskRecordKind) : Except String Unit := do
  let _ ← validateTaskRecordReference ⟨taskId, localId⟩ kind
  .ok ()

/-- A text check of a field that may be `undefined` refuses what is not a text. -/
def requirePresent (value : Option String) (label : String) : Except String String :=
  match value with
  | none => .error (label ++ " is invalid.")
  | some value => .ok value

/-- A check of a field that may be `undefined`. -/
def whenPresent {α : Type} (value : Option α) (check : α → Except String Unit) : Except String Unit :=
  match value with
  | none => .ok ()
  | some value => check value

def checkAll {α : Type} (values : List α) (check : α → Except String Unit) : Except String Unit :=
  match values with
  | [] => .ok ()
  | value :: values => do
    check value
    checkAll values check

def requireTimestamp [JsHost] (value label : String) : Except String Unit :=
  refuse (JsHost.dateParse value = none) (label ++ " must be an ISO timestamp.")

/-- `value.startsWith("/")`. -/
def startsWithSlash (value : String) : Bool := value.toList.head? == some '/'

/-- `value.includes("..")`. -/
def includesDots : List Char → Bool
  | [] => false
  | [_] => false
  | a :: b :: rest => (a == '.' && b == '.') || includesDots (b :: rest)

/-- `value.split("/")`. -/
def segments (value : String) : List String := (value.toList.splitOn '/').map String.ofList

/-- `/^stem-\d+$/u`. -/
def isNumbered (stem value : String) : Bool :=
  match value.toList.dropPrefix? (stem ++ "-").toList with
  | some (d :: ds) => (d :: ds).all Char.isDigit
  | _ => false

def asciiLower (c : Char) : Char := c.toLower

/-- `/^[a-f0-9]{40}(?:[a-f0-9]{24})?$/u`. -/
def isCommitId (chars : List Char) : Bool :=
  (chars.length == 40 || chars.length == 64) && chars.all isHexChar

def requireCommit (value label : String) : Except String Unit := do
  let normalized ← requireText value label
  refuse (isCommitId (normalized.toList.map asciiLower) = false) (label ++ " is invalid.")

section Artifacts

def isArtifactIdentityChar (c : Char) : Bool := c.isAlphanum || c == '.' || c == '_' || c == '-'

/-- `/^[a-zA-Z0-9][a-zA-Z0-9._-]{0,127}$/u`. -/
def isArtifactIdentity (value : String) : Bool :=
  match value.toList with
  | [] => false
  | c :: cs => c.isAlphanum && decide (cs.length ≤ 127) && cs.all isArtifactIdentityChar

def requireArtifactIdentity (value : String) : Except String Unit :=
  refuse (isArtifactIdentity value = false) "Invalid artifact owner/Run identity."

def checkJobScope : JobScope → Except String Unit
  | .global => .ok ()
  | .task taskId => do
    checkIdentity taskId "Job Task id"
    refuse (isNumbered "task" taskId = false) "Invalid Job Task id."

def requireCommitId (value : String) : Except String String :=
  let commit := trim value
  if isCommitId commit.toList then .ok commit
  else .error "Managed git returned an invalid commit id."

def globChars : List Char := ['*', '?', '[', ']', ':']

def checkArtifactSegment (segment : String) : Except String Unit := do
  refuse (segment = "") "Artifact relativePath has an empty path segment."
  refuse (segment ∈ reservedIdentities)
    ("Artifact relativePath has a forbidden segment: " ++ segment ++ ".")
  refuse (segment.toList.map asciiLower = ".git".toList)
    "Artifact relativePath may not enter the Git control directory."
  refuse (trim segment ≠ segment)
    "Artifact relativePath segment has leading or trailing whitespace."

def safeRelativeArtifactPath (relativePath : String) : Except String Unit := do
  refuse (relativePath = "") "Artifact relativePath is required."
  refuse (includesNul relativePath = true) "Artifact relativePath contains a NUL byte."
  refuse ('\\' ∈ relativePath.toList) "Artifact relativePath must use forward slashes."
  refuse (startsWithSlash relativePath = true) "Artifact relativePath must be relative."
  refuse (∃ c ∈ relativePath.toList, c.toNat < 32)
    "Artifact relativePath contains control characters."
  refuse (∃ c ∈ relativePath.toList, c ∈ globChars)
    "Artifact relativePath contains a glob or pathspec metacharacter (*?[]:)."
  checkAll (segments relativePath) checkArtifactSegment

/-- `value.length` counts UTF-16 code units. -/
def utf16Length (value : String) : ℕ :=
  (value.toList.map fun c => if c.toNat < 0x10000 then 1 else 2).sum

def validateJobArtifactReference (ref : JobArtifactReference) (run : JobFacts) :
    Except String Unit := do
  checkJobScope ref.sourceRun.scope
  requireArtifactIdentity ref.sourceRun.runId
  match ref.owner with
  | .job scope jobId => do
    checkJobScope scope
    requireArtifactIdentity jobId
    refuse (scope ≠ ref.sourceRun.scope) "Artifact owner/source scope mismatch."
    refuse (jobId ≠ run.definitionId) "Artifact Job owner mismatch."
  | .task taskId => checkJobScope (.task taskId)
  refuse (ref.sourceRun ≠ runReference run) "Artifact source Run mismatch."
  let version ← requireCommitId ref.version
  refuse (version ≠ ref.version) "Artifact version must be an exact commit."
  safeRelativeArtifactPath ref.relativePath
  refuse (512 < utf16Length ref.relativePath) "Artifact reference path exceeds 512 characters."
  refuse (isHexDigest ref.digest = false) "Invalid artifact digest."

def maxArtifacts : ℕ := 256

def maxArtifactBytes : ℕ := 128 * 1024

def validateRunArtifacts (run : JobRun) : Except String Unit :=
  whenPresent run.artifacts fun artifacts => do
    refuse (maxArtifacts < artifacts.length ∨
        maxArtifactBytes < (Json.arr (artifacts.map JobArtifactReference.json)).byteLength)
      "Run artifacts exceed the bounded reference limit."
    checkAll artifacts fun ref => validateJobArtifactReference ref run.toJobFacts

def artifactsAppendOnly (before after : JobRun) : Bool :=
  (before.artifacts.getD []).isPrefixOf (after.artifacts.getD [])

end Artifacts

section BusinessResult

def maxBusinessResultBytes : ℕ := 256 * 1024

def ownerMatches (ref : JobResultReference) (run : JobRunReference) : Bool :=
  match ref.kind, ref.owner with
  | .taskResult, .task taskId | .workItemResult, .task taskId => isNumbered "task" taskId
  | .runRecord, .run owner | .executionEvidence, .run owner => owner == run
  | _, _ => false

def checkResultReference (run : JobRunReference) (ref : JobResultReference) :
    Except String Unit := do
  refuse (ownerMatches ref run = false ∨ ref.sourceRun ≠ run ∨ isHexDigest ref.version = false)
    "Invalid Job result evidence identity/version."
  checkText ref.locator "Job result evidence locator"
  refuse (startsWithSlash ref.locator = true ∨ ".." ∈ segments ref.locator)
    "Invalid Job evidence locator."

def validateBusinessResult (result : JobBusinessResult) (run : JobRunReference) :
    Except String Unit := do
  refuse (result.schemaVersion ≠ 1 ∨ result.sourceRun ≠ run) "Job result source Run mismatch."
  refuse (isDurableJobTerminal result.outcome = false) "Invalid Job business outcome."
  checkText result.summary "Job result summary"
  refuse (maxBusinessResultBytes < result.json.byteLength) "Job business result exceeds 256 KiB."
  checkAll result.evidence (checkResultReference run)

end BusinessResult

def validateTaskDelegation (value : TaskDelegation) : Except String Unit := do
  refuse (isNumbered "task" value.taskId = false) "Invalid delegated Task."
  match value.goal with
  | .workItem =>
    refuse (isNumbered "work-item" (value.workItemId.getD "") = false ∨
        (∀ revision ∈ value.workItemRevision, isSafeInteger revision = false ∨ revision < 1) ∨
        isHexDigest (value.workItemDefinitionDigest.getD "") = false)
      "Exact delegated WorkItem required."
  | _ =>
    refuse (value.workItemId ≠ none ∨ value.workItemRevision ≠ none ∨
      value.workItemDefinitionDigest ≠ none) "Invalid delegated goal."

def validateDurableJobOwner (owner : DurableJobOwner) (taskId : String) : Except String Unit :=
  match owner with
  | .integrationAttempt id => checkRecordReference taskId id .integrationAttempt
  | .workItem id => checkRecordReference taskId id .workItem
  | .task => .ok ()

def validateEnvMap (env : EnvMap) : Except String Unit :=
  checkAll env fun (key, value) => do
    refuse (key = "" ∨ '=' ∈ key.toList ∨ includesNul key = true)
      ("DurableJob env key is invalid: " ++ key ++ ".")
    refuse (includesNul value = true) ("DurableJob env value is invalid: " ++ key ++ ".")

def checkStep (step : DurableJobStep) (name : String) : Except String Unit := do
  checkText step.command ("DurableJob step command (" ++ name ++ ")")
  whenPresent step.argv fun argv => do
    refuse (argv = []) "Step argv must be nonempty."
    checkAll argv fun value => checkText value ("DurableJob step argv (" ++ name ++ ")")
  whenPresent step.cwd fun cwd => do
    let cwd ← requireText cwd "Step cwd"
    refuse (startsWithSlash cwd = false) "DurableJob step cwd must be absolute."
  whenPresent step.env validateEnvMap
  whenPresent step.timeoutMs fun timeout => requirePositiveInteger timeout "Step timeout"

/-- The loop over the steps, with the names seen so far. -/
def checkSteps (names : List String) : List DurableJobStep → Except String Unit
  | [] => .ok ()
  | step :: steps => do
    let name ← requireText step.name "DurableJob step name"
    refuse (name ∈ names) ("DurableJob step names must be unique: " ++ name ++ ".")
    checkStep step name
    checkSteps (name :: names) steps

def validateJobExecutionConfiguration (job : JobFacts) : Except String Unit := do
  let head ← requirePresent job.head "DurableJob head"
  requireCommit head "DurableJob head"
  let workspace ← requirePresent job.workspace "DurableJob workspace"
  checkText workspace "DurableJob workspace"
  refuse (startsWithSlash workspace = false) "DurableJob workspace must be an absolute path."
  match job.env with
  | none => .error "DurableJob env must be a map."
  | some env => validateEnvMap env
  refuse (job.steps.getD [] = []) "DurableJob requires at least one step."
  checkSteps [] (job.steps.getD [])

def checkExitCode (exitCode : Option ℚ) (message : String) : Except String Unit :=
  whenPresent exitCode fun code => refuse (isSafeInteger code = false ∨ code < 0) message

def validateStepResult (step : DurableJobStepResult) : Except String Unit := do
  checkText step.name "DurableJob step result name"
  checkExitCode step.exitCode ("DurableJob step exitCode is invalid: " ++ step.name ++ ".")
  requirePositiveInteger step.durationMs ("DurableJob step durationMs (" ++ step.name ++ ")")
  checkText step.logPath ("DurableJob step logPath (" ++ step.name ++ ")")
  requireCommit step.head ("DurableJob step head (" ++ step.name ++ ")")

def normalizeDurableJobResult (result : DurableJobResult) : Except String Unit := do
  refuse (isDurableJobTerminal result.outcome = false)
    ("DurableJob result outcome must be terminal: " ++ result.outcome.text ++ ".")
  checkExitCode result.exitCode "DurableJob result exitCode is invalid."
  whenPresent result.failedStep fun name => checkText name "DurableJob result failedStep"
  whenPresent result.unknownReason fun text => checkText text "DurableJob result unknownReason"
  checkAll result.steps validateStepResult
