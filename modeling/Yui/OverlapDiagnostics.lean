import Mathlib.Data.List.Dedup
import Mathlib.Data.List.Permutation
import Yui.RecordReference
import Yui.SessionTokenReplay

/-!
# Overlap diagnostics

`integration/overlapDiagnostics.ts`: ChangeSets of one Project that change common paths are diagnosed
pair by pair. The subjects are sorted by their references first, so that the report does not depend on
the order in which they come.
-/

open JsText LocaleOrder

/-- `toLowerCase` belongs to the host. -/
class TextCase where
  toLowerCase : String → String

namespace Overlap

section Paths

/-- `value.split(separator)` for a separator of one character. -/
def splitOn (separator : Char) (value : String) : List String :=
  (value.toList.splitOnP (· == separator)).map String.ofList

def includes (value part : String) : Bool := decide (part.toList <:+: value.toList)

def startsWith (value part : String) : Bool := part.toList.isPrefixOf value.toList

def endsWith (value part : String) : Bool := part.toList.isSuffixOf value.toList

inductive ChangeSetManifestTag where
  | contract | schema | migration | command | test | snapshot | package | deletion
  deriving DecidableEq

variable (path file : String) (segments : List String)

def isPackageFile : Bool :=
  file == "package.json" || file == "package-lock.json" || endsWith path "/package.json" ||
    endsWith path "/package-lock.json"

/-- The expression is `(?:^|\/)migrations?\/`. -/
def isMigrationPath : Bool :=
  (segments.any fun segment => segment == "migration" || segment == "migrations") ||
    startsWith path "migration/" || startsWith path "migrations/" || includes path "/migration/" ||
    includes path "/migrations/"

def isSchemaPath : Bool := includes file "schema" || includes path "/schema/" || includes path "/schemas/"

def isSnapshotPath : Bool := includes path "/__snapshots__/" || endsWith file ".snap"

def isCommandPath : Bool :=
  segments.contains "commands" || startsWith file "cli" || includes path "/bin/"

def isContractPath : Bool :=
  file == "index.ts" || file == "index.js" || file == "index.mjs" || endsWith file ".d.ts" ||
    startsWith file "protocol" || includes path "/api/" || includes path "/contract/" ||
    includes path "/contracts/"

/-- A text of the expression `[^/]+\.(?:test|spec)\.[^/]+`, which a last segment has to be. -/
def isTestFile (file : String) : Bool :=
  [".test.", ".spec."].any fun middle => file.toList.tails.any fun rest =>
    rest.length < file.length && middle.toList.isPrefixOf rest && middle.length < rest.length

def isTestPath : Bool :=
  segments.contains "test" || segments.contains "tests" || segments.contains "__tests__" ||
    isTestFile ((splitOn '/' file).getLastD "") || endsWith file ".test.js" || endsWith file ".test.ts" ||
    endsWith file ".spec.js" || endsWith file ".spec.ts"

/-- Every semantic tag that a changed path matches. -/
def manifestTagsForPath [TextCase] (path : String) : List ChangeSetManifestTag :=
  let normalized := "/".intercalate (splitOn '\\' path)
  let segments := splitOn '/' normalized
  let lower := TextCase.toLowerCase normalized
  let lowerFile := TextCase.toLowerCase (segments.getLastD normalized)
  (if isPackageFile lower lowerFile then [ChangeSetManifestTag.package] else []) ++
    (if isMigrationPath lower segments then [ChangeSetManifestTag.migration] else []) ++
    (if isSchemaPath lower lowerFile then [ChangeSetManifestTag.schema] else []) ++
    (if isSnapshotPath lower lowerFile then [ChangeSetManifestTag.snapshot] else []) ++
    (if isCommandPath lower lowerFile segments then [ChangeSetManifestTag.command] else []) ++
    (if isContractPath lower lowerFile then [ChangeSetManifestTag.contract] else []) ++
    if isTestPath lowerFile segments then [ChangeSetManifestTag.test] else []

end Paths

section Texts

def codeUnits (value : String) : List ℕ :=
  value.toList.flatMap fun c =>
    if c.toNat < 0x10000 then [c.toNat]
    else [0xD800 + (c.toNat - 0x10000) / 0x400, 0xDC00 + (c.toNat - 0x10000) % 0x400]

/-- `values.sort()`: by UTF-16 code units. -/
def sortTexts (values : List String) : List String :=
  values.mergeSort fun left right => decide (codeUnits left ≤ codeUnits right)

/-- `values.sort(compare)`. -/
def sortBy {α : Type} (compare : α → α → ℤ) (values : List α) : List α :=
  values.mergeSort fun left right => decide (compare left right ≤ 0)

def sortedIntersection (left right : List String) : List String :=
  sortTexts (left.filter (right.contains ·)).eraseDups

theorem mem_sortTexts {values : List String} {value : String} : value ∈ sortTexts values ↔ value ∈ values :=
  (List.mergeSort_perm values _).mem_iff

theorem mem_sortedIntersection {left right : List String} {path : String} :
    path ∈ sortedIntersection left right ↔ path ∈ left ∧ path ∈ right := by
  unfold sortedIntersection
  rw [mem_sortTexts, List.mem_eraseDups, List.mem_filter, List.contains_iff_mem]

end Texts

section Report

inductive OverlapFindingKind where
  | pathOnly | contract | schemaMigration | cliSurface | packageVersion | highRiskDeletion
  deriving DecidableEq

def OverlapFindingKind.text : OverlapFindingKind → String
  | .pathOnly => "path-only"
  | .contract => "contract"
  | .schemaMigration => "schema-migration"
  | .cliSurface => "cli-surface"
  | .packageVersion => "package-version"
  | .highRiskDeletion => "high-risk-deletion"

inductive OverlapRisk where
  | high | medium | low
  deriving DecidableEq

/-- The subject of a ChangeSet that `validateChangeSet` accepts. -/
structure OverlapSubject where
  taskId : String
  workItemId : String
  projectId : String
  changeSetId : String
  baseCommit : String
  headCommit : String
  changedPaths : List String
  manifestTags : List ChangeSetManifestTag
  deletedPaths : List String
  reference : (validateTaskRecordReference ⟨taskId, changeSetId⟩ .changeSet).toOption.isSome = true
  deleted : deletedPaths ⊆ changedPaths

structure OverlapFinding where
  kind : OverlapFindingKind
  risk : OverlapRisk
  changeSetIds : List String
  paths : List String
  detail : String

structure OverlapReport where
  subjects : List OverlapSubject
  findings : List OverlapFinding
  suggestedOrder : List String
  reviewAreas : List String

def overlapSubjectKey (subject : OverlapSubject) : String :=
  let reference := (validateTaskRecordReference ⟨subject.taskId, subject.changeSetId⟩ .changeSet).toOption.get
    subject.reference
  reference.taskId ++ "/" ++ reference.localId

def hasTag (subject : OverlapSubject) (tag : ChangeSetManifestTag) : Bool := subject.manifestTags.contains tag

def bothTagged (left right : OverlapSubject) (tag : ChangeSetManifestTag) : Bool :=
  hasTag left tag && hasTag right tag

def carriesSchemaOrMigration (subject : OverlapSubject) : Bool :=
  hasTag subject .schema || hasTag subject .migration

variable [LocaleOrder] [TextCase]

def compareSubjects (left right : OverlapSubject) : ℤ :=
  localeCompare (overlapSubjectKey left) (overlapSubjectKey right)

def compareFindings (left right : OverlapFinding) : ℤ :=
  let kind := localeCompare left.kind.text right.kind.text
  if kind ≠ 0 then kind
  else localeCompare (",".intercalate left.changeSetIds) (",".intercalate right.changeSetIds)

section Pair

variable (left right : OverlapSubject)

def shared : List String := sortedIntersection left.changedPaths right.changedPaths

def pairKeys : List String := sortTexts [overlapSubjectKey left, overlapSubjectKey right]

/-- One finding if its condition holds and it has paths. -/
def findingOf (kind : OverlapFindingKind) (risk : OverlapRisk) (applies : Bool) (paths : List String)
    (detail : String) : List OverlapFinding :=
  if applies && !paths.isEmpty then [⟨kind, risk, pairKeys left right, paths, detail⟩] else []

/-- The shared paths of which a tag is among the given ones. -/
def tagged (tags : List ChangeSetManifestTag) : List String :=
  (shared left right).filter fun path => (manifestTagsForPath path).any tags.contains

def deletionFinding : List OverlapFinding :=
  let deletedVsOther := sortedIntersection left.deletedPaths right.changedPaths ++
    sortedIntersection right.deletedPaths left.changedPaths
  findingOf left right .highRiskDeletion .high true (sortTexts deletedVsOther.eraseDups)
    "One ChangeSet deletes paths the other still changes; reconcile deletion intent before integration."

def schemaFinding : List OverlapFinding :=
  let bothMigration := hasTag left .migration && hasTag right .migration
  findingOf left right .schemaMigration (if bothMigration then .high else .medium)
    (bothTagged left right .schema || bothTagged left right .migration)
    (tagged left right [.schema, .migration])
    (if bothMigration then
      "Both ChangeSets add migrations; their sequence must be reviewed to keep the migration order linear."
    else "Both ChangeSets touch schema or migration code; review the schema evolution order.")

def contractFinding : List OverlapFinding :=
  findingOf left right .contract .high (bothTagged left right .contract) (tagged left right [.contract])
    "Both ChangeSets modify the same public contract; review API compatibility before integration."

def cliFinding : List OverlapFinding :=
  findingOf left right .cliSurface .medium
    ((hasTag left .command || hasTag left .snapshot) && (hasTag right .command || hasTag right .snapshot))
    (tagged left right [.command, .snapshot])
    "Both ChangeSets touch the CLI surface or its snapshots; review the combined command behavior."

def packageFinding : List OverlapFinding :=
  findingOf left right .packageVersion .medium (bothTagged left right .package)
    (tagged left right [.package])
    "Both ChangeSets modify package metadata; review the merged version and dependency set."

def claimingFindings : List OverlapFinding :=
  deletionFinding left right ++ schemaFinding left right ++ contractFinding left right ++
    cliFinding left right ++ packageFinding left right

/-- The shared paths that no other finding claims. -/
def remaining : List String :=
  (shared left right).filter fun path =>
    !((claimingFindings left right).flatMap OverlapFinding.paths).contains path

def remainingFinding : List OverlapFinding :=
  findingOf left right .pathOnly .low true (remaining left right)
    "Changed paths overlap without a shared semantic tag; expect a text conflict resolved by Git."

def pairFindings : List OverlapFinding :=
  if (shared left right).isEmpty then [] else claimingFindings left right ++ remainingFinding left right

end Pair

def laterPairs {α : Type} : List α → List (α × α)
  | [] => []
  | first :: later => later.map (fun other => (first, other)) ++ laterPairs later

def highRiskCount (findings : List OverlapFinding) (key : String) : ℕ :=
  ((findings.filter fun finding => finding.risk = .high).flatMap OverlapFinding.changeSetIds).count key

def compareOrder (findings : List OverlapFinding) (left right : OverlapSubject) : ℤ :=
  let leftSchema : ℤ := if carriesSchemaOrMigration left then 0 else 1
  let rightSchema : ℤ := if carriesSchemaOrMigration right then 0 else 1
  let leftRisk : ℤ := highRiskCount findings (overlapSubjectKey left)
  let rightRisk : ℤ := highRiskCount findings (overlapSubjectKey right)
  if leftSchema ≠ rightSchema then leftSchema - rightSchema
  else if leftRisk ≠ rightRisk then leftRisk - rightRisk
  else compareSubjects left right

def suggestedOrder (subjects : List OverlapSubject) (findings : List OverlapFinding) : List String :=
  (sortBy (compareOrder findings) subjects).map overlapSubjectKey

def overlapFindingKinds : List OverlapFindingKind :=
  [.pathOnly, .contract, .schemaMigration, .cliSurface, .packageVersion, .highRiskDeletion]

def reviewAreaLabel : OverlapFindingKind → String
  | .pathOnly => "path overlap (low): text conflicts resolved by Git"
  | .contract => "public contract (high): API compatibility"
  | .schemaMigration => "schema/migration (high/medium): migration sequence and schema evolution"
  | .cliSurface => "CLI surface (medium): combined command behavior and snapshots"
  | .packageVersion => "package metadata (medium): merged version and dependencies"
  | .highRiskDeletion => "high-risk deletion (high): deletion intent across Tasks"

def reviewAreas (findings : List OverlapFinding) : List String :=
  (overlapFindingKinds.filter fun kind => findings.any fun finding =>
    decide (finding.kind = kind) && decide (finding.risk ≠ .low)).map reviewAreaLabel

def subjectFindings (subjects : List OverlapSubject) : List OverlapFinding :=
  (laterPairs subjects).flatMap fun pair =>
    if pair.1.projectId ≠ pair.2.projectId then [] else pairFindings pair.1 pair.2

def diagnoseOverlap (subjects : List OverlapSubject) : OverlapReport :=
  let sortedSubjects := sortBy compareSubjects subjects
  let findings := sortBy compareFindings (subjectFindings sortedSubjects)
  ⟨sortedSubjects, findings, suggestedOrder sortedSubjects findings, reviewAreas findings⟩

end Report

section Pair

variable [LocaleOrder] [TextCase] {left right : OverlapSubject} {finding other : OverlapFinding} {path : String}

omit [LocaleOrder] [TextCase] in
theorem mem_shared : path ∈ shared left right ↔ path ∈ left.changedPaths ∧ path ∈ right.changedPaths :=
  mem_sortedIntersection

omit [LocaleOrder] [TextCase] in
theorem pairKeys_perm : (pairKeys left right).Perm [overlapSubjectKey left, overlapSubjectKey right] :=
  List.mergeSort_perm _ _

omit [LocaleOrder] [TextCase] in
theorem mem_findingOf {kind : OverlapFindingKind} {risk : OverlapRisk} {applies : Bool} {paths : List String}
    {detail : String} : finding ∈ findingOf left right kind risk applies paths detail ↔
      (applies = true ∧ paths ≠ []) ∧ finding = ⟨kind, risk, pairKeys left right, paths, detail⟩ := by
  unfold findingOf
  by_cases h : applies = true ∧ paths ≠ []
  · rw [if_pos (by simp [h]), List.mem_singleton, and_iff_right h]
  · have hnot : ¬ (applies && !paths.isEmpty) = true := by simpa [List.isEmpty_iff] using h
    simp [hnot, h]

/-- A finding of the pair that claims shared paths. -/
structure Claims (left right : OverlapSubject) (finding : OverlapFinding) : Prop where
  keys : finding.changeSetIds = pairKeys left right
  kind : finding.kind ≠ .pathOnly
  paths : ∀ path ∈ finding.paths, path ∈ shared left right

omit [LocaleOrder] in
theorem claims_of_mem (h : finding ∈ claimingFindings left right) : Claims left right finding := by
  have htagged : ∀ tags, ∀ path ∈ tagged left right tags, path ∈ shared left right :=
    fun tags path hpath => List.mem_of_mem_filter hpath
  unfold claimingFindings at h
  simp only [List.mem_append] at h
  rcases h with (((h | h) | h) | h) | h
  · obtain ⟨_, rfl⟩ := mem_findingOf.1 h
    refine ⟨rfl, by simp, fun path hpath => mem_shared.2 ?_⟩
    rw [mem_sortTexts, List.mem_eraseDups, List.mem_append] at hpath
    rcases hpath with hpath | hpath
    · obtain ⟨hdeleted, hchanged⟩ := mem_sortedIntersection.1 hpath
      exact ⟨left.deleted hdeleted, hchanged⟩
    · obtain ⟨hdeleted, hchanged⟩ := mem_sortedIntersection.1 hpath
      exact ⟨hchanged, right.deleted hdeleted⟩
  · obtain ⟨_, rfl⟩ := mem_findingOf.1 h
    exact ⟨rfl, by simp, htagged _⟩
  · obtain ⟨_, rfl⟩ := mem_findingOf.1 h
    exact ⟨rfl, by simp, htagged _⟩
  · obtain ⟨_, rfl⟩ := mem_findingOf.1 h
    exact ⟨rfl, by simp, htagged _⟩
  · obtain ⟨_, rfl⟩ := mem_findingOf.1 h
    exact ⟨rfl, by simp, htagged _⟩

omit [LocaleOrder] in
theorem mem_pairFindings : finding ∈ pairFindings left right ↔
    finding ∈ claimingFindings left right ∨ finding ∈ remainingFinding left right := by
  unfold pairFindings
  split_ifs with hempty
  · have hnone : ∀ path, path ∉ shared left right := by
      rw [List.isEmpty_iff] at hempty
      simp [hempty]
    refine iff_of_false List.not_mem_nil ?_
    rintro (h | h)
    · -- a claiming finding has a path, and every such path is shared
      have hclaims := claims_of_mem h
      have hpaths : finding.paths ≠ [] := by
        unfold claimingFindings at h
        simp only [List.mem_append] at h
        rcases h with (((h | h) | h) | h) | h <;>
          · obtain ⟨⟨_, hne⟩, rfl⟩ := mem_findingOf.1 h
            exact hne
      obtain ⟨path, hpath⟩ := List.exists_mem_of_ne_nil _ hpaths
      exact hnone path (hclaims.paths path hpath)
    · obtain ⟨⟨_, hne⟩, _⟩ := mem_findingOf.1 h
      obtain ⟨path, hpath⟩ := List.exists_mem_of_ne_nil _ hne
      exact hnone path (List.mem_of_mem_filter hpath)
  · exact List.mem_append

omit [LocaleOrder] in
theorem changeSetIds_of_pairFindings (h : finding ∈ pairFindings left right) :
    finding.changeSetIds = pairKeys left right := by
  rcases mem_pairFindings.1 h with h | h
  · exact (claims_of_mem h).keys
  · obtain ⟨_, rfl⟩ := mem_findingOf.1 h
    rfl

omit [LocaleOrder] in
/-- Every shared path is claimed or remains. -/
theorem exists_pairFinding_iff :
    (∃ finding ∈ pairFindings left right, path ∈ finding.paths) ↔ path ∈ shared left right := by
  constructor
  · rintro ⟨finding, hfinding, hpath⟩
    rcases mem_pairFindings.1 hfinding with h | h
    · exact (claims_of_mem h).paths path hpath
    · obtain ⟨_, rfl⟩ := mem_findingOf.1 h
      exact List.mem_of_mem_filter hpath
  · intro hshared
    by_cases hclaimed : path ∈ (claimingFindings left right).flatMap OverlapFinding.paths
    · obtain ⟨finding, hfinding, hpath⟩ := List.mem_flatMap.1 hclaimed
      exact ⟨finding, mem_pairFindings.2 (.inl hfinding), hpath⟩
    · have hremaining : path ∈ remaining left right := List.mem_filter.2 ⟨hshared, by simpa using hclaimed⟩
      refine ⟨_, mem_pairFindings.2 (.inr (mem_findingOf.2 ⟨⟨rfl, ?_⟩, rfl⟩)), hremaining⟩
      exact List.ne_nil_of_mem hremaining

omit [LocaleOrder] in
theorem exists_deletionFinding (h : path ∈ left.deletedPaths ∧ path ∈ right.changedPaths ∨
      path ∈ right.deletedPaths ∧ path ∈ left.changedPaths) :
    ∃ finding ∈ pairFindings left right, finding.kind = .highRiskDeletion ∧ path ∈ finding.paths := by
  have hpath : path ∈ sortTexts (sortedIntersection left.deletedPaths right.changedPaths ++
      sortedIntersection right.deletedPaths left.changedPaths).eraseDups := by
    rw [mem_sortTexts, List.mem_eraseDups, List.mem_append, mem_sortedIntersection, mem_sortedIntersection]
    exact h
  have hdeletion : ∃ finding ∈ deletionFinding left right,
      finding.kind = .highRiskDeletion ∧ path ∈ finding.paths :=
    ⟨_, mem_findingOf.2 ⟨⟨rfl, List.ne_nil_of_mem hpath⟩, rfl⟩, rfl, hpath⟩
  obtain ⟨finding, hfinding, hkind, hpath⟩ := hdeletion
  refine ⟨finding, mem_pairFindings.2 (.inl ?_), hkind, hpath⟩
  simp only [claimingFindings, List.mem_append, hfinding, true_or]

omit [LocaleOrder] in
theorem disjoint_of_pathOnly (hfinding : finding ∈ pairFindings left right)
    (hkind : finding.kind = .pathOnly) (hother : other ∈ pairFindings left right) (hne : other ≠ finding)
    (hpath : path ∈ finding.paths) : path ∉ other.paths := by
  rcases mem_pairFindings.1 hfinding with h | h
  · exact absurd hkind (claims_of_mem h).kind
  · obtain ⟨_, rfl⟩ := mem_findingOf.1 h
    rcases mem_pairFindings.1 hother with hclaiming | hremaining
    · intro hmem
      have hunclaimed := (List.mem_filter.1 hpath).2
      rw [Bool.not_eq_true', List.contains_eq_mem, decide_eq_false_iff_not] at hunclaimed
      exact hunclaimed (List.mem_flatMap.2 ⟨other, hclaiming, hmem⟩)
    · obtain ⟨_, rfl⟩ := mem_findingOf.1 hremaining
      exact absurd rfl hne

end Pair

section Pairs

variable {α : Type} {values : List α} {first second : α}

theorem mem_of_laterPairs (h : (first, second) ∈ laterPairs values) : first ∈ values ∧ second ∈ values := by
  induction values with
  | nil => cases h
  | cons head later ih =>
    rcases List.mem_append.1 h with h | h
    · obtain ⟨other, hother, heq⟩ := List.mem_map.1 h
      cases heq
      exact ⟨List.mem_cons_self, List.mem_cons_of_mem _ hother⟩
    · exact ⟨List.mem_cons_of_mem _ (ih h).1, List.mem_cons_of_mem _ (ih h).2⟩

theorem laterPairs_total (hfirst : first ∈ values) (hsecond : second ∈ values) (hne : first ≠ second) :
    (first, second) ∈ laterPairs values ∨ (second, first) ∈ laterPairs values := by
  induction values with
  | nil => cases hfirst
  | cons head later ih =>
    rcases List.mem_cons.1 hfirst with rfl | hbefore
    · have hlater := (List.mem_cons.1 hsecond).resolve_left hne.symm
      exact .inl (List.mem_append_left _ (List.mem_map.2 ⟨second, hlater, rfl⟩))
    · rcases List.mem_cons.1 hsecond with rfl | hafter
      · exact .inr (List.mem_append_left _ (List.mem_map.2 ⟨first, hbefore, rfl⟩))
      · exact (ih hbefore hafter).imp (List.mem_append_right _) (List.mem_append_right _)

theorem laterPairs_asymm (hvalues : values.Nodup) (h : (first, second) ∈ laterPairs values) :
    (second, first) ∉ laterPairs values := by
  induction values with
  | nil => cases h
  | cons head later ih =>
    rw [List.nodup_cons] at hvalues
    intro hswap
    rcases List.mem_append.1 h with hhead | hlater
    · obtain ⟨other, hother, heq⟩ := List.mem_map.1 hhead
      cases heq
      rcases List.mem_append.1 hswap with hback | hback
      · obtain ⟨another, hanother, heq⟩ := List.mem_map.1 hback
        cases heq
        exact hvalues.1 hother
      · exact hvalues.1 (mem_of_laterPairs hback).2
    · rcases List.mem_append.1 hswap with hback | hback
      · obtain ⟨another, hanother, heq⟩ := List.mem_map.1 hback
        cases heq
        exact hvalues.1 (mem_of_laterPairs hlater).2
      · exact ih hvalues.2 hlater hback

end Pairs

section Exact

variable [LocaleOrder] [TextCase] {subjects others : List OverlapSubject} {left right : OverlapSubject}

def Concerns (finding : OverlapFinding) (left right : OverlapSubject) : Prop :=
  finding.changeSetIds.Perm [overlapSubjectKey left, overlapSubjectKey right]

/-- The references differ, and `localeCompare` tells them apart. -/
structure Told (subjects : List OverlapSubject) : Prop where
  distinct : (subjects.map overlapSubjectKey).Nodup
  order : ∀ left ∈ subjects, ∀ right ∈ subjects, compareSubjects left right = 0 →
    overlapSubjectKey left = overlapSubjectKey right

omit [TextCase] in
theorem pairwise_sortBy (subjects : List OverlapSubject) :
    (sortBy compareSubjects subjects).Pairwise fun left right => compareSubjects left right ≤ 0 := by
  have h : (sortBy compareSubjects subjects).Pairwise fun left right =>
      decide (compareSubjects left right ≤ 0) = true := by
    refine List.pairwise_mergeSort (fun a b c hab hbc => ?_) (fun a b => ?_) subjects
    · rw [decide_eq_true_iff] at hab hbc ⊢
      exact LocaleOrder.trans _ _ _ hab hbc
    · rw [Bool.or_eq_true, decide_eq_true_iff, decide_eq_true_iff]
      by_contra hboth
      rw [not_or, not_le, not_le] at hboth
      have hneg := (LocaleOrder.neg_iff _ _).2 hboth.1
      exact absurd hboth.2 hneg.not_gt
  exact h.imp fun h => by rwa [decide_eq_true_iff] at h

omit [TextCase] in
theorem sortBy_eq_of_perm (h : Told subjects) (hperm : others.Perm subjects) :
    sortBy compareSubjects others = sortBy compareSubjects subjects := by
  have hothers := List.mergeSort_perm others fun left right => decide (compareSubjects left right ≤ 0)
  have hsubjects := List.mergeSort_perm subjects fun left right => decide (compareSubjects left right ≤ 0)
  refine List.Perm.eq_of_pairwise (fun left right hleft hright hle hge => ?_) (pairwise_sortBy others)
    (pairwise_sortBy subjects) (hothers.trans (hperm.trans hsubjects.symm))
  have hleft := hperm.subset (hothers.subset hleft)
  have hright := hsubjects.subset hright
  have hzero : compareSubjects left right = 0 := by
    apply le_antisymm hle
    exact not_lt.1 fun hlt => hge.not_gt ((LocaleOrder.neg_iff _ _).1 hlt)
  exact List.inj_on_of_nodup_map h.distinct hleft hright (h.order left hleft right hright hzero)

omit [LocaleOrder] [TextCase] in
theorem eq_or_swap_of_keys {first second : OverlapSubject} (hdistinct : (subjects.map overlapSubjectKey).Nodup)
    (hfirst : first ∈ subjects) (hsecond : second ∈ subjects) (hleft : left ∈ subjects)
    (hright : right ∈ subjects) (h : [overlapSubjectKey first, overlapSubjectKey second].Perm
      [overlapSubjectKey left, overlapSubjectKey right]) :
    first = left ∧ second = right ∨ first = right ∧ second = left := by
  have hinj : ∀ {a b : OverlapSubject}, a ∈ subjects → b ∈ subjects →
      overlapSubjectKey a = overlapSubjectKey b → a = b := fun ha hb =>
    List.inj_on_of_nodup_map hdistinct ha hb
  rcases List.perm_pair.1 h with h | h
  · simp only [List.cons.injEq, and_true] at h
    exact .inl ⟨hinj hfirst hleft h.1, hinj hsecond hright h.2⟩
  · simp only [List.cons.injEq, and_true] at h
    exact .inr ⟨hinj hfirst hright h.1, hinj hsecond hleft h.2⟩

theorem mem_findings {finding : OverlapFinding} : finding ∈ (diagnoseOverlap subjects).findings ↔
    ∃ pair ∈ laterPairs (sortBy compareSubjects subjects), pair.1.projectId = pair.2.projectId ∧
      finding ∈ pairFindings pair.1 pair.2 := by
  have hperm := List.mergeSort_perm (subjectFindings (sortBy compareSubjects subjects))
    fun left right => decide (compareFindings left right ≤ 0)
  refine hperm.mem_iff.trans ?_
  unfold subjectFindings
  rw [List.mem_flatMap]
  refine exists_congr fun pair => and_congr_right fun _ => ?_
  split_ifs with hproject
  · exact iff_of_false List.not_mem_nil fun h => hproject h.1
  · exact (and_iff_right (not_not.1 hproject)).symm

theorem findings_of_pair (h : (subjects.map overlapSubjectKey).Nodup) (hleft : left ∈ subjects)
    (hright : right ∈ subjects) (hne : left ≠ right) :
    ∃ first second, (first = left ∧ second = right ∨ first = right ∧ second = left) ∧
      ∀ finding, finding ∈ (diagnoseOverlap subjects).findings ∧ Concerns finding left right ↔
        first.projectId = second.projectId ∧ finding ∈ pairFindings first second := by
  have hperm : (sortBy compareSubjects subjects).Perm subjects := List.mergeSort_perm _ _
  have hnodup : (sortBy compareSubjects subjects).Nodup := hperm.nodup_iff.2 (List.Nodup.of_map overlapSubjectKey h)
  obtain ⟨first, second, hordered, hpair⟩ : ∃ first second,
      (first = left ∧ second = right ∨ first = right ∧ second = left) ∧
        (first, second) ∈ laterPairs (sortBy compareSubjects subjects) := by
    rcases laterPairs_total (hperm.mem_iff.2 hleft) (hperm.mem_iff.2 hright) hne with hpair | hpair
    · exact ⟨left, right, .inl ⟨rfl, rfl⟩, hpair⟩
    · exact ⟨right, left, .inr ⟨rfl, rfl⟩, hpair⟩
  have hkeys : [overlapSubjectKey first, overlapSubjectKey second].Perm
      [overlapSubjectKey left, overlapSubjectKey right] := by
    rcases hordered with ⟨rfl, rfl⟩ | ⟨rfl, rfl⟩
    · exact .refl _
    · exact .swap _ _ _
  refine ⟨first, second, hordered, fun finding => ?_⟩
  rw [mem_findings]
  constructor
  · rintro ⟨⟨⟨a, b⟩, hab, hproject, hfinding⟩, hconcerns⟩
    have hsame : [overlapSubjectKey a, overlapSubjectKey b].Perm
        [overlapSubjectKey first, overlapSubjectKey second] := by
      unfold Concerns at hconcerns
      rw [changeSetIds_of_pairFindings hfinding] at hconcerns
      exact pairKeys_perm.symm.trans (hconcerns.trans hkeys.symm)
    obtain ⟨ha, hb⟩ := mem_of_laterPairs hab
    obtain ⟨hfirst, hsecond⟩ := mem_of_laterPairs hpair
    rcases eq_or_swap_of_keys h (hperm.mem_iff.1 ha) (hperm.mem_iff.1 hb) (hperm.mem_iff.1 hfirst)
      (hperm.mem_iff.1 hsecond) hsame with ⟨rfl, rfl⟩ | ⟨rfl, rfl⟩
    · exact ⟨hproject, hfinding⟩
    · exact absurd hab (laterPairs_asymm hnodup hpair)
  · rintro ⟨hproject, hfinding⟩
    refine ⟨⟨(first, second), hpair, hproject, hfinding⟩, ?_⟩
    unfold Concerns
    rw [changeSetIds_of_pairFindings hfinding]
    exact pairKeys_perm.trans hkeys

/-- The findings about two subjects of one Project cover exactly their common paths. -/
structure PairDiagnosed (report : OverlapReport) (left right : OverlapSubject) : Prop where
  covered : ∀ path, (∃ finding ∈ report.findings, Concerns finding left right ∧ path ∈ finding.paths) ↔
    path ∈ left.changedPaths ∧ path ∈ right.changedPaths
  deletions : ∀ path, path ∈ left.deletedPaths ∧ path ∈ right.changedPaths ∨
      path ∈ right.deletedPaths ∧ path ∈ left.changedPaths →
    ∃ finding ∈ report.findings, Concerns finding left right ∧ finding.kind = .highRiskDeletion ∧
      path ∈ finding.paths
  disjoint : ∀ finding ∈ report.findings, ∀ other ∈ report.findings, Concerns finding left right →
    Concerns other left right → finding.kind = .pathOnly → other ≠ finding →
    ∀ path ∈ finding.paths, path ∉ other.paths

theorem pairDiagnosed (h : (subjects.map overlapSubjectKey).Nodup) (hleft : left ∈ subjects)
    (hright : right ∈ subjects) (hne : left ≠ right) (hproject : left.projectId = right.projectId) :
    PairDiagnosed (diagnoseOverlap subjects) left right := by
  obtain ⟨first, second, hordered, hfindings⟩ := findings_of_pair h hleft hright hne
  have hsame : first.projectId = second.projectId := by
    rcases hordered with ⟨rfl, rfl⟩ | ⟨rfl, rfl⟩
    · exact hproject
    · exact hproject.symm
  have hpair : ∀ finding, finding ∈ (diagnoseOverlap subjects).findings ∧ Concerns finding left right ↔
      finding ∈ pairFindings first second := fun finding => (hfindings finding).trans (and_iff_right hsame)
  refine ⟨fun path => ?_, fun path hdeleted => ?_, fun finding hmem other hother hconcerns hconcerns' hkind
    hne path hpath => ?_⟩
  · have hshared : path ∈ shared first second ↔ path ∈ left.changedPaths ∧ path ∈ right.changedPaths := by
      rcases hordered with ⟨rfl, rfl⟩ | ⟨rfl, rfl⟩
      · exact mem_shared
      · exact mem_shared.trans and_comm
    rw [← hshared, ← exists_pairFinding_iff]
    refine exists_congr fun finding => ?_
    rw [← and_assoc, hpair]
  · have hdeleted' : path ∈ first.deletedPaths ∧ path ∈ second.changedPaths ∨
        path ∈ second.deletedPaths ∧ path ∈ first.changedPaths := by
      rcases hordered with ⟨rfl, rfl⟩ | ⟨rfl, rfl⟩
      · exact hdeleted
      · exact hdeleted.symm
    obtain ⟨finding, hfinding, hkind, hpath⟩ := exists_deletionFinding hdeleted'
    obtain ⟨hmem, hconcerns⟩ := (hpair finding).2 hfinding
    exact ⟨finding, hmem, hconcerns, hkind, hpath⟩
  · exact disjoint_of_pathOnly ((hpair finding).1 ⟨hmem, hconcerns⟩) hkind
      ((hpair other).1 ⟨hother, hconcerns'⟩) hne hpath

/-- The report does not depend on the order of the subjects, and of every pair of them it says exactly
what they share. -/
theorem overlap_diagnosis_exact (subjects : List OverlapSubject) (h : Told subjects) :
    (∀ others, others.Perm subjects → diagnoseOverlap others = diagnoseOverlap subjects) ∧
    (∀ left ∈ subjects, ∀ right ∈ subjects, left ≠ right → left.projectId = right.projectId →
      PairDiagnosed (diagnoseOverlap subjects) left right) ∧
    (∀ left ∈ subjects, ∀ right ∈ subjects, left.projectId ≠ right.projectId →
      ∀ finding ∈ (diagnoseOverlap subjects).findings, ¬ Concerns finding left right) ∧
    (diagnoseOverlap subjects).suggestedOrder.Perm (subjects.map overlapSubjectKey) := by
  refine ⟨fun others hperm => ?_, fun left hleft right hright => pairDiagnosed h.distinct hleft hright,
    fun left hleft right hright hproject finding hfinding hconcerns => ?_, ?_⟩
  · unfold diagnoseOverlap
    rw [sortBy_eq_of_perm h hperm]
  · have hne : left ≠ right := fun heq => hproject (heq ▸ rfl)
    obtain ⟨first, second, hordered, hfindings⟩ := findings_of_pair h.distinct hleft hright hne
    have hsame := ((hfindings finding).1 ⟨hfinding, hconcerns⟩).1
    rcases hordered with ⟨rfl, rfl⟩ | ⟨rfl, rfl⟩
    · exact hproject hsame
    · exact hproject hsame.symm
  · exact ((List.mergeSort_perm _ _).trans (List.mergeSort_perm _ _)).map _

end Exact

section Sample

@[reducible] def plainOrder : LocaleOrder where
  localeCompare := Runtime.threeWay
  refl a := by simp [Runtime.threeWay]
  neg_iff a b := by rw [Runtime.threeWay_neg_iff, Runtime.threeWay_pos_iff]
  trans a b c hab hbc := by
    rw [← not_lt, Runtime.threeWay_pos_iff, not_lt] at hab hbc ⊢
    exact hab.trans hbc

@[reducible] def asciiCase : TextCase where
  toLowerCase text := text.map Char.toLower

def deletingSubject : OverlapSubject where
  taskId := "task-1"
  workItemId := "work-item-1"
  projectId := "project-1"
  changeSetId := "change-set-1"
  baseCommit := "c0"
  headCommit := "c1"
  changedPaths := ["src/api/index.ts"]
  manifestTags := [.contract, .deletion]
  deletedPaths := ["src/api/index.ts"]
  reference := by decide
  deleted := by simp

/-- Another Task changes the file that the first one deletes. -/
def changingSubject : OverlapSubject :=
  { deletingSubject with
    taskId := "task-2"
    manifestTags := [.contract]
    deletedPaths := []
    reference := by decide
    deleted := by simp }

theorem overlap_diagnosis_exact_sample :
    (∃ finding ∈ (@diagnoseOverlap plainOrder asciiCase [deletingSubject, changingSubject]).findings,
      finding.kind = .highRiskDeletion ∧ "src/api/index.ts" ∈ finding.paths) ∧
    (@diagnoseOverlap plainOrder asciiCase [deletingSubject, changingSubject]).suggestedOrder.Perm
      ["task-1/change-set-1", "task-2/change-set-1"] := by
  let _ := plainOrder
  let _ := asciiCase
  have hkeys : [deletingSubject, changingSubject].map overlapSubjectKey =
      ["task-1/change-set-1", "task-2/change-set-1"] := by decide
  have h : Told [deletingSubject, changingSubject] := by
    refine ⟨by rw [hkeys]; decide, fun left _ right _ hzero => ?_⟩
    rcases lt_trichotomy (overlapSubjectKey left) (overlapSubjectKey right) with hlt | heq | hgt
    · exact absurd hzero (Runtime.threeWay_neg_iff.2 hlt).ne
    · exact heq
    · exact absurd hzero (Runtime.threeWay_pos_iff.2 hgt).ne'
  have hne : deletingSubject ≠ changingSubject := fun heq => by
    have htask := congrArg OverlapSubject.taskId heq
    simp [deletingSubject, changingSubject] at htask
  obtain ⟨_, hpairs, _, horder⟩ := overlap_diagnosis_exact [deletingSubject, changingSubject] h
  obtain ⟨finding, hfinding, _, hkind, hpath⟩ := (hpairs _ (by simp) _ (by simp) hne rfl).deletions
    "src/api/index.ts" (.inl ⟨by simp [deletingSubject], by simp [changingSubject, deletingSubject]⟩)
  exact ⟨⟨finding, hfinding, hkind, hpath⟩, hkeys ▸ horder⟩

end Sample

end Overlap
