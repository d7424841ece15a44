import Mathlib
import Yui.Checked
import Yui.JsText

/-!
# Context projection

`nativeAgent/context/index.ts` and `budget.ts`: a request is projected into a budget by replacing older
groups of its history and optional materials with one summary. The builder keeps one summary for reuse. A
build reads and writes that cache only between its awaits: it looks at it when all materials are loaded and
stores a summary at its end, so `project` is one build from the last load on, and `BuilderOp` lets builds
overlap. Texts and digests that go through JSON are parameters.
-/

open Checked JsText

namespace Context

structure ToolCall where
  id : String
  name : String
  arguments : String
  deriving DecidableEq

inductive ToolEffect where
  | none | unknown
  deriving DecidableEq

inductive ToolOutcome where
  | ok (content : String)
  | failed (code message : String) (effect : ToolEffect)
  deriving DecidableEq

inductive Message where
  | system (content : String)
  | user (content : String)
  | assistant (content : String) (toolCalls : List ToolCall)
  | tool (toolCallId name : String) (outcome : ToolOutcome)
  deriving DecidableEq

def Message.isUser : Message → Bool
  | .user _ => true
  | _ => false

def Message.isTool : Message → Bool
  | .tool _ _ _ => true
  | _ => false

structure ModelRequest where
  sessionId : String
  turnId : String
  step : ℕ
  messages : List Message
  tools : List String

inductive MaterialKind where
  | guidance | file | data
  deriving DecidableEq

structure ContextMaterial where
  id : String
  kind : MaterialKind
  content : String
  source : String
  revision : String
  required : Bool

structure ToolOutcomeEntry where
  toolCallId : String
  name : String
  ok : Bool
  errorCode : Option String
  effect : Option ToolEffect

inductive EntryAction where
  | retained | summarized
  deriving DecidableEq

structure ContextEntry where
  source : String
  revision : String
  sourceId : Option String
  materialId : Option String
  historyRange : Option (ℕ × ℕ)
  digest : String
  toolOutcomes : List ToolOutcomeEntry
  action : EntryAction
  reason : String

structure ContextUnit where
  messages : List Message
  required : Bool
  entry : ContextEntry

inductive CountUnit where
  | tokens | bytes | custom
  deriving DecidableEq

inductive Accuracy where
  | exact | estimated | unknown
  deriving DecidableEq

structure ContextMeasurement where
  unit : CountUnit
  source : String
  accuracy : Accuracy
  value : Option JsNumber
  uncertainty : Option JsNumber

structure ContextCapacity where
  model : String
  revision : String
  unit : CountUnit
  contextWindow : JsNumber
  counterId : String
  maxOutput : Option JsNumber

structure ContextBudget where
  capacity : JsNumber
  reserveOutput : JsNumber
  reserveTools : Option JsNumber
  safetyMargin : Option JsNumber

structure BaseReceipt where
  sessionId : String
  revision : JsNumber
  digest : String
  messageCount : JsNumber

inductive Mode where
  | auto | manual
  deriving DecidableEq

structure ContextInput where
  request : ModelRequest
  budget : ContextBudget
  keepRecentGroups : Option JsNumber
  protectedHistoryRanges : List (JsNumber × JsNumber)
  mode : Option Mode
  baseReceipt : Option BaseReceipt

structure SummarySources where
  groups : ℕ
  provenanceDigest : String
  history : Option ((ℕ × ℕ) × String × ℕ)
  materials : Option (ℕ × String)
  toolSettlements : Option (ℕ × ℕ × String)

structure ContextSummary where
  sessionId : String
  historyDigest : String
  digest : String
  compressor : String
  sources : SummarySources
  summary : String

/-- The values that the builder digests. -/
inductive Digestible where
  | messages (value : List Message)
  | material (value : ContextMaterial)
  | capability (model : Option ContextCapacity) (counter : String)
  | capacity (value : Option ContextCapacity)
  | snapshot (sources : List String) (materials : List (ContextEntry × Bool))
  | key (source : String) (sourceId materialId revision : Option String) (digest : String)
  | digests (value : List String)
  | provenance (value : List ContextEntry)
  | outcomes (value : List ToolOutcomeEntry)

/-- What the builder computes through JSON: digests, the texts of materials and summaries, and sizes. -/
structure Encoding where
  digest : Digestible → String
  materialText : ContextMaterial → String → String
  summaryText : ContextSummary → String
  requestSize : ModelRequest → ℕ
  messageSize : Message → ℕ
  /-- Data of bounded depth and size, as `bounded` and `calls` ask of a message. -/
  bounded : Message → Bool

structure Bounds where
  capacity : ℤ
  reserveOutput : ℤ
  reserveTools : ℤ
  safetyMargin : ℤ
  availableInput : ℤ

structure ContextReport where
  estimator : String
  compressor : Option String
  bounds : Bounds
  estimatedInput : ℤ
  measurement : ContextMeasurement
  model : Option ContextCapacity
  capacitySource : Option String
  historyDigest : String
  byteInput : ℕ
  baseReceipt : Option BaseReceipt
  entries : List ContextEntry

structure ContextBuildError where
  code : String
  message : String
  report : Option ContextReport

def fail {α : Type} (code message : String) : Except ContextBuildError α :=
  .error { code, message, report := none }

/-- `validCount`. -/
def validCount (n : JsNumber) : Bool :=
  match n with
  | none => false
  | some value => decide (0 ≤ value ∧ value ≤ maxSafeInteger)

def nonempty (value : String) : Bool := trim value != ""

/-! ## Budgets -/

def addNumbers (a b : JsNumber) : JsNumber := do
  let x ← a
  let y ← b
  some (x + y)

def budgetBounds (budget : ContextBudget) (model : Option ContextCapacity) :
    Except ContextBuildError Bounds := do
  let capacity := (model.map ContextCapacity.contextWindow).getD budget.capacity
  let reserveTools := budget.reserveTools.getD (some 0)
  let safetyMargin := budget.safetyMargin.getD (some 0)
  let reserve := addNumbers (addNumbers budget.reserveOutput reserveTools) safetyMargin
  match capacity, budget.reserveOutput, reserveTools, safetyMargin, reserve with
  | some capacity', some output, some tools, some margin, some total =>
    if ¬ (validCount capacity = true ∧ validCount budget.capacity = true ∧
        validCount budget.reserveOutput = true ∧ validCount reserveTools = true ∧
        validCount safetyMargin = true ∧ validCount reserve = true) ∨
        capacity' = 0 ∨ capacity' < total then
      fail "invalid_budget" "Invalid capacity or output/tool/safety reservations"
    else if ∃ known ∈ model, nonempty known.model = false ∨ nonempty known.revision = false ∨
        nonempty known.counterId = false ∨
        ∃ limit ∈ known.maxOutput, validCount limit = false ∨ ∃ most ∈ limit, most < output then
      fail "capacity_mismatch"
        "Invalid model capability or output reservation exceeds supported output"
    else .ok ⟨capacity', output, tools, margin, capacity' - total⟩
  | _, _, _, _, _ => fail "invalid_budget" "Invalid capacity or output/tool/safety reservations"

/-- `measure`. The counter throws, returns nothing, or returns a measurement. -/
def measure (counterId : String) (counted : Except Unit (Option ContextMeasurement))
    (capacity : Option ContextCapacity) : Except ContextBuildError (ContextMeasurement × ℤ) :=
  match counted with
  | .error _ => fail "estimation_failed" ("Counter failed: " ++ counterId)
  | .ok none => fail "count_unknown" "Request count is unknown; no model request admitted"
  | .ok (some measurement) =>
    if measurement.accuracy = .unknown then
      fail "count_unknown" "Request count is unknown; no model request admitted"
    else
      match measurement.value, measurement.uncertainty with
      | some (some value), some (some uncertainty) =>
        if nonempty measurement.source = false ∨ validCount (some value) = false ∨
            validCount (some uncertainty) = false ∨
            (measurement.accuracy = .exact ∧ uncertainty ≠ 0) then
          fail "invalid_estimate" "Count requires units, source, accuracy and explicit uncertainty"
        else if ∃ known ∈ capacity, known.unit ≠ measurement.unit ∨ known.counterId ≠ counterId then
          fail "capacity_mismatch" "Model capacity and counter units/identity differ"
        else if validCount (some (value + uncertainty)) = false then
          fail "invalid_estimate" "Count plus uncertainty overflows"
        else .ok (measurement, value + uncertainty)
      | _, _ => fail "invalid_estimate" "Count requires units, source, accuracy and explicit uncertainty"

/-! ## Units of a history -/

variable (enc : Encoding)

def callPairs (calls : List ToolCall) : List (String × String) :=
  calls.map fun call => (call.id, call.name)

def deletePending (pending : List (String × String)) (id : String) : List (String × String) :=
  pending.filter fun entry => entry.1 ≠ id

/-- `history` of `validation.ts` without a limit on the whole. -/
def validHistory (pending : List (String × String)) (used : List String) : List Message → Bool
  | [] => pending = []
  | message :: rest => enc.bounded message && match message with
    | .tool id name _ => nonempty id && nonempty name && pending.lookup id == some name &&
        validHistory (deletePending pending id) used rest
    | .assistant _ calls => pending.isEmpty && calls.length ≤ 8 &&
        calls.all (fun call => nonempty call.id && nonempty call.name) &&
        decide (calls.map ToolCall.id).Nodup && calls.all (fun call => !used.contains call.id) &&
        validHistory (callPairs calls) (used ++ calls.map ToolCall.id) rest
    | _ => pending.isEmpty && validHistory pending used rest

/-- The results of a batch of calls, and the messages after them. -/
def takeResults (pending : List (String × String)) (messages : List Message) :
    Except ContextBuildError (List Message × List Message) :=
  match pending, messages with
  | [], rest => .ok ([], rest)
  | _ :: _, [] =>
    fail "invalid_history" "Tool batch requires exactly one matching result per call"
  | pending, message :: rest =>
    match message with
    | .tool id name outcome =>
      if pending.lookup id = some name then
        match outcome with
        | .failed _ _ .unknown => fail "unresolved_effect"
            "Unknown tool effects must be reconciled in authoritative history before projection"
        | _ => do
          let (results, after) ← takeResults (deletePending pending id) rest
          .ok (message :: results, after)
      else fail "invalid_history" "Tool batch requires exactly one matching result per call"
    | _ => fail "invalid_history" "Tool batch requires exactly one matching result per call"

theorem takeResults_append {pending : List (String × String)} {messages results after : List Message}
    (h : takeResults pending messages = .ok (results, after)) : messages = results ++ after := by
  induction messages generalizing pending results with
  | nil =>
    cases pending with
    | nil =>
      rw [takeResults] at h
      cases h
      rfl
    | cons entry pending =>
      rw [takeResults] at h
      cases h
  | cons message messages ih =>
    cases pending with
    | nil =>
      rw [takeResults] at h
      cases h
      rfl
    | cons entry pending =>
      cases message with
      | tool id name outcome =>
        simp only [takeResults] at h
        split_ifs at h
        · split at h
          · cases h
          · obtain ⟨⟨more, last⟩, hmore, hrest⟩ := bind_ok h
            cases hrest
            rw [ih hmore, List.cons_append]
        · cases h
      | _ => cases h

/-- The calls of an assistant message that are its own: named, and under new identities. -/
def newCalls (used : List String) : List ToolCall → Except ContextBuildError (List String)
  | [] => .ok used
  | call :: calls =>
    if nonempty call.id = false ∨ nonempty call.name = false ∨ call.id ∈ used then
      fail "invalid_history" "Duplicate or invalid tool call identity"
    else newCalls (used ++ [call.id]) calls

/-- The loop of `historyUnits`: one group for each message that is not a result, with its results. -/
def historyGroups (used : List String) (messages : List Message) : Except ContextBuildError (List (List Message)) :=
  match messages with
  | [] => .ok []
  | message :: rest =>
    match message with
    | .tool _ _ _ => fail "invalid_history" "Unexpected or unpaired history message"
    | .assistant _ calls => do
      let used' ← newCalls used calls
      match _htake : takeResults (callPairs calls) rest with
      | .error refused => .error refused
      | .ok (results, after) => do
        let groups ← historyGroups used' after
        .ok ((message :: results) :: groups)
    | _ => do
      let groups ← historyGroups used rest
      .ok ([message] :: groups)
termination_by messages.length
decreasing_by
  · rw [List.length_cons, takeResults_append _htake, List.length_append]
    omega
  · exact Nat.lt_succ_self _

def userIndices (messages : List Message) : List ℕ :=
  (messages.zipIdx.filter fun entry => entry.1.isUser).map Prod.snd

def toolOutcome : Message → Option ToolOutcomeEntry
  | .tool id name (.ok _) => some ⟨id, name, true, none, none⟩
  | .tool id name (.failed code _ effect) => some ⟨id, name, false, some code, some effect⟩
  | _ => none

def isSystem : Message → Bool
  | .system _ => true
  | _ => false

/-- Whether the group `[start, stop)` of a history is kept apart from being recent. -/
def keepsGroup (messages : List Message) (ranges : List (ℤ × ℤ)) (group : List Message) (start stop : ℕ) : Bool :=
  group.head?.any isSystem || (userIndices messages).head? == some start ||
    (userIndices messages).getLast?.any (fun latest => latest ≤ start) ||
    ranges.any fun range => range.1 < stop ∧ (start : ℤ) < range.2

def groupUnits (request : ModelRequest) (ranges : List (ℤ × ℤ)) :
    ℕ → List (List Message) → List ContextUnit
  | _, [] => []
  | start, group :: groups =>
    let stop := start + group.length
    let required := keepsGroup request.messages ranges group start stop
    { messages := group, required,
      entry :=
        { source := "session:" ++ request.sessionId,
          revision := "sha256:" ++ enc.digest (.messages request.messages),
          sourceId := none, materialId := none, historyRange := some (start, stop),
          digest := enc.digest (.messages group),
          toolOutcomes := group.tail.filterMap toolOutcome, action := .retained,
          reason := if required then "system-or-current-input" else "within-budget" } } ::
      groupUnits request ranges stop groups

/-- The last units are required. -/
def keepRecent (keep : ℤ) (units : List ContextUnit) : List ContextUnit :=
  let older := (max 0 ((units.length : ℤ) - keep)).toNat
  units.take older ++ (units.drop older).map fun unit =>
    { unit with required := true, entry := { unit.entry with reason := "recent-group" } }

/-- A protected range as bounds of the history. -/
def checkRange (length : ℕ) (range : JsNumber × JsNumber) : Except ContextBuildError (ℤ × ℤ) :=
  match range with
  | (some start, some stop) =>
    if validCount (some start) = true ∧ validCount (some stop) = true ∧ start < stop ∧
        stop ≤ length then .ok (start, stop)
    else fail "invalid_history" "Protected history ranges must be valid original [start,end) bounds"
  | _ => fail "invalid_history" "Protected history ranges must be valid original [start,end) bounds"

def historyUnits (request : ModelRequest) (keep : ℤ) (ranges : List (JsNumber × JsNumber)) :
    Except ContextBuildError (List ContextUnit) := do
  let messages := request.messages
  refuse (validHistory enc [] [] messages = false) ⟨"invalid_history",
    "Source history must contain valid, bounded messages and complete tool batches", none⟩
  let bounds ← ranges.mapM (checkRange messages.length)
  let groups ← historyGroups [] messages
  .ok (keepRecent keep (groupUnits enc request bounds 0 groups))

/-! ## Builds -/

/-- The extensions that a builder was created with, by their identities. -/
structure BuilderOptions where
  sources : List String
  counter : String
  compressor : Option String
  capacity : Option String

/-- What the compressor is handed. -/
structure SummaryInput where
  source : String
  revision : String
  digest : String
  groups : List (List Message)

inductive SummaryAnswer where
  | text (summary : String)
  | refused (error : ContextBuildError)
  | threw

/-- The answers that one build gets and whether its signal is aborted where it looks. Loads, counts and
resolutions are numbered in the order of the build. -/
structure BuildWorld where
  aborted : ℕ → Bool
  resolve : ℕ → Except Unit (Option ContextCapacity)
  load : ℕ → Except Unit (Option (List ContextMaterial))
  count : ℕ → ModelRequest → Except Unit (Option ContextMeasurement)
  summarize : SummaryInput → SummaryAnswer

structure ContextCache where
  sessionId : String
  capability : String
  sourceSnapshot : String
  keys : List String
  summary : String

def cancelled (world : BuildWorld) (moment : ℕ) : Except ContextBuildError Unit :=
  if world.aborted moment then
    fail "cancelled" "Context construction cancelled; no request produced"
  else .ok ()

def validMaterial (ids : List String) (material : ContextMaterial) : Bool :=
  nonempty material.id && !ids.contains material.id && nonempty material.source &&
    nonempty material.revision

def isRequired (material : ContextMaterial) : Bool :=
  material.required || material.kind == .guidance

def materialUnit (loader : String) (material : ContextMaterial) : ContextUnit :=
  let text := enc.materialText material loader
  { messages := [if material.kind = .guidance then .system text else .user text],
    required := isRequired material,
    entry :=
      { source := material.source, revision := material.revision, sourceId := some loader,
        materialId := some material.id, historyRange := none,
        digest := enc.digest (.material material), toolOutcomes := [], action := .retained,
        reason := if isRequired material then "required-material" else "within-budget" } }

def materialUnits (loader : String) (ids : List String) :
    List ContextMaterial → Except ContextBuildError (List ContextUnit)
  | [] => .ok []
  | material :: rest =>
    if validMaterial ids material then do
      let units ← materialUnits loader (ids ++ [material.id]) rest
      .ok (materialUnit enc loader material :: units)
    else fail "invalid_material" ("Invalid material from source: " ++ loader)

/-- The loop over the sources; the moments 2 and on are spent on it, two for each source. -/
def loadSources (world : BuildWorld) : ℕ → List String → Except ContextBuildError (List ContextUnit)
  | _, [] => .ok []
  | i, source :: sources => do
    cancelled world (2 + 2 * i)
    match world.load i with
    | .error _ => do
      cancelled world (3 + 2 * i)
      fail "source_failed" ("Context source failed: " ++ source)
    | .ok loaded => do
      cancelled world (3 + 2 * i)
      match loaded with
      | none => fail "invalid_material" ("Invalid source output: " ++ source)
      | some materials => do
        let units ← materialUnits enc source [] materials
        let rest ← loadSources world (i + 1) sources
        .ok (units ++ rest)

/-- `options.capacity.resolve`, when the builder has a capacity source. -/
def resolveCapacity (options : BuilderOptions) (world : BuildWorld) (moment call : ℕ)
    (failure : String) : Except ContextBuildError (Option ContextCapacity) :=
  match options.capacity with
  | none => .ok none
  | some id =>
    match world.resolve call with
    | .error _ => do
      cancelled world moment
      fail "capacity_failed" (failure ++ id)
    | .ok resolved => do
      cancelled world moment
      .ok resolved

/-- The request of a build, what was loaded for it and the budget it has. -/
structure Prepared where
  request : ModelRequest
  mode : Option Mode
  baseReceipt : Option BaseReceipt
  model : Option ContextCapacity
  bounds : Bounds
  materials : List ContextUnit
  units : List ContextUnit

def validReceipt (request : ModelRequest) (receipt : BaseReceipt) : Bool :=
  receipt.sessionId == request.sessionId && validCount receipt.revision &&
    validCount receipt.messageCount &&
    receipt.messageCount.all (fun count : ℤ => decide (count ≤ (request.messages.length : ℤ))) &&
    (receipt.digest.toList.length == 64 &&
      receipt.digest.toList.all fun c => "abcdef0123456789".toList.contains c)

/-- A build up to its last load. -/
def prepare (options : BuilderOptions) (world : BuildWorld) (input : ContextInput) :
    Except ContextBuildError Prepared := do
  cancelled world 0
  let request := input.request
  match input.keepRecentGroups.getD (some 2) with
  | none => fail "invalid_budget" "Invalid retention count or projection mode"
  | some keep => do
    refuse (validCount (some keep) = false)
      ⟨"invalid_budget", "Invalid retention count or projection mode", none⟩
    let units ← historyUnits enc request keep input.protectedHistoryRanges
    refuse (∃ receipt ∈ input.baseReceipt, validReceipt request receipt = false)
      ⟨"invalid_history", "Invalid stored-prefix receipt", none⟩
    let model ← resolveCapacity options world 1 0 "Capacity source failed: "
    refuse (options.capacity.isSome = true ∧ model = none)
      ⟨"capacity_mismatch", "Capacity source returned no model capability", none⟩
    let bounds ← budgetBounds input.budget model
    let materials ← loadSources enc world 0 options.sources
    .ok { request, mode := input.mode, baseReceipt := input.baseReceipt, model, bounds,
          materials, units }

/-- The units as they stand, and what the last count said of them. -/
structure Draft where
  units : List ContextUnit
  measurement : ContextMeasurement
  estimatedInput : ℤ

def makeRequest (request : ModelRequest) (units : List ContextUnit) : ModelRequest :=
  { request with messages := units.flatMap ContextUnit.messages }

def candidates (units : List ContextUnit) : List ContextUnit :=
  units.filter fun unit => !unit.required

def candidateKey (unit : ContextUnit) : String :=
  enc.digest (.key unit.entry.source unit.entry.sourceId unit.entry.materialId
    (if unit.entry.sourceId.isSome then some unit.entry.revision else none) unit.entry.digest)

def summarySources (entries : List ContextEntry) (messages : List Message) : SummarySources :=
  let ranges := entries.filterMap ContextEntry.historyRange
  let materials := entries.filter fun entry => entry.historyRange.isNone
  let outcomes := entries.flatMap ContextEntry.toolOutcomes
  let provenance (entries : List ContextEntry) : List ContextEntry :=
    entries.map fun entry => { entry with action := .retained, reason := "" }
  { groups := entries.length, provenanceDigest := enc.digest (.provenance (provenance entries)),
    history := do
      let first ← ranges.head?
      let last ← ranges.getLast?
      some ((first.1, last.2),
        enc.digest (.messages ((messages.take last.2).drop first.1)), ranges.length),
    materials := if materials = [] then none
      else some (materials.length, enc.digest (.provenance (provenance materials))),
    toolSettlements := if outcomes = [] then none
      else some ((outcomes.filter ToolOutcomeEntry.ok).length,
        (outcomes.filter fun outcome => !outcome.ok && outcome.effect == some .none).length,
        enc.digest (.outcomes outcomes)) }

/-- The first of the selected candidates gets the given messages, the other ones get none. -/
def replaceCandidates : ℕ → List Message → List ContextUnit → List ContextUnit
  | 0, _, units => units
  | _ + 1, _, [] => []
  | n + 1, text, unit :: units =>
    if unit.required then unit :: replaceCandidates (n + 1) text units
    else
      { unit with
        messages := text,
        entry := { unit.entry with action := .summarized, reason := "budget-compression" } } ::
        replaceCandidates n [] units

section Project

variable (options : BuilderOptions) (world : BuildWorld) (prepared : Prepared)

def sourceSnapshot : String :=
  enc.digest (.snapshot options.sources
    (prepared.materials.map fun unit => (unit.entry, unit.required)))

def capability : String := enc.digest (.capability prepared.model options.counter)

def historyDigest : String := enc.digest (.messages prepared.request.messages)

/-- The moment of a build that comes after its loads. -/
def afterLoads (moment : ℕ) : ℕ := 2 + 2 * options.sources.length + moment

def estimate (call : ℕ) (units : List ContextUnit) : Except ContextBuildError Draft := do
  cancelled world (afterLoads options (2 * call))
  let (measurement, estimatedInput) ← measure options.counter
    (world.count call (makeRequest prepared.request units)) prepared.model
  cancelled world (afterLoads options (2 * call + 1))
  .ok { units, measurement, estimatedInput }

/-- `install`: the summary of the first candidates, and a new count. -/
def install (compressor : String) (call : ℕ) (summary : String) (selected : ℕ)
    (units : List ContextUnit) : Except ContextBuildError Draft :=
  let originals := ((candidates units).take selected).map ContextUnit.entry
  let text := enc.summaryText
    { sessionId := prepared.request.sessionId, historyDigest := historyDigest enc prepared,
      digest := enc.digest (.digests (originals.map ContextEntry.digest)), compressor,
      sources := summarySources enc originals prepared.request.messages, summary }
  estimate options world prepared call (replaceCandidates selected [.user text] units)

def report (draft : Draft) : ContextReport :=
  { estimator := options.counter, compressor := options.compressor, bounds := prepared.bounds,
    estimatedInput := draft.estimatedInput, measurement := draft.measurement,
    model := prepared.model,
    capacitySource := if prepared.model.isSome then options.capacity else none,
    historyDigest := historyDigest enc prepared,
    byteInput := enc.requestSize (makeRequest prepared.request draft.units),
    baseReceipt := prepared.baseReceipt, entries := draft.units.map ContextUnit.entry }

/-- The cached summary, if it is one of the first candidates of this build. -/
def reusable (cached : Option ContextCache) (units : List ContextUnit) : Option ContextCache :=
  cached.filter fun cache => cache.sessionId = prepared.request.sessionId ∧
    cache.capability = capability enc options prepared ∧
    cache.keys <+: (candidates units).map (candidateKey enc)

/-- The summary of all candidates, and the cache that the build will store. -/
def compress (compressor : String) (keys : List String) (original : ℤ) (draft : Draft) :
    Except ContextBuildError (Draft × Option ContextCache) := do
  cancelled world (afterLoads options 6)
  let groups := ((candidates draft.units).filter fun unit => unit.messages ≠ []).map
    ContextUnit.messages
  match world.summarize
    { source := "session:" ++ prepared.request.sessionId,
      revision := "sha256:" ++ historyDigest enc prepared,
      digest := enc.digest (.digests ((candidates draft.units).map fun unit => unit.entry.digest)),
      groups } with
  | .threw => do
    cancelled world (afterLoads options 7)
    fail "compression_failed" ("Context compressor failed: " ++ compressor)
  | .refused error => do
    cancelled world (afterLoads options 7)
    .error error
  | .text summary => do
    cancelled world (afterLoads options 7)
    refuse (nonempty summary = false)
      ⟨"invalid_summary", "Compressor must return nonempty plain text", none⟩
    refuse (128 * 1024 < summary.utf8ByteSize)
      ⟨"invalid_summary", "Summary exceeds the bounded projection text limit", none⟩
    let next ← install enc options world prepared compressor 2 summary
      (candidates draft.units).length draft.units
    refuse (original ≤ next.estimatedInput) ⟨"compression_no_gain",
      "Summary did not reduce the full request", some (report enc options prepared next)⟩
    .ok (next, if next.estimatedInput ≤ prepared.bounds.availableInput then
      some { sessionId := prepared.request.sessionId,
             capability := capability enc options prepared,
             sourceSnapshot := sourceSnapshot enc options prepared, keys, summary }
      else none)

/-- A finished build: what it returns, what it will store, and the cache it used. -/
structure Built where
  request : ModelRequest
  report : ContextReport
  next : Option ContextCache
  reused : Option ContextCache

def finish (draft : Draft) (next reused : Option ContextCache) : Except ContextBuildError Built := do
  let request := makeRequest prepared.request draft.units
  refuse (prepared.bounds.availableInput < draft.estimatedInput) ⟨"budget_exceeded",
    "Preserved context and request overhead exceed available input budget",
    some (report enc options prepared draft)⟩
  refuse (1024 * 1024 < enc.requestSize request ∨
      ∃ message ∈ request.messages, 512 * 1024 < enc.messageSize message) ⟨"byte_budget_exceeded",
    "Projection exceeds the independent request/message byte ceiling",
    some (report enc options prepared draft)⟩
  let current ← resolveCapacity options world (afterLoads options 8) 1 "Capacity refresh failed: "
  refuse (options.capacity.isSome = true ∧
      enc.digest (.capacity current) ≠ enc.digest (.capacity prepared.model)) ⟨"capacity_changed",
    "Model capability changed while projecting; no request admitted",
    some (report enc options prepared draft)⟩
  cancelled world (afterLoads options 9)
  .ok { request, report := report enc options prepared draft, next, reused }

/-- The cache whose summary a build installs. -/
def reusedCache (cached : Option ContextCache) (units : List ContextUnit) : Option ContextCache :=
  if options.compressor.isSome then
    (reusable enc options prepared cached units).filter fun cache => cache.keys ≠ []
  else none

def installCached (reused : Option ContextCache) (first : Draft) : Except ContextBuildError Draft :=
  match options.compressor, reused with
  | some compressor, some cache =>
    install enc options world prepared compressor 1 cache.summary cache.keys.length first.units
  | _, _ => .ok first

/-- A build after its loads, with the cache that it found and did not drop. -/
def projectWith (cached : Option ContextCache) : Except ContextBuildError Built := do
  let all := prepared.materials ++ prepared.units
  let first ← estimate options world prepared 0 all
  let keys := (candidates all).map (candidateKey enc)
  let reused := reusedCache enc options prepared cached all
  let usedCache := (reused.map fun cache => cache.keys.length).getD 0
  let second ← installCached enc options world prepared reused first
  if prepared.bounds.availableInput < second.estimatedInput ∨
      (prepared.mode = some .manual ∧ usedCache < (candidates all).length) then
    match options.compressor with
    | some compressor =>
      if candidates all = [] then finish enc options world prepared second none reused
      else do
        let (third, next) ← compress enc options world prepared compressor keys
          first.estimatedInput second
        finish enc options world prepared third next reused
    | none => finish enc options world prepared second none reused
  else finish enc options world prepared second none reused

/-- The cache after a build has looked at it: dropped if the materials of its Session changed. -/
def afterSnapshot (cached : Option ContextCache) : Option ContextCache :=
  cached.filter fun cache => ¬(cache.sessionId = prepared.request.sessionId ∧
    cache.sourceSnapshot ≠ sourceSnapshot enc options prepared)

def project (cached : Option ContextCache) : Option ContextCache × Except ContextBuildError Built :=
  let kept := afterSnapshot enc options prepared cached
  (kept, projectWith enc options world prepared kept)

end Project

/-! ## Builders -/

/-- `storing` are the caches of builds that succeeded and have not ended yet. -/
structure BuilderState where
  cached : Option ContextCache
  storing : List ContextCache

inductive BuilderOp where
  | build (input : ContextInput) (world : BuildWorld)
  | store (index : ℕ)
  | discard (sessionId : String)

/-- What a build returns, from a cache. -/
def build (options : BuilderOptions) (input : ContextInput) (world : BuildWorld)
    (cached : Option ContextCache) : Option ContextCache × Except ContextBuildError Built :=
  match prepare enc options world input with
  | .error refused => (cached, .error refused)
  | .ok prepared => project enc options world prepared cached

def BuilderState.apply (options : BuilderOptions) (state : BuilderState) : BuilderOp → BuilderState
  | .build input world =>
    match build enc options input world state.cached with
    | (cached, .error _) => { state with cached }
    | (cached, .ok built) => { cached, storing := state.storing ++ built.next.toList }
  | .store index =>
    match state.storing[index]? with
    | none => state
    | some cache => { cached := some cache, storing := state.storing.eraseIdx index }
  | .discard sessionId =>
    { state with cached := state.cached.filter fun cache => cache.sessionId ≠ sessionId }

def runBuilder (options : BuilderOptions) (ops : List BuilderOp) : BuilderState :=
  ops.foldl (BuilderState.apply enc options) { cached := none, storing := [] }

end Context
