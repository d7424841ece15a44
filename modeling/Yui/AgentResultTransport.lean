import Yui.ProviderBinding
import Yui.RuntimeInbox
import Yui.Utf8Cut

/-!
# Transport of Agent results and failure diagnostics

`domain/agentResultTransport.ts` and the end of an AgentRun in `agentRun/agentRun.ts`. A text is the list of its code
points, where a surrogate without its partner stands for itself. The checks of an AgentRun that read neither its
status nor its result are a parameter, and so are those of the Provider result and of the system evidence.
-/

open JsText Checked Utf8Cut

namespace AgentResultTransport

inductive CodePoint where
  | scalar (c : Char)
  | surrogate (unit : ℕ)
  deriving DecidableEq

/-- What `Buffer` writes for the code point. -/
def CodePoint.toScalar : CodePoint → Char
  | .scalar c => c
  | .surrogate _ => replacement

def CodePoint.isWhitespace : CodePoint → Bool
  | .scalar c => JsText.isWhitespace c
  | .surrogate _ => false

abbrev Text := List CodePoint

def ofString (text : String) : Text := text.toList.map .scalar

/-- `text.trim().length === 0` -/
def isBlank (text : Text) : Bool := text.all CodePoint.isWhitespace

def scalars (text : Text) : List Char := text.map CodePoint.toScalar

/-- `Buffer.byteLength(text, "utf8")` -/
def byteLength (text : Text) : ℕ := (encode (scalars text)).length

def maxRunResultOutputBytes : ℕ := 512 * 1024
def maxRunFailureDiagnosticBytes : ℕ := 16 * 1024

inductive TransportedAgentResult where
  | completed (output : Text)
  | failed (diagnostic : Text) (failureReason : AgentRunFailureReason)

/-- A value that is not a string is `none`. -/
def transportAgentResult : Option Text → TransportedAgentResult
  | none => .failed (ofString "Provider terminal event did not include an Agent result.") .missingResult
  | some value =>
    if .scalar nul ∈ value then
      .failed (ofString "Provider terminal event included an Agent result with an invalid NUL byte.") .runtimeFailed
    else if isBlank value = true then
      .failed (ofString "Provider terminal event included an empty Agent result.") .missingResult
    else if maxRunResultOutputBytes < byteLength value then
      .failed (ofString
        s!"Provider Agent result is {byteLength value} bytes and exceeds the {maxRunResultOutputBytes}-byte durable result limit; the result was not stored.")
        .runtimeFailed
    else .completed value

def defaultFallback : Text := ofString "Provider reported a failed Agent AgentRun."

def candidate (value : Option Text) (fallback : Text) : Text :=
  match value with
  | some value => if isBlank value = true then fallback else value
  | none => fallback

/-- `text.replaceAll("\0", "\uFFFD")` -/
def withoutNul (text : Text) : Text :=
  text.map fun point => if point = .scalar nul then .scalar replacement else point

/-- One replacement at the end is taken off. -/
def withoutLastReplacement (text : List Char) : List Char :=
  if text.getLast? = some replacement then text.dropLast else text

def boundedRunFailureDiagnostic (value : Option Text) (fallback : Text) : Text :=
  let safe := withoutNul (candidate value fallback)
  if byteLength safe ≤ maxRunFailureDiagnosticBytes then safe
  else
    (withoutLastReplacement (decode ((encode (scalars safe)).take maxRunFailureDiagnosticBytes))).map .scalar

/-- `requireResultText` and `requireDiagnosticText` -/
def requireTextWithin (limit : ℕ) (value : Text) (label : String) : Except String Text := do
  refuse (.scalar nul ∈ value) s!"{label} is invalid."
  refuse (isBlank value = true) s!"{label} is required."
  refuse (limit < byteLength value) s!"{label} exceeds {limit} bytes."
  .ok value

def requireResultText : Text → String → Except String Text := requireTextWithin maxRunResultOutputBytes

def requireDiagnosticText : Text → String → Except String Text := requireTextWithin maxRunFailureDiagnosticBytes

inductive AgentRunStatus where
  | active | completed | failed
  deriving DecidableEq

structure AgentRunResult (P S : Type) where
  output : Option Text
  diagnostic : Option Text
  completedAt : String
  provider : Option P
  systemEvidence : Option S
  failureReason : Option AgentRunFailureReason

structure AgentRun (R P S : Type) where
  id : String
  status : AgentRunStatus
  result : Option (AgentRunResult P S)
  createdAt : String
  updatedAt : String
  rest : R

/-- `run` is what `validateRun` checks before the status, `provider` is `validateRunProviderResult` and `evidence` is
`validateRunSystemEvidence`. -/
structure RunChecks (R P S : Type) where
  run : R → Except String Unit
  provider : P → Except String Unit
  evidence : S → Except String Unit

variable {R P S : Type} (checks : RunChecks R P S)

def optionally {α : Type} (check : α → Except String Unit) : Option α → Except String Unit
  | none => .ok ()
  | some value => check value

def checkText (require : Text → String → Except String Text) (label : String) (value : Text) : Except String Unit := do
  let _ ← require value label
  .ok ()

def requireTimestamp [RuntimeHost] (value label : String) : Except String Unit :=
  refuse (JsHost.dateParse value = none) s!"{label} must be an ISO timestamp."

def validateRunResult [RuntimeHost] (result : AgentRunResult P S) : Except String Unit := do
  optionally (checkText requireResultText "AgentRun result output") result.output
  optionally (checkText requireDiagnosticText "AgentRun result diagnostic") result.diagnostic
  requireTimestamp result.completedAt "AgentRun result completedAt"
  optionally checks.provider result.provider
  optionally checks.evidence result.systemEvidence

def validateRun [RuntimeHost] (run : AgentRun R P S) : Except String Unit := do
  checks.run run.rest
  requireTimestamp run.createdAt "AgentRun createdAt"
  requireTimestamp run.updatedAt "AgentRun updatedAt"
  match run.status, run.result with
  | .active, result => refuse (result.isSome = true) "An active AgentRun cannot have a result."
  | _, none => .error "A terminal AgentRun requires AgentRunResult schemaVersion 1."
  | .failed, some result => do
    validateRunResult checks result
    refuse (result.failureReason = none) "Failed AgentRun reason is invalid: undefined."
    refuse (result.diagnostic = none) "A failed AgentRun requires a Core diagnostic."
    refuse (result.systemEvidence.isSome = true) "A failed AgentRun cannot carry successful system evidence."
  | .completed, some result => do
    validateRunResult checks result
    refuse (result.output = none) "A completed AgentRun requires an Agent result."
    refuse (result.failureReason ≠ none ∨ result.diagnostic ≠ none)
      "A completed AgentRun cannot carry failure metadata."

def finishRun [RuntimeHost] (run : AgentRun R P S) (status : AgentRunStatus) (output : Option Text) (now : ℤ)
    (failureReason : Option AgentRunFailureReason) (provider : Option P) (systemEvidence : Option S)
    (diagnostic : Option Text) : Except String (AgentRun R P S) := do
  refuse (run.status ≠ .active) s!"AgentRun is already terminal: {run.id}."
  let timestamp ← Binding.iso now
  optionally (checkText requireResultText "AgentRun result output") output
  optionally (checkText requireDiagnosticText "AgentRun result diagnostic") diagnostic
  optionally checks.provider provider
  optionally checks.evidence systemEvidence
  let terminal : AgentRun R P S := { run with
    status := status
    result := some ⟨output, diagnostic, timestamp, provider, systemEvidence, failureReason⟩
    updatedAt := timestamp }
  validateRun checks terminal
  .ok terminal

def failRun [RuntimeHost] (run : AgentRun R P S) (reason : AgentRunFailureReason) (diagnostic : Text) (now : ℤ)
    (provider : Option P) (output : Option Text) : Except String (AgentRun R P S) :=
  finishRun checks run .failed output now (some reason) provider none
    (some (boundedRunFailureDiagnostic (some diagnostic) defaultFallback))

theorem requireTextWithin_iff {limit : ℕ} {value : Text} {label : String} :
    requireTextWithin limit value label = .ok value ↔
      .scalar nul ∉ value ∧ isBlank value = false ∧ byteLength value ≤ limit := by
  rw [requireTextWithin, seq_iff, seq_iff, seq_iff, refuse_iff, refuse_iff, refuse_iff, Bool.not_eq_true, not_lt,
    eq_self_iff_true, and_true]

/-- The text that `Buffer` sees of a diagnostic. -/
def written (value : Text) : List Char := scalars (withoutNul (candidate (some value) defaultFallback))

/-- The first character of the diagnostic that is not blank is stored with what is before it. -/
def Kept (value : Text) : Prop :=
  (encode (written value)).length ≤ maxRunFailureDiagnosticBytes ∨
    ∃ first ∈ ((written value).dropWhile JsText.isWhitespace).head?,
      (encode ((written value).takeWhile JsText.isWhitespace)).length + (encodeChar first).length <
          maxRunFailureDiagnosticBytes ∨
        (encode ((written value).takeWhile JsText.isWhitespace)).length + (encodeChar first).length =
          maxRunFailureDiagnosticBytes ∧ first ≠ replacement

theorem isWhitespace_toScalar (point : CodePoint) : JsText.isWhitespace point.toScalar = point.isWhitespace := by
  cases point with
  | scalar c => rfl
  | surrogate unit => exact (by decide : JsText.isWhitespace replacement = false)

theorem isBlank_iff {text : Text} : isBlank text = true ↔ ∀ c ∈ scalars text, JsText.isWhitespace c = true := by
  rw [isBlank, List.all_eq_true, scalars, List.forall_mem_map]
  simp only [isWhitespace_toScalar]

theorem isBlank_withoutNul (text : Text) : isBlank (withoutNul text) = isBlank text := by
  have hpoint : ∀ point : CodePoint, (if point = .scalar nul then CodePoint.scalar replacement else point).isWhitespace =
      point.isWhitespace := by
    intro point
    split_ifs with hnul
    · rw [hnul]
      decide
    · rfl
  rw [isBlank, isBlank, withoutNul, List.all_map]
  simp only [Function.comp_def, hpoint]

theorem nul_notMem_withoutNul (text : Text) : .scalar nul ∉ withoutNul text := by
  intro hmem
  obtain ⟨point, -, hpoint⟩ := List.mem_map.1 hmem
  split_ifs at hpoint with hnul
  · exact absurd (CodePoint.scalar.inj hpoint) (by decide)
  · exact hnul hpoint

theorem withoutNul_of_notMem {text : Text} (h : .scalar nul ∉ text) : withoutNul text = text := by
  have hsame : ∀ point ∈ text, (if point = .scalar nul then CodePoint.scalar replacement else point) = point :=
    fun point hpoint => if_neg fun hnul : point = .scalar nul => h (hnul ▸ hpoint)
  rw [withoutNul, List.map_congr_left hsame, List.map_id']

theorem scalars_map_scalar (text : List Char) : scalars (text.map .scalar) = text := by
  rw [scalars, List.map_map]
  exact List.map_id _

theorem nul_notMem_written (value : Text) : nul ∉ written value := by
  intro hmem
  obtain ⟨point, hpoint, hnul⟩ := List.mem_map.1 hmem
  cases point with
  | scalar c =>
    obtain rfl : c = nul := hnul
    exact nul_notMem_withoutNul _ hpoint
  | surrogate unit => exact absurd (show replacement = nul from hnul) (by decide)

theorem isBlank_candidate (value : Text) : isBlank (candidate (some value) defaultFallback) = false := by
  rw [candidate]
  split_ifs with hblank
  · rfl
  · exact Bool.eq_false_of_not_eq_true hblank

/-- What is stored of a diagnostic that is too long. -/
def keptText (limit : ℕ) (text : List Char) : List Char := withoutLastReplacement (decode ((encode text).take limit))

theorem withoutLastReplacement_concat (text : List Char) (c : Char) :
    withoutLastReplacement (text ++ [c]) = if c = replacement then text else text ++ [c] := by
  simp [withoutLastReplacement]

theorem keptText_eq (limit : ℕ) (text : List Char) : keptText limit text =
    if cutInside limit text = true then whole limit text else withoutLastReplacement (whole limit text) := by
  rw [keptText, decode_take_encode]
  split_ifs with hcut
  · rw [withoutLastReplacement_concat, if_pos rfl]
  · rw [List.append_nil]

theorem withoutLastReplacement_isPrefix (text : List Char) : withoutLastReplacement text <+: text := by
  rw [withoutLastReplacement]
  split_ifs
  · exact List.dropLast_prefix text
  · exact List.prefix_rfl

theorem keptText_isPrefix_whole (limit : ℕ) (text : List Char) : keptText limit text <+: whole limit text := by
  rw [keptText_eq]
  split_ifs
  · exact List.prefix_rfl
  · exact withoutLastReplacement_isPrefix _

theorem keptText_isPrefix (limit : ℕ) (text : List Char) : keptText limit text <+: text :=
  (keptText_isPrefix_whole limit text).trans (whole_isPrefix limit text)

theorem length_encode_le_of_isPrefix {text more : List Char} (h : text <+: more) :
    (encode text).length ≤ (encode more).length := by
  obtain ⟨rest, rfl⟩ := h
  rw [encode_append, List.length_append]
  exact Nat.le_add_right _ _

theorem length_encode_keptText_le (limit : ℕ) (text : List Char) : (encode (keptText limit text)).length ≤ limit :=
  (length_encode_le_of_isPrefix (keptText_isPrefix_whole limit text)).trans (length_encode_whole_le limit text)

theorem mem_keptText_iff {limit : ℕ} {blank rest : List Char} {first : Char}
    (hblank : ∀ c ∈ blank, JsText.isWhitespace c = true) (hfirst : JsText.isWhitespace first = false)
    (hlong : limit < (encode (blank ++ first :: rest)).length) :
    (∃ c ∈ keptText limit (blank ++ first :: rest), JsText.isWhitespace c = false) ↔
      (encode blank).length + (encodeChar first).length < limit ∨
        (encode blank).length + (encodeChar first).length = limit ∧ first ≠ replacement := by
  have hsplit : blank ++ first :: rest = (blank ++ [first]) ++ rest := by simp
  have hstart : (encode (blank ++ [first])).length = (encode blank).length + (encodeChar first).length := by
    rw [encode_append, encode_cons, List.length_append, List.length_append]
    rfl
  obtain hless | hequal | hgreater :=
    lt_trichotomy ((encode blank).length + (encodeChar first).length) limit
  · refine iff_of_true ⟨first, ?_, hfirst⟩ (.inl hless)
    have hwhole : whole limit (blank ++ first :: rest) =
        (blank ++ [first]) ++ whole (limit - (encode (blank ++ [first])).length) rest := by
      rw [hsplit, whole_append (by omega)]
    have hin : first ∈ blank ++ [first] := List.mem_append_right _ (List.mem_singleton_self first)
    rw [keptText_eq]
    split_ifs with hcut
    · rw [hwhole]
      exact List.mem_append_left _ hin
    · have hlength := length_encode_whole_eq hlong.le (Bool.eq_false_of_not_eq_true hcut)
      rw [withoutLastReplacement, hwhole]
      split_ifs
      · have hmore : whole (limit - (encode (blank ++ [first])).length) rest ≠ [] := by
          intro hnil
          rw [hwhole, hnil, List.append_nil, hstart] at hlength
          omega
        rw [List.dropLast_append_of_ne_nil hmore]
        exact List.mem_append_left _ hin
      · exact List.mem_append_left _ hin
  · have hwhole : whole limit (blank ++ first :: rest) = blank ++ [first] := by
      rw [hsplit, whole_append (by omega), hstart, hequal, Nat.sub_self, whole_zero, List.append_nil]
    have hcut : cutInside limit (blank ++ first :: rest) = false := by
      rw [hsplit, cutInside_append (by omega), hstart, hequal, Nat.sub_self, cutInside_zero]
    rw [keptText_eq, hcut, if_neg Bool.false_ne_true, hwhole, withoutLastReplacement_concat]
    split_ifs with hreplacement
    · refine iff_of_false ?_ (by rintro (hless | ⟨-, hother⟩) <;> [omega; exact hother hreplacement])
      rintro ⟨c, hmem, hc⟩
      exact absurd (hblank c hmem) (by rw [hc]; decide)
    · exact iff_of_true ⟨first, List.mem_append_right _ (List.mem_singleton_self first), hfirst⟩
        (.inr ⟨hequal, hreplacement⟩)
  · refine iff_of_false ?_ (by omega)
    rintro ⟨c, hmem, hc⟩
    have hwhole : whole limit (blank ++ first :: rest) <+: blank := by
      obtain hfits | hcut := le_or_gt (encode blank).length limit
      · have hnone : whole (limit - (encode blank).length) (first :: rest) = [] := by rw [whole, if_neg (by omega)]
        rw [whole_append hfits, hnone, List.append_nil]
      · rw [whole_append_of_lt hcut]
        exact whole_isPrefix limit blank
    exact absurd (hblank c (hwhole.subset ((keptText_isPrefix_whole _ _).subset hmem))) (by rw [hc]; decide)

theorem bounded_eq (value : Text) : boundedRunFailureDiagnostic (some value) defaultFallback =
    if (encode (written value)).length ≤ maxRunFailureDiagnosticBytes then
      withoutNul (candidate (some value) defaultFallback)
    else (keptText maxRunFailureDiagnosticBytes (written value)).map .scalar := rfl

theorem isBlank_map_scalar {text : List Char} :
    isBlank (text.map .scalar) = false ↔ ∃ c ∈ text, JsText.isWhitespace c = false := by
  rw [← Bool.not_eq_true, isBlank_iff, scalars_map_scalar]
  simp

theorem byteLength_map_scalar (text : List Char) : byteLength (text.map .scalar) = (encode text).length := by
  rw [byteLength, scalars_map_scalar]

theorem requireDiagnosticText_bounded_iff (value : Text) (label : String) :
    requireDiagnosticText (boundedRunFailureDiagnostic (some value) defaultFallback) label =
      .ok (boundedRunFailureDiagnostic (some value) defaultFallback) ↔ Kept value := by
  rw [requireDiagnosticText, requireTextWithin_iff, bounded_eq, Kept]
  split_ifs with hshort
  · refine iff_of_true ⟨nul_notMem_withoutNul _, ?_, hshort⟩ (.inl hshort)
    rw [isBlank_withoutNul, isBlank_candidate]
  · rw [or_iff_right hshort, byteLength_map_scalar]
    have hnul : CodePoint.scalar nul ∉ (keptText maxRunFailureDiagnosticBytes (written value)).map .scalar := by
      intro hmem
      obtain ⟨c, hc, hnul⟩ := List.mem_map.1 hmem
      obtain rfl := CodePoint.scalar.inj hnul
      exact nul_notMem_written value ((keptText_isPrefix _ _).subset hc)
    have hblank : isBlank (withoutNul (candidate (some value) defaultFallback)) = false := by
      rw [isBlank_withoutNul, isBlank_candidate]
    rw [and_iff_right hnul, and_iff_left (length_encode_keptText_le _ _), isBlank_map_scalar]
    cases hrest : (written value).dropWhile JsText.isWhitespace with
    | nil =>
      rw [List.dropWhile_eq_nil_iff] at hrest
      exact absurd (isBlank_iff.2 hrest) (by rw [hblank]; decide)
    | cons first rest =>
      have htext : (written value).takeWhile JsText.isWhitespace ++ first :: rest = written value := by
        rw [← hrest, List.takeWhile_append_dropWhile]
      have hfirst : JsText.isWhitespace first = false := by
        have hnot := List.head?_dropWhile_not JsText.isWhitespace (written value)
        rw [hrest] at hnot
        exact hnot
      have hlong : maxRunFailureDiagnosticBytes <
          (encode ((written value).takeWhile JsText.isWhitespace ++ first :: rest)).length := by
        rw [htext]
        exact not_le.1 hshort
      have hiff := mem_keptText_iff (fun c hc => List.mem_takeWhile_imp hc) hfirst hlong
      rw [htext] at hiff
      rw [hiff]
      simp

theorem length_encodeChar_le (c : Char) : (encodeChar c).length ≤ 4 := by
  unfold encodeChar
  dsimp only
  split_ifs <;> simp

theorem kept_cons {c : Char} (hc : JsText.isWhitespace c = false) (rest : Text) : Kept (.scalar c :: rest) := by
  have hblank : isBlank (CodePoint.scalar c :: rest) = false := by
    rw [isBlank, List.all_cons, CodePoint.isWhitespace, hc, Bool.false_and]
  have hwritten : ∃ first more, JsText.isWhitespace first = false ∧ written (.scalar c :: rest) = first :: more := by
    rw [written, candidate, hblank, if_neg Bool.false_ne_true, withoutNul, scalars, List.map_cons, List.map_cons]
    refine ⟨_, _, ?_, rfl⟩
    rw [isWhitespace_toScalar]
    split_ifs
    · exact (by decide : JsText.isWhitespace replacement = false)
    · exact hc
  obtain ⟨first, more, hfirst, htext⟩ := hwritten
  have hsize := length_encodeChar_le first
  refine .inr ⟨first, ?_, .inl ?_⟩
  · rw [htext, List.dropWhile_cons_of_neg (by rw [hfirst]; decide)]
    rfl
  · rw [htext, List.takeWhile_cons_of_neg (by rw [hfirst]; decide), maxRunFailureDiagnosticBytes]
    simp only [encode, List.flatMap_nil, List.length_nil]
    omega

section Terminal

variable [RuntimeHost]

theorem finishRun_of_accepted {run result : AgentRun R P S} {output : Option Text} {now : ℤ}
    {reason : AgentRunFailureReason} {provider : Option P} {first second : Text}
    (hsecond : requireDiagnosticText second "AgentRun result diagnostic" = .ok second)
    (h : finishRun checks run .failed output now (some reason) provider none (some first) = .ok result) :
    ∃ other, finishRun checks run .failed output now (some reason) provider none (some second) = .ok other := by
  have hdiagnostic : optionally (checkText requireDiagnosticText "AgentRun result diagnostic") (some second) =
      .ok () := by
    rw [optionally, checkText, hsecond, ok_bind]
  obtain ⟨hactive, h⟩ := seq_iff.1 h
  obtain ⟨timestamp, hiso, h⟩ := bind_ok h
  obtain ⟨houtput, h⟩ := seq_iff.1 h
  obtain ⟨-, h⟩ := seq_iff.1 h
  obtain ⟨hprovider, h⟩ := seq_iff.1 h
  obtain ⟨hevidence, h⟩ := seq_iff.1 h
  obtain ⟨hvalid, -⟩ := seq_iff.1 h
  obtain ⟨hrun, hvalid⟩ := seq_iff.1 hvalid
  obtain ⟨hcreated, hvalid⟩ := seq_iff.1 hvalid
  obtain ⟨hupdated, hvalid⟩ := seq_iff.1 hvalid
  obtain ⟨hresult, -⟩ := seq_iff.1 hvalid
  obtain ⟨-, hresult⟩ := seq_iff.1 hresult
  obtain ⟨-, hresult⟩ := seq_iff.1 hresult
  obtain ⟨hcompleted, -⟩ := seq_iff.1 hresult
  refine ⟨{ run with
    status := .failed
    result := some ⟨output, some second, timestamp, provider, none, some reason⟩
    updatedAt := timestamp }, ?_⟩
  rw [finishRun, hactive, ok_bind, hiso, ok_bind, houtput, ok_bind, hdiagnostic, ok_bind, hprovider, ok_bind,
    hevidence, ok_bind]
  refine seq_iff.2 ⟨?_, rfl⟩
  refine seq_iff.2 ⟨hrun, seq_iff.2 ⟨hcreated, seq_iff.2 ⟨hupdated, seq_iff.2 ⟨?_, rfl⟩⟩⟩⟩
  exact seq_iff.2 ⟨houtput, seq_iff.2 ⟨hdiagnostic, seq_iff.2 ⟨hcompleted, seq_iff.2 ⟨hprovider, hevidence⟩⟩⟩⟩

/-- Every code point is a scalar value. -/
def WellFormed (text : Text) : Prop := ∀ point ∈ text, ∃ c, point = .scalar c

/-- The diagnostic that ends a run as failed can be stored. -/
structure Storable (value : Text) : Prop where
  accepted : ∀ label, requireDiagnosticText (boundedRunFailureDiagnostic (some value) defaultFallback) label =
    .ok (boundedRunFailureDiagnostic (some value) defaultFallback)
  start : WellFormed value → boundedRunFailureDiagnostic (some value) defaultFallback <+:
    withoutNul (candidate (some value) defaultFallback)
  idempotent : boundedRunFailureDiagnostic (some (boundedRunFailureDiagnostic (some value) defaultFallback))
    defaultFallback = boundedRunFailureDiagnostic (some value) defaultFallback
  /-- A run that ends as failed with some diagnostic does so with this one. -/
  terminal : ∀ {R P S : Type} (checks : RunChecks R P S) (run : AgentRun R P S) (reason : AgentRunFailureReason)
    (now : ℤ) (provider : Option P) (output : Option Text) (other : Text) (result : AgentRun R P S),
    finishRun checks run .failed output now (some reason) provider none (some other) = .ok result →
      ∃ ended, failRun checks run reason value now provider output = .ok ended

omit [RuntimeHost] in
theorem wellFormed_withoutNul {text : Text} (h : WellFormed text) :
    (scalars (withoutNul text)).map .scalar = withoutNul text := by
  have hpoint : ∀ point ∈ withoutNul text, CodePoint.scalar point.toScalar = point := by
    intro point hpoint
    obtain ⟨before, hbefore, rfl⟩ := List.mem_map.1 hpoint
    obtain ⟨c, rfl⟩ := h before hbefore
    split_ifs <;> rfl
  rw [scalars, List.map_map]
  exact (List.map_congr_left hpoint).trans (List.map_id _)

theorem storable_iff_kept (value : Text) : Storable value ↔ Kept value := by
  refine ⟨fun h => (requireDiagnosticText_bounded_iff value "").1 (h.accepted ""), fun hkept => ?_⟩
  have haccepted := fun label => (requireDiagnosticText_bounded_iff value label).2 hkept
  refine ⟨haccepted, fun hwell => ?_, ?_, ?_⟩
  · rw [bounded_eq]
    split_ifs with hshort
    · exact List.prefix_rfl
    · have hcandidate : WellFormed (candidate (some value) defaultFallback) := by
        rw [candidate]
        split_ifs
        · intro point hpoint
          obtain ⟨c, -, rfl⟩ := List.mem_map.1 hpoint
          exact ⟨c, rfl⟩
        · exact hwell
      have hprefix := (keptText_isPrefix maxRunFailureDiagnosticBytes (written value)).map CodePoint.scalar
      rwa [written, wellFormed_withoutNul hcandidate] at hprefix
  · obtain ⟨hnul, hblank, hsize⟩ := requireTextWithin_iff.1 (haccepted "")
    generalize boundedRunFailureDiagnostic (some value) defaultFallback = stored at hnul hblank hsize ⊢
    have hcandidate : candidate (some stored) defaultFallback = stored := by
      rw [candidate, hblank, if_neg Bool.false_ne_true]
    rw [boundedRunFailureDiagnostic, hcandidate, withoutNul_of_notMem hnul]
    exact if_pos hsize
  · intro R P S checks run reason now provider output other result hother
    exact finishRun_of_accepted checks (haccepted _) hother

omit [RuntimeHost] in
theorem ofString_append (text more : String) : ofString (text ++ more) = ofString text ++ ofString more := by
  rw [ofString, String.toList_append, List.map_append, ofString, ofString]

/-- What is transported as completed passes the check of the output, and every failed outcome ends a run. -/
def Transported (value : Option Text) : Prop :=
  match transportAgentResult value with
  | .completed output => value = some output ∧ ∀ label, requireResultText output label = .ok output
  | .failed diagnostic _ => Storable diagnostic

theorem transported (value : Option Text) : Transported value := by
  have hstorable : ∀ rest, Storable (.scalar 'P' :: rest) := fun rest =>
    (storable_iff_kept _).2 (kept_cons (by decide) rest)
  cases value with
  | none => exact hstorable _
  | some value =>
    rw [Transported, transportAgentResult]
    split_ifs with hnul hblank hlong
    · exact hstorable _
    · exact hstorable _
    · simp only [ofString_append]
      exact hstorable _
    · refine ⟨rfl, fun label => ?_⟩
      exact requireTextWithin_iff.2 ⟨hnul, Bool.eq_false_of_not_eq_true hblank, not_lt.1 hlong⟩

theorem terminal_outcome_stored_iff (value : Text) (result : Option Text) :
    (Storable value ∧ Transported result) ↔ Kept value := by
  rw [and_iff_left (transported result), storable_iff_kept]

end Terminal

/-- A text after so many spaces that none of it is stored. -/
def indented (spaces : ℕ) : Text := List.replicate spaces (CodePoint.scalar ' ') ++ [CodePoint.scalar 'x']

theorem written_indented (spaces : ℕ) : written (indented spaces) = List.replicate spaces ' ' ++ ['x'] := by
  have hblank : isBlank (indented spaces) = false := by
    rw [isBlank, indented, List.all_append]
    exact (Bool.and_comm _ _).trans rfl
  rw [written, candidate, hblank, if_neg Bool.false_ne_true, indented, withoutNul, scalars, List.map_append,
    List.map_append, List.map_replicate, List.map_replicate]
  rfl

theorem length_encode_spaces (spaces : ℕ) : (encode (List.replicate spaces ' ')).length = spaces := by
  induction spaces with
  | zero => rfl
  | succ spaces ih =>
    rw [List.replicate_succ, encode_cons, List.length_append, ih, Nat.add_comm]
    rfl

theorem not_kept_indented {spaces : ℕ} (h : maxRunFailureDiagnosticBytes ≤ spaces) : ¬ Kept (indented spaces) := by
  have hspace : ∀ c ∈ List.replicate spaces ' ', JsText.isWhitespace c = true := by
    intro c hc
    rw [List.eq_of_mem_replicate hc]
    decide
  have htake : (written (indented spaces)).takeWhile JsText.isWhitespace = List.replicate spaces ' ' := by
    rw [written_indented, List.takeWhile_append_of_pos hspace, List.takeWhile_cons_of_neg (by decide), List.append_nil]
  rintro (hshort | ⟨first, hfirst, hkept⟩)
  · rw [written_indented, encode_append, List.length_append, length_encode_spaces] at hshort
    have hone : (encode ['x']).length = 1 := rfl
    omega
  · have hpos := length_encodeChar_pos first
    rw [htake, length_encode_spaces] at hkept
    omega

theorem blank_diagnostic_refused : ¬ ∀ (_ : RuntimeHost) (value : Text) (result : Option Text),
    Storable value ∧ Transported result := fun h =>
  not_kept_indented le_rfl ((@storable_iff_kept Binding.sampleRetryHost _).1
    (h Binding.sampleRetryHost (indented maxRunFailureDiagnosticBytes) none).1)

end AgentResultTransport
