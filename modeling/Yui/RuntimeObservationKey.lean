import Yui.LineFraming
import Yui.RuntimeObservationEvent
import Yui.RuntimeObservationJson
import Yui.RuntimeObservationStable

/-!
# Semantic keys of runtime observations

`runtimeObservationSemanticKey`: observations of one fact share a key, under which the Inbox keeps one of them. The
digest of a report is a parameter.
-/

open Checked

namespace Runtime

/-- The kinds whose boundary is a fact of its own: a replay with a fresh sequence has the same key. -/
def isTerminalBoundary (kind : RuntimeObservationKind) : Bool :=
  kind ∈ [.sessionEnded, .sessionFailed, .goalCleared, .turnCompleted, .turnFailed, .turnCancelled,
    .continuationSettled]

/-- `conversationId ?? nativeSessionId`. -/
def conversationOf (fence : RuntimeObservationFence) : Option String := fence.conversationId.or fence.nativeSessionId

/-- `receiptId ?? nativeTurnId`. -/
def turnOf (fence : RuntimeObservationFence) : Option String := fence.receiptId.or fence.nativeTurnId

/-- `continuationIdentity` -/
def keyIdentity (fence : RuntimeObservationFence) : List String :=
  [fence.driverId, fence.agentId, (conversationOf fence).getD "none", fence.continuationId.getD "none"]

def terminalOutcome (payload : RuntimeObservationPayload) : String :=
  match payload.outcome, payload.failure with
  | some outcome, _ => outcomeName outcome
  | none, some failure => failure.error.code
  | none, none => "terminal"

/-- The parts of the key of a terminal boundary after its identity. -/
def terminalParts (kind : RuntimeObservationKind) (fence : RuntimeObservationFence)
    (payload : RuntimeObservationPayload) : List String :=
  [(fence.continuationId.or (turnOf fence)).getD "none", kind.text, terminalOutcome payload,
    if kind = .continuationSettled then payload.resultRef.getD "none" else "none",
    if kind = .turnFailed ∧ (payload.failure.bind (·.runTerminal)) = some true then "turn-terminal-failure"
    else "turn-terminal"]

def reportIdentity (sha256 : String → String) (payload : RuntimeObservationPayload) : String :=
  match payload.summary.map JsText.trim with
  | none => payload.reportId.getD "missing"
  | some summary => if summary = "" then payload.reportId.getD "missing" else "sha256:" ++ sha256 summary

def runtimeObservationSemanticKey (sha256 : String → String) (eventId : String) (kind : RuntimeObservationKind)
    (fence : RuntimeObservationFence) (payload : RuntimeObservationPayload) : Except String String :=
  if isTerminalBoundary kind = true then
    .ok (":".intercalate ("terminal" :: (keyIdentity fence ++ terminalParts kind fence payload)))
  else if kind = .goalUpdated then
    .ok (":".intercalate ["goal-state", fence.driverId, (conversationOf fence).getD "none",
      (payload.goalStatus.map goalStatusName).getD "unknown", payload.goalUpdatedAt.getD "unknown"])
  else if kind = .continuationReported then
    .ok (":".intercalate ("continuation-report" :: (keyIdentity fence ++ [reportIdentity sha256 payload])))
  else if kind = .continuationStarted then
    .ok (":".intercalate ("continuation-state" :: (keyIdentity fence ++
      [(payload.execution.map executionName).getD "unknown", (payload.attachment.map attachmentName).getD "unknown",
        (payload.observationQuality.map qualityName).getD "unknown",
        if payload.mayWriteWorkspace = some true then "writer" else "read-only",
        (payload.outcome.map outcomeName).getD "unknown", payload.resultRef.getD "none"])))
  else do
    let eventId ← requireIdentity eventId "Runtime observation event id"
    .ok ("provider-event:" ++ eventId)

def semanticKeyOf (sha256 : String → String) (observation : RuntimeObservation) : Except String String :=
  runtimeObservationSemanticKey sha256 observation.eventId observation.kind observation.fence observation.payload

/-- The texts around the turn of a key, which may itself have separators. -/
def keyTexts (observation : RuntimeObservation) : List String :=
  observation.fence.agentId :: terminalOutcome observation.payload ::
    ((conversationOf observation.fence).toList ++ observation.fence.continuationId.toList)

def Plain (text : String) : Prop := ':' ∉ text.toList

instance (text : String) : Decidable (Plain text) := inferInstanceAs (Decidable (':' ∉ text.toList))

theorem join_cons_inj {first second next other : String} {rest more : List String} (hfirst : Plain first)
    (hsecond : Plain second)
    (h : (":".intercalate (first :: next :: rest)) = ":".intercalate (second :: other :: more)) :
    first = second ∧ ":".intercalate (next :: rest) = ":".intercalate (other :: more) := by
  rw [String.intercalate_cons_cons, String.intercalate_cons_cons] at h
  have hlists : first.toList ++ ':' :: (":".intercalate (next :: rest)).toList =
      second.toList ++ ':' :: (":".intercalate (other :: more)).toList := by
    simpa [String.append_assoc] using congrArg String.toList h
  obtain ⟨hhead, htail⟩ := LineFraming.cons_inj hfirst hsecond hlists
  exact ⟨String.toList_inj.1 hhead, String.toList_inj.1 htail⟩

theorem join_snoc_inj {front back first second : String} (hfirst : Plain first) (hsecond : Plain second)
    (h : front ++ ":" ++ first = back ++ ":" ++ second) : front = back ∧ first = second := by
  have hlists : front.toList ++ ':' :: first.toList = back.toList ++ ':' :: second.toList := by
    simpa [String.append_assoc] using congrArg String.toList h
  obtain ⟨hfront, hlast⟩ := LineFraming.snoc_inj hfirst hsecond hlists
  exact ⟨String.toList_inj.1 hfront, String.toList_inj.1 hlast⟩

theorem plain_of_isDriverId {id : String} (h : isDriverId id = true) : Plain id := by
  have hpart : ∀ {part : List Char}, isDriverPart part = true → ':' ∉ part := by
    intro part hpart hcolon
    cases part with
    | nil => cases hpart
    | cons first rest =>
      rw [isDriverPart, Bool.and_eq_true, List.all_eq_true] at hpart
      obtain rfl | hrest := List.mem_cons.1 hcolon
      · exact absurd hpart.1 (by decide)
      · exact absurd (hpart.2 ':' hrest) (by decide)
  rw [isDriverId, Bool.and_eq_true] at h
  obtain ⟨hnamespace, hname⟩ := h
  intro hcolon
  rw [← List.takeWhile_append_dropWhile (p := (· != '/')) (l := id.toList)] at hcolon
  obtain hcolon | hcolon := List.mem_append.1 hcolon
  · exact hpart hnamespace hcolon
  · cases hrest : id.toList.dropWhile (· != '/') with
    | nil => exact absurd (hrest ▸ hcolon) List.not_mem_nil
    | cons slash rest =>
      rw [hrest] at hcolon hname
      obtain rfl | hcolon := List.mem_cons.1 hcolon
      · have hslash := List.head?_dropWhile_not (· != '/') id.toList
        rw [hrest] at hslash
        exact absurd (show (':' != '/') = false from hslash) (by decide)
      · exact hpart hname hcolon

structure TurnEnd (observation : RuntimeObservation) : Prop where
  kind : isTurnEnd observation.kind = true
  driver : Plain observation.fence.driverId
  conversation : (conversationOf observation.fence).isSome = true
  turn : (turnOf observation.fence).isSome = true

theorem createRuntimeObservation_turnEnd [JsHost] {input observation : RuntimeObservation}
    (h : createRuntimeObservation input = .ok observation) (hkind : isTurnEnd observation.kind = true) :
    TurnEnd observation := by
  have hstable := createRuntimeObservation_stable input observation h
  unfold createRuntimeObservation at hstable
  obtain ⟨_, -, fence, hfence, _, hscope, hstable⟩ := bind_ok₃ hstable
  iterate 7 obtain ⟨_, -, hstable⟩ := bind_ok hstable
  obtain rfl : fence = observation.fence := congrArg RuntimeObservation.fence (Except.ok.inj hstable)
  have hscoped : observation.kind.isRunScoped = true := by
    revert hkind
    cases observation.kind <;> decide
  obtain ⟨hsession, hscope⟩ := seq_iff.1 hscope
  obtain ⟨hturn, -⟩ := seq_iff.1 hscope
  have hdriver : Plain observation.fence.driverId := by
    iterate 4 obtain ⟨_, -, hfence⟩ := bind_ok hfence
    obtain ⟨driverId, hdriver, hfence⟩ := bind_ok hfence
    iterate 6 obtain ⟨_, -, hfence⟩ := bind_ok hfence
    obtain rfl : driverId = observation.fence.driverId :=
      congrArg RuntimeObservationFence.driverId (Except.ok.inj hfence)
    obtain ⟨id, -, hid⟩ := bind_ok hdriver
    split_ifs at hid with hvalid
    obtain rfl := Except.ok.inj hid
    exact plain_of_isDriverId hvalid
  refine ⟨hkind, hdriver, ?_, ?_⟩
  · rw [conversationOf, Option.isSome_or, Option.isSome_iff_ne_none.2 fun hnone => refuse_ok hsession ⟨hscoped, hnone⟩,
      Bool.or_true]
  · rw [turnOf, Option.isSome_or, Bool.or_eq_true]
    by_contra hnone
    rw [not_or, Option.not_isSome_iff_eq_none, Option.not_isSome_iff_eq_none] at hnone
    exact refuse_ok hturn ⟨hscoped, hnone.2, hnone.1⟩

/-- The two observations tell the end of one turn, or of one continuation. An absent continuation reads as `none`. -/
structure SameTurn (first second : RuntimeObservation) : Prop where
  kind : first.kind = second.kind
  driverId : first.fence.driverId = second.fence.driverId
  agentId : first.fence.agentId = second.fence.agentId
  conversation : conversationOf first.fence = conversationOf second.fence
  continuation : first.fence.continuationId.getD "none" = second.fence.continuationId.getD "none"
  turn : first.fence.continuationId = none → second.fence.continuationId = none →
    turnOf first.fence = turnOf second.fence

theorem semanticKeyOf_turnEnd (sha256 : String → String) {observation : RuntimeObservation}
    (h : isTurnEnd observation.kind = true) : semanticKeyOf sha256 observation =
      .ok (":".intercalate ("terminal" ::
        (keyIdentity observation.fence ++ terminalParts observation.kind observation.fence observation.payload))) := by
  have hterminal : isTerminalBoundary observation.kind = true := by
    revert h
    cases observation.kind <;> decide
  rw [semanticKeyOf, runtimeObservationSemanticKey, if_pos hterminal]

theorem plain_getD {value : Option String} (h : ∀ id ∈ value, Plain id) : Plain (value.getD "none") := by
  cases value with
  | none => exact (by decide : Plain "none")
  | some id => exact h id rfl

theorem plain_kind (kind : RuntimeObservationKind) : Plain kind.text := by
  cases kind <;> decide

theorem turnEnd_cases {kind : RuntimeObservationKind} (h : isTurnEnd kind = true) :
    kind = .turnCompleted ∨ kind = .turnFailed ∨ kind = .turnCancelled := by
  simpa [isTurnEnd] using h

theorem turnEnd_text_inj {first second : RuntimeObservationKind} (hfirst : isTurnEnd first = true)
    (hsecond : isTurnEnd second = true) (h : first.text = second.text) : first = second := by
  revert h
  obtain rfl | rfl | rfl := turnEnd_cases hfirst <;> obtain rfl | rfl | rfl := turnEnd_cases hsecond <;> decide

/-- An end of a turn whose key has no separator in the texts around the turn. -/
structure PlainTurnEnd (observation : RuntimeObservation) : Prop extends TurnEnd observation where
  texts : ∀ text ∈ keyTexts observation, Plain text

namespace PlainTurnEnd

variable {observation : RuntimeObservation} (h : PlainTurnEnd observation)
include h

theorem agentId : Plain observation.fence.agentId := h.texts _ List.mem_cons_self

theorem outcome : Plain (terminalOutcome observation.payload) := h.texts _ (List.mem_cons_of_mem _ List.mem_cons_self)

theorem conversationId : Plain ((conversationOf observation.fence).getD "none") :=
  plain_getD fun id hid => h.texts id (by simp [keyTexts, Option.mem_def.1 hid])

theorem continuationId : Plain (observation.fence.continuationId.getD "none") :=
  plain_getD fun id hid => h.texts id (by simp [keyTexts, Option.mem_def.1 hid])

theorem result : Plain (if observation.kind = .continuationSettled then observation.payload.resultRef.getD "none"
    else "none") := by
  rw [if_neg fun hkind => absurd (hkind ▸ h.kind) (by decide)]
  decide

end PlainTurnEnd

theorem plain_mark (failed : Prop) [Decidable failed] :
    Plain (if failed then "turn-terminal-failure" else "turn-terminal") := by
  split_ifs <;> decide

theorem PlainTurnEnd.sameTurn {first second : RuntimeObservation} (hfirst : PlainTurnEnd first)
    (hsecond : PlainTurnEnd second)
    (h : ":".intercalate ("terminal" :: (keyIdentity first.fence ++
        terminalParts first.kind first.fence first.payload)) =
      ":".intercalate ("terminal" :: (keyIdentity second.fence ++
        terminalParts second.kind second.fence second.payload))) : SameTurn first second := by
  have hmark : Plain "terminal" := by decide
  obtain ⟨-, h⟩ := join_cons_inj hmark hmark h
  obtain ⟨hdriver, h⟩ := join_cons_inj hfirst.driver hsecond.driver h
  obtain ⟨hagent, h⟩ := join_cons_inj hfirst.agentId hsecond.agentId h
  obtain ⟨hconversation, h⟩ := join_cons_inj hfirst.conversationId hsecond.conversationId h
  obtain ⟨hcontinuation, h⟩ := join_cons_inj hfirst.continuationId hsecond.continuationId h
  -- the turn comes next, so the rest is taken from the other end
  obtain ⟨h, -⟩ := join_snoc_inj (plain_mark _) (plain_mark _) h
  obtain ⟨h, -⟩ := join_snoc_inj hfirst.result hsecond.result h
  obtain ⟨h, -⟩ := join_snoc_inj hfirst.outcome hsecond.outcome h
  obtain ⟨hsubject, hkind⟩ := join_snoc_inj (plain_kind _) (plain_kind _) h
  refine ⟨turnEnd_text_inj hfirst.kind hsecond.kind hkind, hdriver, hagent, ?_, hcontinuation, fun hnone hother => ?_⟩
  · obtain ⟨mine, hmine⟩ := Option.isSome_iff_exists.1 hfirst.conversation
    obtain ⟨its, hits⟩ := Option.isSome_iff_exists.1 hsecond.conversation
    rw [hmine, hits] at hconversation ⊢
    exact congrArg some hconversation
  · obtain ⟨mine, hmine⟩ := Option.isSome_iff_exists.1 hfirst.turn
    obtain ⟨its, hits⟩ := Option.isSome_iff_exists.1 hsecond.turn
    rw [hnone, hother, Option.none_or, Option.none_or, hmine, hits] at hsubject
    rw [hmine, hits]
    exact congrArg some hsubject

theorem semantic_key_identifies_turn [JsHost] (sha256 : String → String) {input other first second : RuntimeObservation}
    (hfirst : createRuntimeObservation input = .ok first) (hsecond : createRuntimeObservation other = .ok second)
    (hend : isTurnEnd first.kind = true) (hother : isTurnEnd second.kind = true)
    (hplain : ∀ text ∈ keyTexts first, Plain text) (hplain' : ∀ text ∈ keyTexts second, Plain text)
    (hkey : semanticKeyOf sha256 first = semanticKeyOf sha256 second) : SameTurn first second := by
  rw [semanticKeyOf_turnEnd sha256 hend, semanticKeyOf_turnEnd sha256 hother] at hkey
  exact PlainTurnEnd.sameTurn ⟨createRuntimeObservation_turnEnd hfirst hend, hplain⟩
    ⟨createRuntimeObservation_turnEnd hsecond hother, hplain'⟩ (Except.ok.inj hkey)

/-- The end of a turn that a receipt names, of a continuation when there is one. -/
def sampleTurn (continuationId : Option String) (receiptId : String) : RuntimeObservation where
  schemaVersion := 1
  eventId := "event-1"
  semanticKey := "turn-1"
  kind := .turnCompleted
  authority := .providerStructured
  receivedAt := sampleInstant
  observedAt := none
  sequence := none
  ordinal := none
  fence := ⟨none, "writer", none, "agent-1", "builtin/codex", none, continuationId, none, some "native-1", none,
    some receiptId⟩
  payload := {}

theorem semantic_key_identifies_turn_sample :
    SameTurn (sampleTurn none "turn:task-1/run-1") { sampleTurn none "turn:task-1/run-1" with eventId := "event-2" } := by
  let _ := sampleClock
  have hfirst : createRuntimeObservation (sampleTurn none "turn:task-1/run-1") = .ok (sampleTurn none "turn:task-1/run-1") := rfl
  have hsecond : createRuntimeObservation { sampleTurn none "turn:task-1/run-1" with eventId := "event-2" } =
      .ok { sampleTurn none "turn:task-1/run-1" with eventId := "event-2" } := rfl
  have hkey : semanticKeyOf id (sampleTurn none "turn:task-1/run-1") =
      semanticKeyOf id { sampleTurn none "turn:task-1/run-1" with eventId := "event-2" } := by
    rw [semanticKeyOf_turnEnd id rfl, semanticKeyOf_turnEnd id rfl]
  exact semantic_key_identifies_turn id hfirst hsecond rfl rfl (by decide) (by decide) hkey

/-- The key of a turn of a continuation names the continuation: two receipts have one key. -/
theorem continuation_turns_share_key : ¬ ∀ (_ : JsHost) (sha256 : String → String)
    (input other first second : RuntimeObservation), createRuntimeObservation input = .ok first →
      createRuntimeObservation other = .ok second → isTurnEnd first.kind = true → isTurnEnd second.kind = true →
      semanticKeyOf sha256 first = semanticKeyOf sha256 second →
      SameTurn first second ∧ first.fence.continuationId = second.fence.continuationId ∧
        turnOf first.fence = turnOf second.fence := by
  intro h
  let _ := sampleClock
  have haccepted : ∀ receipt ∈ ["receipt-1", "receipt-2"],
      createRuntimeObservation (sampleTurn (some "sub-1") receipt) = .ok (sampleTurn (some "sub-1") receipt) := by
    decide +kernel
  have hkey : semanticKeyOf id (sampleTurn (some "sub-1") "receipt-1") =
      semanticKeyOf id (sampleTurn (some "sub-1") "receipt-2") := by
    rw [semanticKeyOf_turnEnd id rfl, semanticKeyOf_turnEnd id rfl]
    rfl
  have hsame := h sampleClock id _ _ _ _ (haccepted "receipt-1" (by simp)) (haccepted "receipt-2" (by simp)) rfl rfl
    hkey
  exact absurd hsame.2.2 (by decide)

end Runtime
