import Yui.EventJournal
import Yui.RoleRunDelivery

/-!
# Runs of the delivery passes of one run

Passes over one active run follow one another, the Host changes the binding and other events are written
in between, and every command but the submission itself may fail. The journal keeps what was observed,
submitted, answered, recorded and settled, in its order. A limited world is one whose Host and store keep
track of a submission that may have been accepted.
-/

open Program Protocol WorkMailbox EventJournal

namespace RoleRunDelivery

inductive SubmissionEnd where
  | reported (status : RoleDeliveryStatus)
  | threw
  deriving DecidableEq

def SubmissionEnd.accepted : SubmissionEnd → Bool
  | .reported .sent | .reported .alreadySent => true
  | _ => false

/-- Accepted, pending or unknown. -/
def SubmissionEnd.unproven : SubmissionEnd → Bool
  | .reported .sent | .reported .alreadySent | .reported .pending | .reported .deliveryUnknown => true
  | .threw => true
  | _ => false

def SubmissionEnd.unknown : SubmissionEnd → Bool
  | .reported .deliveryUnknown | .threw => true
  | _ => false

inductive Entry where
  /-- The binding changed to this status of the run's turn, or to no turn of it. -/
  | observed (status : Option ProviderTurnStatus)
  | sent (receiptId : String)
  | ended (outcome : SubmissionEnd)
  | reported (error : AgentErrorRecord)
  | terminalized
  | settled
  deriving DecidableEq

def Entry.receipt? : Entry → Option String
  | .sent receiptId => some receiptId
  | _ => none

abbrev Journal := List Entry

/-- A submission that ended accepted, pending or unknown, with no deferral recorded since it began. -/
def Outstanding (journal : Journal) : Prop :=
  ∃ before receiptId between outcome later,
    journal = before ++ Entry.sent receiptId :: (between ++ Entry.ended outcome :: later) ∧
      outcome.unproven = true ∧ Entry.observed (some .deferred) ∉ between ++ later

/-- A submission ended unknown, and no unknown error has been recorded since. -/
def Unrecorded (journal : Journal) : Prop :=
  ∃ before outcome later, journal = before ++ Entry.ended outcome :: later ∧ outcome.unknown = true ∧
    ∀ error : AgentErrorRecord, .reported error ∈ later → error.inputDisposition ≠ .unknown

/-- A deferral, or a `busy` error that proves that nothing was registered, is on record. -/
def Deferred (journal : Journal) : Prop :=
  .observed (some .deferred) ∈ journal ∨
    ∃ error : AgentErrorRecord, .reported error ∈ journal ∧ error.deferredBeforeRegistration = true

def Concluded (journal : Journal) : Prop :=
  (∃ outcome : SubmissionEnd, .ended outcome ∈ journal ∧ outcome.accepted = true) ∨
    .observed (some .accepted) ∈ journal ∨ .terminalized ∈ journal

def SubmitsOnce : Journal → Prop :=
  Throughout fun before entry => ∀ receiptId, entry = .sent receiptId → ¬ Outstanding before

def KeepsReceipt : Journal → Prop :=
  Throughout fun before entry => ∀ receiptId, entry = .sent receiptId →
    ∀ first, (before.filterMap Entry.receipt?).head? = some first → receiptId ≠ first → Deferred before

def SettlesLate : Journal → Prop :=
  Throughout fun before entry => entry = .settled → Concluded before

theorem Outstanding.snoc_cases {journal : Journal} {entry : Entry} (h : Outstanding (journal ++ [entry])) :
    entry ≠ .observed (some .deferred) ∧
      (Outstanding journal ∨ ∃ outcome : SubmissionEnd, entry = .ended outcome ∧ outcome.unproven = true) := by
  obtain ⟨before, receiptId, between, outcome, later, heq, hunproven, hsince⟩ := h
  obtain rfl | ⟨rest, last, rfl⟩ := later.eq_nil_or_concat'
  · rw [← List.cons_append, ← List.append_assoc] at heq
    obtain ⟨-, hlast⟩ := List.append_inj' heq rfl
    cases hlast
    exact ⟨by simp, .inr ⟨outcome, rfl, hunproven⟩⟩
  · have hsplit : journal ++ [entry] =
        (before ++ .sent receiptId :: (between ++ .ended outcome :: rest)) ++ [last] := by
      rw [heq]
      simp
    obtain ⟨hjournal, hlast⟩ := List.append_inj' hsplit rfl
    obtain rfl : entry = last := List.head_eq_of_cons_eq hlast
    rw [← List.append_assoc] at hsince
    exact ⟨fun hentry => hsince (List.mem_append_right _ (List.mem_singleton.2 hentry.symm)),
      .inl ⟨before, receiptId, between, outcome, rest, hjournal, hunproven,
        fun hmem => hsince (List.mem_append_left _ hmem)⟩⟩

theorem Outstanding.of_snoc {journal : Journal} {entry : Entry} (h : Outstanding (journal ++ [entry]))
    (hentry : ∀ outcome : SubmissionEnd, entry = .ended outcome → outcome.unproven = false) :
    Outstanding journal := by
  refine h.snoc_cases.2.resolve_right ?_
  rintro ⟨outcome, hended, hunproven⟩
  rw [hentry outcome hended] at hunproven
  cases hunproven

theorem Unrecorded.snoc {journal : Journal} {entry : Entry} (h : Unrecorded journal)
    (hentry : ∀ error : AgentErrorRecord, entry ≠ .reported error) : Unrecorded (journal ++ [entry]) := by
  obtain ⟨before, outcome, later, rfl, hunknown, hlater⟩ := h
  refine ⟨before, outcome, later ++ [entry], by simp, hunknown, fun error herror => ?_⟩
  obtain hold | hnew := List.mem_append.1 herror
  · exact hlater error hold
  · exact absurd (List.mem_singleton.1 hnew).symm (hentry error)

theorem Deferred.mono {journal later : Journal} (h : Deferred journal) : Deferred (journal ++ later) := by
  rcases h with h | ⟨error, h, hbusy⟩
  · exact .inl (List.mem_append_left _ h)
  · exact .inr ⟨error, List.mem_append_left _ h, hbusy⟩

theorem keepsReceipt_of_initial {initial : String} {journal : Journal}
    (h : Throughout (fun before entry => ∀ receiptId, entry = .sent receiptId →
      receiptId = initial ∨ Deferred before) journal) : KeepsReceipt journal := by
  intro before entry later heq receiptId hentry first hfirst hne
  rcases h before entry later heq receiptId hentry with hinitial | hdeferred
  · obtain ⟨sent, hsent, hreceipt⟩ := List.mem_filterMap.1 (List.mem_of_mem_head? hfirst)
    obtain ⟨earlier, rest, rfl⟩ := List.append_of_mem hsent
    have hsent' : sent = .sent first := by
      cases sent with
      | sent found => exact congrArg Entry.sent (Option.some.inj hreceipt)
      | _ => cases hreceipt
    have hsplit : journal = earlier ++ sent :: (rest ++ entry :: later) := by
      rw [heq]
      simp
    rcases h earlier sent _ hsplit first hsent' with hother | hdeferred
    · exact absurd (hinitial.trans hother.symm) hne
    · exact hdeferred.mono
  · exact hdeferred

structure World where
  binding : Option RoleBinding
  events : List TaskEvent
  journal : Journal

section Worlds

variable {E : Type} (run : SchedulerRun E) (roleName : String)

namespace World

variable (w : World)

def bind (binding : Option RoleBinding) : World :=
  { w with
    binding := binding
    journal := if ownTurn run.id binding = ownTurn run.id w.binding then w.journal
      else w.journal ++ [.observed ((ownTurn run.id binding).map ObservedTurn.status)] }

def append (event : TaskEvent) : World :=
  { w with
    events := w.events ++ [event]
    journal := match event.submitError? run.id roleName with
      | some error => w.journal ++ [.reported error]
      | none => w.journal }

def log (entries : Journal) : World := { w with journal := w.journal ++ entries }

end World

/-- The unknown end of a submission settles the submitting turn of its attempt. -/
def settledSubmission (error : AgentErrorRecord) (binding : Option RoleBinding) : Option RoleBinding :=
  binding.map fun binding => { binding with
    run := binding.run.map fun turn =>
      if error.phase = .turnSubmit ∧ error.inputDisposition = .unknown ∧
          turn.attemptId = error.attemptId ∧ turn.status = .submitting then
        { turn with status := .deliveryUnknown, terminalReason := some error.message }
      else turn }

/-- The facts let a pass submit the input. -/
def Open (facts : Facts) : Prop :=
  (∃ turn, ownTurn run.id facts.binding = some turn ∧ turn.status = .deferred) ∨
    ownTurn run.id facts.binding = none ∧ ∀ error, lastSubmitError run.id roleName facts.events = some error →
      error.inputDisposition ≠ .unknown

def World.facts (w : World) : Facts := ⟨w.binding, w.events⟩

def Fences (error : AgentErrorRecord) : Prop :=
  isSubmitError run.id roleName error = true ∧ error.inputDisposition = .unknown

/-- Where the Host has the turn of the run when a submission ends: after an unknown end it does not show it as
deferred, after an acceptance, or while it waits, it shows it in another status. -/
def Shows (outcome : SubmissionEnd) (binding : Option RoleBinding) : Prop :=
  if outcome.unknown = true then ∀ turn, ownTurn run.id binding = some turn → turn.status ≠ .deferred
  else ∃ turn, ownTurn run.id binding = some turn ∧ turn.status ≠ .deferred

/-- The end of a submission finds the Host so, unless the submission was deferred meanwhile. -/
def World.Ends (w : World) (outcome : SubmissionEnd) : Prop :=
  Outstanding (w.journal ++ [.ended outcome]) → Shows run outcome w.binding

/-- The account that the Host gives of an unknown delivery says so. -/
def RoleDeliveryReport.Honest (report : RoleDeliveryReport) : Prop :=
  report.status = .deliveryUnknown → ∀ failure, report.failure = some failure →
    failure.phase = .turnSubmit ∧ failure.inputDisposition = .unknown

/-- The commands whose answers the world leaves open and that change nothing in it. -/
def Command.Free : Command E → Prop
  | .readRunContextSnapshot | .prepareRoleSession _ _ | .startHost | .saveRoleRunPrepared _
  | .waitUntilReady | .forgetPrepared => True
  | _ => False

/-- An error with the facts of one that is on record may be dropped as a duplicate, and the turn of an archived
Task is not settled. A limited world loses no record that fences the input. -/
inductive Performs (limited : Bool) (w : World) : (c : Command E) → Except Thrown c.Answer → World → Prop where
  | fails (c : Command E) (error : Thrown) (hsend : ∀ receiptId, c ≠ .sendOnce receiptId)
      (hreport : c ≠ .awaitReport)
      (hrecord : limited = true → ∀ record, c = .recordAgentError record → ¬ Fences run roleName record) :
      Performs limited w c (.error error) w
  | free (c : Command E) (answer : c.Answer) (h : c.Free) : Performs limited w c (.ok answer) w
  | readFacts (pass : Pass E) : Performs limited w (.readFacts pass) (.ok w.facts) w
  | sendOnce (receiptId : String) :
      Performs limited w (.sendOnce receiptId) (.ok ()) (w.log [.sent receiptId])
  | awaitReport (report : RoleDeliveryReport)
      (h : limited = true → w.Ends run (.reported report.status) ∧ report.Honest) :
      Performs limited w .awaitReport (.ok report) (w.log [.ended (.reported report.status)])
  | awaitThrows (error : Thrown) (h : limited = true → w.Ends run .threw) :
      Performs limited w .awaitReport (.error error) (w.log [.ended .threw])
  | recordAgentError (error : AgentErrorRecord) (archived : Bool) :
      Performs limited w (.recordAgentError error) (.ok ())
        (if archived = true then w.append run roleName (.agentError error)
        else (w.append run roleName (.agentError error)).bind run (settledSubmission error w.binding))
  | recordDuplicate (error : AgentErrorRecord) (h : TaskEvent.agentError error ∈ w.events)
      (hlast : limited = true → Fences run roleName error →
        ∃ last, lastSubmitError run.id roleName w.events = some last ∧ last.inputDisposition = .unknown) :
      Performs limited w (.recordAgentError error) (.ok ()) w
  | settleRoleRunDispatch (expected : Option RoleRunDispatchToken) (answer : RoleRunDispatchSettlement) :
      Performs limited w (.settleRoleRunDispatch expected) (.ok answer)
        (w.log (if answer = .settled then [.settled] else []))
  | saveRoleRunDeliveryFailure (reason : FailureReason) (summary : String) (answer : FailureDisposition) :
      Performs limited w (.saveRoleRunDeliveryFailure reason summary) (.ok answer)
        (w.log (if answer = .failed then [.terminalized, .settled] else []))

/-- While a submission is outstanding, the Host of a limited world keeps the turn of the run in the binding, but for
a deferral, and no other error about its submission is recorded but an unknown one. -/
inductive Changes (limited : Bool) (w : World) : World → Prop where
  | binding (binding : Option RoleBinding) (h : limited = true → Outstanding w.journal →
      ∀ turn, ownTurn run.id w.binding = some turn → turn.status ≠ .deferred → ownTurn run.id binding ≠ none) :
      Changes limited w (w.bind run binding)
  | event (event : TaskEvent) (h : limited = true → Outstanding w.journal → ∀ error,
      event.submitError? run.id roleName = some error → error.inputDisposition = .unknown) :
      Changes limited w (w.append run roleName event)

/-- A limited world does not crash between an unknown end and its record. -/
def machine (limited : Bool) : Machine World (Command E) Command.Answer Thrown where
  performs := Performs run roleName limited
  changes := Changes run roleName limited
  forgets := fun w => w
  crashes := fun w => limited = true → ¬ Unrecorded w.journal

def passes [JsHost] (rules : LaunchRules E) (program : Call E Unit) : Prop :=
  ∃ pass : Pass E, pass.run = run ∧ pass.role.name = roleName ∧
    program = (deliverActiveRun pass rules).bind fun _ => .done ()

/-- Nothing has been submitted yet. -/
structure Start (w : World) : Prop where
  events : ∀ event ∈ w.events, event.submitError? run.id roleName = none
  journal : w.journal = [.observed ((ownTurn run.id w.binding).map ObservedTurn.status)]

abbrev Config (E : Type) := World × Option (Call E Unit)

def Reachable [JsHost] (rules : LaunchRules E) (limited : Bool) (config : Config E) : Prop :=
  ∃ w, Start run roleName w ∧
    Relation.ReflTransGen ((machine run roleName limited).Step (passes run roleName rules)) (w, none) config

end Worlds

end RoleRunDelivery
