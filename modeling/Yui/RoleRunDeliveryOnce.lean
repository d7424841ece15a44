import Yui.RoleRunDeliveryKeeps

/-!
# A run's input is submitted once

In a limited world the facts fence the input as long as a submission of it is outstanding: the binding shows a turn
of the run that is not deferred, or none while the last error about its submission is unknown.
-/

open Program Protocol WorkMailbox EventJournal

namespace RoleRunDelivery

variable {E : Type} (run : SchedulerRun E) (roleName : String)

section Invariant

variable (limited : Bool)

/-- What every world that the passes reach satisfies. -/
structure Recorded (w : World) : Prop where
  once : limited = true → SubmitsOnce w.journal
  receipt : Throughout (fun before entry => ∀ receiptId, entry = .sent receiptId →
    receiptId = run.receiptId ∨ Deferred before) w.journal
  late : SettlesLate w.journal
  shown : ∀ turn, ownTurn run.id w.binding = some turn → .observed (some turn.status) ∈ w.journal
  logged : ∀ event ∈ w.events, ∀ error, event.submitError? run.id roleName = some error →
    .reported error ∈ w.journal

/-- What the pass under way knows of the world. -/
def Knows (w : World) : Token → Prop
  | .idle | .sending => True
  | .decided facts =>
    (∀ turn, ownTurn run.id facts.binding = some turn → .observed (some turn.status) ∈ w.journal) ∧
      ∀ error, lastSubmitError run.id roleName facts.events = some error → .reported error ∈ w.journal
  | .ended outcome _ => .ended outcome ∈ w.journal

/-- The facts fence the input of an outstanding submission. -/
def Safe (w : World) : Prop := Outstanding w.journal → ¬ Open run roleName w.facts

/-- The binding shows no deferral from before an outstanding submission. -/
def Undeferred (w : World) : Prop :=
  Outstanding w.journal → ∀ turn, ownTurn run.id w.binding = some turn → turn.status ≠ .deferred

/-- The fence of a limited world, as far as the pass has come: between an unknown end and its record the pass owes
the error that fences the input. -/
def Fenced (w : World) : Token → Prop
  | .idle => Safe run roleName w
  | .decided facts => Safe run roleName w ∧ (Open run roleName facts → ¬ Outstanding w.journal)
  | .sending => ¬ Outstanding w.journal
  | .ended outcome recorded => Undeferred run w ∧ (outcome.unproven = false → ¬ Outstanding w.journal) ∧
      (outcome.unknown = true ∧ recorded = false ∧ Unrecorded w.journal ∨ Safe run roleName w)

structure Inv (w : World) (token : Token) : Prop where
  recorded : Recorded run roleName limited w
  knows : Knows run roleName w token
  fenced : limited = true → Fenced run roleName w token

variable {run roleName limited} {w : World} {token : Token} {entry : Entry}

theorem mem_of_lastSubmitError {events : List TaskEvent} {error : AgentErrorRecord}
    (h : lastSubmitError run.id roleName events = some error) :
    ∃ event ∈ events, event.submitError? run.id roleName = some error :=
  List.mem_filterMap.1 (List.mem_of_getLast? h)

theorem lastSubmitError_append (events : List TaskEvent) (event : TaskEvent) :
    lastSubmitError run.id roleName (events ++ [event]) =
      (event.submitError? run.id roleName).or (lastSubmitError run.id roleName events) := by
  unfold lastSubmitError
  rw [List.filterMap_append]
  cases herror : event.submitError? run.id roleName <;> simp [herror]

section Moves

/-- An entry is a submission only while none is outstanding, and a settlement only after the end of the run's turn. -/
theorem Recorded.log (h : Recorded run roleName limited w) (hsent : ∀ receiptId, entry = .sent receiptId →
      (limited = true → ¬ Outstanding w.journal) ∧ (receiptId = run.receiptId ∨ Deferred w.journal))
    (hsettled : entry = .settled → Concluded w.journal) : Recorded run roleName limited (w.log [entry]) where
  once := fun hlimited => (h.once hlimited).snoc fun receiptId heq => (hsent receiptId heq).1 hlimited
  receipt := h.receipt.snoc fun receiptId heq => (hsent receiptId heq).2
  late := h.late.snoc hsettled
  shown := fun turn hturn => List.mem_append_left _ (h.shown turn hturn)
  logged := fun event hevent error herror => List.mem_append_left _ (h.logged event hevent error herror)

/-- Other entries than a submission and a settlement may be written at any time. -/
def Entry.Passive (entry : Entry) : Prop := (∀ receiptId, entry ≠ .sent receiptId) ∧ entry ≠ .settled

theorem Recorded.passive (h : Recorded run roleName limited w) (entry : Entry) (hentry : entry.Passive) :
    Recorded run roleName limited (w.log [entry]) :=
  h.log (fun receiptId heq => absurd heq (hentry.1 receiptId)) fun heq => absurd heq hentry.2

theorem Recorded.move {w' : World} (h : Recorded run roleName limited w) (hjournal : w'.journal = w.journal)
    (hshown : ∀ turn, ownTurn run.id w'.binding = some turn → .observed (some turn.status) ∈ w.journal)
    (hlogged : ∀ event ∈ w'.events, ∀ error, event.submitError? run.id roleName = some error →
      .reported error ∈ w.journal) : Recorded run roleName limited w' :=
  ⟨hjournal ▸ h.once, hjournal ▸ h.receipt, hjournal ▸ h.late, hjournal ▸ hshown, hjournal ▸ hlogged⟩

theorem Knows.mono {w' : World} (h : Knows run roleName w token)
    (hkept : ∀ entry ∈ w.journal, entry ∈ w'.journal) : Knows run roleName w' token := by
  cases token with
  | idle | sending => trivial
  | ended outcome recorded => exact hkept _ h
  | decided facts =>
    exact ⟨fun turn hturn => hkept _ (h.1 turn hturn), fun error herror => hkept _ (h.2 error herror)⟩

theorem Knows.log (h : Knows run roleName w token) (entries : Journal) :
    Knows run roleName (w.log entries) token := h.mono fun _ => List.mem_append_left _

theorem Knows.concluded (h : Knows run roleName w token) {expected : Option RoleRunDispatchToken}
    (hpermits : Permits run roleName limited token (.settleRoleRunDispatch expected : Command E)) :
    Concluded w.journal := by
  cases token with
  | idle | sending => exact hpermits.elim
  | decided facts =>
    obtain ⟨turn, hturn, hstatus⟩ := hpermits
    exact .inr (.inl (hstatus ▸ h.1 turn hturn))
  | ended outcome recorded => exact .inl ⟨outcome, h, hpermits⟩

theorem Safe.undeferred (h : Safe run roleName w) : Undeferred run w :=
  fun hout turn hturn hstatus => h hout (.inl ⟨turn, hturn, hstatus⟩)

/-- The fence stays when no submission becomes outstanding, and what is owed stays owed or is settled. -/
theorem Fenced.move {w' : World} (h : Fenced run roleName w token)
    (hback : Outstanding w'.journal → Outstanding w.journal) (hsafe : Safe run roleName w → Safe run roleName w')
    (hundeferred : Undeferred run w → Undeferred run w')
    (howes : Undeferred run w → Unrecorded w.journal → Unrecorded w'.journal ∨ Safe run roleName w') :
    Fenced run roleName w' token := by
  cases token with
  | idle => exact hsafe h
  | decided facts => exact ⟨hsafe h.1, fun hopen hout => h.2 hopen (hback hout)⟩
  | sending => exact fun hout => h (hback hout)
  | ended outcome recorded =>
    obtain ⟨hshown, hproven, howed⟩ := h
    refine ⟨hundeferred hshown, fun hunproven hout => hproven hunproven (hback hout), ?_⟩
    obtain ⟨hunknown, hrecorded, hjournal⟩ | hs := howed
    · exact (howes hshown hjournal).imp_left fun h => ⟨hunknown, hrecorded, h⟩
    · exact .inr (hsafe hs)

/-- An entry that is no end and no record leaves the fence as it is. -/
theorem Fenced.log (h : Fenced run roleName w token) (hended : ∀ outcome, entry ≠ .ended outcome)
    (hreported : ∀ error, entry ≠ .reported error) : Fenced run roleName (w.log [entry]) token := by
  have hback : Outstanding (w.log [entry]).journal → Outstanding w.journal :=
    fun hout => hout.of_snoc fun outcome heq => absurd heq (hended outcome)
  exact h.move hback (fun hs hout => hs (hback hout)) (fun hs hout => hs (hback hout))
    fun _ hjournal => .inl (hjournal.snoc hreported)

theorem log_nil (w : World) : w.log [] = w := by
  unfold World.log
  rw [List.append_nil]

end Moves

section Binding

variable {binding : Option RoleBinding}

/-- A binding that keeps the turn of the run while a submission is outstanding. -/
def Keeping (w : World) (binding : Option RoleBinding) : Prop := Outstanding w.journal →
  ∀ turn, ownTurn run.id w.binding = some turn → turn.status ≠ .deferred → ownTurn run.id binding ≠ none

variable (run) in
theorem bind_cases (w : World) (binding : Option RoleBinding) :
    ownTurn run.id binding = ownTurn run.id w.binding ∧ (w.bind run binding).journal = w.journal ∨
      (w.bind run binding).journal =
        (w.log [.observed ((ownTurn run.id binding).map ObservedTurn.status)]).journal := by
  by_cases hsame : ownTurn run.id binding = ownTurn run.id w.binding
  · exact .inl ⟨hsame, if_pos hsame⟩
  · exact .inr (if_neg hsame)

theorem Recorded.bind (h : Recorded run roleName limited w) (binding : Option RoleBinding) :
    Recorded run roleName limited (w.bind run binding) := by
  obtain ⟨hsame, hjournal⟩ | hjournal := bind_cases run w binding
  · exact h.move hjournal (fun turn hturn => h.shown turn (hsame ▸ hturn)) h.logged
  · have hrecorded := h.passive (.observed ((ownTurn run.id binding).map ObservedTurn.status)) ⟨nofun, nofun⟩
    refine hrecorded.move hjournal (fun turn hturn => ?_) hrecorded.logged
    rw [show ownTurn run.id binding = some turn from hturn]
    exact List.mem_append_right _ (List.mem_singleton.2 rfl)

theorem Knows.bind (h : Knows run roleName w token) (binding : Option RoleBinding) :
    Knows run roleName (w.bind run binding) token := by
  refine h.mono fun entry hentry => ?_
  obtain ⟨-, hjournal⟩ | hjournal := bind_cases run w binding
  · exact hjournal ▸ hentry
  · exact hjournal ▸ List.mem_append_left _ hentry

theorem bind_outstanding (h : Outstanding (w.bind run binding).journal) : Outstanding w.journal ∧
    (ownTurn run.id binding = ownTurn run.id w.binding ∨
      ∀ turn, ownTurn run.id binding = some turn → turn.status ≠ .deferred) := by
  obtain ⟨hsame, hjournal⟩ | hjournal := bind_cases run w binding
  · exact ⟨hjournal ▸ h, .inl hsame⟩
  · rw [hjournal] at h
    refine ⟨h.of_snoc nofun, .inr fun turn hturn hdeferred => h.snoc_cases.1 ?_⟩
    rw [hturn, Option.map_some, hdeferred]

theorem Undeferred.bind (h : Undeferred run w) : Undeferred run (w.bind run binding) := by
  intro hout turn hturn
  obtain ⟨hbefore, hsame | hnew⟩ := bind_outstanding hout
  · exact h hbefore turn (hsame ▸ hturn)
  · exact hnew turn hturn

theorem Safe.bind (h : Safe run roleName w) (hkeeping : @Keeping E run w binding) :
    Safe run roleName (w.bind run binding) := by
  intro hout hopen
  have hbefore := (bind_outstanding hout).1
  obtain ⟨turn, hturn, hdeferred⟩ | ⟨hnone, herror⟩ := hopen
  · exact h.undeferred.bind hout turn hturn hdeferred
  · refine h hbefore (.inr ⟨?_, herror⟩)
    cases hturn : ownTurn run.id w.binding with
    | none => exact hturn
    | some turn => exact absurd hnone (hkeeping hbefore turn hturn (h.undeferred hbefore turn hturn))

theorem Fenced.bind (h : Fenced run roleName w token) (hkeeping : @Keeping E run w binding) :
    Fenced run roleName (w.bind run binding) token := by
  refine h.move (fun hout => (bind_outstanding hout).1) (fun hs => hs.bind hkeeping) Undeferred.bind
    fun _ hunrecorded => .inl ?_
  obtain ⟨-, hjournal⟩ | hjournal := bind_cases run w binding
  · exact hjournal ▸ hunrecorded
  · exact hjournal ▸ hunrecorded.snoc fun error heq => (by cases heq)

end Binding

section Events

variable {event : TaskEvent}

variable (run roleName) in
theorem append_journal (w : World) (event : TaskEvent) : (w.append run roleName event).journal =
    (w.log ((event.submitError? run.id roleName).toList.map .reported)).journal := by
  cases herror : event.submitError? run.id roleName <;> simp [World.append, World.log, herror]

theorem Recorded.append (h : Recorded run roleName limited w) (event : TaskEvent) :
    Recorded run roleName limited (w.append run roleName event) := by
  have hjournal := append_journal run roleName w event
  cases herror : event.submitError? run.id roleName with
  | none =>
    rw [herror, Option.toList_none, List.map_nil, log_nil] at hjournal
    refine h.move hjournal h.shown fun found hfound error hfind => ?_
    obtain hold | hnew := List.mem_append.1 hfound
    · exact h.logged found hold error hfind
    · rw [List.mem_singleton.1 hnew, herror] at hfind
      cases hfind
  | some error =>
    rw [herror, Option.toList_some, List.map_singleton] at hjournal
    have hrecorded := h.passive (.reported error) ⟨nofun, nofun⟩
    refine hrecorded.move hjournal hrecorded.shown fun found hfound other hfind => ?_
    obtain hold | hnew := List.mem_append.1 hfound
    · exact hrecorded.logged found hold other hfind
    · rw [List.mem_singleton.1 hnew, herror] at hfind
      cases hfind
      exact List.mem_append_right _ (List.mem_singleton.2 rfl)

theorem Knows.append (h : Knows run roleName w token) (event : TaskEvent) :
    Knows run roleName (w.append run roleName event) token := by
  refine h.mono fun entry hentry => ?_
  rw [append_journal]
  exact List.mem_append_left _ hentry

theorem append_outstanding (h : Outstanding (w.append run roleName event).journal) : Outstanding w.journal := by
  rw [append_journal] at h
  cases herror : event.submitError? run.id roleName with
  | none =>
    rw [herror] at h
    exact log_nil w ▸ h
  | some error =>
    rw [herror] at h
    exact Outstanding.of_snoc h nofun

theorem Undeferred.append (h : Undeferred run w) : Undeferred run (w.append run roleName event) :=
  fun hout => h (append_outstanding hout)

/-- An unknown error about the submission fences the input, unless the binding shows a deferral. -/
theorem Undeferred.safe (h : Undeferred run w) (herror : Outstanding w.journal →
    ∃ error, lastSubmitError run.id roleName w.events = some error ∧ error.inputDisposition = .unknown) :
    Safe run roleName w := by
  intro hout hopen
  obtain ⟨turn, hturn, hdeferred⟩ | ⟨-, hknown⟩ := hopen
  · exact h hout turn hturn hdeferred
  · obtain ⟨error, hlast, hunknown⟩ := herror hout
    exact hknown error hlast hunknown

theorem Undeferred.safe_append (h : Undeferred run w) {error : AgentErrorRecord}
    (herror : event.submitError? run.id roleName = some error)
    (hunknown : Outstanding w.journal → error.inputDisposition = .unknown) :
    Safe run roleName (w.append run roleName event) := by
  refine h.append.safe fun hout => ⟨error, ?_, hunknown (append_outstanding hout)⟩
  rw [show (w.append run roleName event).events = w.events ++ [event] from rfl, lastSubmitError_append, herror,
    Option.some_or]

theorem Safe.append (h : Safe run roleName w) (hunknown : Outstanding w.journal → ∀ error,
    event.submitError? run.id roleName = some error → error.inputDisposition = .unknown) :
    Safe run roleName (w.append run roleName event) := by
  cases herror : event.submitError? run.id roleName with
  | some error => exact h.undeferred.safe_append herror fun hout => hunknown hout error herror
  | none =>
    intro hout hopen
    refine h (append_outstanding hout) ?_
    unfold Open at hopen
    rwa [show (w.append run roleName event).facts.events = w.events ++ [event] from rfl, lastSubmitError_append,
      herror, Option.none_or] at hopen

theorem Fenced.append (h : Fenced run roleName w token) (hunknown : Outstanding w.journal → ∀ error,
    event.submitError? run.id roleName = some error → error.inputDisposition = .unknown) :
    Fenced run roleName (w.append run roleName event) token := by
  refine h.move append_outstanding (fun hs => hs.append hunknown) Undeferred.append fun hundeferred hjournal => ?_
  cases herror : event.submitError? run.id roleName with
  | some error => exact .inr (hundeferred.safe_append herror fun hout => hunknown hout error herror)
  | none =>
    refine .inl ?_
    rw [append_journal, herror]
    exact (log_nil w).symm ▸ hjournal

/-- A pass records an error that fences the input, or none about the submission. -/
theorem Fenced.record (h : Fenced run roleName w token) {error : AgentErrorRecord}
    (hrecords : Records run roleName true token error) :
    Fenced run roleName (w.append run roleName (.agentError error)) token.record := by
  have hfind : (TaskEvent.agentError error).submitError? run.id roleName =
      if isSubmitError run.id roleName error = true then some error else none := rfl
  cases token with
  | idle | sending => exact hrecords.elim
  | decided facts =>
    refine Fenced.append h fun _ other hother => ?_
    have hbefore : isSubmitError run.id roleName error = false := hrecords
    rw [hfind, hbefore] at hother
    cases hother
  | ended outcome recorded =>
    obtain ⟨hundeferred, hproven, -⟩ := h
    have hfences : Outstanding w.journal → Fences run roleName error := fun hout => by
      cases hunproven : outcome.unproven with
      | true => exact hrecords rfl hunproven
      | false => exact absurd hout (hproven hunproven)
    refine ⟨hundeferred.append, fun hunproven hout => hproven hunproven (append_outstanding hout), .inr ?_⟩
    by_cases hout : Outstanding w.journal
    · obtain ⟨hsubmit, hunknown⟩ := hfences hout
      exact hundeferred.safe_append (hfind.trans (if_pos hsubmit)) fun _ => hunknown
    · exact fun hafter => absurd (append_outstanding hafter) hout

/-- An error that is dropped as a duplicate is that of the fence. -/
theorem Fenced.duplicate (h : Fenced run roleName w token) {error : AgentErrorRecord}
    (hrecords : Records run roleName true token error) (hlast : Fences run roleName error →
      ∃ last, lastSubmitError run.id roleName w.events = some last ∧ last.inputDisposition = .unknown) :
    Fenced run roleName w token.record := by
  cases token with
  | idle | sending => exact hrecords.elim
  | decided facts => exact h
  | ended outcome recorded =>
    obtain ⟨hundeferred, hproven, -⟩ := h
    refine ⟨hundeferred, hproven, .inr (hundeferred.safe fun hout => hlast ?_)⟩
    cases hunproven : outcome.unproven with
    | true => exact hrecords rfl hunproven
    | false => exact absurd hout (hproven hunproven)

theorem settled_keeps (error : AgentErrorRecord) {found : Option RoleBinding}
    (h : ownTurn run.id (settledSubmission error found) = none) : ownTurn run.id found = none := by
  unfold settledSubmission ownTurn at h
  unfold ownTurn
  cases found with
  | none => rfl
  | some binding =>
    cases hturn : binding.run with
    | none => simp [hturn]
    | some turn =>
      rw [Option.map_some, Option.bind_some, hturn, Option.map_some, Option.filter_eq_none_iff] at h
      rw [Option.bind_some, hturn, Option.filter_eq_none_iff]
      intro other hother
      obtain rfl := Option.some.inj hother
      have hkept := h _ rfl
      split_ifs at hkept
      · exact hkept
      · exact hkept

theorem Fenced.ended (h : Fenced run roleName w .sending) {outcome : SubmissionEnd} (hends : w.Ends run outcome) :
    Fenced run roleName (w.log [.ended outcome]) (.ended outcome false) := by
  refine ⟨fun hout turn hturn => ?_, fun hproven hout => h (hout.of_snoc fun other heq => ?_), ?_⟩
  · have hshows := hends hout
    unfold Shows at hshows
    split_ifs at hshows with hunknown
    · exact hshows turn hturn
    · obtain ⟨shown, hshown, hstatus⟩ := hshows
      rw [Option.some.inj (hturn.symm.trans hshown)]
      exact hstatus
  · cases heq
    exact hproven
  · cases hunknown : outcome.unknown with
    | true => exact .inl ⟨rfl, rfl, w.journal, outcome, [], rfl, hunknown, (by simp)⟩
    | false =>
      refine .inr fun hout hopen => ?_
      have hshows := hends hout
      rw [Shows, if_neg (by simp [hunknown])] at hshows
      obtain ⟨shown, hshown, hstatus⟩ := hshows
      obtain ⟨turn, hturn, hdeferred⟩ | ⟨hnone, -⟩ := hopen
      · rw [Option.some.inj (hshown.symm.trans hturn)] at hstatus
        exact hstatus hdeferred
      · exact absurd (hshown.symm.trans hnone) (by simp)

/-- Nothing is owed: the fence holds by itself. -/
theorem Fenced.safe (h : Fenced run roleName w token)
    (hrests : ∀ outcome, token = .ended outcome false → outcome.unknown = true → ¬ Unrecorded w.journal) :
    Safe run roleName w := by
  cases token with
  | idle => exact h
  | decided facts => exact h.1
  | sending => exact fun hout => absurd hout h
  | ended outcome recorded =>
    obtain ⟨hunknown, rfl, hjournal⟩ | hs := h.2.2
    · exact absurd hjournal (hrests outcome rfl hunknown)
    · exact hs

end Events

section Steps

theorem Inv.sent (h : Inv run roleName limited w token) {receiptId : String}
    (hpermits : Permits run roleName limited token (.sendOnce receiptId : Command E)) :
    Inv run roleName limited (w.log [.sent receiptId]) .sending := by
  cases token with
  | idle | sending | ended outcome recorded => exact hpermits.elim
  | decided facts =>
    obtain ⟨hopen, hlicense⟩ := hpermits
    obtain ⟨hrecorded, ⟨hshown, hlogged⟩, hfenced⟩ := h
    have hnone : limited = true → ¬ Outstanding w.journal := fun hlimited => (hfenced hlimited).2 hopen
    refine ⟨hrecorded.log (fun found heq => ⟨hnone, ?_⟩) nofun, trivial, fun hlimited hout => ?_⟩
    · cases heq
      rcases hlicense with hinitial | ⟨turn, hturn, hstatus⟩ | ⟨error, herror, hbusy⟩
      · exact .inl hinitial
      · exact .inr (.inl (hstatus ▸ hshown turn hturn))
      · exact .inr (.inr ⟨error, hlogged error herror, hbusy⟩)
    · exact hnone hlimited (hout.of_snoc nofun)

theorem Inv.ended (h : Inv run roleName limited w .sending) {outcome : SubmissionEnd}
    (hends : limited = true → w.Ends run outcome) :
    Inv run roleName limited (w.log [.ended outcome]) (.ended outcome false) :=
  ⟨h.recorded.passive _ ⟨nofun, nofun⟩,
    List.mem_append_right _ (List.mem_singleton.2 rfl), fun hlimited => (h.fenced hlimited).ended (hends hlimited)⟩

theorem Inv.settled (h : Inv run roleName limited w token) (hconcluded : Concluded w.journal) :
    Inv run roleName limited (w.log [.settled]) token :=
  ⟨h.recorded.log nofun fun _ => hconcluded, h.knows.log _, fun hlimited =>
    (h.fenced hlimited).log (fun _ heq => (by cases heq)) fun _ heq => (by cases heq)⟩

theorem Inv.read (h : Inv run roleName limited w .idle) : Inv run roleName limited w (.decided w.facts) := by
  refine ⟨h.recorded, ⟨h.recorded.shown, fun error herror => ?_⟩, fun hlimited =>
    ⟨h.fenced hlimited, fun hopen hout => h.fenced hlimited hout hopen⟩⟩
  obtain ⟨event, hevent, hfound⟩ := mem_of_lastSubmitError herror
  exact h.recorded.logged event hevent error hfound

theorem Inv.bind (h : Inv run roleName limited w token) {binding : Option RoleBinding}
    (hkeeping : limited = true → @Keeping E run w binding) : Inv run roleName limited (w.bind run binding) token :=
  ⟨h.recorded.bind binding, h.knows.bind binding, fun hlimited => (h.fenced hlimited).bind (hkeeping hlimited)⟩

theorem Inv.record (h : Inv run roleName limited w token) {error : AgentErrorRecord}
    (hrecords : Records run roleName limited token error) :
    Inv run roleName limited (w.append run roleName (.agentError error)) token.record := by
  refine ⟨h.recorded.append _, ?_, fun hlimited => (h.fenced hlimited).record (hlimited ▸ hrecords)⟩
  have hknows := h.knows.append (.agentError error)
  cases token <;> exact hknows

theorem Inv.perform (h : Inv run roleName limited w token) {c : Command E} {answer : Except Thrown c.Answer}
    {w' : World} (hpermits : Permits run roleName limited token c)
    (hperform : Performs run roleName limited w c answer w') :
    Inv run roleName limited w' (After token c answer) := by
  cases hperform with
  | fails c error hsend hreport hrecord =>
    cases c with
    | sendOnce receiptId => exact absurd rfl (hsend receiptId)
    | awaitReport => exact absurd rfl hreport
    | _ => exact h
  | free c answer hfree =>
    cases c with
    | readFacts pass | sendOnce receiptId | awaitReport | recordAgentError error
    | settleRoleRunDispatch expected | saveRoleRunDeliveryFailure reason summary => exact hfree.elim
    | _ => exact h
  | readFacts pass =>
    cases token with
    | idle => exact h.read
    | decided facts | sending | ended outcome recorded => exact hpermits.elim
  | sendOnce receiptId => exact h.sent hpermits
  | awaitReport report hhost =>
    cases token with
    | sending => exact h.ended fun hlimited => (hhost hlimited).1
    | idle | decided facts | ended outcome recorded => exact hpermits.elim
  | awaitThrows error hhost =>
    cases token with
    | sending => exact h.ended hhost
    | idle | decided facts | ended outcome recorded => exact hpermits.elim
  | recordAgentError error archived =>
    have hrecords : Records run roleName limited token error := by cases token <;> exact hpermits
    cases archived with
    | true => exact h.record hrecords
    | false =>
      refine (h.record hrecords).bind fun _ _ turn hturn _ hnone => ?_
      exact absurd (hturn.symm.trans (settled_keeps error hnone)) (by simp)
  | recordDuplicate error hmem hlast =>
    have hrecords : Records run roleName limited token error := by cases token <;> exact hpermits
    refine ⟨h.recorded, ?_, fun hlimited => (h.fenced hlimited).duplicate (hlimited ▸ hrecords) (hlast hlimited)⟩
    have hknows := h.knows
    cases token <;> exact hknows
  | settleRoleRunDispatch expected answer =>
    cases answer with
    | settled => exact h.settled (h.knows.concluded hpermits)
    | absent | stateChanged => exact (log_nil w).symm ▸ h
  | saveRoleRunDeliveryFailure reason summary answer =>
    cases answer with
    | stateChanged => exact (log_nil w).symm ▸ h
    | failed =>
      have hterminal : Inv run roleName limited (w.log [.terminalized]) token :=
        ⟨h.recorded.passive _ ⟨(by simp), (by simp)⟩, h.knows.log _, fun hlimited =>
          (h.fenced hlimited).log (by simp) (by simp)⟩
      have hconcluded : Concluded (w.log [.terminalized]).journal :=
        .inr (.inr (List.mem_append_right _ (List.mem_singleton.2 rfl)))
      have hlog : (w.log [.terminalized]).log [.settled] = w.log [.terminalized, .settled] := by
        simp only [World.log, List.append_assoc, List.cons_append, List.nil_append]
      exact hlog ▸ hterminal.settled hconcluded

theorem delivery_sound [JsHost] (rules : LaunchRules E) : Machine.Sound (machine run roleName limited)
    (passes run roleName rules) (protocol run roleName limited) .idle (Inv run roleName limited) where
  pass := by
    rintro program ⟨pass, rfl, rfl, rfl⟩
    exact Keeps.bind (deliverActiveRun_keeps pass rules) fun _ _ hrests => hrests
  answer := by
    intro w token c answer w' _ hperform
    cases hperform with
    | fails c error hsend hreport hrecord =>
      cases c with
      | sendOnce receiptId => exact absurd rfl (hsend receiptId)
      | recordAgentError record => exact fun hlimited => hrecord hlimited record rfl
      | _ => trivial
    | free c answer hfree =>
      cases c with
      | readFacts pass | sendOnce receiptId | awaitReport | recordAgentError error
      | settleRoleRunDispatch expected | saveRoleRunDeliveryFailure reason summary => exact hfree.elim
      | _ => trivial
    | sendOnce receiptId => rfl
    | awaitReport report hhost => exact fun hlimited => (hhost hlimited).2
    | _ => trivial
  perform := fun w token c answer w' h hpermits hperform => h.perform hpermits hperform
  change := by
    intro w token w' h hchange
    cases hchange with
    | binding binding hhost => exact h.bind hhost
    | event event hunknown =>
      exact ⟨h.recorded.append event, h.knows.append event, fun hlimited =>
        (h.fenced hlimited).append (hunknown hlimited)⟩
  rest := fun w token hrests h => ⟨h.recorded, trivial, fun hlimited => (h.fenced hlimited).safe
    fun outcome hended hunknown => absurd (hrests hlimited outcome hended) (by simp [hunknown])⟩
  forget := fun w token hcrash h => ⟨h.recorded, trivial, fun hlimited => (h.fenced hlimited).safe
    fun _ _ _ => hcrash hlimited⟩

theorem Start.inv (h : Start run roleName w) : Inv run roleName limited w .idle := by
  have hfirst : ∀ {Φ : Journal → Entry → Prop}, Φ [] (.observed ((ownTurn run.id w.binding).map
      ObservedTurn.status)) → Throughout Φ w.journal := by
    intro Φ hΦ
    rw [h.journal]
    exact (Throughout.nil Φ).snoc hΦ
  refine ⟨⟨fun _ => hfirst (by simp), hfirst (by simp),
    hfirst (by simp), fun turn hturn => ?_, fun event hevent error herror => ?_⟩, trivial,
    fun _ hout => ?_⟩
  · rw [h.journal, hturn]
    exact List.mem_singleton.2 rfl
  · rw [h.events event hevent] at herror
    cases herror
  · rw [h.journal] at hout
    obtain ⟨before, receiptId, between, outcome, later, heq, -⟩ :=
      @Outstanding.of_snoc [] _ hout (by simp)
    exact absurd heq (by simp)

theorem recorded_of_reachable [JsHost] {rules : LaunchRules E} {config : Config E}
    (h : Reachable run roleName rules limited config) : Recorded run roleName limited config.1 := by
  obtain ⟨w, hstart, hsteps⟩ := h
  have hguarded : Machine.Guarded (protocol run roleName limited) .idle (Inv run roleName limited) config := by
    induction hsteps with
    | refl => exact hstart.inv
    | tail _ hstep ih => exact (delivery_sound rules).step ih hstep
  obtain ⟨reached, program⟩ := config
  cases program with
  | none => exact hguarded.recorded
  | some program =>
    obtain ⟨token, hinv, -⟩ := hguarded
    exact hinv.recorded

/-- In every run of a limited world an input is submitted again only after its deferral, under a receipt other than
the first only after a deferral or a proof that nothing was registered, and the dispatch is settled only after an
acceptance or the end of the run. -/
theorem submits_once [JsHost] {rules : LaunchRules E} {config : Config E}
    (h : Reachable run roleName rules true config) :
    SubmitsOnce config.1.journal ∧ KeepsReceipt config.1.journal ∧ SettlesLate config.1.journal := by
  have hrecorded := recorded_of_reachable h
  exact ⟨hrecorded.once rfl, keepsReceipt_of_initial hrecorded.receipt, hrecorded.late⟩

end Steps

end Invariant

section Example

def sampleRules : LaunchRules Unit := ⟨fun _ _ => .ok true, fun _ _ => .ok true⟩

def sampleRun : SchedulerRun Unit :=
  ⟨"run-1", "task", "worker", .execution, none, .fresh, ⟨"agent", "adapter", ()⟩⟩

def samplePass (randomUUID : String) : Pass Unit :=
  ⟨sampleRun, ⟨"worker", "task", none⟩, "active", true, true, none, none, 0, randomUUID⟩

def samplePassProgram (randomUUID : String) : Call Unit Unit :=
  (@deliverActiveRun Unit (samplePass randomUUID) sampleRules sampleClock).bind fun _ => .done ()

theorem passes_sample (randomUUID : String) :
    @passes Unit sampleRun "worker" sampleClock sampleRules (samplePassProgram randomUUID) :=
  ⟨samplePass randomUUID, rfl, rfl, rfl⟩

/-- A Host that starts fresh Sessions and whose reports are unknown. -/
def play (w : World) : (c : Command Unit) → Except Thrown c.Answer × World
  | .readFacts _ => (.ok w.facts, w)
  | .prepareRoleSession _ _ => (.ok none, w)
  | .startHost => (.ok none, w)
  | .waitUntilReady => (.ok none, w)
  | .sendOnce receiptId => (.ok (), w.log [.sent receiptId])
  | .awaitReport => (.ok ⟨.deliveryUnknown, none⟩, w.log [.ended (.reported .deliveryUnknown)])
  | .recordAgentError error => (.ok (), (w.append sampleRun "worker" (.agentError error)).bind sampleRun
      (settledSubmission error w.binding))
  | .settleRoleRunDispatch _ => (.ok .settled, w.log [.settled])
  | .saveRoleRunDeliveryFailure _ _ => (.ok .failed, w.log [.terminalized, .settled])
  | .readRunContextSnapshot | .saveRoleRunPrepared _ | .forgetPrepared => (.ok (), w)

theorem play_performs {limited : Bool} (w : World) (c : Command Unit)
    (h : c = .awaitReport → limited = true → w.Ends sampleRun (.reported .deliveryUnknown)) :
    Performs sampleRun "worker" limited w c (play w c).1 (play w c).2 := by
  cases c with
  | readFacts pass => exact .readFacts pass
  | sendOnce receiptId => exact .sendOnce receiptId
  | awaitReport => exact .awaitReport ⟨.deliveryUnknown, none⟩ fun hlimited => ⟨h rfl hlimited, fun _ _ hnone => (by cases hnone)⟩
  | recordAgentError error => exact .recordAgentError error false
  | settleRoleRunDispatch expected => exact .settleRoleRunDispatch expected .settled
  | saveRoleRunDeliveryFailure reason summary => exact .saveRoleRunDeliveryFailure reason summary .failed
  | _ => exact .free _ _ trivial

/-- The binding shows a deferred turn of the run. -/
def deferredSample : World :=
  ⟨some ⟨.controller, some ⟨some "run-1", "turn:task/run-1", .deferred, none⟩, none⟩, [],
    [.observed (some .deferred)]⟩

theorem deferredSample_start : Start sampleRun "worker" deferredSample := ⟨fun _ h => (by cases h), rfl⟩

/-- The turn of the new attempt, as its Host shows it. -/
def attemptSample : ObservedTurn := ⟨some "run-1", "turn:task/run-1/attempt/u", .submitting, none⟩

theorem advance_steps (n : ℕ) (w : World) (p : Call Unit Unit)
    (h : ((Machine.performed play n (w, p)).all fun pair => match pair.2 with
      | .awaitReport => decide (ownTurn "run-1" pair.1.binding = some attemptSample)
      | _ => true) = true) :
    Relation.ReflTransGen ((machine sampleRun "worker" true).Step
      (@passes Unit sampleRun "worker" sampleClock sampleRules)) (w, some p)
      ((Machine.advance play n (w, p)).1, some (Machine.advance play n (w, p)).2) := by
  refine Machine.steps_advance _ _ n w p fun pair hpair => play_performs pair.1 pair.2 fun hc _ _ turn hturn => ?_
  have hshown := List.all_eq_true.1 h pair hpair
  rw [hc] at hshown
  rw [Option.some.inj (hturn.symm.trans (of_decide_eq_true hshown))]
  decide

/-- The input is sent, -/
def sentSample : World × Call Unit Unit := Machine.advance play 8 (deferredSample, samplePassProgram "u")

/-- the Host shows its turn before the end that is unknown, -/
def shownSample : World := sentSample.1.bind sampleRun (some ⟨.controller, some attemptSample, none⟩)

def recordedSample : World := (Machine.advance play 3 (shownSample, sentSample.2)).1

/-- and another pass goes over the run. -/
def fencedSample : World × Call Unit Unit := Machine.advance play 1 (recordedSample, samplePassProgram "v")

def unknownSample (randomUUID : String) : AgentErrorRecord :=
  failureRecord (samplePass randomUUID) ("turn:task/run-1/attempt/" ++ randomUUID)
    (failureCause ⟨.deliveryUnknown, none⟩) .turnSubmit .unknown none

theorem submits_once_sample :
    fencedSample.1.journal = [.observed (some .deferred), .sent "turn:task/run-1/attempt/u",
      .observed (some .submitting), .ended (.reported .deliveryUnknown), .reported (unknownSample "u"),
      .observed (some .deliveryUnknown)] ∧ SubmitsOnce fencedSample.1.journal := by
  have hshown : (machine sampleRun "worker" true).Step (@passes Unit sampleRun "worker" sampleClock sampleRules)
      (sentSample.1, some sentSample.2) (shownSample, some sentSample.2) := by
    refine .change _ _ _ (.binding _ fun _ _ turn hturn hstatus => ?_)
    obtain rfl := Option.some.inj hturn
    exact absurd rfl hstatus
  have hsteps : @Reachable Unit sampleRun "worker" sampleClock sampleRules true
      (fencedSample.1, some fencedSample.2) :=
    ⟨deferredSample, deferredSample_start, .head (.begin _ _ (passes_sample "u"))
      ((advance_steps 8 deferredSample _ rfl).trans (.head hshown ((advance_steps 3 shownSample sentSample.2 rfl).trans
        (.head (.finish recordedSample ()) (.head (.begin _ _ (passes_sample "v"))
          (advance_steps 1 recordedSample _ rfl))))))⟩
  exact ⟨by rfl, (@submits_once _ _ _ sampleClock _ _ hsteps).1⟩

/-- A Host that leaves the binding at the deferral. -/
def resubmittedSample : World :=
  (Program.run play (Program.run play deferredSample (samplePassProgram "u")).2 (samplePassProgram "v")).2

theorem unknown_resubmitted :
    @Reachable Unit sampleRun "worker" sampleClock sampleRules false (resubmittedSample, none) ∧
      ¬ SubmitsOnce resubmittedSample.journal := by
  constructor
  · refine ⟨deferredSample, deferredSample_start, ?_⟩
    have hpass : ∀ w randomUUID, Relation.ReflTransGen
        ((machine sampleRun "worker" false).Step (@passes Unit sampleRun "worker" sampleClock sampleRules)) (w, none)
        ((Program.run play w (samplePassProgram randomUUID)).2, none) :=
      fun w randomUUID => .head (.begin w _ (passes_sample randomUUID))
        (Machine.steps_run _ _ (fun w c => play_performs w c (by simp)) w _)
    exact (hpass deferredSample "u").trans (hpass _ "v")
  · intro hsubmits
    have hjournal : resubmittedSample.journal = [.observed (some .deferred),
        .sent "turn:task/run-1/attempt/u", .ended (.reported .deliveryUnknown),
        .reported (unknownSample "u"), .sent "turn:task/run-1/attempt/v",
        .ended (.reported .deliveryUnknown), .reported (unknownSample "v")] := by rfl
    rw [hjournal] at hsubmits
    refine hsubmits [_, _, _, _] _ [_, _] rfl _ rfl ?_
    exact ⟨[_], _, [], .reported .deliveryUnknown, [_], rfl, rfl, by simp⟩

end Example

end RoleRunDelivery
