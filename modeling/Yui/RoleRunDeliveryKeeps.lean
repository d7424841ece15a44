import Yui.RoleRunDeliveryRuns

/-!
# What a delivery pass issues

A pass reads the facts once, submits at most once and only with a receipt that the facts license, and settles
the dispatch only after an accepted turn or report. When its submission ends unknown, it does not end before an
unknown error is on record.
-/

open Program Protocol WorkMailbox EventJournal

namespace RoleRunDelivery

variable {E : Type} (run : SchedulerRun E) (roleName : String) (limited : Bool)

/-- How far the pass under way has come. `recorded` says that an error was recorded since its submission ended. -/
inductive Token where
  | idle
  | decided (facts : Facts)
  | sending
  | ended (outcome : SubmissionEnd) (recorded : Bool)

def Token.record : Token → Token
  | .ended outcome _ => .ended outcome true
  | token => token

/-- The receipt with which the facts let a pass submit. -/
def Licensed (facts : Facts) (receiptId : String) : Prop :=
  Open run roleName facts ∧
    (receiptId = run.receiptId ∨
      (∃ turn, ownTurn run.id facts.binding = some turn ∧ turn.status = .deferred) ∨
      ∃ error, lastSubmitError run.id roleName facts.events = some error ∧
        error.deferredBeforeRegistration = true)

def AcceptedTurn (facts : Facts) : Prop :=
  ∃ turn, ownTurn run.id facts.binding = some turn ∧ turn.status = .accepted

/-- The errors that a pass may record. In a limited world one after an unproven end fences the input. -/
def Records : Token → AgentErrorRecord → Prop
  | .idle, _ | .sending, _ => False
  | .decided _, error => isSubmitError run.id roleName error = false
  | .ended outcome _, error => limited = true → outcome.unproven = true → Fences run roleName error

/-- The commands beside the submission, with the errors that may be recorded. -/
def Aside (records : AgentErrorRecord → Prop) : Command E → Prop
  | .readFacts _ | .sendOnce _ | .awaitReport | .settleRoleRunDispatch _ => False
  | .recordAgentError error => records error
  | _ => True

def Permits : Token → Command E → Prop
  | .idle, .readFacts _ => True
  | .decided facts, .sendOnce receiptId => Licensed run roleName facts receiptId
  | .decided facts, .settleRoleRunDispatch _ => AcceptedTurn run facts
  | .sending, .awaitReport => True
  | .ended outcome _, .settleRoleRunDispatch _ => outcome.accepted = true
  | token, command => Aside (Records run roleName limited token) command

def Answers : (c : Command E) → Except Thrown c.Answer → Prop
  | .sendOnce _, answer => answer = .ok ()
  | .awaitReport, .ok report => limited = true → (report : RoleDeliveryReport).Honest
  | .recordAgentError error, .error _ => limited = true → ¬ Fences run roleName error
  | _, _ => True

def After (token : Token) : (c : Command E) → Except Thrown c.Answer → Token
  | .readFacts _, .ok facts => .decided facts
  | .sendOnce _, _ => .sending
  | .awaitReport, .ok report => .ended (.reported (report : RoleDeliveryReport).status) false
  | .awaitReport, .error _ => .ended .threw false
  | .recordAgentError _, .ok _ => token.record
  | _, _ => token

/-- An unknown end is on record. -/
def Rests (token : Token) : Prop :=
  limited = true → ∀ outcome, token = .ended outcome false → outcome.unknown = false

def protocol : Protocol (Command E) Command.Answer Thrown Token where
  permits := Permits run roleName limited
  answers := Answers run roleName limited
  after := After
  rests := Rests limited

section Programs

variable {run roleName limited}
variable (pass : Pass E) (rules : LaunchRules E)

theorem issues_ofExcept {S : Command E → Prop} {α : Type} (result : Except Thrown α) :
    (Program.ofExcept result : Call E α).Issues S := by
  cases result with
  | ok value => trivial
  | error error => trivial

theorem aside_issue {records : AgentErrorRecord → Prop} {command : Command E} (h : Aside records command) :
    (issue command : Call E command.Answer).Issues (Aside records) := .issue h

variable {records : AgentErrorRecord → Prop}

theorem persistPreStartSession_aside (mode : LaunchMode) (preflight : LaunchPreflight E) :
    (persistPreStartSession rules pass mode preflight).Issues (Aside records) := by
  unfold persistPreStartSession
  split_ifs with hfence
  · trivial
  · exact (issues_ofExcept _).bind fun session => aside_issue (by trivial)

theorem prepareHost_aside (mode : LaunchMode) : (prepareHost rules pass mode).Issues (Aside records) := by
  refine (aside_issue (by trivial)).bind fun _ => (issues_ofExcept _).bind fun native =>
    (aside_issue (by trivial)).bind fun preflight => ?_
  cases preflight with
  | none => trivial
  | some preflight => exact persistPreStartSession_aside pass rules mode preflight

theorem prepareDelivery_aside (mode : LaunchMode) : (prepareDelivery rules pass mode).Issues (Aside records) :=
  (prepareHost_aside pass rules mode).bind fun _ =>
    (aside_issue (by trivial)).bind fun prepared => (issues_ofExcept _).bind fun session =>
      (aside_issue (by trivial)).bind fun _ => (aside_issue (by trivial)).bind fun ready =>
        (issues_ofExcept _).bind fun session => aside_issue (by trivial)

theorem failRunDelivery_aside (reason : FailureReason) (summary : String) :
    (failRunDelivery pass reason summary).Issues (Aside records) :=
  (aside_issue (by trivial)).bind fun _ => trivial

theorem dismiss_aside (submitted : Bool) (error : Thrown) :
    (dismiss pass submitted error).Issues (Aside records) := by
  refine (aside_issue (by trivial)).bind fun _ => ?_
  cases submitted with
  | true => trivial
  | false => exact failRunDelivery_aside pass _ _

theorem caught_aside (receiptId : String) (mode : LaunchMode) (submitted : Bool) (error : Thrown)
    (hrecords : records (caughtRecord pass receiptId mode submitted error)) :
    (caught pass receiptId mode submitted error).Issues (Aside records) := by
  unfold caught
  split_ifs with hpaused
  · exact (aside_issue (by trivial)).bind fun _ => trivial
  · have hrecord : Aside records (.recordAgentError (caughtRecord pass receiptId mode submitted error) : Command E) := hrecords
    refine (aside_issue hrecord).bind fun _ => ?_
    cases error.cls with
    | lifecycleBusy => trivial
    | launchError retryable reason =>
      cases retryable with
      | true => trivial
      | false => exact dismiss_aside pass submitted error
    | _ => exact dismiss_aside pass submitted error

/-- The error that is recorded when the submission throws fences the input. -/
theorem caughtRecord_fences (receiptId : String) (mode : LaunchMode) (error : Thrown) :
    Fences pass.run pass.role.name (caughtRecord pass receiptId mode true error) := by
  simp [Fences, isSubmitError, caughtRecord]

theorem caughtRecord_before (receiptId : String) (mode : LaunchMode) (error : Thrown) :
    isSubmitError pass.run.id pass.role.name (caughtRecord pass receiptId mode false error) = false := by
  cases mode <;> simp [isSubmitError, caughtRecord]

theorem failureRecord_fences {receiptId message : String} {report : RoleDeliveryReport} (hhonest : report.Honest)
    (hunknown : report.status = .deliveryUnknown) :
    Fences pass.run pass.role.name (failureRecord pass receiptId message
      ((report.failure.map ProviderDeliveryFailure.phase).getD .turnSubmit)
      ((report.failure.map ProviderDeliveryFailure.inputDisposition).getD .unknown) report.failure) := by
  cases hfailure : report.failure with
  | none => simp [Fences, isSubmitError, failureRecord]
  | some failure =>
    obtain ⟨hphase, hdisposition⟩ := hhonest hunknown failure hfailure
    simp [Fences, isSubmitError, failureRecord, hphase, hdisposition]

variable {token : Token}

theorem aside_permitted {c : Command E} (h : Aside (Records run roleName limited token) c) :
    Permits run roleName limited token c ∧ ∀ answer, After token c answer = token ∨
      After token c answer = token.record := by
  cases c with
  | readFacts pass | sendOnce receiptId | awaitReport | settleRoleRunDispatch expected => exact h.elim
  | recordAgentError error =>
    refine ⟨by cases token <;> exact h, fun answer => ?_⟩
    cases answer with
    | ok _ => exact .inr rfl
    | error _ => exact .inl rfl
  | _ => cases token <;> exact ⟨trivial, fun answer => .inl rfl⟩

theorem keeps_aside {α : Type} {p : Call E α} (hp : p.Issues (Aside (Records run roleName limited token))) :
    (protocol run roleName limited).Keeps (fun t _ => t = token ∨ t = token.record)
      (fun t _ => t = token ∨ t = token.record) token p := by
  refine Keeps.of_issues (I := fun t => t = token ∨ t = token.record) (fun t c hc ht => ?_) hp (.inl rfl)
  have hsame : Records run roleName limited t = Records run roleName limited token ∧ t.record = token.record := by
    obtain rfl | rfl := ht
    · exact ⟨rfl, rfl⟩
    · cases token <;> exact ⟨rfl, rfl⟩
  obtain ⟨hpermits, hafter⟩ := aside_permitted (hsame.1.symm ▸ hc : Aside (Records run roleName limited t) c)
  refine ⟨hpermits, fun answer => ?_⟩
  obtain hstays | hrecords := hafter answer
  · exact (congrArg (fun t => t = token ∨ t = token.record) hstays).mpr ht
  · exact .inr (hrecords.trans hsame.2)

variable (run roleName limited) in
abbrev KeepsOn {α : Type} (token : Token) (p : Call E α) : Prop :=
  (protocol run roleName limited).Keeps (fun t _ => Rests limited t) (fun t _ => Rests limited t) token p

theorem rests_recorded (outcome : SubmissionEnd) : Rests limited (.ended outcome true) := nofun

theorem Rests.record (h : Rests limited token) : Rests limited token.record := by
  cases token with
  | ended outcome recorded => exact rests_recorded outcome
  | _ => exact h

theorem keepsOn_aside {α : Type} {p : Call E α} (hrests : Rests limited token)
    (hp : p.Issues (Aside (Records run roleName limited token))) : KeepsOn run roleName limited token p := by
  refine (keeps_aside hp).mono (fun t _ ht => ?_) fun t _ ht => ?_
  · obtain rfl | rfl := ht
    · exact hrests
    · exact hrests.record
  · obtain rfl | rfl := ht
    · exact hrests
    · exact hrests.record

theorem rests_decided (facts : Facts) : Rests limited (.decided facts) := nofun

theorem rests_known {outcome : SubmissionEnd} (h : outcome.unknown = false) (recorded : Bool) :
    Rests limited (.ended outcome recorded) := fun _ _ heq => (by cases heq; exact h)

/-- After the submission the catch block records an error that fences the input, or raises. -/
theorem caught_keeps (receiptId : String) (mode : LaunchMode) (error : Thrown) (outcome : SubmissionEnd)
    (recorded : Bool) : KeepsOn pass.run pass.role.name limited (.ended outcome recorded)
      (caught pass receiptId mode true error) := by
  have hfences := caughtRecord_fences pass receiptId mode error
  have hissues := caught_aside pass receiptId mode true error
    (show Records pass.run pass.role.name limited (.ended outcome true) _ from fun _ _ => hfences)
  unfold caught at hissues ⊢
  rw [if_neg (by simp)] at hissues ⊢
  refine ⟨fun _ _ => hfences, fun answer hanswer => ?_⟩
  cases answer with
  | ok _ => exact keepsOn_aside (rests_recorded outcome) (hissues.2 (.ok ()))
  | error failure => exact fun hlimited => absurd hfences (hanswer hlimited)

theorem settle_keeps (dispatch : Option RoleRunDispatchToken)
    (h : Permits run roleName limited token (.settleRoleRunDispatch dispatch : Command E)) (result : DeliveryResult) :
    (protocol run roleName limited).Keeps (fun t _ => t = token) (fun t _ => t = token) token
      ((issue (Command.settleRoleRunDispatch dispatch) : Call E _).bind fun _ => .done result) := by
  refine ⟨h, fun answer _ => ?_⟩
  cases answer with
  | ok settlement => rfl
  | error error => rfl

variable (run roleName limited) in
/-- The program ends with an unknown end on record, or raises after the end. -/
abbrev Concludes (outcome : SubmissionEnd) (p : Call E DeliveryResult) : Prop :=
  (protocol run roleName limited).Keeps (fun t _ => Rests limited t)
    (fun t _ => ∃ recorded, t = .ended outcome recorded) (.ended outcome false) p

theorem concludes_known {outcome : SubmissionEnd} (hknown : outcome.unknown = false) {p : Call E DeliveryResult}
    (hp : p.Issues (Aside (Records run roleName limited (.ended outcome false)))) :
    Concludes run roleName limited outcome p := by
  refine (keeps_aside hp).mono (fun t _ ht => ?_) fun t _ ht => ?_
  · obtain rfl | rfl := ht
    · exact rests_known hknown false
    · exact rests_known hknown true
  · obtain rfl | rfl := ht
    · exact ⟨false, rfl⟩
    · exact ⟨true, rfl⟩

theorem concludes_accepted (dispatch : Option RoleRunDispatchToken) {outcome : SubmissionEnd}
    (h : outcome.accepted = true) (hknown : outcome.unknown = false) (result : DeliveryResult) :
    Concludes run roleName limited outcome ((Program.issue Command.forgetPrepared : Call E _).bind fun _ =>
      (Program.issue (Command.settleRoleRunDispatch dispatch) : Call E _).bind fun _ => .done result) := by
  refine ⟨trivial, fun answer _ => ?_⟩
  cases answer with
  | ok _ =>
    have hpermits : Permits run roleName limited (.ended outcome false) (.settleRoleRunDispatch dispatch : Command E) := h
    exact (settle_keeps dispatch hpermits result).mono (fun _ _ ht => ht ▸ rests_known hknown false)
      fun _ _ ht => ⟨false, ht⟩
  | error error => exact ⟨false, rfl⟩

theorem conclude_keeps (receiptId : String) (token : Option RoleRunDispatchToken) (report : RoleDeliveryReport)
    (hhonest : limited = true → report.Honest) :
    Concludes pass.run pass.role.name limited (.reported report.status) (conclude pass receiptId token report) := by
  obtain ⟨status, failure⟩ := report
  cases status with
  | pending | unavailable =>
    exact concludes_known rfl ((aside_issue (by trivial)).bind fun _ => by trivial)
  | busy =>
    refine concludes_known rfl (.bind ?_ fun _ => (aside_issue (by trivial)).bind fun _ => by trivial)
    cases failure with
    | none => trivial
    | some failure =>
      by_cases hrefused : failure.inputDisposition = .notAccepted
      · simp only [recordBusy, hrefused]
        exact aside_issue fun _ hunproven => (by cases hunproven)
      · simp only [recordBusy, hrefused]
        trivial
  | rejected =>
    exact concludes_known rfl ((aside_issue (by trivial)).bind fun _ =>
      (aside_issue fun _ hunproven => (by cases hunproven)).bind fun _ => failRunDelivery_aside pass _ _)
  | deliveryUnknown =>
    refine ⟨trivial, fun answer _ => ?_⟩
    cases answer with
    | error error => exact ⟨false, rfl⟩
    | ok _ =>
      refine ⟨fun hlimited _ => failureRecord_fences pass (hhonest hlimited) rfl, fun answer _ => ?_⟩
      cases answer with
      | error error => exact ⟨false, rfl⟩
      | ok _ => exact rests_recorded _
  | sent => exact concludes_accepted token rfl rfl _
  | alreadySent => exact concludes_accepted token rfl rfl _

variable {facts : Facts}

theorem submit_keeps {receiptId : String} (token : Option RoleRunDispatchToken)
    (h : Licensed pass.run pass.role.name facts receiptId) :
    (protocol pass.run pass.role.name limited).Keeps (fun t _ => Rests limited t)
      (fun t _ => ∃ outcome recorded, t = .ended outcome recorded) (.decided facts) (submit pass receiptId token) := by
  refine ⟨h, fun answer hanswer => ?_⟩
  obtain rfl : answer = .ok () := hanswer
  refine ⟨trivial, fun answer hanswer => ?_⟩
  cases answer with
  | ok report =>
    exact (conclude_keeps pass receiptId token report hanswer).mono (fun _ _ hrests => hrests)
      fun _ _ hended => ⟨_, hended⟩
  | error error => exact ⟨.threw, false, rfl⟩

theorem attemptDelivery_keeps {receiptId : String} (mode : LaunchMode) (token : Option RoleRunDispatchToken)
    (h : Licensed pass.run pass.role.name facts receiptId) : KeepsOn pass.run pass.role.name limited (.decided facts)
      (attemptDelivery pass rules receiptId mode token) := by
  have hprepare : ((prepareDelivery rules pass mode).bind fun _ =>
      (.done none : Call E (Option DeliveryResult))).Issues
        (Aside (Records pass.run pass.role.name limited (.decided facts))) :=
    (prepareDelivery_aside pass rules mode).bind fun _ => trivial
  have hcaught : ∀ error, ((caught pass receiptId mode false error).bind fun result =>
      (.done (some result) : Call E (Option DeliveryResult))).Issues
        (Aside (Records pass.run pass.role.name limited (.decided facts))) :=
    fun error => (caught_aside pass receiptId mode false error
      (caughtRecord_before pass receiptId mode error)).bind fun _ => trivial
  have hdecided : ∀ t, t = .decided facts ∨ t = Token.record (.decided facts) → t = .decided facts :=
    fun t ht => ht.elim id id
  refine Keeps.bind ((keeps_aside (hprepare.handle hcaught)).mono (fun t _ ht => hdecided t ht)
    fun t _ ht => hdecided t ht ▸ rests_decided facts) fun t prepared ht => ?_
  subst ht
  cases prepared with
  | some result => exact rests_decided facts
  | none =>
    refine Keeps.handle (submit_keeps pass token h) fun t error hended => ?_
    obtain ⟨outcome, recorded, rfl⟩ := hended
    exact caught_keeps pass receiptId mode error outcome recorded

theorem deliverTurn_keeps (token : Option RoleRunDispatchToken) :
    KeepsOn pass.run pass.role.name limited (.decided facts) (deliverTurn pass rules facts token) := by
  have hrests := @rests_decided limited facts
  have hlicensed : Open pass.run pass.role.name facts → Licensed pass.run pass.role.name facts
      (attemptId pass (ownTurn pass.run.id facts.binding)
        (lastSubmitError pass.run.id pass.role.name facts.events)) := by
    refine fun hopen => ⟨hopen, ?_⟩
    unfold attemptId
    split_ifs with hnew
    · rcases hnew with hturn | herror
      · obtain ⟨turn, hturn, hstatus⟩ := (Option.any_eq_true _ _).1 hturn
        exact .inr (.inl ⟨turn, hturn, of_decide_eq_true hstatus⟩)
      · obtain ⟨error, herror, hbusy⟩ := (Option.any_eq_true _ _).1 herror
        exact .inr (.inr ⟨error, herror, hbusy⟩)
    · exact .inl rfl
  unfold deliverTurn
  dsimp only
  cases hturn : ownTurn pass.run.id facts.binding with
  | none =>
    dsimp only [Option.map_none]
    split_ifs with hunknown
    · exact hrests
    · refine attemptDelivery_keeps pass rules _ token (hturn ▸ hlicensed (.inr ⟨hturn, ?_⟩))
      intro error herror hdisposition
      exact hunknown ((Option.any_eq_true _ _).2 ⟨error, herror, decide_eq_true hdisposition⟩)
  | some turn =>
    dsimp only [Option.map_some]
    cases hstatus : turn.status with
    | accepted =>
      have hpermits : Permits pass.run pass.role.name limited (.decided facts)
          (.settleRoleRunDispatch token : Command E) := ⟨turn, hturn, hstatus⟩
      exact (settle_keeps token hpermits _).mono (fun _ _ ht => ht ▸ hrests) fun _ _ ht => ht ▸ hrests
    | deferred =>
      exact attemptDelivery_keeps pass rules _ token (hturn ▸ hlicensed (.inl ⟨turn, hturn, hstatus⟩))
    | rejected => exact keepsOn_aside hrests (failRunDelivery_aside pass _ _)
    | _ => exact hrests

theorem deliverActiveRun_keeps [JsHost] :
    KeepsOn pass.run pass.role.name limited .idle (deliverActiveRun pass rules) := by
  have hidle : Rests limited .idle := fun _ _ h => (by cases h)
  unfold deliverActiveRun
  split_ifs with henabled hready
  · exact hidle
  · exact hidle
  · refine ⟨trivial, fun answer _ => ?_⟩
    cases answer with
    | error error => exact hidle
    | ok facts =>
      change KeepsOn pass.run pass.role.name limited (.decided facts) _
      have hrests := @rests_decided limited facts
      dsimp only [Program.ofExcept, Program.bind]
      cases closedRetry pass facts.binding with
      | some retry => exact keepsOn_aside hrests (failRunDelivery_aside pass _ _)
      | none =>
        dsimp only
        split_ifs with hwaits hwriter
        · exact hrests
        · exact hrests
        · cases otherTurnInFlight pass.run.id facts.binding with
          | some turn => exact hrests
          | none => exact deliverTurn_keeps pass rules _

end Programs

end RoleRunDelivery
