import Mathlib.Data.List.Nodup
import Yui.ProviderBinding

/-!
# The activation slot of a Task

A Task holds its latest activation request and a bounded history of the decided ones before it. What `validateTask` and
`validateTaskActivationRequest` check besides is a parameter: it reads neither the slot nor the history.
-/

open Checked

namespace TaskActivation

inductive TaskActivationDisposition where
  | pending | adopted | cancelled | failed
  deriving DecidableEq

def TaskActivationDisposition.text : TaskActivationDisposition → String
  | .pending => "pending"
  | .adopted => "adopted"
  | .cancelled => "cancelled"
  | .failed => "failed"

/-- The identity of a request, its outcome and the rest of the record. -/
structure TaskActivationRequest (R : Type) where
  requestId : String
  inputDigest : String
  targetId : String
  disposition : TaskActivationDisposition
  rest : R

structure Task (R F : Type) where
  id : String
  activationRequest : Option (TaskActivationRequest R)
  settledActivationRequests : Option (List (TaskActivationRequest R))
  createdAt : String
  updatedAt : String
  rest : F

/-- `request` is `validateTaskActivationRequest`, the others are the checks of the other fields of a Task. -/
structure Checks (R F : Type) where
  request : TaskActivationRequest R → Except String Unit
  before : String → F → Except String Unit
  after : String → F → Except String Unit

def maxSettledActivationRequests : ℕ := 16

variable {R F : Type}

def isSettledActivationRequest (request : TaskActivationRequest R) : Bool :=
  request.disposition = .cancelled || request.disposition = .adopted

def checkSettled (checks : Checks R F) (id : String) (live : Option String) :
    List String → List (TaskActivationRequest R) → Except String Unit
  | _, [] => .ok ()
  | seen, request :: settled => do
    checks.request request
    refuse (request.targetId ≠ id)
      s!"Task settled activation request belongs to another Task: {request.targetId}."
    refuse (isSettledActivationRequest request = false)
      s!"Task settled activation history retains only terminal requests: {request.requestId}/{request.disposition.text}."
    refuse (request.requestId ∈ seen ∨ some request.requestId = live)
      s!"Task activation request is duplicated: {request.requestId}."
    checkSettled checks id live (seen ++ [request.requestId]) settled

def checkRequest (checks : Checks R F) (id : String) : Option (TaskActivationRequest R) → Except String Unit
  | none => .ok ()
  | some request => do
    checks.request request
    refuse (request.targetId ≠ id) s!"Task activation request belongs to another Task: {request.targetId}."

def checkHistory (checks : Checks R F) (id : String) (live : Option String) :
    Option (List (TaskActivationRequest R)) → Except String Unit
  | none => .ok ()
  | some settled => do
    refuse (maxSettledActivationRequests < settled.length)
      "Task settled activation requests exceed the bounded limit."
    checkSettled checks id live [] settled

variable (checks : Checks R F)

def checkTimestamps [RuntimeHost] (createdAt updatedAt : String) : Except String Unit := do
  refuse (JsHost.dateParse createdAt = none) "Task createdAt is invalid."
  refuse (JsHost.dateParse updatedAt = none) "Task updatedAt is invalid."
  refuse ((JsHost.dateParse updatedAt).getD 0 < (JsHost.dateParse createdAt).getD 0)
    "Task updatedAt cannot precede createdAt."

def validateTask [RuntimeHost] (task : Task R F) : Except String Unit := do
  checks.before task.id task.rest
  checkTimestamps task.createdAt task.updatedAt
  checkRequest checks task.id task.activationRequest
  checkHistory checks task.id (task.activationRequest.map (·.requestId)) task.settledActivationRequests
  checks.after task.id task.rest

/-- The outgoing request, when its outcome was terminal and the incoming one is another. -/
def displaced (task : Task R F) (request : TaskActivationRequest R) : List (TaskActivationRequest R) :=
  (task.activationRequest.filter fun existing =>
    existing.requestId ≠ request.requestId && isSettledActivationRequest existing).toList

/-- `values.slice(-count)`. -/
def newest {α : Type} (count : ℕ) (values : List α) : List α := values.drop (values.length - count)

def retained (task : Task R F) (request : TaskActivationRequest R) : List (TaskActivationRequest R) :=
  newest maxSettledActivationRequests ((task.settledActivationRequests.getD [] ++ displaced task request).filter
    fun entry => entry.requestId ≠ request.requestId)

def setTaskActivationRequest [RuntimeHost] (task : Task R F) (request : TaskActivationRequest R) (now : ℤ) :
    Except String (Task R F) := do
  validateTask checks task
  checks.request request
  refuse (request.targetId ≠ task.id) s!"Activation request belongs to another Task: {request.targetId}."
  refuse (∃ existing ∈ task.activationRequest,
      existing.requestId = request.requestId ∧ existing.inputDigest ≠ request.inputDigest)
    s!"Activation requestId {request.requestId} was already used for different inputs."
  let updatedAt ← Binding.iso now
  let next : Task R F := { task with
    activationRequest := some request
    settledActivationRequests :=
      if retained task request = [] then task.settledActivationRequests else some (retained task request)
    updatedAt := updatedAt }
  validateTask checks next
  .ok next

structure Settled (checks : Checks R F) (id : String) (live : Option String) (entry : TaskActivationRequest R) :
    Prop where
  valid : checks.request entry = .ok ()
  target : entry.targetId = id
  settled : isSettledActivationRequest entry = true
  other : some entry.requestId ≠ live

theorem checkSettled_iff {id : String} {live : Option String} {seen : List String}
    {settled : List (TaskActivationRequest R)} : checkSettled checks id live seen settled = .ok () ↔
      (∀ entry ∈ settled, Settled checks id live entry ∧ entry.requestId ∉ seen) ∧
        (settled.map (·.requestId)).Nodup := by
  induction settled generalizing seen with
  | nil => simp [checkSettled]
  | cons entry settled ih =>
    rw [checkSettled, seq_iff, seq_iff, seq_iff, seq_iff, refuse_iff, refuse_iff, refuse_iff, ih, not_not,
      Bool.not_eq_false, not_or]
    constructor
    · rintro ⟨hvalid, htarget, hsettled, ⟨hseen, hlive⟩, hall, hnodup⟩
      refine ⟨fun other hother => ?_, ?_⟩
      · obtain rfl | hother := List.mem_cons.1 hother
        · exact ⟨⟨hvalid, htarget, hsettled, hlive⟩, hseen⟩
        · obtain ⟨hentry, hnew⟩ := hall other hother
          exact ⟨hentry, fun hmem => hnew (List.mem_append_left _ hmem)⟩
      · refine List.nodup_cons.2 ⟨fun hmem => ?_, hnodup⟩
        obtain ⟨other, hother, hsame⟩ := List.mem_map.1 hmem
        exact (hall other hother).2 (List.mem_append_right _ (List.mem_singleton.2 hsame))
    · rintro ⟨hall, hnodup⟩
      obtain ⟨⟨hvalid, htarget, hsettled, hlive⟩, hseen⟩ := hall entry List.mem_cons_self
      obtain ⟨hfresh, hrest⟩ := List.nodup_cons.1 hnodup
      refine ⟨hvalid, htarget, hsettled, ⟨hseen, hlive⟩, fun other hother => ?_, hrest⟩
      obtain ⟨hentry, hold⟩ := hall other (List.mem_cons_of_mem _ hother)
      refine ⟨hentry, fun hmem => ?_⟩
      obtain hmem | hmem := List.mem_append.1 hmem
      · exact hold hmem
      · exact hfresh (List.mem_map.2 ⟨other, hother, List.mem_singleton.1 hmem⟩)

/-- What a Task satisfies that passes its validation. -/
structure Valid [RuntimeHost] (task : Task R F) : Prop where
  before : checks.before task.id task.rest = .ok ()
  timestamps : checkTimestamps task.createdAt task.updatedAt = .ok ()
  live : ∀ request ∈ task.activationRequest, checks.request request = .ok () ∧ request.targetId = task.id
  bound : (task.settledActivationRequests.getD []).length ≤ maxSettledActivationRequests
  settled : ∀ entry ∈ task.settledActivationRequests.getD [],
    Settled checks task.id (task.activationRequest.map (·.requestId)) entry
  unique : ((task.settledActivationRequests.getD []).map (·.requestId)).Nodup
  after : checks.after task.id task.rest = .ok ()

variable {checks} in
theorem validateTask_iff [RuntimeHost] {task : Task R F} : validateTask checks task = .ok () ↔ Valid checks task := by
  have hrequest : checkRequest checks task.id task.activationRequest = .ok () ↔
      ∀ request ∈ task.activationRequest, checks.request request = .ok () ∧ request.targetId = task.id := by
    cases task.activationRequest with
    | none => simp [checkRequest]
    | some request => simp [checkRequest, seq_iff, refuse_iff]
  have hhistory : checkHistory checks task.id (task.activationRequest.map (·.requestId))
      task.settledActivationRequests = .ok () ↔
      (task.settledActivationRequests.getD []).length ≤ maxSettledActivationRequests ∧
        (∀ entry ∈ task.settledActivationRequests.getD [],
          Settled checks task.id (task.activationRequest.map (·.requestId)) entry) ∧
        ((task.settledActivationRequests.getD []).map (·.requestId)).Nodup := by
    cases task.settledActivationRequests with
    | none => simp [checkHistory]
    | some settled => simp [checkHistory, seq_iff, refuse_iff, checkSettled_iff]
  rw [validateTask, seq_iff, seq_iff, seq_iff, seq_iff, hrequest, hhistory]
  constructor
  · rintro ⟨hbefore, htimestamps, hlive, ⟨hbound, hsettled, hunique⟩, hafter⟩
    exact ⟨hbefore, htimestamps, hlive, hbound, hsettled, hunique, hafter⟩
  · rintro ⟨hbefore, htimestamps, hlive, hbound, hsettled, hunique, hafter⟩
    exact ⟨hbefore, htimestamps, hlive, ⟨hbound, hsettled, hunique⟩, hafter⟩

/-- The request holds the slot, and the history is what was decided before it, newest last and without its id. -/
structure Replaced (task : Task R F) (request : TaskActivationRequest R) (result : Task R F) : Prop where
  live : result.activationRequest = some request
  history : result.settledActivationRequests.getD [] = newest maxSettledActivationRequests
    ((task.settledActivationRequests.getD []).filter (fun entry => entry.requestId ≠ request.requestId) ++
      displaced task request)
  other : ∀ entry ∈ result.settledActivationRequests.getD [], entry.requestId ≠ request.requestId

theorem mem_displaced {task : Task R F} {request entry : TaskActivationRequest R} :
    entry ∈ displaced task request ↔ task.activationRequest = some entry ∧ entry.requestId ≠ request.requestId ∧
      isSettledActivationRequest entry = true := by
  simp [displaced, Option.filter_eq_some_iff]

theorem retained_eq (task : Task R F) (request : TaskActivationRequest R) :
    retained task request = newest maxSettledActivationRequests
      ((task.settledActivationRequests.getD []).filter (fun entry => entry.requestId ≠ request.requestId) ++
        displaced task request) := by
  have hkept : (displaced task request).filter (fun entry => entry.requestId ≠ request.requestId) =
      displaced task request :=
    List.filter_eq_self.2 fun entry hentry => decide_eq_true (mem_displaced.1 hentry).2.1
  rw [retained, List.filter_append, hkept]

theorem newest_sublist {α : Type} (count : ℕ) (values : List α) : (newest count values).Sublist values :=
  List.drop_sublist _ _

theorem newest_eq_nil {α : Type} {count : ℕ} (hcount : 0 < count) {values : List α} :
    newest count values = [] ↔ values = [] := by
  rw [newest, List.drop_eq_nil_iff]
  constructor
  · intro h
    exact List.length_eq_zero_iff.1 (by omega)
  · rintro rfl
    simp

theorem length_newest_le {α : Type} (count : ℕ) (values : List α) : (newest count values).length ≤ count := by
  rw [newest, List.length_drop]
  omega

theorem retained_sublist (task : Task R F) (request : TaskActivationRequest R) :
    (retained task request).Sublist ((task.settledActivationRequests.getD [] ++ displaced task request).filter
      fun entry => entry.requestId ≠ request.requestId) := newest_sublist _ _

variable {checks}

theorem Valid.kept [RuntimeHost] {task : Task R F} (h : Valid checks task) (request : TaskActivationRequest R) :
    (∀ entry ∈ retained task request, Settled checks task.id (some request.requestId) entry) ∧
      ((retained task request).map (·.requestId)).Nodup := by
  constructor
  · intro entry hentry
    obtain ⟨hmem, hother⟩ := List.mem_filter.1 ((retained_sublist task request).subset hentry)
    have hne : some entry.requestId ≠ some request.requestId := fun heq =>
      of_decide_eq_true hother (Option.some.inj heq)
    obtain hold | hnew := List.mem_append.1 hmem
    · exact { h.settled entry hold with other := hne }
    · obtain ⟨hlive, -, hsettled⟩ := mem_displaced.1 hnew
      obtain ⟨hvalid, htarget⟩ := h.live entry hlive
      exact ⟨hvalid, htarget, hsettled, hne⟩
  · have hall : ((task.settledActivationRequests.getD [] ++ displaced task request).map (·.requestId)).Nodup := by
      rw [List.map_append, List.nodup_append]
      refine ⟨h.unique, ?_, ?_⟩
      · unfold displaced
        cases task.activationRequest.filter _ with
        | none => exact List.nodup_nil
        | some existing => exact List.nodup_singleton _
      · intro first hfirst second hsecond heq
        obtain ⟨old, hold, rfl⟩ := List.mem_map.1 hfirst
        obtain ⟨live, hlive, rfl⟩ := List.mem_map.1 hsecond
        refine (h.settled old hold).other ?_
        rw [(mem_displaced.1 hlive).1, heq]
        rfl
    exact hall.sublist (((retained_sublist task request).trans List.filter_sublist).map _)

theorem Valid.retained_nil [RuntimeHost] {task : Task R F} (h : Valid checks task) {request : TaskActivationRequest R}
    (hnil : retained task request = [])
    (hwritten : ¬ ∃ entry, task.settledActivationRequests = some [entry] ∧ entry.requestId = request.requestId ∧
      displaced task request = []) : task.settledActivationRequests.getD [] = [] := by
  rw [retained_eq, newest_eq_nil (by decide), List.append_eq_nil_iff, List.filter_eq_nil_iff] at hnil
  obtain ⟨hsame, hdisplaced⟩ := hnil
  cases hsettled : task.settledActivationRequests with
  | none => rfl
  | some settled =>
    have hunique := h.unique
    rw [hsettled, Option.getD_some] at hsame hunique
    match settled with
    | [] => rfl
    | [entry] =>
      have hid : entry.requestId = request.requestId := by simpa using hsame entry List.mem_cons_self
      exact absurd ⟨entry, hsettled, hid, hdisplaced⟩ hwritten
    | first :: second :: rest =>
      have hfirst : first.requestId = request.requestId := by simpa using hsame first List.mem_cons_self
      have hsecond : second.requestId = request.requestId := by
        simpa using hsame second (List.mem_cons_of_mem _ List.mem_cons_self)
      have hfresh := (List.nodup_cons.1 hunique).1
      rw [List.map_cons, hsecond, ← hfirst] at hfresh
      exact absurd List.mem_cons_self hfresh

theorem setTaskActivationRequest_settled [RuntimeHost] {task result : Task R F} {request : TaskActivationRequest R}
    {now : ℤ} (h : setTaskActivationRequest checks task request now = .ok result) : result.settledActivationRequests =
      if retained task request = [] then task.settledActivationRequests else some (retained task request) := by
  iterate 4 obtain ⟨_, -, h⟩ := bind_ok h
  obtain ⟨updatedAt, -, _, -, h⟩ := bind_ok₂ h
  rw [← Except.ok.inj h]

theorem not_replaced [RuntimeHost] {task result : Task R F} {request entry : TaskActivationRequest R} {now : ℤ}
    (h : setTaskActivationRequest checks task request now = .ok result)
    (hsettled : task.settledActivationRequests = some [entry]) (hid : entry.requestId = request.requestId)
    (hdisplaced : displaced task request = []) : ¬ Replaced task request result := by
  intro hreplaced
  have hnil : retained task request = [] := by
    rw [retained_eq, hsettled, hdisplaced]
    simp [hid, newest]
  have hwritten := setTaskActivationRequest_settled h
  rw [if_pos hnil, hsettled] at hwritten
  refine hreplaced.other entry ?_ hid
  rw [hwritten]
  exact List.mem_cons_self

theorem setTaskActivationRequest_iff [RuntimeHost] {task : Task R F} {request : TaskActivationRequest R} (now : ℤ)
    (htask : validateTask checks task = .ok ()) (hrequest : checks.request request = .ok ())
    (htarget : request.targetId = task.id)
    (hdigest : ∀ existing ∈ task.activationRequest, existing.requestId = request.requestId →
      existing.inputDigest = request.inputDigest) :
    (∃ result, setTaskActivationRequest checks task request now = .ok result ∧ Replaced task request result) ↔
      now.natAbs ≤ 8640000000000000 ∧ (JsHost.dateParse task.createdAt).getD 0 ≤ now ∧
        ¬ ∃ entry, task.settledActivationRequests = some [entry] ∧ entry.requestId = request.requestId ∧
          displaced task request = [] := by
  have hvalid := validateTask_iff.1 htask
  have hclash : ¬ ∃ existing ∈ task.activationRequest,
      existing.requestId = request.requestId ∧ existing.inputDigest ≠ request.inputDigest := by
    rintro ⟨existing, hexisting, hid, hdiffers⟩
    exact hdiffers (hdigest existing hexisting hid)
  obtain ⟨hcreated, -⟩ := seq_iff.1 hvalid.timestamps
  have hset : setTaskActivationRequest checks task request now = (do
      let updatedAt ← Binding.iso now
      let next : Task R F := { task with
        activationRequest := some request
        settledActivationRequests :=
          if retained task request = [] then task.settledActivationRequests else some (retained task request)
        updatedAt := updatedAt }
      validateTask checks next
      .ok next) := by
    rw [setTaskActivationRequest, htask, ok_bind, hrequest, ok_bind, refuse_of_not (not_not.2 htarget), ok_bind,
      refuse_of_not hclash, ok_bind]
  rw [hset]
  constructor
  · rintro ⟨result, hall, hreplaced⟩
    obtain ⟨updatedAt, hiso, _, hnext, hok⟩ := bind_ok₂ hall
    obtain rfl := Except.ok.inj hok
    have hrange : now.natAbs ≤ 8640000000000000 := by
      by_contra hout
      rw [Binding.iso, if_neg hout] at hiso
      cases hiso
    rw [Binding.iso, if_pos hrange] at hiso
    obtain rfl := Except.ok.inj hiso
    obtain ⟨-, hordered⟩ := seq_iff.1 (seq_iff.1 (validateTask_iff.1 hnext).timestamps).2
    have hclock := refuse_ok hordered
    dsimp only at hclock
    rw [RuntimeHost.dateParse_iso now hrange, Option.getD_some] at hclock
    refine ⟨hrange, not_lt.1 hclock, ?_⟩
    rintro ⟨entry, hsettled, hid, hdisplaced⟩
    exact not_replaced (hset.trans hall) hsettled hid hdisplaced hreplaced
  · rintro ⟨hrange, hclock, hwritten⟩
    rw [Binding.iso, if_pos hrange, ok_bind]
    have htimestamps : checkTimestamps task.createdAt (RuntimeHost.iso now) = .ok () := by
      rw [checkTimestamps, hcreated, ok_bind, RuntimeHost.dateParse_iso now hrange]
      simp [not_lt.2 hclock]
    obtain ⟨hkept, hunique⟩ := hvalid.kept request
    by_cases hnil : retained task request = []
    · have hempty := hvalid.retained_nil hnil hwritten
      simp only [if_pos hnil]
      refine ⟨_, seq_iff.2 ⟨validateTask_iff.2 ?_, rfl⟩, rfl, ?_, ?_⟩
      · refine ⟨hvalid.before, htimestamps, ?_, ?_, ?_, ?_, hvalid.after⟩
        · rintro other hother
          obtain rfl := Option.some.inj hother
          exact ⟨hrequest, htarget⟩
        · simp [hempty]
        · simp [hempty]
        · simp [hempty]
      · rw [← retained_eq, hnil]
        exact hempty
      · simp [hempty]
    · simp only [if_neg hnil]
      refine ⟨_, seq_iff.2 ⟨validateTask_iff.2 ?_, rfl⟩, rfl, retained_eq task request, ?_⟩
      · refine ⟨hvalid.before, htimestamps, ?_, ?_, hkept, hunique, hvalid.after⟩
        · rintro other hother
          obtain rfl := Option.some.inj hother
          exact ⟨hrequest, htarget⟩
        · exact length_newest_le _ _
      · exact fun entry hentry heq => (hkept entry hentry).other (congrArg some heq)

def sampleRequest (requestId : String) (disposition : TaskActivationDisposition) : TaskActivationRequest Unit :=
  ⟨requestId, "digest", "task-1", disposition, ()⟩

/-- A failed request holds the slot after an adopted one. -/
def sampleTask (adopted : String) : Task Unit Unit where
  id := "task-1"
  activationRequest := some (sampleRequest "request-2" .failed)
  settledActivationRequests := some [sampleRequest adopted .adopted]
  createdAt := Binding.sampleIso 1767600000000
  updatedAt := Binding.sampleIso 1767600005000
  rest := ()

/-- The checks of the other fields in `validateTask` pass. -/
def sampleChecks : Checks Unit Unit := ⟨fun _ => .ok (), fun _ _ => .ok (), fun _ _ => .ok ()⟩

theorem sampleTask_valid {adopted : String} (h : adopted ≠ "request-2") :
    @validateTask _ _ sampleChecks Binding.sampleRetryHost (sampleTask adopted) = .ok () := by
  let _ := Binding.sampleRetryHost
  have hparse : ∀ time, JsHost.dateParse (Binding.sampleIso time) = some time := Binding.sampleParse_iso
  refine validateTask_iff.2 ⟨rfl, ?_, ?_, by simp [sampleTask, maxSettledActivationRequests], ?_, ?_, rfl⟩
  · simp [checkTimestamps, sampleTask, hparse]
  · intro request hrequest
    obtain rfl := Option.some.inj hrequest
    exact ⟨rfl, rfl⟩
  · intro entry hentry
    obtain rfl := List.mem_singleton.1 hentry
    exact ⟨rfl, rfl, rfl, fun heq => h (Option.some.inj heq)⟩
  · exact List.nodup_singleton _

theorem setTaskActivationRequest_next :
    let _ := Binding.sampleRetryHost
    ∃ result, setTaskActivationRequest sampleChecks (sampleTask "request-0") (sampleRequest "request-1" .pending)
      1767600010000 = .ok result ∧ Replaced (sampleTask "request-0") (sampleRequest "request-1" .pending) result := by
  let _ := Binding.sampleRetryHost
  have hcreated : JsHost.dateParse (sampleTask "request-0").createdAt = some 1767600000000 :=
    Binding.sampleParse_iso 1767600000000
  refine (setTaskActivationRequest_iff 1767600010000 (sampleTask_valid (by decide)) rfl rfl ?_).2
    ⟨by decide, by rw [hcreated]; decide, ?_⟩
  · intro existing hexisting
    obtain rfl := Option.some.inj hexisting
    exact fun hid => absurd hid (by decide)
  · rintro ⟨entry, hsettled, hid, -⟩
    obtain rfl := List.head_eq_of_cons_eq (Option.some.inj hsettled)
    exact absurd hid (by decide)

/-- The id of the one decided request is requested again while a failed request holds the slot. -/
theorem readmission_refused : ¬ ∀ (R F : Type) (_host : RuntimeHost) (checks : Checks R F) (task : Task R F)
    (request : TaskActivationRequest R) (now : ℤ), validateTask checks task = .ok () →
      checks.request request = .ok () → request.targetId = task.id →
      (∀ existing ∈ task.activationRequest, existing.requestId = request.requestId →
        existing.inputDigest = request.inputDigest) →
      now.natAbs ≤ 8640000000000000 → (JsHost.dateParse task.createdAt).getD 0 ≤ now →
      ∃ result, setTaskActivationRequest checks task request now = .ok result ∧ Replaced task request result := by
  intro h
  let _ := Binding.sampleRetryHost
  have hcreated : JsHost.dateParse (sampleTask "request-1").createdAt = some 1767600000000 :=
    Binding.sampleParse_iso 1767600000000
  obtain ⟨result, hresult, hreplaced⟩ := h Unit Unit Binding.sampleRetryHost sampleChecks (sampleTask "request-1")
    (sampleRequest "request-1" .pending) 1767600010000 (sampleTask_valid (by decide)) rfl rfl
    (fun existing hexisting => by
      obtain rfl := Option.some.inj hexisting
      exact fun hid => absurd hid (by decide))
    (by decide) (by rw [hcreated]; decide)
  exact not_replaced hresult rfl rfl rfl hreplaced

end TaskActivation
