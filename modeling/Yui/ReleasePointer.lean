import Yui.ProgramEnds
import Yui.ReleaseHandover

/-!
# The pointer to the active release

The pointer is a file that only activations write, under the handover lock. The Controller that runs keeps the fence
of a handover in its memory, so a Controller that was started again has none.
-/

open Program Protocol

namespace ReleaseHandover

structure Controller where
  generation : ℕ
  /-- The handover that it is fenced for. -/
  fence : Option String

/-- The pointer and the Controller, and what an activation has seen of them. -/
structure Home where
  pointer : Option ActiveReleasePointer
  controller : Option Controller
  locked : Bool := false
  /-- The pointer that the activation read first. -/
  read : Option ActiveReleasePointer := none
  /-- The pointer when the lock was acquired. -/
  atLock : Option (Option ActiveReleasePointer) := none
  /-- The Controller that refused the commit. -/
  refusedBy : Option ℕ := none
  /-- The pointer and the Controller when the lock was released. -/
  released : Option (Option ActiveReleasePointer × Option Controller) := none

/-- The command touches neither the pointer nor the lock, and is no RPC that the Controller checks its fence for. -/
def Idle : Command → Prop
  | .readPointer | .acquireLock | .releaseLock | .writePointer _ | .removePointer | .beginHandover ..
  | .commitHandover _ | .rollbackHandover _ => False
  | _ => True

namespace Home

def fenceController (w : Home) (fence : Option String) : Home :=
  { w with controller := w.controller.map fun controller => { controller with fence := fence } }

/-- What a command does to the Home. The handlers of the Controller check the fence in its memory, and an answer may
get lost after they ran. Reads of files that the candidate or the Controller write can give anything. -/
inductive Performs : Home → (c : Command) → Except Failure (Answer c) → Home → Prop where
  | readPointer (w) : Performs w .readPointer (.ok w.pointer) { w with read := w.pointer }
  | writePointer (w) (pointer) : Performs w (.writePointer pointer) (.ok ()) { w with pointer := some pointer }
  | removePointer (w) : Performs w .removePointer (.ok ()) { w with pointer := none }
  | acquireLock (w) (h : w.locked = false) :
      Performs w .acquireLock (.ok ()) { w with locked := true, atLock := some w.pointer }
  | releaseLock (w) :
      Performs w .releaseLock (.ok ()) { w with locked := false, released := some (w.pointer, w.controller) }
  | beginHandover (w) (handoverId fromReleaseId toReleaseId)
      (h : w.controller.any (fun controller => controller.fence.isNone) = true) :
      Performs w (.beginHandover handoverId fromReleaseId toReleaseId) (.ok ()) (w.fenceController (some handoverId))
  | beginLost (w) (handoverId fromReleaseId toReleaseId) (failure : Failure) (hlost : isConnectionError failure = true)
      (h : w.controller.any (fun controller => controller.fence.isNone) = true) :
      Performs w (.beginHandover handoverId fromReleaseId toReleaseId) (.error failure)
        (w.fenceController (some handoverId))
  | commitHandover (w) (handoverId) (answer) (hanswer : ∀ failure, answer = .error failure → isConnectionError failure = true)
      (h : w.controller.any (fun controller => controller.fence = some handoverId) = true) :
      Performs w (.commitHandover handoverId) answer w
  | commitRefused (w) (handoverId) (controller : Controller) (hrunning : w.controller = some controller)
      (failure : Failure) (hrefused : isConnectionError failure = false) :
      Performs w (.commitHandover handoverId) (.error failure) { w with refusedBy := some controller.generation }
  | rollbackHandover (w) (handoverId) (answer) (hanswer : ∀ failure, answer = .error failure → isConnectionError failure = true)
      (h : w.controller.any (fun controller => controller.fence = some handoverId) = true) :
      Performs w (.rollbackHandover handoverId) answer (w.fenceController none)
  | other (w) (c) (answer) (h : Idle c) : Performs w c answer w
  /-- A command that failed has done nothing. A refused commit is not among these. -/
  | failed (w) (c) (failure) (h : c ≠ .releaseLock)
      (hcommit : ∀ handoverId, c = .commitHandover handoverId → isConnectionError failure = true) :
      Performs w c (.error failure) w

/-- Others activate releases while the lock is free, and the Controller exits or is started again. -/
inductive Changes : Home → Home → Prop where
  | activation (w) (pointer) (controller) (h : w.locked = false)
      (hgeneration : ∀ running, controller = some running → ∀ refused, w.refusedBy = some refused →
        running.generation ≠ refused) :
      Changes w { w with pointer := pointer, controller := controller }
  | exit (w) : Changes w { w with controller := none }
  | start (w) (generation : ℕ) (h : ∀ refused, w.refusedBy = some refused → generation ≠ refused)
      (hnone : w.controller = none) : Changes w { w with controller := some ⟨generation, none⟩ }

end Home

/-- The pointer is at the lock what was read before it, a fresh handover starts with the pointer of the lock, and a
Controller that refuses the commit is fenced. -/
def Undisturbed (w : Home) : (c : Command) → Except Failure (Answer c) → Prop
  | .acquireLock, .ok _ => w.pointer = w.read
  | .identity, _ => w.atLock = some w.pointer
  | .commitHandover _, .error failure =>
    isConnectionError failure = false → w.controller.any (fun controller => controller.fence.isSome) = true
  | _, _ => True

/-- The activations of one Home, and those of them that are not disturbed. -/
def machine : Machine Home Command Answer Failure where
  performs := Home.Performs
  changes := Home.Changes
  forgets := id

def undisturbed : Machine Home Command Answer Failure where
  performs w c answer w' := Home.Performs w c answer w' ∧ Undisturbed w c answer
  changes := Home.Changes
  forgets := id

section Token

inductive Stage where
  | free | held | letGo

/-- Where an activation is: whether it holds the lock, what it read, whether it left another pointer, and whether its
commit was refused. -/
structure Position where
  stage : Stage := .free
  read : Option ActiveReleasePointer := none
  switched : Bool := false
  refused : Bool := false

def permits (t : Position) : Command → Prop
  | .readPointer | .acquireLock => t.stage = .free
  | .releaseLock => t.stage = .held
  | .writePointer _ | .removePointer | .identity | .commitHandover _ | .beginHandover .. | .rollbackHandover _ =>
    t.stage = .held ∧ t.refused = false
  | _ => True

def after (t : Position) : (c : Command) → Except Failure (Answer c) → Position
  | .readPointer, .ok pointer => { t with read := pointer }
  | .acquireLock, .ok _ => { t with stage := .held, switched := false }
  | .releaseLock, _ => { t with stage := .letGo }
  | .writePointer pointer, .ok _ => { t with switched := decide (t.read ≠ some pointer) }
  | .removePointer, .ok _ => { t with switched := decide (t.read ≠ none) }
  | .identity, _ => { t with switched := false }
  | .commitHandover _, .error failure => { t with refused := t.refused || !isConnectionError failure }
  | _, _ => t

def activation : Protocol Command Answer Failure Position where
  permits := permits
  answers c answer := match c, answer with
    | .releaseLock, .error _ => False
    | _, _ => True
  after := after

/-- The Controller that refused is not one that serves without a fence. -/
def RefuserFenced (refusedBy : Option ℕ) (controller : Option Controller) : Prop :=
  ∀ generation, refusedBy = some generation → controller ≠ some ⟨generation, none⟩

structure Inv (w : Home) (t : Position) : Prop where
  read : w.read = t.read
  free : t.stage = .free → w.atLock = none ∧ w.refusedBy = none
  refused : t.refused = false → w.refusedBy = none
  held : t.stage = .held → w.locked = true ∧ w.atLock = some t.read ∧ (t.switched = false → w.pointer = t.read) ∧
    RefuserFenced w.refusedBy w.controller
  letGo : t.stage = .letGo → w.atLock = some t.read ∧ ∃ pointer controller, w.released = some (pointer, controller) ∧
    (t.switched = false → pointer = t.read) ∧ RefuserFenced w.refusedBy controller

theorem RefuserFenced.none {controller : Option Controller} : RefuserFenced none controller := by
  intro generation h
  cases h

theorem Inv.initial (w : Home) (hread : w.read = none) (hlock : w.atLock = none) (hrefused : w.refusedBy = none) :
    Inv w {} where
  read := hread
  free _ := ⟨hlock, hrefused⟩
  refused _ := hrefused
  held h := by cases h
  letGo h := by cases h

variable {w w' : Home} {t : Position}

theorem Inv.change (h : Inv w t) (hchange : Home.Changes w w') : Inv w' t := by
  cases hchange with
  | activation pointer controller hfree hgeneration =>
    refine { h with held := fun hheld => ?_ }
    rw [(h.held hheld).1] at hfree
    cases hfree
  | exit =>
    refine { h with held := fun hheld => ?_ }
    obtain ⟨hlocked, hlock, hpointer, -⟩ := h.held hheld
    exact ⟨hlocked, hlock, hpointer, nofun⟩
  | start generation hgeneration hnone =>
    refine { h with held := fun hheld => ?_ }
    obtain ⟨hlocked, hlock, hpointer, -⟩ := h.held hheld
    refine ⟨hlocked, hlock, hpointer, fun refused hrefused heq => ?_⟩
    cases heq
    exact hgeneration generation hrefused rfl

theorem Inv.fenceController (h : Inv w t) (hheld : t.stage = .held) (hrefused : t.refused = false)
    (fence : Option String) : Inv (w.fenceController fence) t where
  read := h.read
  free hfree := h.free hfree
  refused := h.refused
  held _ := by
    obtain ⟨hlocked, hlock, hpointer, -⟩ := h.held hheld
    refine ⟨hlocked, hlock, hpointer, ?_⟩
    rw [show (w.fenceController fence).refusedBy = none from h.refused hrefused]
    exact .none
  letGo hover := by
    rw [hheld] at hover
    cases hover

theorem Inv.commitRefused (h : Inv w t) (hheld : t.stage = .held) {controller : Controller}
    (hrunning : w.controller = some controller) (hfenced : controller.fence.isSome = true) :
    Inv { w with refusedBy := some controller.generation } { t with refused := true } where
  read := h.read
  free hfree := by
    rw [show t.stage = .held from hheld] at hfree
    cases hfree
  refused := by simp
  held _ := by
    obtain ⟨hlocked, hlock, hpointer, -⟩ := h.held hheld
    refine ⟨hlocked, hlock, hpointer, fun generation _ heq => ?_⟩
    rw [show w.controller = some ⟨generation, none⟩ from heq] at hrunning
    cases hrunning
    cases hfenced
  letGo hover := by
    rw [show t.stage = .held from hheld] at hover
    cases hover

/-- A fresh handover starts with the pointer of the lock. -/
theorem Inv.identity (h : Inv w t) (hheld : t.stage = .held) (hlock : w.atLock = some w.pointer) :
    Inv w { t with switched := false } where
  read := h.read
  free := h.free
  refused := h.refused
  held _ := by
    obtain ⟨hlocked, hread, -, hfenced⟩ := h.held hheld
    exact ⟨hlocked, hread, fun _ => Option.some.inj (hlock.symm.trans hread), hfenced⟩
  letGo hover := absurd (hheld.symm.trans hover) (by simp)

theorem Inv.perform (h : Inv w t) {c : Command} {answer : Except Failure (Answer c)} (hpermits : permits t c)
    (hperforms : Home.Performs w c answer w') (hundisturbed : Undisturbed w c answer) :
    Inv w' (after t c answer) := by
  cases hperforms with
  | readPointer =>
    have hfree : t.stage = .free := hpermits
    refine ⟨rfl, h.free, h.refused, fun hheld => ?_, fun hover => ?_⟩
    · exact absurd (hfree.symm.trans hheld) (by simp)
    · exact absurd (hfree.symm.trans hover) (by simp)
  | writePointer pointer =>
    obtain ⟨hheld, -⟩ := hpermits
    obtain ⟨hlocked, hlock, -, hfenced⟩ := h.held hheld
    refine ⟨h.read, fun hfree => h.free hfree, h.refused, fun _ => ⟨hlocked, hlock, ?_, hfenced⟩, fun hover => ?_⟩
    · intro hswitched
      exact (not_not.1 (of_decide_eq_false hswitched)).symm
    · exact absurd (hheld.symm.trans hover) (by simp)
  | removePointer =>
    obtain ⟨hheld, -⟩ := hpermits
    obtain ⟨hlocked, hlock, -, hfenced⟩ := h.held hheld
    refine ⟨h.read, fun hfree => h.free hfree, h.refused, fun _ => ⟨hlocked, hlock, ?_, hfenced⟩, fun hover => ?_⟩
    · intro hswitched
      exact (not_not.1 (of_decide_eq_false hswitched)).symm
    · exact absurd (hheld.symm.trans hover) (by simp)
  | acquireLock hunlocked =>
    have hfree : t.stage = .free := hpermits
    have hpointer : w.pointer = t.read := Eq.trans hundisturbed h.read
    refine ⟨h.read, fun hstill => (by cases hstill), h.refused,
      fun _ => ⟨rfl, congrArg some hpointer, fun _ => hpointer, ?_⟩, fun hover => (by cases hover)⟩
    rw [show ({ w with locked := true, atLock := some w.pointer } : Home).refusedBy = none from (h.free hfree).2]
    exact .none
  | releaseLock =>
    have hheld : t.stage = .held := hpermits
    obtain ⟨-, hlock, hpointer, hfenced⟩ := h.held hheld
    exact ⟨h.read, fun hfree => (by cases hfree), h.refused, fun hagain => (by cases hagain),
      fun _ => ⟨hlock, _, _, rfl, hpointer, hfenced⟩⟩
  | beginHandover handoverId fromReleaseId toReleaseId hopen =>
    exact h.fenceController hpermits.1 hpermits.2 _
  | beginLost handoverId fromReleaseId toReleaseId failure hlost hopen =>
    exact h.fenceController hpermits.1 hpermits.2 _
  | commitHandover handoverId answer hanswer hfence =>
    cases answer with
    | ok value => exact h
    | error failure =>
      have hlost := hanswer failure rfl
      simpa [after, hlost] using h
  | commitRefused handoverId controller hrunning failure hrefused =>
    have hfenced := hundisturbed hrefused
    rw [hrunning] at hfenced
    simpa [after, hrefused] using h.commitRefused hpermits.1 hrunning hfenced
  | rollbackHandover handoverId answer hanswer hfence =>
    cases answer <;> exact h.fenceController hpermits.1 hpermits.2 _
  | other c answer hother =>
    cases c
    case identity => exact h.identity hpermits.1 hundisturbed
    all_goals first | exact h | exact hother.elim
  | failed c failure hrelease hcommit =>
    cases c
    case identity => exact h.identity hpermits.1 hundisturbed
    case commitHandover handoverId =>
        have hlost := hcommit handoverId rfl
        simpa [after, hlost] using h
    all_goals first | exact h | exact absurd rfl hrelease

theorem upholds : Machine.Upholds undisturbed activation Inv where
  answer := by
    rintro w t c answer w' - ⟨hperforms, -⟩
    cases hperforms with
    | failed c failure hrelease hcommit =>
      cases c
      case releaseLock => exact hrelease rfl
      all_goals trivial
    | other c answer hother =>
      cases c
      case releaseLock => exact hother.elim
      all_goals trivial
    | _ => trivial
  perform := fun w t c answer w' h hpermits ⟨hperforms, hundisturbed⟩ => h.perform hpermits hperforms hundisturbed
  change := fun w t w' h hchange => h.change hchange

end Token

section Neutral

/-- The command leaves the pointer and the lock alone and is no commit. A fence that it writes is a rolled-back
one. -/
def Neutral : Command → Prop
  | .readPointer | .acquireLock | .releaseLock | .writePointer _ | .removePointer | .identity
  | .commitHandover _ => False
  | .writeFence fence => fence.phase = .rolledBack
  | _ => True

variable {α β : Type}

theorem ask_neutral {c : Command} (h : Neutral c) : (ask c).Issues Neutral := .issue h

theorem then_neutral {p : Activator α} {f : α → Activator β} (hp : p.Issues Neutral)
    (hf : ∀ value, (f value).Issues Neutral) : (p >>= f).Issues Neutral := .bind hp hf

theorem awaitExit_neutral (owner : HandoverOwner) (attempts : ℕ) : (awaitExit owner attempts).Issues Neutral := by
  induction attempts with
  | zero => trivial
  | succ attempts ih =>
    refine then_neutral (ask_neutral trivial) fun live => ?_
    split
    · trivial
    · exact then_neutral (ask_neutral trivial) fun _ => ih

theorem stopCandidate_neutral (discovery : CandidateDiscovery) : (stopCandidate discovery).Issues Neutral := by
  refine .handle (then_neutral (ask_neutral trivial) fun live => ?_) fun _ => trivial
  split
  · refine then_neutral (ask_neutral trivial) fun _ => then_neutral (awaitExit_neutral _ _) fun _ => ?_
    exact then_neutral (ask_neutral trivial) fun _ => trivial
  · exact then_neutral (ask_neutral trivial) fun _ => trivial

theorem callRollback_neutral (handoverId : String) : (callRollback handoverId).Issues Neutral :=
  Issues.handle (then_neutral (ask_neutral trivial) fun _ => trivial) fun _ => trivial

theorem rollbackOld_neutral (fence : HandoverFence) : (rollbackOld fence).Issues Neutral := by
  refine then_neutral (callRollback_neutral _) fun failure => ?_
  cases failure with
  | some failure => trivial
  | none =>
    refine then_neutral (ask_neutral trivial) fun _ => then_neutral (ask_neutral rfl) fun _ => ?_
    exact then_neutral (ask_neutral trivial) fun _ => then_neutral (ask_neutral trivial) fun _ => trivial

theorem rollbackHandover_neutral (fence : HandoverFence) : (rollbackHandover fence).Issues Neutral := by
  refine then_neutral (ask_neutral trivial) fun discovery => ?_
  cases discovery with
  | none => exact rollbackOld_neutral fence
  | some discovery =>
    refine then_neutral (stopCandidate_neutral discovery) fun problem => ?_
    cases problem with
    | some problem => trivial
    | none => exact then_neutral (ask_neutral trivial) fun _ => rollbackOld_neutral fence

theorem recoverCommitted_neutral (fence : HandoverFence) (candidateLive oldLive : Bool) :
    (recoverCommitted fence candidateLive oldLive).Issues Neutral := by
  have hpromotion : (awaitPromotion fence.handoverId candidateLive).Issues Neutral := by
    unfold awaitPromotion
    split
    · exact ask_neutral trivial
    · trivial
  refine then_neutral hpromotion fun promotion => ?_
  cases promotion with
  | promoted => trivial
  | dualOwner => trivial
  | timeout =>
    dsimp only
    split
    · exact then_neutral (ask_neutral trivial) fun _ => trivial
    · trivial

theorem recoverUnready_neutral (fence : HandoverFence) : (recoverUnready fence).Issues Neutral := by
  refine then_neutral (rollbackHandover_neutral fence) fun problem => ?_
  cases problem <;> trivial

theorem dropCandidate_neutral : dropCandidate.Issues Neutral := by
  refine then_neutral (ask_neutral trivial) fun discovery => ?_
  split
  · refine then_neutral (ask_neutral trivial) fun _ => ?_
    exact then_neutral (ask_neutral trivial) fun _ => trivial
  · exact then_neutral (ask_neutral trivial) fun _ => trivial

theorem recoverDead_neutral (fence : HandoverFence) (oldLive : Bool) :
    (recoverDead fence oldLive).Issues Neutral := by
  unfold recoverDead
  split
  · refine then_neutral (callRollback_neutral _) fun failure => ?_
    cases failure with
    | some failure => trivial
    | none => exact dropCandidate_neutral
  · exact dropCandidate_neutral

theorem candidateIsLive_neutral : candidateIsLive.Issues Neutral := by
  refine then_neutral (ask_neutral trivial) fun first => ?_
  cases first with
  | none => trivial
  | some first =>
    refine then_neutral (ask_neutral trivial) fun discovery => ?_
    cases discovery with
    | none => trivial
    | some discovery => exact ask_neutral trivial

theorem preflight_neutral : preflight.Issues Neutral :=
  Issues.handle (then_neutral (ask_neutral trivial) fun _ => trivial) fun _ => trivial

theorem abandonCandidate_neutral (fence : HandoverFence) : (abandonCandidate fence).Issues Neutral := by
  refine then_neutral (rollbackHandover_neutral fence) fun problem => ?_
  cases problem <;> trivial

theorem preflightFailed_neutral (handoverId : String) (failure : Failure) :
    (preflightFailed handoverId failure).Issues Neutral := by
  refine then_neutral (callRollback_neutral _) fun problem => ?_
  cases problem <;> trivial

theorem callBegin_neutral (manifest : RuntimeReleaseManifest) (active : Option ActiveReleasePointer)
    (handoverId : String) : (callBegin manifest active handoverId).Issues Neutral :=
  Issues.handle (then_neutral (ask_neutral trivial) fun _ => trivial) fun _ => trivial

theorem startRelease_neutral : startRelease.Issues Neutral :=
  Issues.handle (then_neutral (ask_neutral trivial) fun _ => trivial) fun _ => trivial

theorem recordStart_neutral (manifest : RuntimeReleaseManifest) (active : Option ActiveReleasePointer)
    (handoverId : String) : (recordStart manifest active handoverId).Issues Neutral := by
  refine then_neutral (ask_neutral trivial) fun _ => then_neutral (ask_neutral trivial) fun _ => ?_
  exact then_neutral (ask_neutral trivial) fun _ => trivial

end Neutral

section Keeps

variable {α β : Type} {t : Position} {active : Option ActiveReleasePointer}

/-- Under the lock, with what was read before it, and no commit refused. -/
structure Holds (active : Option ActiveReleasePointer) (t : Position) : Prop where
  stage : t.stage = .held
  read : t.read = active
  refused : t.refused = false

/-- An abort that can be retried leaves the pointer of the lock. -/
def Settled (t : Position) (result : ReleaseActivateResult) : Prop :=
  ∀ abort, result = .aborted abort → abort.recoverable = true → t.switched = false

/-- A failure under the lock. -/
def Failed (t : Position) (_ : Failure) : Prop := t.stage = .held

theorem then_keeps {Q : Position → α → Prop} {S : Position → β → Prop} {R : Position → Failure → Prop}
    {p : Activator α} {f : α → Activator β} (hp : activation.Keeps Q R t p)
    (hf : ∀ t value, Q t value → activation.Keeps S R t (f value)) : activation.Keeps S R t (p >>= f) :=
  Keeps.bind hp hf

theorem neutral_keeps (h : Holds active t) {p : Activator α} (hp : p.Issues Neutral) :
    activation.Keeps (fun t' _ => t' = t) Failed t p := by
  refine Keeps.mono (fun _ _ heq => heq) (fun t' _ heq => heq ▸ h.stage)
    (Keeps.of_issues (I := fun t' => t' = t) ?_ hp rfl)
  rintro t' c hneutral rfl
  cases c <;> first | exact ⟨trivial, fun _ => rfl⟩ | exact ⟨⟨h.stage, h.refused⟩, fun _ => rfl⟩ | cases hneutral

theorem neutral_settled (h : Holds active t) (hswitched : t.switched = false) {p : Activator ReleaseActivateResult}
    (hp : p.Issues Neutral) : activation.Keeps (fun t' result => Holds active t' ∧ Settled t' result) Failed t p := by
  refine Keeps.mono ?_ (fun _ _ hfailed => hfailed) (neutral_keeps h hp)
  rintro t' result rfl
  exact ⟨h, fun _ _ _ => hswitched⟩

theorem switchPointer_keeps (h : Holds active t) (manifest : RuntimeReleaseManifest) :
    activation.Keeps (fun t' _ => Holds active t') Failed t (switchPointer manifest) := by
  refine then_keeps (neutral_keeps h (ask_neutral trivial)) ?_
  rintro t' now rfl
  exact Keeps.issue ⟨h.stage, h.refused⟩ (fun _ _ => ⟨h.stage, h.read, h.refused⟩) fun _ => h.stage

theorem commitOld_keeps (h : Holds active t) (handoverId : String) :
    activation.Keeps (fun t' _ => Holds active t') Failed t (commitOld handoverId) := by
  have hcall : activation.Keeps (fun t' _ => Holds active t')
      (fun t' failure => t'.stage = .held ∧ (isConnectionError failure = true → Holds active t')) t
      (ask (.commitHandover handoverId)) := by
    refine Keeps.issue ⟨h.stage, h.refused⟩ (fun _ _ => h) fun failure => ⟨h.stage, fun hlost => ?_⟩
    exact ⟨h.stage, h.read, by simp [activation, after, hlost, h.refused]⟩
  refine Keeps.handle hcall ?_
  rintro t' failure ⟨hstage, hlost⟩
  split
  · rename_i hconnection
    exact hlost hconnection
  · exact hstage

/-- Nothing, with the lock held, or a result. -/
def Recovered (active : Option ActiveReleasePointer) (t : Position) (result : Option ReleaseActivateResult) : Prop :=
  Holds active t ∧ ∀ found, result = some found → Settled t found

theorem neutral_recovered (h : Holds active t) (hswitched : t.switched = false)
    {p : Activator (Option ReleaseActivateResult)} (hp : p.Issues Neutral) :
    activation.Keeps (Recovered active) Failed t p := by
  refine Keeps.mono ?_ (fun _ _ hfailed => hfailed) (neutral_keeps h hp)
  rintro t' result rfl
  exact ⟨h, fun _ _ _ _ _ => hswitched⟩

theorem resume_keeps (h : Holds active t) (manifest : RuntimeReleaseManifest) (fence : HandoverFence) :
    activation.Keeps (Recovered active) Failed t (resume manifest fence) := by
  refine then_keeps (switchPointer_keeps h manifest) fun t₁ _ h₁ => ?_
  refine then_keeps (commitOld_keeps h₁ _) fun t₂ _ h₂ => ?_
  refine then_keeps (neutral_keeps h₂ (ask_neutral trivial)) ?_
  rintro t₃ promotion rfl
  cases promotion with
  | promoted =>
    refine ⟨h₂, fun found heq abort habort => ?_⟩
    cases heq
    cases habort
  | dualOwner => exact ⟨h₂, nofun⟩
  | timeout => exact ⟨h₂, nofun⟩

theorem recoverInterruptedHandover_keeps (h : Holds active t) (hswitched : t.switched = false)
    (manifest : RuntimeReleaseManifest) :
    activation.Keeps (Recovered active) Failed t (recoverInterruptedHandover manifest) := by
  refine then_keeps (neutral_keeps h (ask_neutral trivial)) ?_
  rintro t₁ fence rfl
  cases fence with
  | none => exact ⟨h, fun _ heq => by cases heq⟩
  | some fence =>
    dsimp only
    split
    · exact neutral_recovered h hswitched (then_neutral (ask_neutral trivial) fun _ => trivial)
    · refine then_keeps (neutral_keeps h candidateIsLive_neutral) ?_
      rintro t₂ candidateLive rfl
      refine then_keeps (neutral_keeps h (ask_neutral trivial)) ?_
      rintro t₃ oldLive rfl
      split
      · exact neutral_recovered h hswitched (recoverCommitted_neutral _ _ _)
      · split
        · refine then_keeps (neutral_keeps h (ask_neutral trivial)) ?_
          rintro t₄ ready rfl
          split
          · exact resume_keeps h manifest fence
          · exact neutral_recovered h hswitched (recoverUnready_neutral fence)
        · exact neutral_recovered h hswitched (recoverDead_neutral _ _)

/-- The identity is asked with the pointer of the lock. -/
theorem readOldController_keeps (h : Holds active t) :
    activation.Keeps (fun t' _ => Holds active t' ∧ t'.switched = false) Failed t readOldController := by
  have hask : activation.Keeps (fun t' _ => Holds active t' ∧ t'.switched = false)
      (fun t' _ => Holds active t' ∧ t'.switched = false) t (ask .identity) :=
    Keeps.issue ⟨h.stage, h.refused⟩ (fun _ _ => ⟨⟨h.stage, h.read, h.refused⟩, rfl⟩)
      fun _ => ⟨⟨h.stage, h.read, h.refused⟩, rfl⟩
  refine Keeps.handle (then_keeps hask fun t₁ identity h₁ => ?_) ?_
  · cases ownerOf identity with
    | ok owner => exact h₁
    | error failure => exact h₁
  · rintro t₁ failure h₁
    split
    · exact h₁
    · exact h₁.1.stage

theorem restorePointer_keeps (h : Holds active t) :
    activation.Keeps (fun t' _ => Holds active t' ∧ t'.switched = false) Failed t (restorePointer active) := by
  cases hactive : active with
  | none =>
    refine Keeps.issue ⟨h.stage, h.refused⟩ (fun _ _ => ⟨⟨h.stage, h.read.trans hactive, h.refused⟩, ?_⟩) fun _ => h.stage
    simp [activation, after, h.read.trans hactive]
  | some pointer =>
    refine Keeps.issue ⟨h.stage, h.refused⟩ (fun _ _ => ⟨⟨h.stage, h.read.trans hactive, h.refused⟩, ?_⟩) fun _ => h.stage
    simp [activation, after, h.read.trans hactive]

theorem startFailed_keeps (h : Holds active t) (failure : Failure) :
    activation.Keeps (fun t' result => Holds active t' ∧ Settled t' result) Failed t (startFailed active failure) := by
  have hrestore : ∀ result, activation.Keeps (fun t' result => Holds active t' ∧ Settled t' result) Failed t
      (restorePointer active >>= fun _ => (.done result : Activator ReleaseActivateResult)) := by
    intro result
    refine then_keeps (restorePointer_keeps h) ?_
    rintro t₁ _ ⟨h₁, hswitched⟩
    exact ⟨h₁, fun _ _ _ => hswitched⟩
  unfold startFailed
  cases failure.code with
  | startUnconfirmed pid =>
    refine ⟨h, fun abort heq hrecoverable => ?_⟩
    cases heq
    cases hrecoverable
  | controllerNotRunning => exact hrestore _
  | connectionLost => exact hrestore _
  | other => exact hrestore _

/-- What an activation returns under the lock. -/
def Returned (active : Option ActiveReleasePointer) (t : Position) (result : ReleaseActivateResult) : Prop :=
  Holds active t ∧ Settled t result

theorem settled_of_not_aborted {result : ReleaseActivateResult} (h : ∀ abort, result ≠ .aborted abort) :
    Settled t result := fun abort heq => absurd heq (h abort)

theorem activateWithoutOldController_keeps (h : Holds active t) (manifest : RuntimeReleaseManifest) :
    activation.Keeps (Returned active) Failed t (activateWithoutOldController manifest active) := by
  refine then_keeps (neutral_keeps h (ask_neutral trivial)) ?_
  rintro t₁ handoverId rfl
  refine then_keeps (switchPointer_keeps h manifest) fun t₂ _ h₂ => ?_
  refine then_keeps (neutral_keeps h₂ startRelease_neutral) ?_
  rintro t₃ failure rfl
  cases failure with
  | some failure => exact startFailed_keeps h₂ failure
  | none =>
    refine then_keeps (neutral_keeps h₂ (ask_neutral trivial)) ?_
    rintro t₄ startedAt rfl
    refine then_keeps (neutral_keeps h₂ (ask_neutral trivial)) ?_
    rintro t₅ completedAt rfl
    refine then_keeps (neutral_keeps h₂ (ask_neutral trivial)) ?_
    rintro t₆ _ rfl
    exact ⟨h₂, settled_of_not_aborted nofun⟩

theorem commitAndPromote_keeps (h : Holds active t) (manifest : RuntimeReleaseManifest) (old : HandoverOwner)
    (handoverId : String) : activation.Keeps (Returned active) Failed t (commitAndPromote manifest old handoverId) := by
  refine then_keeps (switchPointer_keeps h manifest) fun t₁ _ h₁ => ?_
  refine then_keeps (commitOld_keeps h₁ _) fun t₂ _ h₂ => ?_
  refine then_keeps (neutral_keeps h₂ (ask_neutral trivial)) ?_
  rintro t₃ promotion rfl
  cases promotion with
  | promoted => exact ⟨h₂, settled_of_not_aborted nofun⟩
  | dualOwner => exact ⟨h₂, settled_of_not_aborted nofun⟩
  | timeout =>
    refine ⟨h₂, fun abort heq hrecoverable => ?_⟩
    cases heq
    cases hrecoverable

theorem begunHandover_keeps (h : Holds active t) (hswitched : t.switched = false) (manifest : RuntimeReleaseManifest)
    (old : HandoverOwner) (handoverId : String) :
    activation.Keeps (Returned active) Failed t (begunHandover manifest old handoverId) := by
  refine then_keeps (neutral_keeps h (ask_neutral trivial)) ?_
  rintro t₁ found rfl
  split
  · exact ⟨h, fun _ _ _ => hswitched⟩
  · rename_i fence _
    refine then_keeps (neutral_keeps h preflight_neutral) ?_
    rintro t₂ failure rfl
    cases failure with
    | some failure => exact neutral_settled h hswitched (preflightFailed_neutral _ _)
    | none =>
      refine then_keeps (neutral_keeps h (ask_neutral trivial)) ?_
      rintro t₃ _ rfl
      refine then_keeps (neutral_keeps h (ask_neutral trivial)) ?_
      rintro t₄ ready rfl
      split
      · exact commitAndPromote_keeps h manifest old _
      · exact neutral_settled h hswitched (abandonCandidate_neutral fence)

theorem activateFresh_keeps (h : Holds active t) (manifest : RuntimeReleaseManifest) :
    activation.Keeps (Returned active) Failed t (activateFresh manifest active) := by
  refine then_keeps (readOldController_keeps h) ?_
  rintro t₁ old ⟨h₁, hswitched⟩
  cases old with
  | none => exact activateWithoutOldController_keeps h₁ manifest
  | some old =>
    refine then_keeps (neutral_keeps h₁ (ask_neutral trivial)) ?_
    rintro t₂ handoverId rfl
    refine then_keeps (neutral_keeps h₁ (callBegin_neutral _ _ _)) ?_
    rintro t₃ failure rfl
    cases failure with
    | some failure => exact ⟨h₁, fun _ _ _ => hswitched⟩
    | none => exact begunHandover_keeps h₁ hswitched manifest old handoverId

theorem activateLocked_keeps (h : Holds active t) (hswitched : t.switched = false)
    (manifest : RuntimeReleaseManifest) :
    activation.Keeps (Returned active) Failed t (activateLocked manifest active) := by
  refine then_keeps (recoverInterruptedHandover_keeps h hswitched manifest) ?_
  rintro t₁ result ⟨h₁, hsettled⟩
  cases result with
  | some result => exact ⟨h₁, hsettled result rfl⟩
  | none => exact activateFresh_keeps h₁ manifest

theorem finish_keeps {Q Q' : Position → α → Prop} {R R' : Position → Failure → Prop} {p : Activator α}
    {cleanup : Activator Unit} (hp : activation.Keeps Q R t p)
    (hdone : ∀ t value, Q t value → activation.Keeps (fun t' _ => Q' t' value) R' t cleanup)
    (hraise : ∀ t failure, R t failure → activation.Keeps (fun t' _ => R' t' failure) R' t cleanup) :
    activation.Keeps Q' R' t (finish p cleanup) := by
  induction p generalizing t with
  | done value => exact Keeps.bind (hdone t value hp) fun _ _ h => h
  | raise failure => exact Keeps.bind (hraise t failure hp) fun _ _ h => h
  | call command next ih => exact ⟨hp.1, fun answer hanswer => ih answer (hp.2 answer hanswer)⟩

/-- The lock was never acquired, or it is released with what the result promises. -/
def Ended (t : Position) (result : ReleaseActivateResult) : Prop :=
  t.stage = .free ∨ t.stage = .letGo ∧ Settled t result

/-- The lock is not held. -/
def Released (t : Position) (_ : Failure) : Prop := t.stage = .free ∨ t.stage = .letGo

theorem releaseLock_keeps {Q : Position → Prop} (hstage : t.stage = .held)
    (h : Q { t with stage := .letGo }) : activation.Keeps (fun t' _ => Q t') Released t (ask .releaseLock) := by
  refine ⟨hstage, fun answer hanswer => ?_⟩
  cases answer with
  | ok value => exact h
  | error failure => exact hanswer.elim

theorem free_keeps (hstage : t.stage = .free) {p : Activator α} (hp : p.Issues fun c => ∀ t', permits t' c ∧
    ∀ answer, after t' c answer = t') : activation.Keeps (fun t' _ => t' = t) Released t p := by
  refine Keeps.mono (fun _ _ heq => heq) (fun t' _ heq => heq ▸ .inl hstage)
    (Keeps.of_issues (I := fun t' => t' = t) ?_ hp rfl)
  rintro t' c hsame rfl
  exact hsame t'

theorem lockAndActivate_keeps (hstage : t.stage = .free) (hrefused : t.refused = false)
    (manifest : RuntimeReleaseManifest) : activation.Keeps Ended Released t (lockAndActivate manifest t.read) := by
  have hpreflight : activation.Keeps (fun t' _ => t' = t) Released t preflight :=
    free_keeps hstage (.handle (.bind (.issue fun _ => ⟨trivial, fun _ => rfl⟩) fun _ => trivial)
      fun _ => trivial)
  refine then_keeps hpreflight ?_
  rintro t₁ failure rfl
  cases failure with
  | some failure => exact .inl hstage
  | none =>
    have hlock : activation.Keeps (fun t' _ => Holds t₁.read t' ∧ t'.switched = false) Released t₁
        (ask .acquireLock) :=
      Keeps.issue hstage (fun _ _ => ⟨⟨rfl, rfl, hrefused⟩, rfl⟩) fun _ => .inl hstage
    refine then_keeps hlock ?_
    rintro t₂ _ ⟨h₂, hswitched⟩
    refine finish_keeps (activateLocked_keeps h₂ hswitched manifest) ?_ ?_
    · rintro t₃ result ⟨h₃, hsettled⟩
      exact releaseLock_keeps h₃.stage (.inr ⟨rfl, hsettled⟩)
    · intro t₃ failure hfailed
      exact releaseLock_keeps hfailed (.inr rfl)

theorem activateRelease_keeps (manifest : RuntimeReleaseManifest) :
    activation.Keeps Ended Released {} (activateRelease manifest) := by
  have hread : activation.Keeps (fun t' (active : Option ActiveReleasePointer) =>
      t'.stage = .free ∧ t'.refused = false ∧ t'.read = active) Released {} (ask .readPointer) :=
    Keeps.issue rfl (fun _ _ => ⟨rfl, rfl, rfl⟩) fun _ => .inl rfl
  refine then_keeps hread ?_
  rintro t₁ active ⟨hstage, hrefused, rfl⟩
  split
  · have hfence : activation.Keeps (fun t' (_ : Option HandoverFence) => t' = t₁) Released t₁ (ask .readFence) :=
      free_keeps hstage (.issue fun _ => ⟨trivial, fun _ => rfl⟩)
    refine then_keeps hfence ?_
    rintro t₂ fence rfl
    split
    · exact .inl hstage
    · exact lockAndActivate_keeps hstage hrefused manifest
  · exact lockAndActivate_keeps hstage hrefused manifest

end Keeps

/-- An abort that can be retried leaves the pointer as it was at the lock, and an activation that throws after its
commit was refused does not leave the new release active beside an unfenced old Controller. -/
structure LeavesRelease (manifest : RuntimeReleaseManifest) (result : Except Failure ReleaseActivateResult)
    (w : Home) : Prop where
  aborted : ∀ abort, result = .ok (.aborted abort) → abort.recoverable = true →
    ∀ pointer, w.atLock = some pointer → ∃ controller, w.released = some (pointer, controller)
  threw : ∀ failure, result = .error failure → ∀ generation, w.refusedBy = some generation →
    ∃ pointer controller, w.released = some (pointer, controller) ∧
      ¬ (pointer.any (fun pointer => pointer.releaseId = manifest.releaseId) = true ∧
        controller = some ⟨generation, none⟩)

/-- An activation that is not disturbed leaves the release that was active, whatever fails. -/
theorem activation_leaves_release (manifest : RuntimeReleaseManifest) (pointer : Option ActiveReleasePointer)
    (controller : Option Controller) {result : Except Failure ReleaseActivateResult} {w : Home}
    (h : undisturbed.Ends { pointer := pointer, controller := controller } (activateRelease manifest) result w) :
    LeavesRelease manifest result w := by
  obtain ⟨t, hinv, hvalue, hfailure⟩ := upholds.ends h (Inv.initial _ rfl rfl rfl) (activateRelease_keeps manifest)
  refine ⟨?_, ?_⟩
  · intro abort hresult hrecoverable atLock hlock
    obtain hfree | ⟨hover, hsettled⟩ := hvalue _ hresult
    · rw [(hinv.free hfree).1] at hlock
      cases hlock
    · obtain ⟨hread, released, found, hreleased, hpointer, -⟩ := hinv.letGo hover
      obtain rfl : t.read = atLock := Option.some.inj (hread.symm.trans hlock)
      exact ⟨found, hpointer (hsettled abort rfl hrecoverable) ▸ hreleased⟩
  · intro failure hresult generation hrefused
    obtain hfree | hover := hfailure failure hresult
    · rw [(hinv.free hfree).2] at hrefused
      cases hrefused
    · obtain ⟨-, released, found, hreleased, -, hfenced⟩ := hinv.letGo hover
      exact ⟨released, found, hreleased, fun hboth => hfenced generation hrefused hboth.2⟩

section Samples

def oldRelease : ActiveReleasePointer := ⟨"1.0.0-a", "1.0.0", "build-1", "a", "2026-01-01"⟩

def newManifest : RuntimeReleaseManifest := ⟨"2.0.0", "build-2", "b"⟩

def newRelease : ActiveReleasePointer := newManifest.pointer "2026-01-02"

theorem gives (w : Home) (c : Command) (answer : Except Failure (Answer c)) (h : Idle c) (hidentity : c ≠ .identity) :
    undisturbed.performs w c answer w := by
  refine ⟨.other w c answer h, ?_⟩
  cases c
  case identity => exact absurd rfl hidentity
  all_goals trivial

/-- Without an old Controller the new one does not start, and the pointer is restored. -/
theorem unstarted_ends : undisturbed.Ends { pointer := some oldRelease, controller := none }
    (activateRelease newManifest)
    (.ok (.aborted ⟨"start-controller", "The new Controller did not start: no space",
      "The active release pointer was restored; the old release is unchanged.", true⟩))
    { pointer := some oldRelease, controller := none, read := some oldRelease, atLock := some (some oldRelease),
      released := some (some oldRelease, none) } := by
  refine .call ⟨.readPointer _, trivial⟩ ?_
  refine .call (gives _ .runPreflight (.ok ()) trivial (by simp)) ?_
  refine .call ⟨.acquireLock _ rfl, rfl⟩ ?_
  refine .call (gives _ .readFence (.ok none) trivial (by simp)) ?_
  refine .call ⟨.failed _ .identity ⟨.controllerNotRunning, "not running"⟩ (by simp) (by simp), rfl⟩ ?_
  refine .call (gives _ .newHandoverId (.ok "handover-1") trivial (by simp)) ?_
  refine .call (gives _ .now (.ok "2026-01-02") trivial (by simp)) ?_
  refine .call ⟨.writePointer _ _, trivial⟩ ?_
  refine .call ⟨.failed _ .startController ⟨.other, "no space"⟩ (by simp) (by simp), trivial⟩ ?_
  refine .call ⟨.writePointer _ _, trivial⟩ ?_
  refine .call ⟨.releaseLock _, trivial⟩ ?_
  exact .done _ _

theorem activation_leaves_release_unstarted :
    ∃ result w, undisturbed.Ends { pointer := some oldRelease, controller := none } (activateRelease newManifest)
      result w ∧ LeavesRelease newManifest result w ∧ w.released = some (some oldRelease, none) :=
  ⟨_, _, unstarted_ends, activation_leaves_release newManifest (some oldRelease) none unstarted_ends, rfl⟩

def oldOwner : HandoverOwner := ⟨100, "start-100", "build-1", "1.0.0"⟩

/-- The fence that an interrupted activation left, its candidate ready. -/
def interruptedFence : HandoverFence :=
  ⟨"handover-1", .candidateReady, oldOwner, none, some "1.0.0-a", "2.0.0-b", "2026-01-01", "2026-01-01"⟩

theorem resumed_ends : machine.Ends { pointer := some oldRelease, controller := some ⟨1, some "handover-1"⟩ }
    (activateRelease newManifest)
    (.ok (.aborted ⟨"begin-handover", "Old Controller rejected the handover: already fenced",
      "The old Controller is still serving; inspect it and retry.", true⟩))
    { pointer := some newRelease, controller := some ⟨1, some "handover-1"⟩, read := some oldRelease,
      atLock := some (some oldRelease), released := some (some newRelease, some ⟨1, some "handover-1"⟩) } := by
  refine .call (.readPointer _) ?_
  refine .call (.other _ .runPreflight (.ok ()) trivial) ?_
  refine .call (.acquireLock _ rfl) ?_
  refine .call (.other _ .readFence (.ok (some interruptedFence)) trivial) ?_
  refine .call (.other _ .readDiscovery (.ok (some ⟨200, "start-200"⟩)) trivial) ?_
  refine .call (.other _ .readDiscovery (.ok (some ⟨200, "start-200"⟩)) trivial) ?_
  refine .call (.other _ (.isOwnerLive _) (.ok true) trivial) ?_
  refine .call (.other _ (.isOwnerLive _) (.ok true) trivial) ?_
  refine .call (.other _ .waitForCandidateReady (.ok true) trivial) ?_
  refine .call (.other _ .now (.ok "2026-01-02") trivial) ?_
  refine .call (.writePointer _ _) ?_
  refine .call (.commitHandover _ _ (.ok ()) (by simp) rfl) ?_
  refine .call (.other _ (.waitForPromotion _) (.ok .timeout) trivial) ?_
  refine .call (.other _ .identity (.ok ⟨some 100, false, some "start-100", none, none⟩) trivial) ?_
  refine .call (.other _ .newHandoverId (.ok "handover-2") trivial) ?_
  refine .call (.failed _ (.beginHandover ..) ⟨.other, "already fenced"⟩ (by simp) (by simp)) ?_
  refine .call (.releaseLock _) ?_
  exact .done _ _

theorem resumed_pointer_kept : ¬ ∀ (manifest : RuntimeReleaseManifest) (pointer : Option ActiveReleasePointer)
    (controller : Option Controller) (result : Except Failure ReleaseActivateResult) (w : Home),
    machine.Ends { pointer := pointer, controller := controller } (activateRelease manifest) result w →
      LeavesRelease manifest result w := by
  intro hall
  obtain ⟨controller, hkept⟩ := (hall _ _ _ _ _ resumed_ends).aborted _ rfl rfl _ rfl
  simp [oldRelease, newRelease, RuntimeReleaseManifest.pointer, newManifest] at hkept

end Samples

end ReleaseHandover
