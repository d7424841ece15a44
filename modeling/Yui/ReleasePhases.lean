import Yui.ReleaseFence

/-!
# The phase of a handover only goes up

When every process writes the fence that is still in the file, the phases of one handover go up, a final one stays,
and no candidate publishes or promotes itself after its handover was rolled back.
-/

open Program EventJournal Protocol

namespace HandoverFences

open ReleaseHandover

section Writes

/-- The only fence that an activator writes is a rolled-back one. -/
def RollsBack (c : Command) : Prop := ∀ fence, c = .writeFence fence → fence.phase = .rolledBack

variable {α β : Type}

variable {p : Activator α}

theorem rolls_neutral (hp : p.Issues Neutral) : p.Issues RollsBack := by
  refine hp.mono fun c hneutral fence heq => ?_
  subst heq
  exact hneutral

theorem ask_rolls {c : Command} (h : ∀ fence, c ≠ .writeFence fence) : (ask c).Issues RollsBack :=
  Issues.issue fun fence heq => absurd heq (h fence)

theorem then_rolls {f : α → Activator β} (hp : p.Issues RollsBack)
    (hf : ∀ value, (f value).Issues RollsBack) : (p >>= f).Issues RollsBack := .bind hp hf

theorem finish_rolls {cleanup : Activator Unit} (hp : p.Issues RollsBack)
    (hcleanup : cleanup.Issues RollsBack) : (finish p cleanup).Issues RollsBack := by
  induction p with
  | done value => exact .bind hcleanup fun _ => trivial
  | raise failure => exact .bind hcleanup fun _ => trivial
  | call command next ih => exact ⟨hp.1, fun answer => ih answer (hp.2 answer)⟩

variable (manifest : RuntimeReleaseManifest)

theorem switchPointer_rolls : (switchPointer manifest).Issues RollsBack :=
  then_rolls (ask_rolls (by simp)) fun _ => ask_rolls (by simp)

theorem commitOld_rolls (handoverId : String) : (commitOld handoverId).Issues RollsBack := by
  refine .handle (ask_rolls (by simp)) fun failure => ?_
  split <;> trivial

theorem resume_rolls (fence : HandoverFence) :
    (resume manifest fence).Issues RollsBack := by
  refine then_rolls (switchPointer_rolls manifest) fun _ => then_rolls (commitOld_rolls _) fun _ => ?_
  refine then_rolls (ask_rolls (by simp)) fun promotion => ?_
  cases promotion <;> trivial

theorem recoverFence_rolls (fence : HandoverFence) :
    (recoverFence manifest fence).Issues RollsBack := by
  refine then_rolls (rolls_neutral candidateIsLive_neutral) fun candidateLive => ?_
  refine then_rolls (ask_rolls (by simp)) fun oldLive => ?_
  split
  · exact rolls_neutral (recoverCommitted_neutral _ _ _)
  · split
    · refine then_rolls (ask_rolls (by simp)) fun ready => ?_
      split
      · exact resume_rolls manifest fence
      · exact rolls_neutral (recoverUnready_neutral fence)
    · exact rolls_neutral (recoverDead_neutral _ _)

theorem recoverInterruptedHandover_rolls :
    (recoverInterruptedHandover manifest).Issues RollsBack := by
  refine then_rolls (ask_rolls (by simp)) fun fence => ?_
  cases fence with
  | none => trivial
  | some fence =>
    dsimp only
    split
    · exact then_rolls (ask_rolls (by simp)) fun _ => trivial
    · exact recoverFence_rolls manifest fence

theorem readOldController_rolls : readOldController.Issues RollsBack := by
  refine .handle (then_rolls (ask_rolls (by simp)) fun identity => ?_) fun failure => ?_
  · cases ownerOf identity <;> trivial
  · split <;> trivial

theorem startFailed_rolls (active : Option ActiveReleasePointer) (failure : ReleaseHandover.Failure) :
    (startFailed active failure).Issues RollsBack := by
  have hrestore : (restorePointer active).Issues RollsBack := by
    cases active <;> exact ask_rolls (by simp)
  unfold startFailed
  cases failure.code with
  | startUnconfirmed pid => trivial
  | controllerNotRunning => exact then_rolls hrestore fun _ => trivial
  | connectionLost => exact then_rolls hrestore fun _ => trivial
  | other => exact then_rolls hrestore fun _ => trivial

theorem activateWithoutOldController_rolls
    (active : Option ActiveReleasePointer) : (activateWithoutOldController manifest active).Issues RollsBack := by
  refine then_rolls (ask_rolls (by simp)) fun _ => then_rolls (switchPointer_rolls manifest) fun _ => ?_
  refine then_rolls (rolls_neutral startRelease_neutral) fun failure => ?_
  cases failure with
  | some failure => exact startFailed_rolls active failure
  | none => exact rolls_neutral (recordStart_neutral _ _ _)

theorem commitAndPromote_rolls (old : HandoverOwner) (handoverId : String) :
    (commitAndPromote manifest old handoverId).Issues RollsBack := by
  refine then_rolls (switchPointer_rolls manifest) fun _ => then_rolls (commitOld_rolls _) fun _ => ?_
  refine then_rolls (ask_rolls (by simp)) fun promotion => ?_
  cases promotion <;> trivial

theorem begunHandover_rolls (old : HandoverOwner) (handoverId : String) :
    (begunHandover manifest old handoverId).Issues RollsBack := by
  refine then_rolls (ask_rolls (by simp)) fun found => ?_
  split
  · trivial
  · refine then_rolls (rolls_neutral preflight_neutral) fun failure => ?_
    cases failure with
    | some failure => exact rolls_neutral (preflightFailed_neutral _ _)
    | none =>
      refine then_rolls (ask_rolls (by simp)) fun _ => then_rolls (ask_rolls (by simp)) fun ready => ?_
      split
      · exact commitAndPromote_rolls manifest old _
      · exact rolls_neutral (abandonCandidate_neutral _)

theorem activateLocked_rolls (active : Option ActiveReleasePointer) :
    (activateLocked manifest active).Issues RollsBack := by
  refine then_rolls (recoverInterruptedHandover_rolls manifest) fun result => ?_
  cases result with
  | some result => trivial
  | none =>
    refine then_rolls readOldController_rolls fun old => ?_
    cases old with
    | none => exact activateWithoutOldController_rolls manifest active
    | some old =>
      refine then_rolls (ask_rolls (by simp)) fun handoverId => ?_
      refine then_rolls (rolls_neutral (callBegin_neutral _ _ _)) fun failure => ?_
      cases failure with
      | some failure => trivial
      | none => exact begunHandover_rolls manifest old handoverId

theorem lockAndActivate_rolls (active : Option ActiveReleasePointer) :
    (lockAndActivate manifest active).Issues RollsBack := by
  refine then_rolls (rolls_neutral preflight_neutral) fun failure => ?_
  cases failure with
  | some failure => trivial
  | none =>
    refine then_rolls (ask_rolls (by simp)) fun _ => ?_
    exact finish_rolls (activateLocked_rolls manifest active) (ask_rolls (by simp))

theorem activateRelease_rolls : (activateRelease manifest).Issues RollsBack := by
  refine then_rolls (ask_rolls (by simp)) fun active => ?_
  split
  · refine then_rolls (ask_rolls (by simp)) fun fence => ?_
    split
    · trivial
    · exact lockAndActivate_rolls manifest active
  · exact lockAndActivate_rolls manifest active

end Writes

section Order

def rank : HandoverFencePhase → ℕ
  | .fenced => 0
  | .candidateReady => 1
  | .committed | .rolledBack => 2

/-- The same phase, or one that comes before. -/
def Below (earlier later : HandoverFencePhase) : Prop := earlier = later ∨ rank earlier < rank later

theorem Below.trans {a b c : HandoverFencePhase} (hab : Below a b) (hbc : Below b c) : Below a c := by
  obtain rfl | hab := hab
  · exact hbc
  · obtain rfl | hbc := hbc
    · exact .inr hab
    · exact .inr (hab.trans hbc)

/-- A write goes up from every earlier one of its handover. After a reported rollback there is no candidate. -/
def Upward (before : List Entry) : Entry → Prop
  | .wrote handoverId phase => (∀ earlier, .wrote handoverId earlier ∈ before → Below earlier phase) ∧
      (phase = .candidateReady → .rollbackReported handoverId ∉ before)
  | .published handoverId | .promoted handoverId => .rollbackReported handoverId ∉ before
  | .rollbackReported _ => True

end Order

/-- What holds of the fence file, of the memory of the Controller, and of the copies that the processes took. -/
structure Ordered (w : Scene) : Prop where
  upward : Throughout Upward w.journal
  top : ∀ fence, w.fence = some fence → ∀ phase, .wrote fence.handoverId phase ∈ w.journal → Below phase fence.phase
  begun : ∀ handoverId phase, .wrote handoverId phase ∈ w.journal → handoverId ∈ w.begun
  fence : ∀ fence, w.fence = some fence → fence.handoverId ∈ w.begun
  memory : ∀ controller, w.controller = some controller → ∀ handoverId, controller.fence = some handoverId →
    handoverId ∈ w.begun
  handler : ∀ handling, w.handler = some handling → handling.handoverId ∈ w.begun
  reported : ∀ handoverId, .rollbackReported handoverId ∈ w.journal → handoverId ∈ w.served
  served : ∀ handoverId ∈ w.served, handoverId ∈ w.begun ∧
    ∀ fence, w.fence = some fence → fence.handoverId = handoverId → fence.phase = .rolledBack
  copied : ∀ i fence, w.candidates i = .read fence ∨ w.candidates i = .published fence → fence.phase = .fenced
  checked : ∀ i fence, w.candidates i = .checked fence → fence.phase ≠ .rolledBack

namespace Ordered

variable {w w' : Scene}

/-- An entry that is no write. -/
theorem log (h : Ordered w) {entry : Entry} (hentry : Upward w.journal entry)
    (hwrote : ∀ handoverId phase, entry ≠ .wrote handoverId phase)
    (hreported : ∀ handoverId, entry = .rollbackReported handoverId → handoverId ∈ w.served) :
    Ordered (w.log entry) where
  upward := h.upward.snoc hentry
  top fence hfence phase hmem := by
    obtain hmem | hlast := List.mem_append.1 hmem
    · exact h.top fence hfence phase hmem
    · exact absurd (List.mem_singleton.1 hlast).symm (hwrote _ _)
  begun handoverId phase hmem := by
    obtain hmem | hlast := List.mem_append.1 hmem
    · exact h.begun handoverId phase hmem
    · exact absurd (List.mem_singleton.1 hlast).symm (hwrote _ _)
  fence := h.fence
  memory := h.memory
  handler := h.handler
  reported handoverId hmem := by
    obtain hmem | hlast := List.mem_append.1 hmem
    · exact h.reported handoverId hmem
    · exact hreported handoverId (List.mem_singleton.1 hlast).symm
  served := h.served
  copied := h.copied
  checked := h.checked

theorem writeFence (h : Ordered w) {fence : HandoverFence} (hbegun : fence.handoverId ∈ w.begun)
    (hbelow : ∀ phase, .wrote fence.handoverId phase ∈ w.journal → Below phase fence.phase)
    (hserved : fence.handoverId ∈ w.served → fence.phase = .rolledBack) : Ordered (w.writeFence fence) where
  upward := by
    refine h.upward.snoc ⟨hbelow, fun hready hreported => ?_⟩
    have hrolled := hserved (h.reported _ hreported)
    rw [hready] at hrolled
    cases hrolled
  top found hfound phase hmem := by
    obtain rfl : fence = found := Option.some.inj hfound
    obtain hmem | hlast := List.mem_append.1 hmem
    · exact hbelow phase hmem
    · cases List.mem_singleton.1 hlast
      exact .inl rfl
  begun handoverId phase hmem := by
    obtain hmem | hlast := List.mem_append.1 hmem
    · exact h.begun handoverId phase hmem
    · cases List.mem_singleton.1 hlast
      exact hbegun
  fence found hfound := by
    obtain rfl : fence = found := Option.some.inj hfound
    exact hbegun
  memory := h.memory
  handler := h.handler
  reported handoverId hmem := by
    obtain hmem | hlast := List.mem_append.1 hmem
    · exact h.reported handoverId hmem
    · cases List.mem_singleton.1 hlast
  served handoverId hmem := by
    refine ⟨(h.served handoverId hmem).1, fun found hfound hid => ?_⟩
    obtain rfl : fence = found := Option.some.inj hfound
    subst hid
    exact hserved hmem
  copied := h.copied
  checked := h.checked

theorem setCandidate (h : Ordered w) (i : ℕ) {state : CandidateState}
    (hcopied : ∀ fence, state = .read fence ∨ state = .published fence → fence.phase = .fenced)
    (hchecked : ∀ fence, state = .checked fence → fence.phase ≠ .rolledBack) : Ordered (w.setCandidate i state) :=
  { h with
    copied := by
      intro j fence hstate
      by_cases hij : j = i
      · subst hij
        simp only [Scene.setCandidate, Function.update_self] at hstate
        exact hcopied fence hstate
      · simp only [Scene.setCandidate, Function.update_of_ne hij] at hstate
        exact h.copied j fence hstate
    checked := by
      intro j fence hstate
      by_cases hij : j = i
      · subst hij
        simp only [Scene.setCandidate, Function.update_self] at hstate
        exact hchecked fence hstate
      · simp only [Scene.setCandidate, Function.update_of_ne hij] at hstate
        exact h.checked j fence hstate }

theorem removeFence (h : Ordered w) : Ordered { w with fence := none } :=
  { h with
    top := nofun
    fence := nofun
    served := fun handoverId hmem => ⟨(h.served handoverId hmem).1, nofun⟩ }

theorem not_reported (h : Ordered w) {fence : HandoverFence} (hfence : w.fence = some fence)
    (hphase : fence.phase ≠ .rolledBack) : .rollbackReported fence.handoverId ∉ w.journal :=
  fun hreported => hphase ((h.served _ (h.reported _ hreported)).2 fence hfence rfl)

theorem commitHandler (h : Ordered w) {handling : Handling} (hkind : handling.kind = .commit)
    (hcurrent : HandlerCurrent w handling) (updatedAt : String) : Ordered (w.finishHandler handling updatedAt) := by
  unfold Scene.finishHandler
  rw [hkind]
  cases hexisting : handling.existing with
  | none => exact { h with handler := fun _ heq => by cases heq }
  | some fence =>
    have hfence : w.fence = some fence := hcurrent.1.trans hexisting
    have hopen : fence.phase ≠ .rolledBack := by
      intro hrolled
      have hkept := hcurrent.2 fence hexisting (.inr hrolled)
      rw [hrolled, hkind] at hkept
      cases hkept
    have hbelow : Below fence.phase .committed := by
      cases hphase : fence.phase with
      | fenced => exact .inr (by decide)
      | candidateReady => exact .inr (by decide)
      | committed => exact .inl rfl
      | rolledBack => exact absurd hphase hopen
    have hwritten : Ordered (w.writeFence { fence with phase := .committed, updatedAt := updatedAt }) :=
      h.writeFence (h.fence fence hfence) (fun phase hmem => (h.top fence hfence phase hmem).trans hbelow)
        fun hserved => absurd ((h.served _ hserved).2 fence hfence rfl) hopen
    exact { hwritten with handler := fun _ heq => by cases heq }

theorem serve (h : Ordered w) {handoverId : String} (hbegun : handoverId ∈ w.begun)
    (hfence : ∀ fence, w.fence = some fence → fence.handoverId = handoverId → fence.phase = .rolledBack) :
    Ordered { w with
      handler := none
      served := handoverId :: w.served
      controller := w.controller.map fun controller => { controller with fence := none } } :=
  { h with
    handler := nofun
    reported := fun other hmem => List.mem_cons_of_mem _ (h.reported other hmem)
    served := by
      intro other hmem
      obtain rfl | hmem := List.mem_cons.1 hmem
      · exact ⟨hbegun, hfence⟩
      · exact h.served other hmem
    memory := by
      intro controller hrunning other hmemory
      obtain ⟨before, -, rfl⟩ := Option.map_eq_some_iff.1 hrunning
      cases hmemory }

theorem rollbackHandler (h : Ordered w) {handling : Handling} (hhandling : w.handler = some handling)
    (hkind : handling.kind = .rollback) (hcurrent : HandlerCurrent w handling) (updatedAt : String) :
    Ordered (w.finishHandler handling updatedAt) := by
  have hbegun := h.handler handling hhandling
  unfold Scene.finishHandler
  rw [hkind]
  cases hexisting : handling.existing with
  | none =>
    have hnone : w.fence = none := hcurrent.1.trans hexisting
    refine h.serve hbegun fun fence hfence => ?_
    rw [hnone] at hfence
    cases hfence
  | some fence =>
    have hfence : w.fence = some fence := hcurrent.1.trans hexisting
    have hopen : fence.phase ≠ .committed := by
      intro hcommitted
      have hkept := hcurrent.2 fence hexisting (.inl hcommitted)
      rw [hcommitted, hkind] at hkept
      cases hkept
    have hbelow : Below fence.phase .rolledBack := by
      cases hphase : fence.phase with
      | fenced => exact .inr (by decide)
      | candidateReady => exact .inr (by decide)
      | committed => exact absurd hphase hopen
      | rolledBack => exact .inl rfl
    have hwritten : Ordered (w.writeFence { fence with phase := .rolledBack, updatedAt := updatedAt }) :=
      h.writeFence (h.fence fence hfence) (fun phase hmem => (h.top fence hfence phase hmem).trans hbelow)
        fun _ => rfl
    refine hwritten.serve hbegun fun found hfound _ => ?_
    cases hfound
    rfl

theorem begin (h : Ordered w) {controller : Controller} {handoverId : String} (hnew : handoverId ∉ w.begun)
    (fence : HandoverFence) (hid : fence.handoverId = handoverId) : Ordered { w.writeFence fence with
      controller := some { controller with fence := some handoverId }
      begun := handoverId :: w.begun } := by
  subst hid
  have hfresh : ∀ phase, .wrote fence.handoverId phase ∉ w.journal := fun phase hmem => hnew (h.begun _ _ hmem)
  have hgrown : Ordered { w with begun := fence.handoverId :: w.begun } :=
    { h with
      begun := fun other phase hmem => List.mem_cons_of_mem _ (h.begun other phase hmem)
      fence := fun found hfound => List.mem_cons_of_mem _ (h.fence found hfound)
      memory := fun running hrunning other hmemory =>
        List.mem_cons_of_mem _ (h.memory running hrunning other hmemory)
      handler := fun handling hhandling => List.mem_cons_of_mem _ (h.handler handling hhandling)
      served := fun other hmem => ⟨List.mem_cons_of_mem _ (h.served other hmem).1, (h.served other hmem).2⟩ }
  have hwritten : Ordered (Scene.writeFence { w with begun := fence.handoverId :: w.begun } fence) :=
    hgrown.writeFence List.mem_cons_self (fun phase hmem => absurd hmem (hfresh phase))
      fun hserved => absurd (h.served _ hserved).1 hnew
  refine { hwritten with memory := ?_ }
  intro running hrunning other hmemory
  cases hrunning
  cases hmemory
  exact List.mem_cons_self

theorem change (h : Ordered w) (hchange : Changes True w w') : Ordered w' := by
  cases hchange with
  | begin controller hrunning hopen hidle handoverId fromReleaseId toReleaseId fencedAt hissued hnew =>
    exact h.begin hnew _ rfl
  | handle controller hrunning hidle kind handoverId hfence =>
    refine { h with handler := ?_ }
    intro handling heq
    cases heq
    exact h.memory controller hrunning handoverId hfence
  | finish handling hhandling updatedAt hcurrent =>
    cases hkind : handling.kind with
    | commit => exact h.commitHandler hkind (hcurrent trivial) updatedAt
    | rollback => exact h.rollbackHandler hhandling hkind (hcurrent trivial) updatedAt
  | refuse => exact { h with handler := fun _ heq => by cases heq }
  | exit =>
    exact { h with
      memory := (by simp)
      handler := (by simp) }
  | start hnone =>
    refine { h with memory := ?_ }
    intro controller hrunning handoverId hmemory
    cases hrunning
    cases hmemory
  | spawn i handoverId habsent => exact h.setCandidate i (by simp) (by simp)
  | read i fence hstate hfence hphase =>
    refine h.setCandidate i ?_ (by simp)
    rintro found (heq | heq) <;> cases heq
    exact hphase
  | publish i fence hstate hcurrent =>
    have hphase : fence.phase = .fenced := h.copied i fence (.inl hstate)
    have hset : Ordered (w.setCandidate i (.published fence)) := by
      refine h.setCandidate i ?_ (by simp)
      rintro found (heq | heq) <;> cases heq
      exact hphase
    refine hset.log ?_ (by simp) (by simp)
    exact h.not_reported (hcurrent trivial) (by simp [hphase])
  | advance i fence updatedAt hstate hcurrent =>
    have hphase : fence.phase = .fenced := h.copied i fence (.inr hstate)
    have hfence : w.fence = some fence := hcurrent trivial
    have hset : Ordered (w.setCandidate i (.polling fence.handoverId)) := h.setCandidate i (by simp) (by simp)
    refine hset.writeFence (h.fence fence hfence) (fun phase hmem => ?_) fun hserved => ?_
    · exact (h.top fence hfence phase hmem).trans (.inr (by rw [hphase]; exact Nat.zero_lt_one))
    · have hrolled := (h.served _ hserved).2 fence hfence rfl
      rw [hphase] at hrolled
      cases hrolled
  | poll i fence hstate hfence hphase =>
    refine h.setCandidate i (by simp) ?_
    intro found heq
    cases heq
    exact hphase
  | wait i fence hstate => exact h.setCandidate i (by simp) (by simp)
  | promote i fence hstate hold hpointer hcurrent =>
    have hset : Ordered (w.setCandidate i (.promoting fence.handoverId)) := h.setCandidate i (by simp) (by simp)
    refine hset.log ?_ (by simp) (by simp)
    exact h.not_reported (hcurrent trivial) (h.checked i fence hstate)
  | release i handoverId hstate => exact (h.setCandidate i (by simp) (by simp)).removeFence
  | lose i => exact h.setCandidate i (by simp) (by simp)

theorem perform (h : Ordered w) {c : Command} {answer : Except ReleaseHandover.Failure (Answer c)}
    (hrolls : RollsBack c) (hperforms : Performs True w c answer w') : Ordered w' := by
  cases hperforms with
  | readPointer | readFence | other | begun | committed | lock | failed => exact h
  | writePointer | removePointer | newHandoverId => exact { h with }
  | writeFence fence hcurrent =>
    obtain ⟨found, hfound, hid, hphase⟩ := hcurrent trivial
    have hrolled : fence.phase = .rolledBack := hrolls fence rfl
    refine h.writeFence (hid ▸ h.fence found hfound) (fun phase hmem => ?_) fun _ => hrolled
    rw [hrolled, ← hphase]
    exact h.top found hfound phase (hid ▸ hmem)
  | removeFence => exact h.removeFence
  | rollbackHandover handoverId hserved =>
    exact h.log trivial (by simp) fun other heq => by cases heq; exact hserved

end Ordered

/-- What an activation may do next says nothing more than that it writes no other fence. -/
def writes : Protocol Command Answer ReleaseHandover.Failure Unit where
  permits _ c := RollsBack c
  answers _ _ := True
  after _ _ _ := ()

theorem sound : Machine.Sound (handover True) Activation writes () fun w _ => Ordered w where
  pass := by
    rintro p ⟨manifest, rfl⟩
    have hissues : ((activateRelease manifest).bind fun _ => (.done () : Activator Unit)).Issues RollsBack :=
      Issues.bind (activateRelease_rolls manifest) fun _ => trivial
    exact Keeps.mono (fun _ _ _ => trivial) (fun _ _ _ => trivial)
      (Keeps.of_issues (I := fun _ => True) (fun _ _ hc _ => ⟨hc, fun _ => trivial⟩) hissues trivial)
  answer _ _ _ _ _ _ _ := trivial
  perform _ _ _ _ _ h hrolls hperforms := h.perform hrolls hperforms
  change _ _ _ h hchange := h.change hchange
  rest _ _ _ h := h
  forget _ _ _ h := h

/-- A Home without a fence, where nothing is under way. -/
def initialScene (pointer : Option ActiveReleasePointer) (controller : Option Controller) (generations : ℕ) : Scene where
  pointer := pointer
  controller := controller.map fun controller => { controller with fence := none }
  generations := generations

theorem Ordered.initial (pointer : Option ActiveReleasePointer) (controller : Option Controller) (generations : ℕ) :
    Ordered (initialScene pointer controller generations) where
  upward := Throughout.nil _
  top := by simp [initialScene]
  begun := by simp [initialScene]
  fence := by simp [initialScene]
  memory := by
    intro running hrunning other hmemory
    obtain ⟨before, -, rfl⟩ := Option.map_eq_some_iff.1 hrunning
    cases hmemory
  handler := by simp [initialScene]
  reported := by simp [initialScene]
  served := by simp [initialScene]
  copied := by simp [initialScene]
  checked := by simp [initialScene]

open Relation in
/-- In every interleaving whose writers meet the fence that they read, the phases of every handover go up, and a
handover that was rolled back has no candidate any more. -/
theorem phases_upward {pointer : Option ActiveReleasePointer} {controller : Option Controller} {generations : ℕ}
    {config : Scene × Option (Activator Unit)}
    (h : ReflTransGen ((handover True).Step Activation) (initialScene pointer controller generations, none) config) :
    Throughout Upward config.1.journal := by
  have hguarded : Machine.Guarded writes () (fun w _ => Ordered w) config := by
    induction h with
    | refl => exact Ordered.initial pointer controller generations
    | tail _ hstep ih => exact sound.step ih hstep
  obtain ⟨w, p⟩ := config
  cases p with
  | none => exact Ordered.upward hguarded
  | some p =>
    obtain ⟨-, hordered, -⟩ := hguarded
    exact hordered.upward

section Samples

def fenceOf (handoverId : String) (phase : HandoverFencePhase) (updatedAt : String) : HandoverFence :=
  ⟨handoverId, phase, Scene.ownerOf 1, none, some oldRelease.releaseId, newManifest.releaseId, "2026-01-01", updatedAt⟩

def servingScene : Scene := initialScene (some oldRelease) (some ⟨1, none⟩) 2

/-- The candidate has published itself, and the activator is about to commit. -/
def publishedScene : Scene :=
  { servingScene with
    fence := some (fenceOf "handover-1" .fenced "2026-01-01")
    pointer := some newRelease
    controller := some ⟨1, some "handover-1"⟩
    issued := ["handover-1"]
    begun := ["handover-1"]
    candidates := Function.update (Function.update (Function.update (fun _ => .absent) 0 (.starting "handover-1")) 0
      (.read (fenceOf "handover-1" .fenced "2026-01-01"))) 0 (.published (fenceOf "handover-1" .fenced "2026-01-01"))
    journal := [.wrote "handover-1" .fenced, .published "handover-1"] }

open Relation in
theorem published_reached (orderly : Prop) :
    ∃ p, ReflTransGen ((handover orderly).Step Activation) (servingScene, none) (publishedScene, some p) := by
  apply Exists.intro
  refine .head (.begin _ _ ⟨newManifest, rfl⟩) ?_
  refine .head (.perform _ _ _ _ _ (.readPointer _)) ?_
  refine .head (.perform _ _ _ _ (.ok ()) (.other _ .runPreflight _ trivial (by simp))) ?_
  refine .head (.perform _ _ _ _ (.ok ()) (.lock _ .acquireLock (.inl rfl) _)) ?_
  refine .head (.perform _ _ _ _ _ (.readFence _)) ?_
  refine .head (.perform _ _ _ _ (.ok ⟨some 1, false, some "", none, none⟩)
    (.other _ .identity _ trivial (by simp))) ?_
  refine .head (.perform _ _ _ _ _ (.newHandoverId _ "handover-1" (by simp [servingScene, initialScene]))) ?_
  refine .head (.change _ _ _ (.begin _ ⟨1, none⟩ rfl rfl rfl "handover-1" (some oldRelease.releaseId)
    newManifest.releaseId "2026-01-01" (by simp) (by simp [servingScene, initialScene]))) ?_
  refine .head (.perform _ _ _ _ _ (.begun _ _ _ _ rfl)) ?_
  refine .head (.perform _ _ _ _ _ (.readFence _)) ?_
  refine .head (.perform _ _ _ _ (.ok ()) (.other _ .runPreflight _ trivial (by simp))) ?_
  refine .head (.perform _ _ _ _ (.ok ()) (.other _ (.spawnCandidate _) _ trivial (by simp))) ?_
  refine .head (.change _ _ _ (.spawn _ 0 "handover-1" rfl)) ?_
  refine .head (.change _ _ _ (.read _ 0 (fenceOf "handover-1" .fenced "2026-01-01") rfl rfl rfl)) ?_
  refine .head (.change _ _ _ (.publish _ 0 (fenceOf "handover-1" .fenced "2026-01-01") rfl fun _ => rfl)) ?_
  refine .head (.perform _ _ _ _ (.ok true) (.other _ .waitForCandidateReady _ trivial (by simp))) ?_
  refine .head (.perform _ _ _ _ (.ok "2026-01-02") (.other _ .now _ trivial (by simp))) ?_
  refine .head (.perform _ _ _ _ _ (.writePointer _ _)) ?_
  exact .refl

open Relation in
theorem phases_upward_committed : ∃ config,
    ReflTransGen ((handover True).Step Activation) (servingScene, none) config ∧
      Throughout Upward config.1.journal ∧ config.1.journal = [.wrote "handover-1" .fenced, .published "handover-1",
        .wrote "handover-1" .candidateReady, .wrote "handover-1" .committed] := by
  obtain ⟨p, hpublished⟩ := published_reached True
  have hcommitted : ∃ w, ReflTransGen ((handover True).Step Activation) (publishedScene, some p) (w, some p) ∧
      w.journal = [.wrote "handover-1" .fenced, .published "handover-1", .wrote "handover-1" .candidateReady,
        .wrote "handover-1" .committed] := by
    have hkept : ∀ fence ∈ some (fenceOf "handover-1" .candidateReady "2026-01-02"),
        fence.phase = .committed ∨ fence.phase = .rolledBack → fence.phase = .committed := by
      intro fence hmem hphase
      cases hmem
      simp [fenceOf] at hphase
    apply Exists.intro
    constructor
    · refine .head (.change _ _ _ (.advance _ 0 (fenceOf "handover-1" .fenced "2026-01-01") "2026-01-02" rfl
        fun _ => rfl)) ?_
      refine .head (.change _ _ _ (.handle _ ⟨1, some "handover-1"⟩ rfl rfl .commit "handover-1" rfl)) ?_
      refine .head (.change _ _ _ (.finish _ ⟨.commit, "handover-1",
        some (fenceOf "handover-1" .candidateReady "2026-01-02")⟩ rfl "2026-01-03" fun _ => ⟨rfl, hkept⟩)) ?_
      exact .refl
    · rfl
  obtain ⟨w, hrun, hjournal⟩ := hcommitted
  exact ⟨_, hpublished.trans hrun, phases_upward (hpublished.trans hrun), hjournal⟩

open Relation in
/-- The candidate writes its copy over the committed fence. -/
theorem late_candidate_overwrites : ¬ ∀ (pointer : Option ActiveReleasePointer) (controller : Option Controller)
    (generations : ℕ) (config : Scene × Option (Activator Unit)),
    ReflTransGen ((handover False).Step Activation) (initialScene pointer controller generations, none) config →
      Throughout Upward config.1.journal := by
  intro hall
  obtain ⟨p, hpublished⟩ := published_reached False
  have hadvanced : ∃ w, ReflTransGen ((handover False).Step Activation) (publishedScene, some p) (w, some p) ∧
      w.journal = [.wrote "handover-1" .fenced, .published "handover-1", .wrote "handover-1" .committed] ++
        [.wrote "handover-1" .candidateReady] := by
    apply Exists.intro
    constructor
    · refine .head (.change _ _ _ (.handle _ ⟨1, some "handover-1"⟩ rfl rfl .commit "handover-1" rfl)) ?_
      refine .head (.change _ _ _ (.finish _ ⟨.commit, "handover-1",
        some (fenceOf "handover-1" .fenced "2026-01-01")⟩ rfl "2026-01-03" False.elim)) ?_
      refine .head (.change _ _ _ (.advance _ 0 (fenceOf "handover-1" .fenced "2026-01-01") "2026-01-04" rfl
        False.elim)) ?_
      exact .refl
    · rfl
  obtain ⟨w, hrun, hjournal⟩ := hadvanced
  have hupward := hall _ _ _ _ (hpublished.trans hrun) _ _ [] hjournal
  obtain heq | hlt := hupward.1 .committed (by simp)
  · cases heq
  · exact absurd hlt (by decide)

end Samples

end HandoverFences
