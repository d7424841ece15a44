import Yui.IntegrationInvariant

/-!
# Decisions of Integrations

A rejected or aborted attempt stays failed and its target is not moved again, and a manual resolution stays
recorded, as long as nobody resolves an attempt while `integrate` is under way on it.
-/

open Program Protocol

namespace GitIntegration

/-- A decision is not taken while `integrate` holds the lock for the attempt, and no second one on a
manual resolution. -/
def decidedAside : Limits where
  allows := fun w kind => ∀ attempt, kind = .resolves attempt →
    w.integrating ≠ some attempt.id ∧ attempt.manuallyResolved = false
  answers := fun _ _ _ => True

structure KeepsDecision (attempt next : IntegrationAttempt) : Prop where
  failed : attempt.status = .failed → next.status = .failed
  manual : attempt.manuallyResolved = true → next.resolution = attempt.resolution

section Records

variable {k : Knowledge} {attempt next last : IntegrationAttempt}

theorem KeepsDecision.refl (attempt : IntegrationAttempt) : KeepsDecision attempt attempt := ⟨id, fun _ => rfl⟩

theorem manuallyResolved_congr (h : next.resolution = attempt.resolution) :
    next.manuallyResolved = attempt.manuallyResolved := by
  unfold IntegrationAttempt.manuallyResolved
  rw [h]

theorem KeepsDecision.trans (h : KeepsDecision attempt next) (hlast : KeepsDecision next last) :
    KeepsDecision attempt last := by
  refine ⟨fun hfailed => hlast.failed (h.failed hfailed), fun hmanual => ?_⟩
  have hnext := h.manual hmanual
  exact (hlast.manual ((manuallyResolved_congr hnext).trans hmanual)).trans hnext

theorem Follows.keepsDecision (h : Follows k attempt next) (hsame : SameAttempt attempt next) :
    KeepsDecision attempt next :=
  ⟨fun hfailed => (h.terminal (by rw [hfailed]; rfl)).trans hfailed, hsame.resolution⟩

end Records

section Steps

variable {w w' : World}

/-- Every stored attempt is followed by one that keeps what was decided. -/
def KeepsDecisions (w w' : World) : Prop :=
  ∀ id attempt, w.attempts id = some attempt →
    ∃ next, w'.attempts id = some next ∧ KeepsDecision attempt next

theorem keepsDecisions_same (h : w'.attempts = w.attempts) : KeepsDecisions w w' := by
  intro id attempt hstored
  rw [h]
  exact ⟨attempt, hstored, .refl attempt⟩

theorem keepsDecisions_store {next : IntegrationAttempt}
    (h : ∀ attempt, w.attempts next.id = some attempt → KeepsDecision attempt next) :
    KeepsDecisions w (w.store next) := by
  intro id attempt hstored
  by_cases hid : id = next.id
  · subst hid
    exact ⟨next, w.store_self next, h attempt hstored⟩
  · exact ⟨attempt, (w.store_other hid).trans hstored, .refl attempt⟩

theorem Base.keepsDecisions {k : Knowledge} (hb : Base w k) {c : Command}
    {answer : Except String c.Answer} (hc : c.permitted k) (h : Performs w c answer w') : KeepsDecisions w w' := by
  obtain hsame | ⟨k', old, next, hold, hsame, -, hfollows, rfl⟩ := hb.stores hc h
  · exact keepsDecisions_same hsame
  · refine keepsDecisions_store fun attempt hstored => ?_
    rw [hsame.id, hold] at hstored
    obtain rfl := Option.some.inj hstored
    exact hfollows.keepsDecision hsame

theorem change_keepsDecisions {kind : ChangeKind} (hallows : decidedAside.allows w kind)
    (h : Change w kind w') : KeepsDecisions w w' := by
  cases h with
  | creates attempt hfree hfresh =>
    refine keepsDecisions_store fun old hstored => ?_
    rw [hfree] at hstored
    cases hstored
  | job jobId job h => exact keepsDecisions_same rfl
  | moves target value => exact keepsDecisions_same rfl
  | resolves old next decision hold hnext =>
    have hresolved := resolve_ok hnext
    refine keepsDecisions_store fun attempt hstored => ?_
    rw [hresolved.2.2, hold] at hstored
    obtain rfl := Option.some.inj hstored
    refine ⟨fun hfailed => ?_, fun hmanual => ?_⟩
    · rw [hfailed] at hresolved
      cases hresolved.1
    · rw [(hallows old rfl).2] at hmanual
      cases hmanual

variable [CheckHost]

omit [CheckHost] in
theorem decidedAside_extends : Extends decidedAside fun _ _ => True where
  resolves := fun _ attempt h => (h attempt rfl).1
  perform := fun _ _ _ _ _ _ _ _ _ _ => trivial
  change := fun _ _ _ _ _ _ _ _ => trivial
  rest := fun _ _ _ => trivial
  forget := fun _ _ _ => trivial

theorem step_keepsDecisions {config later : Config} (hconfig : Reachable decidedAside config)
    (hstep : (machine decidedAside).Step IsCall config later) : KeepsDecisions config.1 later.1 := by
  have hguarded := decidedAside_extends.guarded (fun _ _ => trivial) hconfig
  cases hstep with
  | perform w w' c rest answer h =>
    obtain ⟨k, ⟨hb, -⟩, hkeeps⟩ := hguarded
    exact hb.keepsDecisions hkeeps.1 h.1
  | change w w' p h =>
    obtain ⟨kind, hallows, hchange⟩ := h
    exact change_keepsDecisions hallows hchange
  | _ => exact keepsDecisions_same rfl

theorem failed_not_delivered {config : Config} (hconfig : Reachable decidedAside config) {id : String}
    {attempt : IntegrationAttempt} (hstored : config.1.attempts id = some attempt)
    (hfailed : attempt.status = .failed) (target : Target) (candidate expected : String)
    (next : Except String Unit → Call Unit) :
    config.2 ≠ some (.call (.updateRef id target candidate expected) next) := by
  intro hpending
  have hguarded := decidedAside_extends.guarded (fun _ _ => trivial) hconfig
  obtain ⟨w, p⟩ := config
  obtain rfl : p = _ := hpending
  obtain ⟨k, ⟨hb, -⟩, hkeeps⟩ := hguarded
  obtain ⟨found, hdelivers, rfl, -⟩ := hkeeps.1
  have hfound := (hb.record found hdelivers.record).2
  rw [hstored] at hfound
  have hvalidating := hdelivers.status
  rw [← Option.some.inj hfound, hfailed] at hvalidating
  cases hvalidating

/-- By induction on the run after the decision. -/
theorem decisions_final {config later : Config} (hconfig : Reachable decidedAside config)
    (hlater : Relation.ReflTransGen ((machine decidedAside).Step IsCall) config later) (id : String)
    (attempt : IntegrationAttempt) (hstored : config.1.attempts id = some attempt) :
    ∃ next, later.1.attempts id = some next ∧ (attempt.status = .failed → next.status = .failed ∧
        ∀ target candidate expected rest, later.2 ≠ some (.call (.updateRef id target candidate expected) rest)) ∧
      (attempt.manuallyResolved = true → next.resolution = attempt.resolution) := by
  have hreached : Reachable decidedAside later := by
    obtain ⟨w, hw, hsteps⟩ := hconfig
    exact ⟨w, hw, hsteps.trans hlater⟩
  have hkept : ∃ next, later.1.attempts id = some next ∧ KeepsDecision attempt next := by
    induction hlater with
    | refl => exact ⟨attempt, hstored, .refl attempt⟩
    | tail hbefore hstep ih =>
      obtain ⟨w, hw, hsteps⟩ := hconfig
      have hmiddle := (⟨w, hw, hsteps.trans hbefore⟩ : Reachable decidedAside _)
      obtain ⟨next, hnext, hkept⟩ := ih hmiddle
      obtain ⟨last, hlast, hkeeps⟩ := step_keepsDecisions hmiddle hstep id next hnext
      exact ⟨last, hlast, hkept.trans hkeeps⟩
  obtain ⟨next, hnext, hkept⟩ := hkept
  refine ⟨next, hnext, fun hfailed => ⟨hkept.failed hfailed, ?_⟩, hkept.manual⟩
  exact fun target candidate expected rest =>
    failed_not_delivered hreached hnext (hkept.failed hfailed) target candidate expected rest

end Steps

section Example

def sampleDecision (action : ResolutionAction) : ResolutionDecision := ⟨action, "reason", "leader"⟩

/-- The attempt that is made by hand waits for a decision. -/
def pausedWorld : World :=
  (Program.run (play nothingFails) (emptyWorld.store (sampleAttempt .manual)) sampleCall).2

theorem paused_reachable {limits : Limits} (hcreates : limits.allows emptyWorld .creates)
    (hanswers : ∀ w c answer, limits.answers w c answer) : Reachable limits (pausedWorld, none) :=
  (created_reachable hcreates .manual).begin.ran hanswers nothingFails

def rejectedWorld : World := pausedWorld.resolve "i" (sampleDecision .reject)

def resolvedWorld : World := pausedWorld.resolve "i" (sampleDecision .manualResolution)

/-- A decision on the paused attempt, and the call after it. -/
theorem decided_later (action : ResolutionAction) :
    Reachable decidedAside (pausedWorld.resolve "i" (sampleDecision action), none) ∧
      Relation.ReflTransGen ((machine decidedAside).Step IsCall)
        (pausedWorld.resolve "i" (sampleDecision action), none)
        ((Program.run (play nothingFails) (pausedWorld.resolve "i" (sampleDecision action)) sampleCall).2, none) := by
  obtain ⟨hlock, hmanual⟩ : pausedWorld.integrating = none ∧
      (pausedWorld.attempts "i").map IntegrationAttempt.manuallyResolved = some false := by decide +kernel
  have hcreates : decidedAside.allows emptyWorld .creates := fun _ h => by cases h
  have hpaused : Reachable decidedAside (pausedWorld, none) := paused_reachable hcreates fun _ _ _ => trivial
  constructor
  · refine hpaused.resolved "i" (sampleDecision action) fun found hfound other hother => ?_
    obtain rfl := ChangeKind.resolves.inj hother
    rw [hfound] at hmanual
    rw [hlock]
    exact ⟨fun h => (by cases h), Option.some.inj hmanual⟩
  · have hperform : ∀ w c, (machine decidedAside).performs w c (play nothingFails w c).1
        (play nothingFails w c).2 := fun w c => ⟨play_performs nothingFails w c, trivial⟩
    exact .head (.begin _ _ (.inl ⟨"i", true, rfl⟩)) (Machine.steps_run _ _ hperform _ _)

theorem decisions_final_sample : (∃ attempt next, rejectedWorld.attempts "i" = some attempt ∧
      attempt.status = .failed ∧
      (Program.run (play nothingFails) rejectedWorld sampleCall).2.attempts "i" = some next ∧ next.status = .failed) ∧
    ∃ attempt next, resolvedWorld.attempts "i" = some attempt ∧ attempt.manuallyResolved = true ∧
      (Program.run (play nothingFails) resolvedWorld sampleCall).2.attempts "i" = some next ∧
      next.resolution = attempt.resolution := by
  obtain ⟨hstatus, hmanual⟩ : (rejectedWorld.attempts "i").map IntegrationAttempt.status = some .failed ∧
      (resolvedWorld.attempts "i").map IntegrationAttempt.manuallyResolved = some true := by decide +kernel
  constructor
  · obtain ⟨attempt, hattempt, hfailed⟩ := Option.map_eq_some_iff.1 hstatus
    obtain ⟨hreached, hlater⟩ := decided_later .reject
    obtain ⟨next, hnext, hkept, -⟩ := decisions_final hreached hlater "i" attempt hattempt
    exact ⟨attempt, next, hattempt, hfailed, hnext, (hkept hfailed).1⟩
  · obtain ⟨attempt, hattempt, hresolved⟩ := Option.map_eq_some_iff.1 hmanual
    obtain ⟨hreached, hlater⟩ := decided_later .manualResolution
    obtain ⟨next, hnext, -, hkept⟩ := decisions_final hreached hlater "i" attempt hattempt
    exact ⟨attempt, next, hattempt, hresolved, hnext, hkept hresolved⟩

/-- Every change may come at any time. -/
def anytime : Limits := ⟨fun _ _ => True, fun _ _ _ => True⟩

/-- The second call, on the manual resolution, up to its first save. -/
def underwayWorld : World :=
  (Machine.advance (play nothingFails) 12
    (pausedWorld.resolve "i" (sampleDecision .manualResolution), sampleCall)).1

def underwayRest : Call Unit :=
  (Machine.advance (play nothingFails) 12
    (pausedWorld.resolve "i" (sampleDecision .manualResolution), sampleCall)).2

/-- The rejection of an attempt while its integration is under way. -/
def overruledWorld : World := underwayWorld.resolve "i" (sampleDecision .reject)

def overrulingWorld : World := (Program.run (play nothingFails) overruledWorld underwayRest).2

theorem rejection_overwritten : Reachable anytime (overruledWorld, some underwayRest) ∧
    Relation.ReflTransGen ((machine anytime).Step IsCall) (overruledWorld, some underwayRest)
      (overrulingWorld, none) ∧
      (overruledWorld.attempts "i").map IntegrationAttempt.status = some .failed ∧
        (overrulingWorld.attempts "i").map IntegrationAttempt.status = some .committed ∧
          overruledWorld.delivered = [] ∧ overrulingWorld.delivered = [("i", "c")] := by
  have hpaused : Reachable anytime (pausedWorld, none) := paused_reachable trivial fun _ _ _ => trivial
  have hresolved := hpaused.resolved "i" (sampleDecision .manualResolution) fun _ _ => trivial
  have hunderway : Reachable anytime (underwayWorld, some underwayRest) :=
    hresolved.begin.played (fun _ _ _ => trivial) nothingFails 12
  have hperform : ∀ w c, (machine anytime).performs w c (play nothingFails w c).1
      (play nothingFails w c).2 := fun w c => ⟨play_performs nothingFails w c, trivial⟩
  refine ⟨hunderway.resolved "i" (sampleDecision .reject) fun _ _ => trivial,
    Machine.steps_run _ _ hperform _ _, ?_⟩
  decide +kernel

end Example

end GitIntegration
