import Yui.IntegrationInvariant

/-!
# Deliveries of Integrations

The target ref of an attempt moves only to the validated candidate that its record proves. An attempt whose
`update-ref` took effect is committed or stays validating, as long as the preparation of its worktree does
not fail then and no other delivery brings its target back to where it began.
-/

open Program Protocol

namespace GitIntegration

section Proved

/-- The record for which `update-ref` is issued, and the evidence in it. -/
def ProvedDelivery (w : World) (id : String) (target : Target) (candidate expected : String) : Prop :=
  ∃ attempt checks, w.attempts id = some attempt ∧ attempt.target = target ∧
    attempt.beforeCommit = expected ∧ attempt.candidateCommit = some candidate ∧
      attempt.status = .validating ∧ attempt.checks = some checks ∧ anyFailed checks = false ∧
        (attempt.jobId ≠ none → ∃ jobId job, w.jobs jobId = some job ∧ Proves attempt candidate job)

theorem Proves.ended {attempt : IntegrationAttempt} {candidate : String} {job : CheckJob}
    (h : Proves attempt candidate job) : job.status.active = false := by
  obtain ⟨results, reason, hresult, -⟩ := h.steps
  have hstatus : AttemptStatus.validating = .validating ∧ CheckJobStatus.succeeded = job.status :=
    ⟨rfl, job.agrees _ (by rw [hresult]; rfl)⟩
  rw [← hstatus.2]
  rfl

theorem Base.proved {w : World} {k : Knowledge} (hb : Base w k) {id candidate expected : String}
    {target : Target} (hc : (Command.updateRef id target candidate expected).permitted k) :
    ProvedDelivery w id target candidate expected := by
  obtain ⟨attempt, hdelivers, rfl, rfl, rfl⟩ := hc
  obtain ⟨-, hstored⟩ := hb.record attempt hdelivers.record
  obtain ⟨checks, hchecks, hpassed⟩ := (hb.evidence _ _ hstored).checks hdelivers.status
  refine ⟨attempt, checks, hstored, rfl, rfl, hdelivers.stored, hdelivers.status, hchecks, hpassed, ?_⟩
  intro hbound
  obtain ⟨job, hjob, hproves⟩ := hdelivers.evidence hbound
  obtain ⟨jobId, hjobId⟩ := hb.job job hjob hproves.ended
  exact ⟨jobId, job, hjobId, hproves⟩

/-- The attempt becomes committed by a call that saw its target at the candidate. -/
def BecameCommitted (w w' : World) (id : String) : Prop :=
  ∀ attempt, w'.attempts id = some attempt → attempt.status = .committed →
    (∃ old, w.attempts id = some old ∧ old.status = .committed) ∨
      ∃ candidate, attempt.candidateCommit = some candidate ∧ attempt.afterCommit = some candidate ∧
        w.seen = some (attempt.target, candidate)

theorem Follows.committed {k : Knowledge} {attempt next : IntegrationAttempt} (h : Follows k attempt next)
    (hnext : next.status = .committed) : attempt.status = .committed ∨
      ∃ candidate, next.candidateCommit = some candidate ∧ next.afterCommit = some candidate ∧
        k.target = some (next.target, candidate) := by
  cases h with
  | progresses h hunfinished =>
    rw [hnext] at hunfinished
    cases hunfinished
  | validates candidate checks h hchecks hvalidating =>
    subst hvalidating
    cases hnext
  | commits candidate summary h hcandidate htarget hcommitted =>
    subst hcommitted
    exact .inr ⟨candidate, hcandidate, rfl, htarget⟩
  | fails h hfailed | unprepared hprepared h hfailed | incomplete h hevidence hfailed
  | unadvanced h htarget hfailed =>
    rw [hnext] at hfailed
    cases hfailed
  | diagnoses summary hsame =>
    subst hsame
    exact .inl hnext

theorem Base.committed_perform {w w' : World} {k : Knowledge} (hb : Base w k) {c : Command}
    {answer : Except String c.Answer} (hc : c.permitted k) (h : Performs w c answer w') (id : String) :
    BecameCommitted w w' id := by
  intro attempt hstored hcommitted
  obtain hsame | ⟨k', old, next, hold, hidentity, htarget, hfollows, rfl⟩ := hb.stores hc h
  · rw [hsame] at hstored
    exact .inl ⟨attempt, hstored, hcommitted⟩
  · obtain ⟨hid, rfl⟩ | ⟨-, hother⟩ := w.store_cases hstored
    · obtain hbefore | ⟨candidate, hcandidate, hafter, hseen⟩ := hfollows.committed hcommitted
      · refine .inl ⟨old, ?_, hbefore⟩
        rw [hid, hidentity.id]
        exact hold
      · exact .inr ⟨candidate, hcandidate, hafter, hb.seen _ (htarget ▸ hseen)⟩
    · exact .inl ⟨attempt, hother, hcommitted⟩

theorem committed_change {w w' : World} {kind : ChangeKind} (h : Change w kind w') (id : String) :
    BecameCommitted w w' id := by
  intro attempt hstored hcommitted
  have hstore : ∀ next : IntegrationAttempt, next.status ≠ .committed →
      (w.store next).attempts id = some attempt → ∃ old, w.attempts id = some old ∧
        old.status = .committed := by
    intro next hnext h
    obtain ⟨-, rfl⟩ | ⟨-, hother⟩ := w.store_cases h
    · exact absurd hcommitted hnext
    · exact ⟨attempt, hother, hcommitted⟩
  cases h with
  | creates next hfree h => exact .inl (hstore next (by rw [h.status]; exact nofun) hstored)
  | job jobId job h => exact .inl ⟨attempt, hstored, hcommitted⟩
  | moves target value => exact .inl ⟨attempt, hstored, hcommitted⟩
  | resolves old next decision h hnext =>
    refine .inl (hstore next (fun hstatus => ?_) hstored)
    obtain ⟨hunfinished, hfailed | hsame, -⟩ := resolve_ok hnext
    · rw [hstatus] at hfailed
      cases hfailed
    · rw [← hsame, hstatus] at hunfinished
      cases hunfinished

/-- No attempt is resolved while `integrate` runs for it. -/
def ResolvesOutside (w : World) (kind : ChangeKind) : Prop :=
  ∀ attempt, kind = .resolves attempt → w.integrating ≠ some attempt.id

/-- Attempts are created and resolved, Jobs run, and other Git users move refs. -/
def otherGitUsers : Limits where
  allows := ResolvesOutside
  answers := fun _ _ _ => True

variable [CheckHost]

omit [CheckHost] in
theorem otherGitUsers_extends : Extends otherGitUsers fun _ _ => True where
  resolves := fun _ attempt h => h attempt rfl
  perform := fun _ _ _ _ _ _ _ _ _ _ => trivial
  change := fun _ _ _ _ _ _ _ _ => trivial
  rest := fun _ _ _ => trivial
  forget := fun _ _ _ => trivial

theorem delivers_what_it_proved {config : Config} (hconfig : Reachable otherGitUsers config) :
    (∀ id target candidate expected next, config.2 = some (.call (.updateRef id target candidate expected) next) →
        ProvedDelivery config.1 id target candidate expected) ∧
      ∀ later, (machine otherGitUsers).Step IsCall config later → ∀ id, BecameCommitted config.1 later.1 id := by
  have hguarded := otherGitUsers_extends.guarded (fun _ _ => trivial) hconfig
  refine ⟨fun id target candidate expected next hpending => ?_, fun later hstep id => ?_⟩
  · obtain ⟨w, p⟩ := config
    obtain rfl : p = _ := hpending
    obtain ⟨k, ⟨hb, -⟩, hkeeps⟩ := hguarded
    exact hb.proved hkeeps.1
  · cases hstep with
    | perform w w' c rest answer h =>
      obtain ⟨k, ⟨hb, -⟩, hkeeps⟩ := hguarded
      exact hb.committed_perform hkeeps.1 h.1 id
    | change w w' p h =>
      obtain ⟨kind, -, hchange⟩ := h
      exact committed_change hchange id
    | _ => exact fun attempt hstored hcommitted => .inl ⟨attempt, hstored, hcommitted⟩

end Proved

section Example

/-- The arguments of an `update-ref` that is issued next. -/
def pendingUpdate : Call Unit → Option (String × Target × String × String)
  | .call (.updateRef id target candidate expected) _ => some (id, target, candidate, expected)
  | _ => none

theorem pendingUpdate_some {p : Call Unit} {id candidate expected : String} {target : Target}
    (h : pendingUpdate p = some (id, target, candidate, expected)) :
    ∃ next, p = .call (.updateRef id target candidate expected) next := by
  unfold pendingUpdate at h
  split at h
  · next next =>
    cases h
    exact ⟨next, rfl⟩
  · cases h

/-- The example after a number of commands of its first call. -/
def sampleWorld (n : ℕ) : World :=
  (Machine.advance (play nothingFails) n (emptyWorld.store (sampleAttempt .ff), sampleCall)).1

def sampleRest (n : ℕ) : Call Unit :=
  (Machine.advance (play nothingFails) n (emptyWorld.store (sampleAttempt .ff), sampleCall)).2

theorem sample_reachable {limits : Limits} (hcreates : limits.allows emptyWorld .creates)
    (hanswers : ∀ w c answer, limits.answers w c answer) (n : ℕ) :
    Reachable limits (sampleWorld n, some (sampleRest n)) :=
  (created_reachable hcreates .ff).begin.played hanswers nothingFails n

theorem delivers_what_it_proved_sample :
    ProvedDelivery (sampleWorld 50) "i" ⟨"t", "main"⟩ "c" "b" := by
  have hpending : pendingUpdate (sampleRest 50) = some ("i", ⟨"t", "main"⟩, "c", "b") := by rfl
  obtain ⟨next, hnext⟩ := pendingUpdate_some hpending
  have hreached : Reachable otherGitUsers (sampleWorld 50, some (sampleRest 50)) :=
    sample_reachable (fun _ => nofun) (fun _ _ _ => trivial) 50
  exact (delivers_what_it_proved hreached).1 _ _ _ _ next (congrArg some hnext)

/-- Another Git user moves the target after the `update-ref` of the call. -/
def offTarget : World := (sampleWorld 51).move ⟨"t", "main"⟩ "x"

def offTargetNext : Config :=
  ((Machine.advance (play nothingFails) 1 (offTarget, sampleRest 51)).1,
    some (Machine.advance (play nothingFails) 1 (offTarget, sampleRest 51)).2)

theorem committed_off_target : Reachable otherGitUsers (offTarget, some (sampleRest 51)) ∧
    (machine otherGitUsers).Step IsCall (offTarget, some (sampleRest 51)) offTargetNext ∧
      (offTarget.attempts "i").map IntegrationAttempt.status = some .validating ∧
        (offTargetNext.1.attempts "i").map (fun attempt => (attempt.status, attempt.candidateCommit)) =
          some (.committed, some "c") ∧
          offTarget.refs ⟨"t", "main"⟩ = "x" ∧ offTargetNext.1.refs ⟨"t", "main"⟩ = "x" := by
  have hreached : Reachable otherGitUsers (sampleWorld 51, some (sampleRest 51)) :=
    sample_reachable (fun _ => nofun) (fun _ _ _ => trivial) 51
  have hfacts : (Machine.performed (play nothingFails) 1 (offTarget, sampleRest 51)).isEmpty = false ∧
      (offTarget.attempts "i").map IntegrationAttempt.status = some .validating ∧
        (offTargetNext.1.attempts "i").map (fun attempt => (attempt.status, attempt.candidateCommit)) =
          some (.committed, some "c") ∧
          offTarget.refs ⟨"t", "main"⟩ = "x" ∧ offTargetNext.1.refs ⟨"t", "main"⟩ = "x" := by
    decide +kernel
  refine ⟨hreached.step (.change _ _ _ ⟨.moves, fun _ => nofun, .moves _ _⟩), ?_, hfacts.2⟩
  refine Machine.step_advance _ _ (fun hnil => ?_) fun c => ⟨play_performs nothingFails _ c, trivial⟩
  have hperformed := hfacts.1
  rw [hnil] at hperformed
  cases hperformed

end Example

section Kept

/-- `update-ref` has moved the target of the attempt to the candidate, and away from where it began. -/
def Delivered (w : World) (attempt : IntegrationAttempt) (candidate : String) : Prop :=
  (attempt.id, candidate) ∈ w.delivered ∧ candidate ≠ attempt.beforeCommit

structure KeptDelivery (w : World) (k : Knowledge) : Prop where
  stored : ∀ id candidate, (id, candidate) ∈ w.delivered → w.attempts id ≠ none
  delivered : ∀ id attempt candidate, w.attempts id = some attempt → Delivered w attempt candidate →
    attempt.status = .committed ∨ (attempt.status = .validating ∧
      attempt.candidateCommit = some candidate ∧ w.refs attempt.target ≠ attempt.beforeCommit)
  target : ∀ target value, k.target = some (target, value) → w.refs target = value
  prepared : k.unprepared = true → ∀ id attempt candidate, w.integrating = some id →
    w.attempts id = some attempt → attempt.status = .validating → ¬ Delivered w attempt candidate

/-- A preparation does not fail for a validating attempt that has been delivered, and no delivery brings
the target of another one back to where that one began. -/
def Spares (w : World) : (c : Command) → Except String c.Answer → Prop
  | .ensureWorktree id, .error _ | .registerWorkspace id, .error _ =>
    ∀ attempt candidate, w.attempts id = some attempt → attempt.status = .validating →
      ¬ Delivered w attempt candidate
  | .updateRef id target commit _, _ =>
    ∀ other attempt candidate, other ≠ id → w.attempts other = some attempt →
      attempt.target = target → attempt.status = .validating → Delivered w attempt candidate →
        commit ≠ attempt.beforeCommit
  | _, _ => True

/-- Attempts are created and resolved, and Jobs run. -/
def undisturbed : Limits where
  allows := fun w kind => kind ≠ .moves ∧ ResolvesOutside w kind
  answers := Spares

variable {w w' : World} {k k' : Knowledge} {attempt next : IntegrationAttempt}

variable {candidate : String}

theorem KeptDelivery.follows (hk : KeptDelivery w k) (hevidence : Evidence attempt)
    (hstored : w.attempts attempt.id = some attempt) (htarget : k'.target = k.target)
    (hprepared : k'.unprepared = true → k.unprepared = true ∧ w.integrating = some attempt.id)
    (hfollows : Follows k' attempt next) (hdelivered : Delivered w attempt candidate) : next.status = .committed ∨
      (next.status = .validating ∧ next.candidateCommit = some candidate ∧
        w.refs attempt.target ≠ attempt.beforeCommit) := by
  obtain hcommitted | ⟨hvalidating, hcandidate, hmoved⟩ :=
    hk.delivered _ attempt candidate hstored hdelivered
  · refine .inl ?_
    rw [hfollows.terminal (by rw [hcommitted]; rfl)]
    exact hcommitted
  cases hfollows with
  | progresses h hnext =>
    rw [hvalidating] at h
    cases h
  | validates candidate checks h =>
    rw [hvalidating] at h
    cases h
  | commits candidate summary h hcandidate htarget hnext =>
    subst hnext
    exact .inl rfl
  | fails h =>
    rw [hvalidating] at h
    cases h
  | unprepared hunprepared h =>
    obtain ⟨hflag, hlock⟩ := hprepared hunprepared
    exact absurd hdelivered (hk.prepared hflag _ attempt candidate hlock hstored hvalidating)
  | incomplete h hmissing =>
    obtain ⟨checks, hchecks, -⟩ := hevidence.checks hvalidating
    obtain hnone | hnone := hmissing
    · rw [hcandidate] at hnone
      cases hnone
    · rw [hchecks] at hnone
      cases hnone
  | unadvanced h hseen =>
    rw [htarget] at hseen
    exact absurd (hk.target _ _ hseen) hmoved
  | diagnoses summary hnext =>
    subst hnext
    exact .inr ⟨hvalidating, hcandidate, hmoved⟩

theorem Delivered.before (hsame : SameAttempt attempt next)
    (h : Delivered (w.store next) next candidate) : Delivered w attempt candidate := by
  obtain ⟨hmem, hne⟩ := h
  rw [hsame.id] at hmem
  rw [hsame.beforeCommit] at hne
  exact ⟨hmem, hne⟩

variable {t : Knowledge}

theorem KeptDelivery.store (hk : KeptDelivery w k) (hevidence : Evidence attempt)
    (hstored : w.attempts attempt.id = some attempt) (hsame : SameAttempt attempt next)
    (htarget : k'.target = k.target)
    (hprepared : k'.unprepared = true → k.unprepared = true ∧ w.integrating = some attempt.id)
    (hfollows : Follows k' attempt next) (ht : t.target = k.target)
    (hunprepared : t.unprepared = k.unprepared) : KeptDelivery (w.store next) t where
  stored := by
    intro id candidate hmem hnone
    by_cases hid : id = next.id
    · subst hid
      rw [w.store_self] at hnone
      cases hnone
    · rw [w.store_other hid] at hnone
      exact hk.stored id candidate hmem hnone
  delivered := by
    intro id found candidate hfound hdelivered
    obtain ⟨-, rfl⟩ | ⟨-, hother⟩ := w.store_cases hfound
    · rw [hsame.target, hsame.beforeCommit]
      exact hk.follows hevidence hstored htarget hprepared hfollows (hdelivered.before hsame)
    · exact hk.delivered id found candidate hother hdelivered
  target := fun target value h => hk.target target value (ht ▸ h)
  prepared := by
    intro hflag id found candidate hlock hfound hvalidating hdelivered
    obtain ⟨hid, rfl⟩ | ⟨-, hother⟩ := w.store_cases hfound
    · have hbefore := hdelivered.before hsame
      obtain hcommitted | ⟨hold, -, -⟩ := hk.delivered _ attempt candidate hstored hbefore
      · have hterminal := hfollows.terminal (by rw [hcommitted]; rfl)
        rw [hvalidating, hcommitted] at hterminal
        cases hterminal
      · refine hk.prepared (hunprepared ▸ hflag) _ attempt candidate ?_ hstored hold hbefore
        rw [← hsame.id, ← hid]
        exact hlock
    · exact hk.prepared (hunprepared ▸ hflag) id found candidate hlock hother hvalidating hdelivered

theorem KeptDelivery.advance {seen : Option (Target × String)}
    (hk : KeptDelivery w k) (hb : Base w k) (hdelivers : Delivers k attempt candidate)
    (hspares : ∀ other found commit, other ≠ attempt.id → w.attempts other = some found →
      found.target = attempt.target → found.status = .validating → Delivered w found commit →
        candidate ≠ found.beforeCommit) (ht : ∀ value, t.target = some value → value = (attempt.target, candidate))
    (hunprepared : t.unprepared = false) : KeptDelivery (w.advance attempt.id attempt.target candidate seen) t where
  stored := by
    intro id commit hmem
    obtain hhead | htail := List.mem_cons.1 hmem
    · obtain ⟨rfl, rfl⟩ := Prod.mk.inj hhead
      intro hnone
      have hstored := (hb.record attempt hdelivers.record).2
      rw [show w.attempts attempt.id = none from hnone] at hstored
      cases hstored
    · exact hk.stored id commit htail
  delivered := by
    intro id found commit hfound hdelivered
    have hstored := (hb.record attempt hdelivers.record).2
    have hown : id = attempt.id → found = attempt := by
      rintro rfl
      exact Option.some.inj ((show w.attempts attempt.id = some found from hfound).symm.trans hstored)
    have hmoved : found.target = attempt.target → candidate ≠ found.beforeCommit →
        Function.update w.refs attempt.target candidate found.target ≠ found.beforeCommit := by
      intro htarget hne
      rw [htarget, Function.update_self]
      exact hne
    obtain hhead | htail := List.mem_cons.1 hdelivered.1
    · obtain ⟨hid, rfl⟩ := Prod.mk.inj hhead
      obtain rfl := hown ((w.keyed id found hfound).symm.trans hid)
      exact .inr ⟨hdelivers.status, hdelivers.stored, hmoved rfl hdelivered.2⟩
    · obtain hcommitted | ⟨hvalidating, hcandidate, hold⟩ :=
        hk.delivered id found commit hfound ⟨htail, hdelivered.2⟩
      · exact .inl hcommitted
      refine .inr ⟨hvalidating, hcandidate, ?_⟩
      by_cases htarget : found.target = attempt.target
      · refine hmoved htarget ?_
        by_cases hid : id = attempt.id
        · obtain rfl := hown hid
          rw [← Option.some.inj (hcandidate.symm.trans hdelivers.stored)]
          exact hdelivered.2
        · exact hspares id found commit hid hfound htarget hvalidating ⟨htail, hdelivered.2⟩
      · have hrefs : (w.advance attempt.id attempt.target candidate seen).refs found.target =
            w.refs found.target := Function.update_of_ne htarget _ _
        rw [hrefs]
        exact hold
  target := by
    intro target value h
    obtain ⟨rfl, rfl⟩ := Prod.mk.inj (ht (target, value) h)
    exact Function.update_self _ _ _
  prepared := by
    intro hflag
    rw [hunprepared] at hflag
    cases hflag

/-- A command that leaves the store and the refs. -/
theorem KeptDelivery.still (hk : KeptDelivery w k) (hattempts : w'.attempts = w.attempts)
    (hrefs : w'.refs = w.refs) (hdelivered : w'.delivered = w.delivered)
    (ht : ∀ target value, t.target = some (target, value) → w.refs target = value)
    (hprepared : t.unprepared = true → ∀ id attempt candidate, w'.integrating = some id →
      w.attempts id = some attempt → attempt.status = .validating → ¬ Delivered w attempt candidate) :
    KeptDelivery w' t where
  stored := by
    rw [hattempts, hdelivered]
    exact hk.stored
  delivered := by
    unfold Delivered
    rw [hattempts, hrefs, hdelivered]
    exact hk.delivered
  target := by
    rw [hrefs]
    exact ht
  prepared := by
    unfold Delivered
    rw [hattempts, hdelivered]
    exact hprepared

theorem KeptDelivery.fails (hk : KeptDelivery w k) (hb : Base w k) {c : Command} {error : String}
    (hc : c.permitted k) (hspares : Spares w c (.error error)) : KeptDelivery w (k.after c (.error error)) := by
  have hunprepared : ∀ id, (∃ attempt, k.record = some attempt ∧ attempt.id = id) →
      (∀ attempt candidate, w.attempts id = some attempt → attempt.status = .validating →
        ¬ Delivered w attempt candidate) → KeptDelivery w { k with unprepared := true } := by
    rintro id ⟨attempt, hrecord, rfl⟩ hfree
    refine hk.still rfl rfl rfl hk.target fun _ other found candidate hlock hfound => ?_
    have hid := (hb.record attempt hrecord).1.symm.trans hlock
    rw [← Option.some.inj hid] at hfound
    exact hfree found candidate hfound
  cases c with
  | ensureWorktree id => exact hunprepared id hc hspares
  | registerWorkspace id => exact hunprepared id hc hspares
  | updateRef id target candidate expected =>
    exact hk.still rfl rfl rfl (fun _ _ h => (by cases h)) fun h => (by cases h)
  | acquire integrating =>
    exact hk.still rfl rfl rfl (fun _ _ h => (by cases h)) fun h => (by cases h)
  | release => exact hk.still rfl rfl rfl hk.target hk.prepared
  | _ => exact hk

theorem KeptDelivery.perform (hk : KeptDelivery w k) (hb : Base w k) {c : Command}
    {answer : Except String c.Answer} (hc : c.permitted k) (h : Performs w c answer w')
    (hspares : Spares w c answer) : KeptDelivery w' (k.after c answer) := by
  cases h with
  | fails c error h => exact hk.fails hb hc hspares
  | reads c answer h =>
    cases c with
    | preview | load | inspect | save | replace | acquire | release | resolveRef | updateRef
    | startCheckJob | portJob | storedJob => exact h.elim
    | _ => exact hk
  | save next =>
    obtain ⟨attempt, hrecord, hsame, hfollows⟩ := hc
    obtain ⟨hlock, hstored⟩ := hb.record attempt hrecord
    exact hk.store (hb.evidence _ _ hstored) hstored hsame rfl (fun h => ⟨h, hlock⟩) hfollows rfl rfl
  | replace expected next hstored =>
    obtain ⟨-, hsame, hfollows⟩ := hc
    refine hk.store (hb.evidence _ _ hstored) hstored hsame ?_ ?_ hfollows rfl rfl
    · rfl
    · exact fun h => by cases h
  | acquire integrating =>
    exact hk.still rfl rfl rfl (fun _ _ h => (by cases h)) fun h => (by cases h)
  | release => exact hk.still rfl rfl rfl hk.target fun _ _ _ _ h => (by cases h)
  | resolveRef target =>
    refine hk.still rfl rfl rfl (fun other value h => ?_) hk.prepared
    obtain ⟨rfl, rfl⟩ := Prod.mk.inj (Option.some.inj h)
    rfl
  | updateRef id target candidate expected h =>
    obtain ⟨attempt, hdelivers, rfl, rfl, rfl⟩ := hc
    exact hk.advance hb hdelivers hspares (fun value h => (Option.some.inj h).symm) rfl
  | updateRefCut id target candidate expected error h =>
    obtain ⟨attempt, hdelivers, rfl, rfl, rfl⟩ := hc
    exact hk.advance hb hdelivers hspares (fun value h => (by cases h)) rfl
  | storedJob jobId =>
    cases hjob : w.jobs jobId
    · exact hk
    · exact hk.still rfl rfl rfl hk.target hk.prepared
  | _ => exact hk.still rfl rfl rfl hk.target hk.prepared

theorem KeptDelivery.adds (hk : KeptDelivery w k) (hnew : ∀ candidate, ¬ Delivered w next candidate) :
    KeptDelivery (w.store next) k := by
  refine ⟨fun id candidate hmem hnone => ?_, fun id found candidate hfound hdelivered => ?_,
    hk.target, fun hflag id found candidate hlock hfound hvalidating => ?_⟩
  · by_cases hid : id = next.id
    · subst hid
      rw [w.store_self] at hnone
      cases hnone
    · rw [w.store_other hid] at hnone
      exact hk.stored id candidate hmem hnone
  · obtain ⟨-, rfl⟩ | ⟨-, hother⟩ := w.store_cases hfound
    · exact absurd hdelivered (hnew candidate)
    · exact hk.delivered id found candidate hother hdelivered
  · obtain ⟨-, rfl⟩ | ⟨-, hother⟩ := w.store_cases hfound
    · exact hnew candidate
    · exact hk.prepared hflag id found candidate hlock hother hvalidating

theorem KeptDelivery.change (hk : KeptDelivery w k) {kind : ChangeKind} (hkind : kind ≠ .moves)
    (h : Change w kind w') : KeptDelivery w' k := by
  cases h with
  | creates attempt hfree hfresh =>
    -- No candidate is recorded for an attempt that is not stored yet.
    exact hk.adds fun candidate hdelivered => hk.stored _ candidate hdelivered.1 hfree
  | job jobId job h => exact hk.still rfl rfl rfl hk.target hk.prepared
  | moves target value => exact absurd rfl hkind
  | resolves attempt next decision h hnext =>
    -- A paused attempt has not been delivered.
    have hunfinished := (resolve_ok hnext).1
    obtain ⟨-, rfl⟩ := resolution_ok hnext
    refine hk.adds fun candidate hdelivered => ?_
    obtain hcommitted | ⟨hvalidating, -⟩ := hk.delivered _ attempt candidate h hdelivered
    · rw [hcommitted] at hunfinished
      cases hunfinished
    · rw [hvalidating] at hunfinished
      cases hunfinished

variable [CheckHost]

omit [CheckHost] in
theorem undisturbed_extends : Extends undisturbed KeptDelivery where
  resolves := fun _ attempt h => h.2 attempt rfl
  perform := fun w k c answer w' hb hk hc h hspares => hk.perform hb hc h hspares
  change := fun w k kind w' _ hk hallows h => hk.change hallows.1 h
  rest := fun w k hk => hk.still rfl rfl rfl (fun _ _ h => (by cases h)) fun h => (by cases h)
  forget := fun w k hk => hk.still rfl rfl rfl (fun _ _ h => (by cases h)) fun h => (by cases h)

theorem delivered_never_failed {config : Config} (hconfig : Reachable undisturbed config) (id : String)
    (attempt : IntegrationAttempt) (candidate : String) (hstored : config.1.attempts id = some attempt)
    (hdelivered : (id, candidate) ∈ config.1.delivered) (hmoved : candidate ≠ attempt.beforeCommit) :
    attempt.status = .committed ∨ attempt.status = .validating := by
  have hstart : ∀ w, Start w → KeptDelivery w {} := by
    intro w hw
    refine ⟨fun id candidate hmem => ?_, fun id found candidate hfound => ?_, nofun,
      nofun⟩
    · rw [hw.delivered] at hmem
      cases hmem
    · rw [hw.attempts] at hfound
      cases hfound
  have hguarded := undisturbed_extends.guarded hstart hconfig
  obtain ⟨w, p⟩ := config
  have hkept : ∃ k, KeptDelivery w k := by
    cases p with
    | none => exact ⟨{}, hguarded.2⟩
    | some p =>
      obtain ⟨k, ⟨-, hk⟩, -⟩ := hguarded
      exact ⟨k, hk⟩
  obtain ⟨k, hk⟩ := hkept
  have hkey := w.keyed id attempt hstored
  obtain h | h := hk.delivered id attempt candidate hstored ⟨hkey.symm ▸ hdelivered, hmoved⟩
  · exact .inl h
  · exact .inr h.1

end Kept

section Example

theorem spares_undelivered {w : World} {c : Command} (hw : w.delivered = [])
    (answer : Except String c.Answer) : Spares w c answer := by
  have hnone : ∀ attempt candidate, ¬ Delivered w attempt candidate := by
    rintro attempt candidate ⟨hmem, -⟩
    rw [hw] at hmem
    cases hmem
  cases c with
  | ensureWorktree id | registerWorkspace id =>
    cases answer with
    | ok value => trivial
    | error error => exact fun attempt candidate _ _ => hnone attempt candidate
  | updateRef id target commit expected =>
    exact fun _ attempt candidate _ _ _ _ h => absurd h (hnone attempt candidate)
  | _ => trivial

theorem delivered_never_failed_sample : ∃ attempt, (sampleWorld 51).attempts "i" = some attempt ∧
    (attempt.status = .committed ∨ attempt.status = .validating) := by
  have hfacts : ((Machine.performed (play nothingFails) 51 (emptyWorld.store (sampleAttempt .ff),
      sampleCall)).all fun pair => pair.1.delivered.isEmpty) = true ∧
      ((sampleWorld 51).attempts "i").map IntegrationAttempt.beforeCommit = some "b" ∧
        ("i", "c") ∈ (sampleWorld 51).delivered := by
    decide +kernel
  have hcreates : undisturbed.allows emptyWorld .creates := ⟨nofun, fun _ => nofun⟩
  have hbegun : Reachable undisturbed (emptyWorld.store (sampleAttempt .ff), some sampleCall) :=
    (created_reachable hcreates .ff).begin
  have hreached : Reachable undisturbed (sampleWorld 51, some (sampleRest 51)) := by
    refine hbegun.steps (Machine.steps_advance _ _ 51 _ _ fun pair hpair => ⟨play_performs _ _ _, ?_⟩)
    exact spares_undelivered (List.isEmpty_iff.1 (List.all_eq_true.1 hfacts.1 pair hpair)) _
  obtain ⟨attempt, hattempt, hbefore⟩ := Option.map_eq_some_iff.1 hfacts.2.1
  refine ⟨attempt, hattempt, delivered_never_failed hreached "i" attempt "c" hattempt hfacts.2.2 ?_⟩
  rw [hbefore]
  decide

/-- The runs of the calls alone, whatever fails. -/
def callsOnly : Limits where
  allows := fun _ kind => kind = .creates ∨ kind = .job
  answers := fun _ _ _ => True

def unprepared : Command → Bool
  | .ensureWorktree _ => true
  | _ => false

/-- The process dies right after `update-ref`, and the next call cannot prepare the worktree. -/
def undeliveredWorld : World := (Program.run (play unprepared) (sampleWorld 51).unlock sampleCall).2

theorem delivered_then_failed : Reachable callsOnly (undeliveredWorld, none) ∧
    (undeliveredWorld.attempts "i").map (fun attempt => (attempt.status, attempt.candidateCommit,
      attempt.beforeCommit)) = some (.failed, some "c", "b") ∧ ("i", "c") ∈ undeliveredWorld.delivered := by
  have hcreates : callsOnly.allows emptyWorld .creates := .inl rfl
  have hreached : Reachable callsOnly (sampleWorld 51, some (sampleRest 51)) :=
    sample_reachable hcreates (fun _ _ _ => trivial) 51
  have hcrashed : Reachable callsOnly ((sampleWorld 51).unlock, none) := hreached.step (.crash _ _ trivial)
  refine ⟨hcrashed.begin.ran (fun _ _ _ => trivial) unprepared, ?_⟩
  decide +kernel

end Example

end GitIntegration
