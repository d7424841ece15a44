import Yui.IntegrationWorld

/-!
# What holds of world and call

While `integrate` is under way its record is the stored one, as long as nobody resolves the attempt under it.
So the record of each `update-ref` is validating in the store, with checks that did not fail.
-/

open Program Protocol

namespace GitIntegration

/-- A validating attempt has checks that did not fail, and a committed one is at its candidate. -/
structure Evidence (attempt : IntegrationAttempt) : Prop where
  checks : attempt.status = .validating →
    ∃ checks, attempt.checks = some checks ∧ anyFailed checks = false
  committed : attempt.status = .committed →
    ∃ candidate, attempt.candidateCommit = some candidate ∧ attempt.afterCommit = some candidate

structure Base (w : World) (k : Knowledge) : Prop where
  record : ∀ attempt, k.record = some attempt →
    w.integrating = some attempt.id ∧ w.attempts attempt.id = some attempt
  evidence : ∀ id attempt, w.attempts id = some attempt → Evidence attempt
  seen : ∀ value, k.target = some value → w.seen = some value
  job : ∀ job, k.job = some job → job.status.active = false → ∃ jobId, w.jobs jobId = some job

section Records

variable {k : Knowledge} {attempt next : IntegrationAttempt}

theorem Follows.evidence (h : Follows k attempt next) (hattempt : Evidence attempt) : Evidence next := by
  cases h with
  | progresses h hnext =>
    refine ⟨fun hstatus => ?_, fun hstatus => ?_⟩ <;> (rw [hstatus] at hnext; cases hnext)
  | validates candidate checks h hchecks hnext =>
    subst hnext
    exact ⟨fun _ => ⟨checks, rfl, hchecks⟩, nofun⟩
  | commits candidate summary h hcandidate htarget hnext =>
    subst hnext
    exact ⟨nofun, fun _ => ⟨candidate, hcandidate, rfl⟩⟩
  | fails h hnext | unprepared hprepared h hnext | incomplete h hevidence hnext
  | unadvanced h htarget hnext =>
    refine ⟨fun hstatus => ?_, fun hstatus => ?_⟩ <;> (rw [hnext] at hstatus; cases hstatus)
  | diagnoses summary hnext =>
    subst hnext
    exact ⟨hattempt.checks, hattempt.committed⟩

theorem Follows.terminal (h : Follows k attempt next) (hattempt : attempt.status.terminal = true) :
    next.status = attempt.status := by
  have hresumable : attempt.status.resumable = false ∧ attempt.status.unfinished = false ∧
      attempt.status ≠ .validating := by
    cases hs : attempt.status <;> rw [hs] at hattempt <;> simp_all [AttemptStatus.terminal,
      AttemptStatus.resumable, AttemptStatus.unfinished]
  obtain ⟨hresumable, hunfinished, hvalidating⟩ := hresumable
  cases h with
  | progresses h | validates candidate checks h | fails h =>
    rw [hunfinished] at h
    cases h
  | commits candidate summary h => exact absurd h hvalidating
  | incomplete h => exact absurd h hvalidating
  | unadvanced h => exact absurd h hvalidating
  | unprepared hprepared h =>
    rw [hresumable] at h
    cases h
  | diagnoses summary hnext =>
    subst hnext
    rfl

theorem Fresh.evidence (h : Fresh attempt) : Evidence attempt :=
  ⟨fun hstatus => (by rw [h.status] at hstatus; cases hstatus),
    fun hstatus => (by rw [h.status] at hstatus; cases hstatus)⟩

/-- A decision is taken on a paused attempt. -/
theorem resolve_ok {decision : ResolutionDecision} (h : recordResolutionDecision attempt decision = .ok next) :
    attempt.status.unfinished = true ∧ (next.status = .failed ∨ next.status = attempt.status) ∧
      next.id = attempt.id := by
  obtain ⟨hstatus, rfl⟩ := resolution_ok h
  refine ⟨?_, ?_, rfl⟩
  · obtain h | h := hstatus <;> rw [h] <;> rfl
  · dsimp only
    split_ifs
    · exact .inl rfl
    · exact .inr rfl

theorem resolve_evidence {decision : ResolutionDecision}
    (h : recordResolutionDecision attempt decision = .ok next) : Evidence next := by
  obtain ⟨hunfinished, hstatus, -⟩ := resolve_ok h
  refine ⟨fun hvalidating => ?_, fun hcommitted => ?_⟩
  · obtain hfailed | hsame := hstatus
    · rw [hvalidating] at hfailed
      cases hfailed
    · rw [← hsame, hvalidating] at hunfinished
      cases hunfinished
  · obtain hfailed | hsame := hstatus
    · rw [hcommitted] at hfailed
      cases hfailed
    · rw [← hsame, hcommitted] at hunfinished
      cases hunfinished

end Records

section Steps

variable {w w' : World} {k : Knowledge}

variable {c : Command}

theorem Base.stores (hb : Base w k) {answer : Except String c.Answer} (hc : c.permitted k)
    (h : Performs w c answer w') : w'.attempts = w.attempts ∨ ∃ k' attempt next,
      w.attempts attempt.id = some attempt ∧ SameAttempt attempt next ∧ k'.target = k.target ∧
        Follows k' attempt next ∧ w' = w.store next := by
  cases h with
  | save next =>
    obtain ⟨attempt, hrecord, hsame, hfollows⟩ := hc
    exact .inr ⟨k, attempt, next, (hb.record attempt hrecord).2, hsame, rfl, hfollows, rfl⟩
  | replace expected next h =>
    exact .inr ⟨{ k with unprepared := false }, expected, next, h, hc.2.1, rfl, hc.2.2, rfl⟩
  | _ => exact .inl rfl

theorem evidence_store {next : IntegrationAttempt} (hw : ∀ id attempt, w.attempts id = some attempt →
    Evidence attempt) (hnext : Evidence next) (id : String) (attempt : IntegrationAttempt)
    (h : (w.store next).attempts id = some attempt) : Evidence attempt := by
  obtain ⟨-, rfl⟩ | ⟨-, hother⟩ := w.store_cases h
  · exact hnext
  · exact hw id attempt hother

theorem Base.evidence_perform (hb : Base w k) {answer : Except String c.Answer}
    (hc : c.permitted k) (h : Performs w c answer w') (id : String) (attempt : IntegrationAttempt)
    (hstored : w'.attempts id = some attempt) : Evidence attempt := by
  obtain hsame | ⟨k', old, next, hold, -, -, hfollows, rfl⟩ := hb.stores hc h
  · rw [hsame] at hstored
    exact hb.evidence id attempt hstored
  · exact evidence_store hb.evidence (hfollows.evidence (hb.evidence _ _ hold)) id attempt hstored

theorem Base.record_perform (hb : Base w k) {answer : Except String c.Answer}
    (hc : c.permitted k) (h : Performs w c answer w') (attempt : IntegrationAttempt)
    (hrecord : (k.after c answer).record = some attempt) :
    w'.integrating = some attempt.id ∧ w'.attempts attempt.id = some attempt := by
  cases h with
  | fails c error h =>
    cases c with
    | acquire integrating => cases hrecord
    | release => exact absurd rfl h
    | _ => exact hb.record attempt hrecord
  | reads c answer h =>
    cases c with
    | preview | load | inspect | save | replace | acquire | release | resolveRef | updateRef
    | startCheckJob | portJob | storedJob => exact h.elim
    | _ => exact hb.record attempt hrecord
  | preview id found h => exact hb.record attempt hrecord
  | load id found h hlock =>
    obtain rfl := Option.some.inj hrecord
    rw [w.keyed id found h]
    exact ⟨hlock, h⟩
  | inspect id found h => exact hb.record attempt hrecord
  | save next =>
    obtain rfl := Option.some.inj hrecord
    obtain ⟨old, hold, hsame, -⟩ := hc
    rw [hsame.id]
    exact ⟨(hb.record old hold).1, hsame.id ▸ w.store_self next⟩
  | replace expected next h => cases hrecord
  | acquire integrating => cases hrecord
  | release => cases hrecord
  | resolveRef target => exact hb.record attempt hrecord
  | updateRef id target candidate expected h => exact hb.record attempt hrecord
  | updateRefCut id target candidate expected error h => exact hb.record attempt hrecord
  | startCheckJob spec job h => exact hb.record attempt hrecord
  | portJob jobId job h => exact hb.record attempt hrecord
  | storedJob jobId =>
    cases hjob : w.jobs jobId <;> rw [hjob] at hrecord <;> exact hb.record attempt hrecord

theorem Base.seen_perform (hb : Base w k) {answer : Except String c.Answer}
    (h : Performs w c answer w') (value : Target × String)
    (hvalue : (k.after c answer).target = some value) : w'.seen = some value := by
  cases h with
  | fails c error h =>
    cases c with
    | acquire integrating => cases hvalue
    | updateRef id target candidate expected => cases hvalue
    | _ => exact hb.seen value hvalue
  | reads c answer h =>
    cases c with
    | preview | load | inspect | save | replace | acquire | release | resolveRef | updateRef
    | startCheckJob | portJob | storedJob => exact h.elim
    | _ => exact hb.seen value hvalue
  | acquire integrating => cases hvalue
  | resolveRef target => exact hvalue
  | updateRef id target candidate expected h => exact hvalue
  | updateRefCut id target candidate expected error h => cases hvalue
  | storedJob jobId =>
    cases hjob : w.jobs jobId <;> rw [hjob] at hvalue <;> exact hb.seen value hvalue
  | _ => exact hb.seen value hvalue

theorem setJob_jobs {job : CheckJob} {jobId : String} (h : w.jobs jobId = none ∨ w.jobs jobId = some job ∨
      ∀ old, w.jobs jobId = some old → old.status.active = true)
    {found : CheckJob} (hended : found.status.active = false) (hfound : ∃ id, w.jobs id = some found) :
    ∃ id, (w.setJob jobId job).jobs id = some found := by
  obtain ⟨id, hid⟩ := hfound
  by_cases hsame : id = jobId
  · subst hsame
    refine ⟨id, ?_⟩
    obtain h | h | h := h
    · rw [hid] at h
      cases h
    · rw [← hid, h]
      exact Function.update_self _ _ _
    · rw [h found hid] at hended
      cases hended
  · exact ⟨id, (Function.update_of_ne hsame _ _).trans hid⟩

theorem Base.job_perform (hb : Base w k) {answer : Except String c.Answer}
    (h : Performs w c answer w') (job : CheckJob) (hjob : (k.after c answer).job = some job)
    (hended : job.status.active = false) : ∃ jobId, w'.jobs jobId = some job := by
  cases h with
  | fails c error h =>
    cases c with
    | acquire integrating => cases hjob
    | _ => exact hb.job job hjob hended
  | reads c answer h =>
    cases c with
    | preview | load | inspect | save | replace | acquire | release | resolveRef | updateRef
    | startCheckJob | portJob | storedJob => exact h.elim
    | _ => exact hb.job job hjob hended
  | acquire integrating => cases hjob
  | startCheckJob spec started h =>
    refine setJob_jobs ?_ hended (hb.job job hjob hended)
    obtain h | h := h
    · exact .inl h
    · exact .inr (.inl h)
  | portJob jobId found h =>
    obtain rfl := Option.some.inj hjob
    exact ⟨jobId, h⟩
  | storedJob jobId =>
    cases hfound : w.jobs jobId with
    | none =>
      rw [hfound] at hjob
      exact hb.job job hjob hended
    | some found =>
      rw [hfound] at hjob
      obtain rfl := Option.some.inj hjob
      exact ⟨jobId, hfound⟩
  | _ => exact hb.job job hjob hended

theorem Base.perform (hb : Base w k) {answer : Except String c.Answer} (hc : c.permitted k)
    (h : Performs w c answer w') : Base w' (k.after c answer) :=
  ⟨hb.record_perform hc h, hb.evidence_perform hc h, hb.seen_perform h, hb.job_perform h⟩

theorem Base.store (hb : Base w k) {next : IntegrationAttempt} (hnext : Evidence next)
    (hother : ∀ attempt, k.record = some attempt → attempt.id ≠ next.id) : Base (w.store next) k where
  record := by
    intro attempt hrecord
    obtain ⟨hlock, hstored⟩ := hb.record attempt hrecord
    exact ⟨hlock, (w.store_other (hother attempt hrecord)).trans hstored⟩
  evidence := evidence_store hb.evidence hnext
  seen := hb.seen
  job := hb.job

theorem Base.change (hb : Base w k) {kind : ChangeKind}
    (hresolves : ∀ attempt, kind = .resolves attempt → w.integrating ≠ some attempt.id)
    (h : Change w kind w') : Base w' k := by
  cases h with
  | creates attempt hfree h =>
    refine hb.store h.evidence fun old hold hid => ?_
    have hstored := (hb.record old hold).2
    rw [hid, hfree] at hstored
    cases hstored
  | job jobId job h =>
    refine ⟨hb.record, hb.evidence, hb.seen, fun found hfound hended => ?_⟩
    exact setJob_jobs (.inr (.inr h)) hended (hb.job found hfound hended)
  | moves target value => exact ⟨hb.record, hb.evidence, hb.seen, hb.job⟩
  | resolves attempt next decision h hnext =>
    refine hb.store (resolve_evidence hnext) fun old hold hid => ?_
    have hlock := (hb.record old hold).1
    rw [hid, (resolve_ok hnext).2.2] at hlock
    exact hresolves attempt rfl hlock

theorem Base.forget (hb : Base w k) : Base w.unlock {} :=
  ⟨fun _ h => (by cases h), hb.evidence, fun _ h => (by cases h), fun _ h => (by cases h)⟩

theorem Base.rest (hb : Base w k) : Base w {} :=
  ⟨fun _ h => (by cases h), hb.evidence, fun _ h => (by cases h), fun _ h => (by cases h)⟩

theorem Start.base (h : Start w) : Base w {} :=
  ⟨fun _ h => (by cases h), fun id attempt hstored => (by rw [h.attempts id] at hstored; cases hstored),
    fun _ h => (by cases h), fun _ h => (by cases h)⟩

end Steps

section Machines

variable [CheckHost]

theorem call_keeps {p : Call Unit} (h : IsCall p) (k : Knowledge) :
    discipline.Keeps (fun _ _ => True) (fun _ _ => True) k p := by
  obtain ⟨id, continuing, rfl⟩ | ⟨id, reason, rfl⟩ := h
  · exact seq_keeps (integrate_keeps id continuing) fun _ _ _ => trivial
  · exact seq_keeps (abort_keeps id reason) fun _ _ _ => trivial

omit [CheckHost] in
theorem performs_answers {w w' : World} {c : Command} {answer : Except String c.Answer}
    (h : Performs w c answer w') : discipline.answers c answer := by
  cases h with
  | load id attempt h => exact w.keyed id attempt h
  | fails c error h => cases c <;> trivial
  | reads c answer h => cases c <;> trivial
  | _ => trivial

/-- A further fact of the world and the knowledge that every step preserves. -/
structure Extends (limits : Limits) (Extra : World → Knowledge → Prop) : Prop where
  resolves : ∀ w attempt, limits.allows w (.resolves attempt) → w.integrating ≠ some attempt.id
  perform : ∀ w k c answer w', Base w k → Extra w k → c.permitted k → Performs w c answer w' →
    limits.answers w c answer → Extra w' (k.after c answer)
  change : ∀ w k kind w', Base w k → Extra w k → limits.allows w kind → Change w kind w' → Extra w' k
  rest : ∀ w k, Extra w k → Extra w {}
  forget : ∀ w k, Extra w k → Extra w.unlock {}

variable {limits : Limits} {Extra : World → Knowledge → Prop}

theorem Extends.sound (h : Extends limits Extra) :
    Machine.Sound (machine limits) IsCall discipline {} (fun w k => Base w k ∧ Extra w k) where
  pass := fun _ hp => call_keeps hp {}
  answer := fun _ _ _ _ _ _ hperforms => performs_answers hperforms.1
  perform := fun w k c answer w' hinv hc hperforms =>
    ⟨hinv.1.perform hc hperforms.1, h.perform w k c answer w' hinv.1 hinv.2 hc hperforms.1 hperforms.2⟩
  change := by
    rintro w k w' hinv ⟨kind, hallows, hchange⟩
    refine ⟨hinv.1.change (fun attempt hkind => ?_) hchange, h.change w k kind w' hinv.1 hinv.2 hallows hchange⟩
    subst hkind
    exact h.resolves w attempt hallows
  rest := fun w k _ hinv => ⟨hinv.1.rest, h.rest w k hinv.2⟩
  forget := fun w k _ hinv => ⟨hinv.1.forget, h.forget w k hinv.2⟩

/-- The invariant holds in every configuration of a run. -/
theorem Extends.guarded (h : Extends limits Extra) (hstart : ∀ w, Start w → Extra w {}) {config : Config}
    (hconfig : Reachable limits config) : Machine.Guarded discipline {} (fun w k => Base w k ∧ Extra w k) config := by
  obtain ⟨w, hw, hsteps⟩ := hconfig
  induction hsteps with
  | refl => exact ⟨hw.base, hstart w hw⟩
  | tail _ hstep ih => exact h.sound.step ih hstep

end Machines

end GitIntegration
