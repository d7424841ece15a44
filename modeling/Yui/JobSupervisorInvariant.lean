import Yui.JobSupervisorKeeps

/-!
# The invariant of the start protocol

A spawn is logged at most once for each run, after the attempt of that run and only for runs whose
stored effect is not none. What the token of a pass says about the store is true as long as the pass
is under way.
-/

open Checked

/-- Every spawn of the log comes after the attempt of its run. -/
def AttemptsFirst (log : List JobEvent) : Prop :=
  ∀ before key after, log = before ++ JobEvent.spawned key :: after → JobEvent.attempted key ∈ before

theorem AttemptsFirst.append {log events : List JobEvent} (h : AttemptsFirst log)
    (hquiet : ∀ key, JobEvent.spawned key ∉ events) : AttemptsFirst (log ++ events) := by
  intro before key after heq
  rcases List.append_eq_append_iff.1 heq with ⟨rest, hbefore, hevents⟩ | ⟨rest, hlog, hrest⟩
  · have hmem : JobEvent.spawned key ∈ events := by simp [hevents]
    exact absurd hmem (hquiet key)
  · cases rest with
    | nil =>
      rw [List.nil_append] at hrest
      have hmem : JobEvent.spawned key ∈ events := by simp [← hrest]
      exact absurd hmem (hquiet key)
    | cons event rest =>
      rw [List.cons_append, List.cons.injEq] at hrest
      exact h before key rest (by rw [hlog, hrest.1])

variable {key : JobKey}

theorem AttemptsFirst.spawn {log : List JobEvent} (h : AttemptsFirst log)
    (hattempted : .attempted key ∈ log) : AttemptsFirst (log ++ [JobEvent.spawned key]) := by
  intro before other after heq
  rcases List.append_eq_append_iff.1 heq with ⟨rest, hbefore, hevents⟩ | ⟨rest, hlog, hrest⟩
  · cases rest with
    | nil =>
      rw [List.nil_append, List.cons.injEq, JobEvent.spawned.injEq] at hevents
      rw [hbefore, ← hevents.1]
      simpa using hattempted
    | cons event rest => simp at hevents
  · cases rest with
    | nil =>
      rw [List.nil_append, List.cons.injEq, JobEvent.spawned.injEq] at hrest
      rw [List.append_nil] at hlog
      rw [← hlog, hrest.1]
      exact hattempted
    | cons event rest =>
      rw [List.cons_append, List.cons.injEq] at hrest
      exact h before other rest (by rw [hlog, hrest.1])

theorem count_quiet {log events : List JobEvent} (hquiet : JobEvent.spawned key ∉ events) :
    (log ++ events).count (.spawned key) = log.count (.spawned key) := by
  rw [List.count_append, List.count_eq_zero.2 hquiet, Nat.add_zero]

variable [JobHost]

/-- The stored run may have had an effect. -/
def World.Attempted (w : World) (key : JobKey) : Prop :=
  ∃ job, w.lookup key = some job ∧ job.operation.effect ≠ .none

structure StartInv (w : World) (t : Token) : Prop where
  keyed : w.Keyed
  checked : ∀ job ∈ w.jobs, checkDurableJob job = .ok ()
  once : ∀ key, w.log.count (.spawned key) ≤ 1
  order : AttemptsFirst w.log
  attempted : ∀ key, .spawned key ∈ w.log → w.Attempted key
  holding : ∀ key, t.holding = some key →
    .spawned key ∉ w.log ∧ .attempted key ∈ w.log ∧ w.Attempted key
  fresh : ∀ key ∈ t.fresh, ∃ job, w.lookup key = some job ∧ Unattempted job
  evident : ∀ key ∈ t.evident, w.Evident key

namespace StartInv

variable {w w' : World} {t t' : Token}

theorem weaken (h : StartInv w t) (hfresh : t'.fresh ⊆ t.fresh) (hevident : t'.evident ⊆ t.evident)
    (hholding : ∀ key, t'.holding = some key → t.holding = some key) : StartInv w t' :=
  { h with
    holding := fun key hkey => h.holding key (hholding key hkey)
    fresh := fun key hkey => h.fresh key (hfresh hkey)
    evident := fun key hkey => h.evident key (hevident hkey) }

theorem rest (h : StartInv w t) : StartInv w Token.idle := h.weaken (Set.empty_subset _) (Set.empty_subset _) nofun

theorem quiet (h : StartInv w t) (hjobs : w'.jobs = w.jobs)
    (hevident : ∀ key ∈ t.evident, w.Evident key → w'.Evident key)
    (hlog : ∃ events, w'.log = w.log ++ events ∧ ∀ key, JobEvent.spawned key ∉ events) : StartInv w' t := by
  obtain ⟨events, hlog, hquiet⟩ := hlog
  have hlookup : ∀ key, w'.lookup key = w.lookup key := fun key => by
    unfold World.lookup
    rw [hjobs]
  have hspawned : ∀ key, .spawned key ∈ w'.log → .spawned key ∈ w.log := fun key hmem => by
    rw [hlog] at hmem
    exact (List.mem_append.1 hmem).resolve_right (hquiet key)
  have hattempted : ∀ key, w.Attempted key → w'.Attempted key := fun key hkey => by
    unfold World.Attempted
    rw [hlookup]
    exact hkey
  refine ⟨?_, ?_, fun key => ?_, ?_, fun key hkey => ?_, fun key hkey => ?_, fun key hkey => ?_,
    fun key hkey => ?_⟩
  · unfold World.Keyed
    rw [hjobs]
    exact h.keyed
  · rw [hjobs]
    exact h.checked
  · rw [hlog, count_quiet (hquiet key)]
    exact h.once key
  · rw [hlog]
    exact h.order.append hquiet
  · exact hattempted key (h.attempted key (hspawned key hkey))
  · obtain ⟨hnot, hmem, hstored⟩ := h.holding key hkey
    refine ⟨fun hmem => hnot (hspawned key hmem), ?_, hattempted key hstored⟩
    rw [hlog]
    exact List.mem_append_left _ hmem
  · rw [hlookup]
    exact h.fresh key hkey
  · exact hevident key hkey (h.evident key hkey)

end StartInv

theorem effect_ne_none {before after : JobRun} (h : Accepted before after)
    (hbefore : before.operation.effect ≠ .none) : after.operation.effect ≠ .none := by
  have hrank := h.unchanged.operation.effect
  intro hafter
  rw [hafter] at hrank
  cases heffect : before.operation.effect with
  | none => exact hbefore heffect
  | possible => simp [heffect, Effect.rank] at hrank
  | confirmed => simp [heffect, Effect.rank] at hrank

theorem delegation_of_accepted {before after : JobRun} (h : Accepted before after) :
    after.delegation = before.delegation :=
  (congrArg RunIdentity.delegation h.unchanged.identity).symm

theorem Commits.attempted {w : World} {key other : JobKey} {current next : JobRun}
    (h : Commits w key current next) (hother : w.Attempted other) : (w.put next).Attempted other := by
  obtain ⟨job, hjob, heffect⟩ := hother
  by_cases hkey : other = key
  · subst hkey
    rw [h.lookup, Option.some.injEq] at hjob
    subst hjob
    exact ⟨next, h.lookup_put, effect_ne_none h.accepted heffect⟩
  · exact ⟨job, by rw [h.lookup_other hkey]; exact hjob, heffect⟩

theorem StartInv.commit {w : World} {t t' : Token} {current next : JobRun}
    (h : StartInv w t) (hcommits : Commits w key current next)
    (hfresh : ∀ k ∈ t'.fresh, k ∈ t.fresh ∧ (k = key → Unattempted next)) (hevident : t'.evident ⊆ t.evident)
    (hholding : ∀ k, t'.holding = some k → t.holding = some k) : StartInv (w.put next) t' := by
  refine ⟨h.keyed.put next, fun job hjob => ?_, h.once, h.order,
    fun k hk => hcommits.attempted (h.attempted k hk), fun k hk => ?_, fun k hk => ?_,
    fun k hk => h.evident k (hevident hk)⟩
  · obtain ⟨old, hold, rfl⟩ := List.mem_map.1 hjob
    split_ifs
    · exact hcommits.checked
    · exact h.checked old hold
  · obtain ⟨hnot, hmem, hstored⟩ := h.holding k (hholding k hk)
    exact ⟨hnot, hmem, hcommits.attempted hstored⟩
  · obtain ⟨hmem, hnext⟩ := hfresh k hk
    by_cases hkey : k = key
    · exact ⟨next, by rw [hkey]; exact hcommits.lookup_put, hnext hkey⟩
    · obtain ⟨job, hjob, hun⟩ := h.fresh k hmem
      exact ⟨job, by rw [hcommits.lookup_other hkey]; exact hjob, hun⟩

theorem StartInv.spawn {w : World} {t : Token} (h : StartInv w t) (hholding : t.holding = some key) :
    StartInv (w.record [.spawned key]) { t with holding := none } := by
  obtain ⟨hnot, hmem, hstored⟩ := h.holding key hholding
  refine { h with once := fun other => ?_, order := h.order.spawn hmem, attempted := ?_, holding := ?_ }
  · change (w.log ++ [JobEvent.spawned key]).count (.spawned other) ≤ 1
    rw [List.count_append]
    by_cases hkey : other = key
    · rw [hkey, List.count_eq_zero.2 hnot]
      simp
    · have hzero : [JobEvent.spawned key].count (.spawned other) = 0 := by
        rw [List.count_eq_zero]
        simpa using hkey
      rw [hzero]
      exact h.once other
  · intro other hother
    rcases List.mem_append.1 hother with hother | hother
    · exact h.attempted other hother
    · rw [List.mem_singleton, JobEvent.spawned.injEq] at hother
      rw [hother]
      exact hstored
  · intro other hother
    cases hother

theorem World.lookup_append {w : World} {job : JobRun} (key : JobKey) :
    World.lookup { w with jobs := w.jobs ++ [job] } key =
      (w.lookup key).or (if job.key = key then some job else none) := by
  unfold World.lookup
  rw [List.find?_append]
  congr 1
  by_cases hkey : job.key = key
  · simp [hkey]
  · simp [hkey]

theorem StartInv.create {w : World} {t : Token} {job : JobRun} (h : StartInv w t)
    (hnew : w.lookup job.key = none) (hchecked : checkDurableJob job = .ok ()) :
    StartInv { w with jobs := w.jobs ++ [job] } t := by
  have hold : ∀ key other, w.lookup key = some other →
      World.lookup { w with jobs := w.jobs ++ [job] } key = some other := fun key other hlookup => by
    rw [World.lookup_append, hlookup]
    rfl
  have hattempted : ∀ key, w.Attempted key →
      World.Attempted { w with jobs := w.jobs ++ [job] } key := fun key hkey => by
    obtain ⟨other, hlookup, heffect⟩ := hkey
    exact ⟨other, hold key other hlookup, heffect⟩
  refine ⟨?_, fun other hother => ?_, h.once, h.order, fun key hkey => ?_, fun key hkey => ?_,
    fun key hkey => ?_, h.evident⟩
  · unfold World.Keyed
    rw [List.map_append, List.nodup_append]
    refine ⟨h.keyed, by simp, fun key hkey other hother => ?_⟩
    obtain ⟨stored, hstored, rfl⟩ := List.mem_map.1 hkey
    rw [List.map_singleton, List.mem_singleton] at hother
    rintro rfl
    have hlookup := World.lookup_of_mem h.keyed hstored
    rw [hother, hnew] at hlookup
    cases hlookup
  · rcases List.mem_append.1 hother with hother | hother
    · exact h.checked other hother
    · rw [List.mem_singleton.1 hother]
      exact hchecked
  · exact hattempted key (h.attempted key hkey)
  · obtain ⟨hnot, hmem, hstored⟩ := h.holding key hkey
    exact ⟨hnot, hmem, hattempted key hstored⟩
  · obtain ⟨other, hlookup, hun⟩ := h.fresh key hkey
    exact ⟨other, hold key other hlookup, hun⟩

section Sound

variable {w w' : World} {t : Token}

theorem Token.transitioned_of_none (t : Token) (key : JobKey) (transition : JobTransition)
    {answer : Except Failure (Option JobRun)} (h : ∀ next, answer ≠ .ok (some next)) :
    t.transitioned key transition answer = { t with fresh := t.fresh \ {key} } := by
  unfold Token.transitioned
  split
  · exact absurd rfl (h _)
  · rfl

theorem Token.transitioned_error (t : Token) (key : JobKey) (transition : JobTransition) (failure : Failure) :
    t.transitioned key transition (.error failure) = { t with fresh := t.fresh \ {key} } :=
  t.transitioned_of_none key transition fun _ h => by cases h

theorem StartInv.failed (h : StartInv w t) (c : JobCommand) (failure : Failure) :
    StartInv w (startProtocol.after t c (.error failure)) := by
  cases c with
  | transition key transition now =>
    change StartInv w (t.transitioned key transition (.error failure))
    rw [Token.transitioned_error]
    exact h.weaken Set.sdiff_subset subset_rfl fun _ hkey => hkey
  | writeStartMarker key marker => exact h.weaken subset_rfl Set.sdiff_subset fun _ hkey => hkey
  | spawnJobRunner key =>
    exact h.weaken subset_rfl subset_rfl nofun
  | _ => exact h

theorem StartInv.moved {c : JobCommand} (h : StartInv w t) (hpermits : startProtocol.permits t c)
    (hmoves : Moves w c w') (failure : Failure) : StartInv w' (startProtocol.after t c (.error failure)) := by
  cases hmoves with
  | quiet c w' hjobs hready hmarkers hlog =>
    apply (h.failed c failure).quiet hjobs _ hlog
    intro key _ hevident
    unfold World.Evident
    rw [hready, hmarkers]
    exact hevident
  | marks key marker =>
    refine StartInv.quiet (h.failed (.writeStartMarker key marker) failure) rfl
      (fun other hother hevident => ?_) ⟨[], by simp⟩
    have hne : other ≠ key := hother.2
    unfold World.Evident
    dsimp only
    rw [Function.update_of_ne hne]
    exact hevident
  | commits key transition now current next hcommits happly =>
    change StartInv _ (t.transitioned key transition (.error failure))
    rw [Token.transitioned_error]
    have hput : StartInv (w.put next) { t with fresh := t.fresh \ {key} } :=
      h.commit hcommits (fun k hk => ⟨hk.1, fun heq => absurd heq hk.2⟩) subset_rfl
        fun _ hk => hk
    exact hput.quiet rfl (fun _ _ hk => hk) ⟨_, rfl, transitionEvents_quiet transition current next⟩
  | spawns key => exact h.spawn hpermits

theorem attempt_ok {w : World} {now : JsDate} {current next : JobRun}
    (h : JobTransition.attempt.apply w now current = .ok next) :
    current.status = .queued ∧ current.operation.effect = .none ∧ next.status = .queued ∧
      next.operation.effect = .possible := by
  unfold JobTransition.apply at h
  dsimp only at h
  split_ifs at h with hstate
  rw [not_or, not_not, not_not] at hstate
  obtain ⟨_, _, operation, hoperation, h⟩ := bind_ok₂ h
  obtain ⟨hmerge, _⟩ := recordOperationEvidence_ok (orThrow_ok hoperation)
  cases h
  refine ⟨hstate.1, hstate.2, hstate.1, ?_⟩
  rw [hmerge]
  simp [mergeEvidence, hstate.2, Effect.rank]

theorem StartInv.attempted_commit {key : JobKey} {now : JsDate} {current next : JobRun}
    (h : StartInv w t) (hcommits : Commits w key current next)
    (happly : JobTransition.attempt.apply w now current = .ok next) :
    StartInv ((w.put next).record (transitionEvents .attempt current next))
      { t with fresh := t.fresh \ {key}, holding := some key } := by
  obtain ⟨_, hnone, _, hpossible⟩ := attempt_ok happly
  have hmoved : StartInv ((w.put next).record (transitionEvents .attempt current next))
      (t.transitioned key .attempt (.error ⟨"", ""⟩)) :=
    h.moved (c := .transition key .attempt now) trivial
      (.commits key .attempt now current next hcommits happly) ⟨"", ""⟩
  rw [Token.transitioned_error] at hmoved
  refine { hmoved with holding := fun k hk => ?_ }
  cases hk
  refine ⟨fun hspawned => ?_, ?_, next, hcommits.lookup_put, by simp [hpossible]⟩
  · rcases List.mem_append.1 hspawned with hspawned | hspawned
    · obtain ⟨job, hjob, heffect⟩ := h.attempted key hspawned
      rw [hcommits.lookup, Option.some.injEq] at hjob
      exact heffect (hjob ▸ hnone)
    · exact transitionEvents_quiet _ _ _ key hspawned
  · apply List.mem_append_right
    unfold transitionEvents
    simp [hnone, hpossible, hcommits.key]

theorem StartInv.listed (h : StartInv w t) : StartInv w { t with
    fresh := t.fresh ∪ { key | ∃ job ∈ w.listActiveDurableJobs, job.key = key ∧ Unattempted job } } := by
  refine { h with fresh := fun key hkey => ?_ }
  rcases hkey with hkey | ⟨job, hjob, rfl, hun⟩
  · exact h.fresh key hkey
  · refine ⟨job, World.lookup_of_mem h.keyed ?_, hun⟩
    rcases List.mem_append.1 hjob with hjob | hjob
    · exact (List.mem_filter.1 hjob).1
    · exact (List.mem_filter.1 hjob).1

theorem StartInv.seen {key : JobKey} (h : StartInv w t) (hevident : w.Evident key) :
    StartInv w { t with evident := insert key t.evident } := by
  refine { h with evident := fun k hk => ?_ }
  rcases hk with rfl | hk
  · exact hevident
  · exact h.evident k hk

theorem StartInv.performed {c : JobCommand} (h : StartInv w t) (hpermits : startProtocol.permits t c) :
    StartInv (w.perform c).2 (startProtocol.after t c (w.perform c).1) := by
  have hmoved := h.moved hpermits (perform_moves w c) ⟨"", ""⟩
  cases c with
  | listActive => exact h.listed
  | transition key transition now =>
    rcases transitionDurableJob_cases w key transition now with ⟨hsame, hnone⟩ | ⟨current, next, hc⟩
    · change StartInv _ (t.transitioned key transition (.error ⟨"", ""⟩)) at hmoved
      change StartInv _ (t.transitioned key transition (transitionDurableJob w key transition now).1)
      rw [t.transitioned_of_none key transition hnone]
      rw [Token.transitioned_error] at hmoved
      exact hmoved
    · obtain ⟨hcommits, happly, heq⟩ := hc
      change StartInv (transitionDurableJob w key transition now).2 _ at hmoved
      change StartInv (transitionDurableJob w key transition now).2
        (t.transitioned key transition (transitionDurableJob w key transition now).1)
      rw [heq] at hmoved ⊢
      cases transition with
      | attempt => exact h.attempted_commit hcommits happly
      | _ => exact hmoved
  | readStartMarker key =>
    change StartInv w (t.after (.readStartMarker key) (.ok (w.startMarkers key)))
    cases hmarker : w.startMarkers key with
    | none => exact h
    | some marker =>
      change StartInv w (t.marked key marker)
      unfold Token.marked
      split_ifs with hreal
      · exact h.seen (.inr ⟨marker, hmarker, hreal⟩)
      · exact h
  | readReadyFile key =>
    change StartInv w (t.after (.readReadyFile key) (.ok (w.readyFiles key)))
    cases hready : w.readyFiles key with
    | none => exact h
    | some ready => exact h.seen (.inl (by simp [hready]))
  | _ => exact hmoved

theorem StartInv.changed (h : StartInv w t) (hchange : Changes w w') : StartInv w' t := by
  cases hchange with
  | rewrite key current next hlookup hsave hstatus hoperation =>
    have hcommits := Commits.of_save hlookup hsave
    refine h.commit hcommits (fun k hk => ⟨hk, fun heq => ?_⟩) subset_rfl fun _ hk => hk
    obtain ⟨job, hjob, hnone, hprocess⟩ := h.fresh k hk
    rw [heq, hlookup, Option.some.injEq] at hjob
    refine ⟨?_, ?_⟩
    · rw [hoperation, hjob]
      exact hnone
    · rw [delegation_of_accepted hcommits.accepted, hjob]
      exact hprocess
  | delegated key current next hlookup hsave hdelegation =>
    refine h.commit (Commits.of_save hlookup hsave) (fun k hk => ⟨hk, fun heq => ?_⟩) subset_rfl fun _ hk => hk
    obtain ⟨job, hjob, _, hprocess⟩ := h.fresh k hk
    rw [heq, hlookup, Option.some.injEq] at hjob
    exact absurd (hjob ▸ hprocess) hdelegation
  | create job hnew hvalid hstart => exact h.create hnew hvalid
  | ready key ready hspawned hfirst =>
    refine StartInv.quiet h rfl (fun other _ hevident => ?_) ⟨[], by simp⟩
    unfold World.Evident at hevident ⊢
    dsimp only
    by_cases hkey : other = key
    · rw [hkey, Function.update_self]
      exact .inl (by simp)
    · rw [Function.update_of_ne hkey]
      exact hevident
  | checkpoint key checkpoint hspawned =>
    exact StartInv.quiet h rfl (fun _ _ hevident => hevident) ⟨[], by simp⟩
  | exit key exit hspawned =>
    exact StartInv.quiet h rfl (fun _ _ hevident => hevident) ⟨[], by simp⟩
  | receipt key receipt hspawned =>
    exact StartInv.quiet h rfl (fun _ _ hevident => hevident) ⟨[], by simp⟩
  | heartbeat key date hspawned =>
    exact StartInv.quiet h rfl (fun _ _ hevident => hevident) ⟨[], by simp⟩
  | host identities alive authorization nextProcess =>
    exact StartInv.quiet h rfl (fun _ _ hevident => hevident) ⟨[], by simp⟩

theorem World.listActive_nodup (h : w.Keyed) : (w.listActiveDurableJobs.map JobRun.key).Nodup := by
  have hsub : ∀ p : JobRun → Bool, (w.jobs.filter fun job => World.isActive job && p job) =
      (w.jobs.filter p).filter World.isActive := fun p => by rw [List.filter_filter]
  have hperm : w.listActiveDurableJobs.Perm
      ((w.jobs.filter World.isTaskRun ++
        w.jobs.filter fun job => !World.isTaskRun job).filter World.isActive) := by
    unfold World.listActiveDurableJobs
    rw [hsub World.isTaskRun, hsub fun job => !World.isTaskRun job, List.filter_append]
  have hall : (w.jobs.filter World.isTaskRun ++
      w.jobs.filter fun job => !World.isTaskRun job).Perm w.jobs :=
    List.filter_append_perm World.isTaskRun w.jobs
  rw [(hperm.map JobRun.key).nodup_iff]
  apply List.Nodup.sublist ((List.filter_sublist).map JobRun.key)
  rw [(hall.map JobRun.key).nodup_iff]
  exact h

theorem startInv_sound : Machine.Sound supervisor IsPass startProtocol Token.idle StartInv where
  pass _ := isPass_keeps
  answer w t c answer w' hinv hperforms := by
    cases hperforms with
    | done =>
      cases c with
      | listActive => exact World.listActive_nodup hinv.keyed
      | _ => trivial
    | failed failure => cases c <;> trivial
    | lost failure => cases c <;> trivial
  perform w t c answer w' hinv hpermits hperforms := by
    cases hperforms with
    | done => exact hinv.performed hpermits
    | failed failure => exact hinv.failed c failure
    | lost failure => exact hinv.moved hpermits (perform_moves w c) failure
  change w t w' hinv hchange := hinv.changed hchange
  rest w t _ hinv := hinv.rest
  forget w t _ hinv := StartInv.quiet hinv.rest rfl (fun _ _ hevident => hevident) ⟨[], by simp [supervisor]⟩

end Sound
