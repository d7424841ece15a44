import Yui.SessionStoreRuns

/-!
# Session recorders

A recorder has at most one append on the way. When it fails that append has ended, and it starts no other.
-/

open JsText Checked AppendLog FallibleRun

namespace Session

section Recorders

variable {Text : Type}

/-- A call on the way belongs to a recorder that waits for it alone. -/
structure State.Recording (s : State Text) : Prop where
  opened : ∀ r recorder, s.recorders r = some recorder →
    ∃ call, s.calls r = some call ∧ call.isSettled = true
  busy : ∀ c call r, s.calls c = some call → call.request.author = some r → call.isSettled = false →
    ∃ recorder, s.recorders r = some recorder ∧ recorder.failed = false ∧ recorder.busy = true
  single : ∀ c c' call call' r, s.calls c = some call → s.calls c' = some call' →
    call.request.author = some r → call'.request.author = some r → call.isSettled = false →
      call'.isSettled = false → c = c'

variable {s t : State Text} {c : ℕ} {call : Call}

theorem State.Recording.setCall (h : s.Recording) {next : Call}
    (hnext : next.isSettled = true ∨ next.request.author = none ∨
      ∃ old, s.calls c = some old ∧ old.isSettled = false ∧ next.request = old.request)
    (hsettled : ∀ old, s.calls c = some old → old.isSettled = false) : (s.setCall c next).Recording := by
  have hback : ∀ c' call' r, (s.setCall c next).calls c' = some call' →
      call'.request.author = some r → call'.isSettled = false →
        ∃ old, s.calls c' = some old ∧ old.request.author = some r ∧ old.isSettled = false := by
    intro c' call' r hcall' hauthor hopen
    by_cases hsame : c' = c
    · subst hsame
      rw [setCall_self] at hcall'
      cases hcall'
      rcases hnext with hdone | hnone | ⟨old, hold, hpending, hrequest⟩
      · exact absurd (hdone.symm.trans hopen) (by simp)
      · exact absurd (hnone.symm.trans hauthor) (by simp)
      · exact ⟨old, hold, hrequest ▸ hauthor, hpending⟩
    · rw [setCall_other s next hsame] at hcall'
      exact ⟨call', hcall', hauthor, hopen⟩
  refine ⟨fun r recorder hrecorder => ?_, fun c' call' r hcall' hauthor hopen => ?_,
    fun c1 c2 call1 call2 r h1 h2 hauthor1 hauthor2 hopen1 hopen2 => ?_⟩
  · obtain ⟨old, hold, hdone⟩ := h.opened r recorder hrecorder
    have hne : r ≠ c := by
      rintro rfl
      exact absurd (hdone.symm.trans (hsettled old hold)) (by simp)
    exact ⟨old, (setCall_other s next hne).trans hold, hdone⟩
  · obtain ⟨old, hold, hauthor', hopen'⟩ := hback c' call' r hcall' hauthor hopen
    exact h.busy c' old r hold hauthor' hopen'
  · obtain ⟨old1, hold1, hauthor1', hopen1'⟩ := hback c1 call1 r h1 hauthor1 hopen1
    obtain ⟨old2, hold2, hauthor2', hopen2'⟩ := hback c2 call2 r h2 hauthor2 hopen2
    exact h.single c1 c2 old1 old2 r hold1 hold2 hauthor1' hauthor2' hopen1' hopen2'

theorem State.Recording.setRecorder (h : s.Recording) {r : ℕ} (recorder : Recorder)
    (hopened : ∃ call, s.calls r = some call ∧ call.isSettled = true)
    (hidle : ∀ c call, s.calls c = some call → call.request.author = some r → call.isSettled = true) :
    (s.setRecorder r recorder).Recording := by
  refine ⟨fun r' other hother => ?_, fun c call r' hcall hauthor hopen => ?_, h.single⟩
  · by_cases hsame : r' = r
    · subst hsame
      exact hopened
    · exact h.opened r' other ((Function.update_of_ne hsame _ _).symm.trans hother)
  · have hne : r' ≠ r := by
      rintro rfl
      exact absurd ((hidle c call hcall hauthor).symm.trans hopen) (by simp)
    obtain ⟨other, hother, hstate⟩ := h.busy c call r' hcall hauthor hopen
    exact ⟨other, (Function.update_of_ne hne _ _).trans hother, hstate⟩

theorem State.Recording.record (h : s.Recording) (hnew : s.calls c = none) {r : ℕ} {recorder : Recorder}
    (hrecorder : s.recorders r = some recorder) (hworks : recorder.failed = false)
    (hidle : recorder.busy = false) (hauthor : call.request.author = some r) :
    ((s.setCall c call).setRecorder r { recorder with busy := true }).Recording := by
  have hnone : ∀ c' call', s.calls c' = some call' → call'.request.author = some r →
      call'.isSettled = true := by
    intro c' call' hcall' hauthor'
    by_contra hopen
    obtain ⟨other, hother, _, hbusy⟩ := h.busy c' call' r hcall' hauthor' (Bool.eq_false_of_not_eq_true hopen)
    rw [Option.some.inj (hrecorder.symm.trans hother), hbusy] at hidle
    cases hidle
  refine ⟨fun r' other hother => ?_, fun c' call' r' hcall' hauthor' hopen => ?_,
    fun c1 c2 call1 call2 r' h1 h2 hauthor1 hauthor2 hopen1 hopen2 => ?_⟩
  · have hold : ∃ old, s.recorders r' = some old := by
      by_cases hsame : r' = r
      · subst hsame
        exact ⟨recorder, hrecorder⟩
      · exact ⟨other, (Function.update_of_ne hsame _ _).symm.trans hother⟩
    obtain ⟨old, hold⟩ := hold
    obtain ⟨opening, hopening, hdone⟩ := h.opened r' old hold
    have hne : r' ≠ c := by
      rintro rfl
      rw [hnew] at hopening
      cases hopening
    exact ⟨opening, (setCall_other s call hne).trans hopening, hdone⟩
  · by_cases hsame : r' = r
    · subst hsame
      exact ⟨_, Function.update_self .., hworks, rfl⟩
    · have hne : c' ≠ c := by
        rintro rfl
        rw [show call' = call from (Option.some.inj ((setCall_self s c' call).symm.trans hcall')).symm,
          hauthor] at hauthor'
        exact hsame (Option.some.inj hauthor').symm
      obtain ⟨other, hother, hstate⟩ :=
        h.busy c' call' r' ((setCall_other s call hne).symm.trans hcall') hauthor' hopen
      exact ⟨other, (Function.update_of_ne hsame _ _).trans hother, hstate⟩
  · have hold : ∀ c' call', c' ≠ c → (s.setCall c call).calls c' = some call' → s.calls c' = some call' :=
      fun c' call' hne hcall' => (setCall_other s call hne).symm.trans hcall'
    have hmine : ∀ c' call', c' ≠ c → (s.setCall c call).calls c' = some call' →
        call'.request.author = some r' → call'.isSettled = false → r' ≠ r := by
      rintro c' call' hne hcall' hauthor' hopen' rfl
      exact absurd ((hnone c' call' (hold c' call' hne hcall') hauthor').symm.trans hopen') (by simp)
    have hself : ∀ call', (s.setCall c call).calls c = some call' → call'.request.author = some r' →
        r' = r := by
      intro call' hcall' hauthor'
      rw [← Option.some.inj ((setCall_self s c call).symm.trans hcall'), hauthor] at hauthor'
      exact (Option.some.inj hauthor').symm
    by_cases hc1 : c1 = c
    · by_cases hc2 : c2 = c
      · rw [hc1, hc2]
      · subst hc1
        exact absurd (hself call1 h1 hauthor1) (hmine c2 call2 hc2 h2 hauthor2 hopen2)
    · by_cases hc2 : c2 = c
      · subst hc2
        exact absurd (hself call2 h2 hauthor2) (hmine c1 call1 hc1 h1 hauthor1 hopen1)
      · exact h.single c1 c2 call1 call2 r' (hold c1 call1 hc1 h1) (hold c2 call2 hc2 h2) hauthor1 hauthor2
          hopen1 hopen2

end Recorders

section Steps

variable {Text : Type} [DecidableEq Text] {codec : Codec Text} {limits : Limits}
variable {s t : State Text} {c : ℕ} {call : Call}

variable (codec limits) in
theorem save_calls (store : ℕ) (io : Io) (write : Write String (ℕ × AgentEvent))
    (document : SessionDocument) (location : Option SessionLocation) :
    (s.save codec limits store io write document location).1.calls = s.calls ∧
      (s.save codec limits store io write document location).1.recorders = s.recorders := by
  unfold State.save
  cases s.check store with
  | error error => exact ⟨rfl, rfl⟩
  | ok _ =>
    dsimp only
    cases s.backend.write codec limits io document write.expected location <;> exact ⟨rfl, rfl⟩

omit [DecidableEq Text] in
theorem State.Recording.congr (h : s.Recording) (hcalls : t.calls = s.calls)
    (hrecorders : t.recorders = s.recorders) : t.Recording := by
  refine ⟨?_, ?_, ?_⟩
  · rw [hcalls, hrecorders]
    exact h.opened
  · rw [hcalls, hrecorders]
    exact h.busy
  · rw [hcalls]
    exact h.single

variable {io : Io} {next : Call}

theorem State.Recording.save (h : s.Recording) {store : ℕ}
    {write : Write String (ℕ × AgentEvent)} {document : SessionDocument} {location : Option SessionLocation}
    (hnext : next.isSettled = true ∨ next.request.author = none ∨
      ∃ old, s.calls c = some old ∧ old.isSettled = false ∧ next.request = old.request)
    (hsettled : ∀ old, s.calls c = some old → old.isSettled = false) :
    ((s.save codec limits store io write document location).1.setCall c next).Recording := by
  obtain ⟨hcalls, hrecorders⟩ := save_calls (s := s) codec limits store io write document location
  apply (h.congr hcalls hrecorders).setCall
  · rw [hcalls]
    exact hnext
  · rw [hcalls]
    exact hsettled

omit [DecidableEq Text] in
theorem State.Recording.deliver (h : s.Recording) (hcall : s.calls c = some call)
    (hopen : call.isSettled = false) (outcome : Outcome) : (s.deliver limits c call outcome).Recording := by
  have hpending : ∀ old, s.calls c = some old → old.isSettled = false := by
    intro old hold
    rw [← Option.some.inj (hcall.symm.trans hold)]
    exact hopen
  have hdone : ∀ result, (s.setCall c { call with phase := .settled result }).Recording :=
    fun result => h.setCall (.inl rfl) hpending
  unfold State.deliver
  split
  · rename_i event expected r hrequest
    dsimp only
    split
    · exact hdone outcome
    · rename_i recorder hrecorder
      have hauthor : call.request.author = some r := by rw [hrequest]; rfl
      apply (hdone outcome).setRecorder
      · obtain ⟨opening, hopening, hsettled⟩ := h.opened r recorder hrecorder
        by_cases hsame : r = c
        · subst hsame
          exact ⟨_, setCall_self .., rfl⟩
        · exact ⟨opening, (setCall_other s _ hsame).trans hopening, hsettled⟩
      · intro c' call' hcall' hauthor'
        by_contra hopen'
        by_cases hsame : c' = c
        · subst hsame
          rw [setCall_self] at hcall'
          rw [← Option.some.inj hcall'] at hopen'
          exact hopen' rfl
        · rw [setCall_other s _ hsame] at hcall'
          exact hsame (h.single c' c call' call r hcall' hcall hauthor' hauthor
            (Bool.eq_false_of_not_eq_true hopen') hopen)
  · rename_i id hrequest
    dsimp only
    split
    · exact hdone _
    · apply (hdone _).setRecorder
      · exact ⟨_, setCall_self .., rfl⟩
      · intro c' call' hcall' hauthor'
        by_contra hopen'
        by_cases hsame : c' = c
        · subst hsame
          rw [setCall_self] at hcall'
          rw [← Option.some.inj hcall'] at hopen'
          exact hopen' rfl
        · rw [setCall_other s _ hsame] at hcall'
          obtain ⟨recorder, hrecorder, _⟩ := h.busy c' call' c hcall' hauthor' (Bool.eq_false_of_not_eq_true hopen')
          obtain ⟨opening, hopening, hsettled⟩ := h.opened c recorder hrecorder
          exact absurd (hsettled.symm.trans (hpending opening hopening)) (by simp)
  · exact hdone outcome

theorem State.Recording.proceed (h : s.Recording) (hcall : s.calls c = some call)
    (hstep : s.proceed codec limits c call io = .ok t) : t.Recording := by
  by_cases hopen : call.isSettled = true
  · unfold State.proceed at hstep
    unfold Call.isSettled at hopen
    split at hopen
    · rename_i outcome hphase
      rw [hphase] at hstep
      cases hstep
    · cases hopen
  · have hpending : call.isSettled = false := Bool.eq_false_of_not_eq_true hopen
    have hsettled : ∀ old, s.calls c = some old → old.isSettled = false := by
      intro old hold
      rw [← Option.some.inj (hcall.symm.trans hold)]
      exact hpending
    have hnext : ∀ phase, ∃ old, s.calls c = some old ∧ old.isSettled = false ∧
        ({ call with phase := phase } : Call).request = old.request :=
      fun _ => ⟨call, hcall, hpending, rfl⟩
    unfold State.proceed at hstep
    cases hphase : call.phase with
    | reading raw | paged raw =>
      rw [hphase] at hstep
      rw [← Except.ok.inj hstep]
      exact h.setCall (.inr (.inr (hnext _))) hsettled
    | settled outcome =>
      rw [hphase] at hstep
      cases hstep
    | returning outcome =>
      rw [hphase] at hstep
      rw [← Except.ok.inj hstep]
      exact h.deliver hcall hpending outcome
    | loaded found =>
      rw [hphase] at hstep
      dsimp only at hstep
      cases hrequest : call.request with
      | append event expected author =>
        rw [hrequest] at hstep
        rw [← Except.ok.inj hstep]
        unfold State.finishAppend
        cases hfound : appended limits event expected found with
        | error error => exact h.setCall (.inr (.inr (hnext _))) hsettled
        | ok next => exact h.save (.inr (.inr (hnext _))) hsettled
      | create id | load id | query id | recorder id =>
        rw [hrequest] at hstep
        rw [← Except.ok.inj hstep, ← hrequest]
        exact h.setCall (.inr (.inr (hnext _))) hsettled

theorem step_recording (h : s.Recording) {op : Op} (hstep : step codec limits s op = .ok t) : t.Recording := by
  obtain ⟨hstep, hnew⟩ := step_act hstep
  have hfresh : ∀ c, op.call = some c → ∀ old, s.calls c = some old → old.isSettled = false := by
    intro c hcall old hold
    rw [hnew c hcall] at hold
    cases hold
  cases op with
  | create c store id location io =>
    rw [← Except.ok.inj hstep]
    unfold State.create
    dsimp only
    split
    · exact h.setCall (.inr (.inl rfl)) (hfresh c rfl)
    · exact h.save (.inr (.inl rfl)) (hfresh c rfl)
  | load c store id io | recorder c store id io | query c store id after limit io
  | append c store event expected io =>
    rw [← Except.ok.inj hstep]
    exact h.setCall (.inr (.inl rfl)) (hfresh c rfl)
  | record c r event io =>
    unfold act at hstep
    dsimp only at hstep
    cases hrecorder : s.recorders r with
    | none =>
      rw [hrecorder] at hstep
      cases hstep
    | some recorder =>
      rw [hrecorder] at hstep
      rw [← Except.ok.inj hstep]
      unfold State.startRecord
      dsimp only
      split_ifs with hfailed hbusy
      · exact h.setCall (.inl rfl) (hfresh c rfl)
      · exact h.setCall (.inl rfl) (hfresh c rfl)
      · exact h.record (hnew c rfl) hrecorder (Bool.eq_false_of_not_eq_true hfailed)
          (Bool.eq_false_of_not_eq_true hbusy) rfl
      · exact h.record (hnew c rfl) hrecorder (Bool.eq_false_of_not_eq_true hfailed)
          (Bool.eq_false_of_not_eq_true hbusy) rfl
  | proceed c io =>
    unfold act at hstep
    dsimp only at hstep
    cases hcall : s.calls c with
    | none =>
      rw [hcall] at hstep
      cases hstep
    | some call =>
      rw [hcall] at hstep
      exact h.proceed hcall hstep
  | close store io =>
    rw [← Except.ok.inj hstep]
    exact h.congr rfl rfl

/-- A step keeps the request of a call and the failure of a recorder. -/
structure Lasts (s t : State Text) : Prop where
  requests : ∀ c call, s.calls c = some call → ∃ next, t.calls c = some next ∧ next.request = call.request
  failed : ∀ r recorder, s.recorders r = some recorder → recorder.failed = true →
    t.recorders r = some recorder

omit [DecidableEq Text] in
theorem lasts_setCall (h : ∀ old, s.calls c = some old → next.request = old.request) :
    Lasts s (s.setCall c next) := by
  refine ⟨fun c' call' hcall' => ?_, fun _ _ hrecorder _ => hrecorder⟩
  by_cases hsame : c' = c
  · subst hsame
    exact ⟨next, setCall_self s c' next, h call' hcall'⟩
  · exact ⟨call', (setCall_other s next hsame).trans hcall', rfl⟩

omit [DecidableEq Text] in
theorem Lasts.setRecorder (h : Lasts s t) {r : ℕ} {recorder : Recorder}
    (hworks : ∀ old, s.recorders r = some old → old.failed = false) : Lasts s (t.setRecorder r recorder) := by
  refine ⟨h.requests, fun r' old hold hfailed => ?_⟩
  have hne : r' ≠ r := by
    rintro rfl
    exact absurd ((hworks old hold).symm.trans hfailed) (by simp)
  exact (Function.update_of_ne hne _ _).trans (h.failed r' old hold hfailed)

theorem lasts_save {store : ℕ} {write : Write String (ℕ × AgentEvent)}
    {document : SessionDocument} {location : Option SessionLocation}
    (h : ∀ old, s.calls c = some old → next.request = old.request) :
    Lasts s ((s.save codec limits store io write document location).1.setCall c next) := by
  obtain ⟨hcalls, hrecorders⟩ := save_calls (s := s) codec limits store io write document location
  have hlasts := lasts_setCall (s := (s.save codec limits store io write document location).1) (c := c)
    (by rw [hcalls]; exact h)
  refine ⟨?_, ?_⟩
  · rw [← hcalls]
    exact hlasts.requests
  · rw [← hrecorders]
    exact hlasts.failed

omit [DecidableEq Text] in
theorem lasts_deliver (h : s.Recording) (hcall : s.calls c = some call) (hopen : call.isSettled = false)
    (outcome : Outcome) : Lasts s (s.deliver limits c call outcome) := by
  have hsame : ∀ result old, s.calls c = some old →
      ({ call with phase := .settled result } : Call).request = old.request := by
    intro result old hold
    rw [← Option.some.inj (hcall.symm.trans hold)]
  unfold State.deliver
  split
  · rename_i event expected r hrequest
    dsimp only
    split
    · exact lasts_setCall (hsame outcome)
    · rename_i recorder hrecorder
      apply (lasts_setCall (hsame outcome)).setRecorder
      intro old hold
      obtain ⟨other, hother, hworks, _⟩ := h.busy c call r hcall (by rw [hrequest]; rfl) hopen
      rw [Option.some.inj (hold.symm.trans hother)]
      exact hworks
  · dsimp only
    split
    · exact lasts_setCall (hsame _)
    · apply (lasts_setCall (hsame _)).setRecorder
      intro old hold
      obtain ⟨opening, hopening, hsettled⟩ := h.opened c old hold
      rw [← Option.some.inj (hcall.symm.trans hopening)] at hsettled
      exact absurd (hsettled.symm.trans hopen) (by simp)
  · exact lasts_setCall (hsame outcome)

theorem lasts_proceed (h : s.Recording) (hcall : s.calls c = some call)
    (hstep : s.proceed codec limits c call io = .ok t) : Lasts s t := by
  have hsame : ∀ phase old, s.calls c = some old →
      ({ call with phase := phase } : Call).request = old.request := by
    intro phase old hold
    rw [← Option.some.inj (hcall.symm.trans hold)]
  unfold State.proceed at hstep
  cases hphase : call.phase with
  | reading raw | paged raw =>
    rw [hphase] at hstep
    rw [← Except.ok.inj hstep]
    exact lasts_setCall (hsame _)
  | settled outcome =>
    rw [hphase] at hstep
    cases hstep
  | returning outcome =>
    rw [hphase] at hstep
    rw [← Except.ok.inj hstep]
    exact lasts_deliver h hcall (by simp [Call.isSettled, hphase]) outcome
  | loaded found =>
    rw [hphase] at hstep
    dsimp only at hstep
    cases hrequest : call.request with
    | append event expected author =>
      rw [hrequest] at hstep
      rw [← Except.ok.inj hstep]
      unfold State.finishAppend
      cases hfound : appended limits event expected found with
      | error error => exact lasts_setCall (hsame _)
      | ok next => exact lasts_save (hsame _)
    | create id | load id | query id | recorder id =>
      rw [hrequest] at hstep
      rw [← Except.ok.inj hstep, ← hrequest]
      exact lasts_setCall (hsame _)

theorem step_lasts (h : s.Recording) {op : Op} (hstep : step codec limits s op = .ok t) : Lasts s t := by
  obtain ⟨hstep, hnew⟩ := step_act hstep
  have hfresh : ∀ c, op.call = some c → ∀ (next : Call) old, s.calls c = some old →
      next.request = old.request := by
    intro c hcall next old hold
    rw [hnew c hcall] at hold
    cases hold
  cases op with
  | create c store id location io =>
    rw [← Except.ok.inj hstep]
    unfold State.create
    dsimp only
    split
    · exact lasts_setCall (hfresh c rfl _)
    · exact lasts_save (hfresh c rfl _)
  | load c store id io | recorder c store id io | query c store id after limit io
  | append c store event expected io =>
    rw [← Except.ok.inj hstep]
    exact lasts_setCall (hfresh c rfl _)
  | record c r event io =>
    unfold act at hstep
    dsimp only at hstep
    cases hrecorder : s.recorders r with
    | none =>
      rw [hrecorder] at hstep
      cases hstep
    | some recorder =>
      rw [hrecorder] at hstep
      rw [← Except.ok.inj hstep]
      unfold State.startRecord
      dsimp only
      split_ifs with hfailed hbusy
      · exact lasts_setCall (hfresh c rfl _)
      · exact lasts_setCall (hfresh c rfl _)
      · apply (lasts_setCall (hfresh c rfl _)).setRecorder
        intro old hold
        rw [← Option.some.inj (hrecorder.symm.trans hold)]
        exact Bool.eq_false_of_not_eq_true hfailed
      · apply (lasts_setCall (hfresh c rfl _)).setRecorder
        intro old hold
        rw [← Option.some.inj (hrecorder.symm.trans hold)]
        exact Bool.eq_false_of_not_eq_true hfailed
  | proceed c io =>
    unfold act at hstep
    dsimp only at hstep
    cases hcall : s.calls c with
    | none =>
      rw [hcall] at hstep
      cases hstep
    | some call =>
      rw [hcall] at hstep
      exact lasts_proceed h hcall hstep
  | close store io =>
    rw [← Except.ok.inj hstep]
    exact ⟨fun c call hcall => ⟨call, hcall, rfl⟩, fun _ _ hrecorder _ => hrecorder⟩

end Steps

end Session
