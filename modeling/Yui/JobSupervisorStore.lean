import Yui.DurableJobOperations
import Yui.JobSupervisorPasses

/-!
# Transactions of the supervisor on the stored runs

A transaction leaves the store as it was, or replaces one record by a record of the same key that
the guard accepts. What each transition of the supervisor does to the status and the effect of a
queued run.
-/

open Checked

theorem orThrow_ok {α : Type} {result : Except String α} {value : α}
    (h : orThrow result = .ok value) : result = .ok value := by
  cases result with
  | error message => cases h
  | ok other =>
    cases h
    rfl

theorem World.find_replaced (jobs : List JobRun) (next : JobRun) (key : JobKey) :
    (jobs.map fun job => if job.key = next.key then next else job).find? (fun job => job.key == key) =
      (jobs.find? fun job => job.key == key).map fun job => if key = next.key then next else job := by
  induction jobs with
  | nil => rfl
  | cons job jobs ih =>
    rw [List.map_cons, List.find?_cons, List.find?_cons, ih]
    by_cases hjob : job.key = next.key
    · rw [if_pos hjob, hjob]
      by_cases hkey : next.key = key
      · simp [hkey]
      · have hne : (next.key == key) = false := by simpa using hkey
        rw [hne]
    · rw [if_neg hjob]
      by_cases hkey : job.key = key
      · have hne : ¬ key = next.key := fun h => hjob (hkey.trans h)
        simp [hkey, hne]
      · have hne : (job.key == key) = false := by simpa using hkey
        rw [hne]

variable [JobHost]

namespace World

/-- No two stored runs have the same key. -/
def Keyed (w : World) : Prop := (w.jobs.map JobRun.key).Nodup

variable {w : World} {key : JobKey} {job : JobRun}

theorem lookup_key (h : w.lookup key = some job) : job.key = key := by
  simpa using List.find?_some h

theorem lookup_mem (h : w.lookup key = some job) :
    job ∈ w.jobs := List.mem_of_find?_eq_some h

theorem lookup_of_mem (hw : w.Keyed) (hjob : job ∈ w.jobs) : w.lookup job.key = some job := by
  unfold lookup
  cases hfind : w.jobs.find? fun other => other.key == job.key with
  | none =>
    have hnone := List.find?_eq_none.1 hfind job hjob
    simp at hnone
  | some other =>
    have hkey : other.key = job.key := by simpa using List.find?_some hfind
    have hmem := List.mem_of_find?_eq_some hfind
    rw [List.inj_on_of_nodup_map hw hmem hjob hkey]

theorem put_keys (w : World) (next : JobRun) : (w.put next).jobs.map JobRun.key = w.jobs.map JobRun.key := by
  unfold put
  rw [List.map_map]
  apply List.map_congr_left
  intro job _
  by_cases hkey : job.key = next.key
  · simp [hkey]
  · simp [hkey]

theorem Keyed.put (hw : w.Keyed) (next : JobRun) : (w.put next).Keyed := by
  unfold Keyed
  rw [put_keys]
  exact hw

theorem lookup_put (w : World) (next : JobRun) (key : JobKey) : (w.put next).lookup key =
      (w.lookup key).map fun job => if key = next.key then next else job :=
  find_replaced w.jobs next key

theorem lookup_put_of_ne {next : JobRun} (h : key ≠ next.key) : (w.put next).lookup key = w.lookup key := by
  rw [lookup_put]
  simp [h]

theorem lookup_put_self {current next : JobRun}
    (h : w.lookup next.key = some current) : (w.put next).lookup next.key = some next := by
  rw [lookup_put, h]
  simp

end World

variable {current next : JobRun}

theorem key_of_accepted (h : Accepted current next) : next.key = current.key := by
  have hidentity := h.unchanged.identity
  have hnamespace := congrArg RunIdentity.executionNamespace hidentity
  have hid := congrArg RunIdentity.id hidentity
  exact Prod.ext hnamespace.symm hid.symm

theorem saveJobRun_ok (h : saveJobRun current next = .ok ()) : Accepted current next ∧ checkDurableJob next = .ok () ∧
      movesBack current.updatedAt next.updatedAt = false := by
  have hsave := orThrow_ok h
  obtain ⟨_, _, _, hcheck, _, hclock, valid, hvalid, hsave⟩ := bind_ok₄ hsave
  have htrue : valid = true := by simpa using refuse_ok hsave
  rw [htrue] at hvalid
  obtain ⟨_, hcheck, _⟩ := bind_ok hcheck
  exact ⟨hvalid, hcheck, by simpa using refuse_ok hclock⟩

/-- A committed record takes the place of the one it was made from. -/
structure Commits (w : World) (key : JobKey) (current next : JobRun) : Prop where
  lookup : w.lookup key = some current
  key : next.key = key
  accepted : Accepted current next
  checked : checkDurableJob next = .ok ()
  clock : movesBack current.updatedAt next.updatedAt = false

variable {w : World}

theorem Commits.of_save {key : JobKey}
    (hlookup : w.lookup key = some current) (hsave : saveJobRun current next = .ok ()) :
    Commits w key current next := by
  obtain ⟨haccepted, hchecked, hclock⟩ := saveJobRun_ok hsave
  exact ⟨hlookup, (key_of_accepted haccepted).trans (World.lookup_key hlookup), haccepted, hchecked, hclock⟩

theorem Commits.lookup_put {key : JobKey} (h : Commits w key current next) : (w.put next).lookup key = some next := by
  have hlookup := h.lookup
  rw [← h.key] at hlookup ⊢
  exact World.lookup_put_self hlookup

theorem Commits.lookup_other {key other : JobKey} (h : Commits w key current next) (hne : other ≠ key) :
    (w.put next).lookup other = w.lookup other := by
  apply World.lookup_put_of_ne
  rw [h.key]
  exact hne

theorem transitionDurableJob_cases (w : World) (key : JobKey) (transition : JobTransition) (now : JsDate) :
    ((transitionDurableJob w key transition now).2 = w ∧
        ∀ next, (transitionDurableJob w key transition now).1 ≠ .ok (some next)) ∨
      ∃ current next, Commits w key current next ∧ transition.apply w now current = .ok next ∧
        transitionDurableJob w key transition now =
          (.ok (some next), (w.put next).record (transitionEvents transition current next)) := by
  cases hlookup : w.lookup key with
  | none =>
    apply Or.inl
    simp [transitionDurableJob, hlookup]
  | some current =>
    cases happly : transition.apply w now current with
    | error failure =>
      apply Or.inl
      simp [transitionDurableJob, hlookup, happly]
    | ok next =>
      cases hsave : saveJobRun current next with
      | error failure =>
        apply Or.inl
        simp [transitionDurableJob, hlookup, happly, hsave]
      | ok _ =>
        refine .inr ⟨current, next, .of_save hlookup hsave, happly, ?_⟩
        simp only [transitionDurableJob, hlookup, happly, hsave]
