import Yui.DurableJobOperations
import Yui.StoreGuards

/-!
# Saves of several connections

The guards hold between every replaced row and its successor while a save of a Job definition or of a
global run still finds the row that it has read before it took the lock. Otherwise the later of two saves
replaces the earlier one unseen.
-/

open Checked GuardedSave

namespace StoreRecord

theorem isDefinition_of_key {first second : StoreRecord} (h : first.key = second.key)
    (hfirst : ∃ job, first = .jobDefinition job) : ∃ job, second = .jobDefinition job := by
  obtain ⟨job, rfl⟩ := hfirst
  cases second with
  | jobDefinition other => exact ⟨other, rfl⟩
  | globalJobRun | durableJob | agentJobRun | capabilityGrant | releaseWorkflow => cases h

def revision : StoreRecord → ℚ
  | .jobDefinition job => job.revision
  | _ => 0

variable [JobHost]

theorem revision_lt {previous row : StoreRecord} (hrow : ∃ job, row = .jobDefinition job)
    (h : guard previous row = true) : previous.revision < row.revision := by
  obtain ⟨job, rfl⟩ := hrow
  cases previous with
  | jobDefinition previous =>
    simp only [guard, followsDefinition, Bool.and_eq_true, decide_eq_true_eq] at h
    change previous.revision < job.revision
    rw [h.1.1]
    exact lt_add_one _
  | globalJobRun | durableJob | agentJobRun | capabilityGrant | releaseWorkflow => cases h

theorem followsRun_terminal {previous run : JobRun} (h : followsRun previous run = true)
    (hterminal : isDurableJobTerminal previous.status = true) : SameTerminal previous run := by
  simp only [followsRun, Bool.and_eq_true, decide_eq_true_eq] at h
  have haccepted := (accepted_iff previous run).1 h.2
  have hend := haccepted.2.2.2.2
  rw [if_pos hterminal] at hend
  exact hend

end StoreRecord

section Saves

variable [JobHost] {ι : Type} [DecidableEq ι]

/-- Every guard holds against the row that is replaced, two edits of one revision are not both accepted,
and a terminal global run is not overwritten. -/
theorem fresh_saves_guarded (s : System ι StoreKey StoreRecord) (statements : List (Step ι StoreRecord))
    (hcalls : ∀ c, s.calls c = none) (hnone : s.replaced = []) (hfresh : FreshRun savePolicy s statements) :
    Guarded savePolicy (run savePolicy s statements) ∧
      ((run savePolicy s statements).replaced.Pairwise fun first second =>
        ∀ job other, first.2 = .jobDefinition job → second.2 = .jobDefinition other →
          job.scope = other.scope → job.id = other.id → job.revision < other.revision) ∧
      ∀ before after, (.globalJobRun before, .globalJobRun after) ∈ (run savePolicy s statements).replaced →
        isDurableJobTerminal before.status = true → SameTerminal before after := by
  have hguarded := run_guarded statements hcalls hnone hfresh
  refine ⟨hguarded, ?_, fun before after hpair hterminal => ?_⟩
  · have hclimbs := run_climbs (fun row => ∃ job, row = .jobDefinition job) StoreRecord.revision
      statements hcalls hnone hfresh (fun _ _ hkey => StoreRecord.isDefinition_of_key hkey)
      fun _ _ hrow hguard => StoreRecord.revision_lt hrow hguard
    apply hclimbs.climbs.imp
    intro first second hlt job other hfirst hsecond hscope hid
    have hkey : StoreRecord.key first.2 = StoreRecord.key second.2 := by
      rw [hfirst, hsecond]
      simp only [StoreRecord.key, hscope, hid]
    have hrevision := hlt ⟨job, hfirst⟩ hkey
    rw [hfirst, hsecond] at hrevision
    exact hrevision
  · exact StoreRecord.followsRun_terminal (hguarded _ hpair) hterminal

end Saves

section Stale

def editOf (revision : ℚ) (title : String) : JobDefinition where
  schemaVersion := 1
  id := "job-1"
  scope := .global
  title := title
  revision := revision
  configuration := .agent (.obj [])
  builtin := false
  instantiation := none
  createdAt := sampleTime
  updatedAt := sampleTime

def baseDefinition : StoreRecord := .jobDefinition (editOf 1 "base")

def firstEdit : StoreRecord := .jobDefinition (editOf 2 "first")

def secondEdit : StoreRecord := .jobDefinition (editOf 2 "second")

def oneDefinition : System Bool StoreKey StoreRecord :=
  ⟨fun key => if key = baseDefinition.key then some baseDefinition else none, none, fun _ => none, []⟩

/-- Both connections read revision 1, and then each saves its revision 2. -/
def staleEdits : List (Step Bool StoreRecord) :=
  [.enter true firstEdit true, .enter false secondEdit true, .lock true true, .write true true,
    .commit true true, .lock false true, .write false true, .commit false true]

theorem stale_edit_accepted :
    let _ := sampleJobHost
    ¬ ∀ statements : List (Step Bool StoreRecord), Guarded savePolicy (run savePolicy oneDefinition statements) := by
  intro _ hall
  have hguard := hall staleEdits (firstEdit, secondEdit) (by decide +kernel)
  exact absurd hguard (by decide +kernel)

/-- One connection saves its revision. -/
def oneEdit : List (Step Bool StoreRecord) :=
  [.enter true firstEdit true, .lock true true, .write true true, .commit true true]

theorem fresh_saves_guarded_edit :
    let _ := sampleJobHost
    Guarded savePolicy (run savePolicy oneDefinition oneEdit) := by
  intro _
  refine (fresh_saves_guarded oneDefinition oneEdit (fun _ => rfl) rfl ⟨trivial, ?_, trivial, trivial, trivial⟩).1
  intro row read hcall _
  have hread : (some (.checked firstEdit (some baseDefinition)) : Option (Phase StoreRecord)) =
      some (.checked row read) := by
    rw [← hcall]
    decide +kernel
  cases hread
  decide +kernel

end Stale
