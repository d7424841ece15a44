import Yui.ScheduleOrder

/-!
# The occurrences of an interval rule

The next occurrence of an interval rule is the next instant of its grid, and each instant of the grid follows once
when the last one is the fence, within `2 ^ 53` milliseconds of the anchor.
-/

open Checked

namespace IntervalGrid

section

variable [ScheduleHost]

theorem timeOf_iso {time : ℤ} (h : time.natAbs ≤ 8640000000000000) : timeOf (RuntimeHost.iso time) = time := by
  rw [timeOf, RuntimeHost.dateParse_iso time h, Option.getD_some]

/-- The instants that follow when each one that is named is the next fence. -/
def occurrences (rule : ScheduleRule) : ℕ → ℤ → Except String (List ℤ)
  | 0, _ => .ok []
  | n + 1, fence => do
    match ← nextScheduleDue rule fence with
    | none => .ok []
    | some due => do
      let later ← occurrences rule n (timeOf due)
      .ok (timeOf due :: later)

variable {text : String} {anchor everyMs fence due : ℤ}

theorem everyMs_pos (hrule : validateScheduleRule (.interval text everyMs) = .ok ()) : 0 < everyMs := by
  obtain ⟨_, _, hperiod⟩ := bind_ok hrule
  have := refuse_ok hperiod
  omega

theorem nextScheduleDue_interval (hrule : validateScheduleRule (.interval text everyMs) = .ok ())
    (hanchor : JsHost.dateParse text = some anchor) (hdue : IsNext anchor everyMs fence due)
    (hrange : due.natAbs ≤ 8640000000000000) (hnear : due - anchor ≤ 2 ^ 53) :
    nextScheduleDue (.interval text everyMs) fence = .ok (some (RuntimeHost.iso due)) := by
  have htime : timeOf text = anchor := by rw [timeOf, hanchor, Option.getD_some]
  have hnumber : intervalDue anchor everyMs fence = due :=
    intervalDue_eq (everyMs_pos hrule) hdue (by rw [Int.abs_eq_natAbs]; omega) hnear
  have hdate : toISOString due = .ok (RuntimeHost.iso due) := if_pos hrange
  rw [nextScheduleDue, hrule, ok_bind, htime, hnumber, Int.floor_intCast, hdate, ok_bind]

/-- Every occurrence within `2 ^ 53` milliseconds of the anchor is the least instant of the grid after the fence, and
from a fence before the anchor each instant of the grid follows once, in order. -/
theorem interval_enumerates_grid (hrule : validateScheduleRule (.interval text everyMs) = .ok ())
    (hanchor : JsHost.dateParse text = some anchor) :
    (∀ fence due, IsNext anchor everyMs fence due → due.natAbs ≤ 8640000000000000 → due - anchor ≤ 2 ^ 53 →
      nextScheduleDue (.interval text everyMs) fence = .ok (some (RuntimeHost.iso due))) ∧
    ∀ fence < anchor, ∀ n : ℕ, (anchor + n * everyMs).natAbs ≤ 8640000000000000 → n * everyMs ≤ 2 ^ 53 →
      occurrences (.interval text everyMs) (n + 1) fence =
        .ok ((List.range (n + 1)).map fun k : ℕ => anchor + k * everyMs) := by
  have hpos := everyMs_pos hrule
  have hdate := ScheduleHost.dateParse_range hanchor
  have hfrom : ∀ n k : ℕ, (anchor + (k + n : ℕ) * everyMs).natAbs ≤ 8640000000000000 →
      (k + n : ℕ) * everyMs ≤ 2 ^ 53 → ∀ fence, IsNext anchor everyMs fence (anchor + k * everyMs) →
      occurrences (.interval text everyMs) (n + 1) fence =
        .ok ((List.range' k (n + 1)).map fun k : ℕ => anchor + k * everyMs) := by
    intro n
    induction n with
    | zero =>
      intro k hrange hnear fence hdue
      rw [Nat.add_zero] at hrange hnear
      rw [occurrences, nextScheduleDue_interval hrule hanchor hdue hrange (by rw [add_sub_cancel_left]; exact hnear),
        ok_bind]
      simp only [timeOf_iso hrange]
      rfl
    | succ n ih =>
      intro k hrange hnear fence hdue
      have hk : 0 ≤ (k : ℤ) * everyMs := by positivity
      have hle : (k : ℤ) * everyMs ≤ (k + (n + 1) : ℕ) * everyMs :=
        mul_le_mul_of_nonneg_right (by exact_mod_cast Nat.le_add_right k (n + 1)) hpos.le
      have hkrange : (anchor + k * everyMs).natAbs ≤ 8640000000000000 := by omega
      have hindex : k + (n + 1) = k + 1 + n := by omega
      rw [occurrences, nextScheduleDue_interval hrule hanchor hdue hkrange (by omega), ok_bind]
      simp only [timeOf_iso hkrange, ih (k + 1) (hindex ▸ hrange) (hindex ▸ hnear) _ (isNext_succ hpos k)]
      rfl
  refine ⟨fun fence due => nextScheduleDue_interval hrule hanchor, fun fence hfence n hrange hnear => ?_⟩
  have hdue : IsNext anchor everyMs fence (anchor + (0 : ℕ) * everyMs) := by simpa using isNext_before hfence hpos
  rw [List.range_eq_range']
  exact hfrom n 0 (by rwa [Nat.zero_add]) (by rwa [Nat.zero_add]) fence hdue

end

theorem interval_enumerates_grid_sample :
    let _ := sampleScheduleHost
    nextScheduleDue (.interval sampleInstant 5000) 1767600005000 = .ok (some (Binding.sampleIso 1767600010000)) ∧
      occurrences (.interval sampleInstant 5000) 3 0 = .ok [1767600000000, 1767600005000, 1767600010000] := by
  let _ := sampleScheduleHost
  obtain ⟨hnext, hall⟩ := interval_enumerates_grid (by rfl : validateScheduleRule (.interval sampleInstant 5000) = .ok ())
    (by decide +kernel : JsHost.dateParse sampleInstant = some 1767600000000)
  exact ⟨hnext _ _ (isNext_succ (by norm_num) 1) (by norm_num) (by norm_num),
    hall 0 (by norm_num) 2 (by norm_num) (by norm_num)⟩

end IntervalGrid
