import Mathlib.Order.Bounds.Basic
import Yui.BinaryRounding

/-!
# The grid of an interval schedule

The occurrence that follows a fence is calculated with numbers of 53 binary digits. It is the next instant of the grid
while that one lies within `2 ^ 53` milliseconds of the anchor.
-/

open BinaryRounding

namespace IntervalGrid

def toNumber (x : ℚ) : ℚ := toBinary 53 x

/-- `anchor + Math.max(0, Math.floor((at - anchor) / everyMs) + 1) * everyMs`. -/
def intervalDue (anchor everyMs fence : ℤ) : ℚ :=
  let steps := max 0 (toNumber (⌊toNumber (toNumber (fence - anchor) / everyMs)⌋ + 1))
  toNumber (anchor + toNumber (steps * everyMs))

theorem toNumber_intCast {z : ℤ} (h : |z| ≤ 2 ^ 53) : toNumber z = z := toBinary_intCast (by norm_num) h

def OnGrid (anchor everyMs : ℤ) (time : ℤ) : Prop := ∃ k : ℕ, time = anchor + k * everyMs

/-- The least instant of the grid that is strictly after the fence. -/
def IsNext (anchor everyMs fence due : ℤ) : Prop := IsLeast {time | OnGrid anchor everyMs time ∧ fence < time} due

variable {anchor everyMs fence due : ℤ}

theorem isNext_before (h : fence < anchor) (hpos : 0 < everyMs) : IsNext anchor everyMs fence anchor := by
  refine ⟨⟨⟨0, by simp⟩, h⟩, ?_⟩
  rintro time ⟨⟨k, rfl⟩, -⟩
  have : 0 ≤ (k : ℤ) * everyMs := by positivity
  omega

theorem isNext_from (h : anchor ≤ fence) (hpos : 0 < everyMs) :
    IsNext anchor everyMs fence (anchor + ((fence - anchor) / everyMs + 1) * everyMs) := by
  have hnonneg : 0 ≤ (fence - anchor) / everyMs := Int.ediv_nonneg (sub_nonneg.2 h) hpos.le
  have hlt : fence - anchor < ((fence - anchor) / everyMs + 1) * everyMs :=
    Int.lt_ediv_add_one_mul_self (fence - anchor) hpos
  refine ⟨⟨⟨((fence - anchor) / everyMs + 1).toNat, ?_⟩, by omega⟩, ?_⟩
  · rw [Int.toNat_of_nonneg (by omega)]
  · rintro time ⟨⟨k, rfl⟩, hafter⟩
    have hk : (fence - anchor) / everyMs < k := Int.ediv_lt_of_lt_mul hpos (by omega)
    have := mul_le_mul_of_nonneg_right (Int.add_one_le_of_lt hk) hpos.le
    omega

theorem intervalDue_eq_toNumber (hpos : 0 < everyMs) (hdue : IsNext anchor everyMs fence due)
    (hnear : due - anchor ≤ 2 ^ 53) : intervalDue anchor everyMs fence = toNumber due := by
  obtain hbefore | hfrom := lt_or_ge fence anchor
  · obtain rfl := hdue.unique (isNext_before hbefore hpos)
    have hneg : toNumber ((fence : ℚ) - due) < 0 := toBinary_neg (by norm_num) (sub_neg.2 (by exact_mod_cast hbefore))
    have hquotient : toNumber (toNumber ((fence : ℚ) - due) / everyMs) < 0 :=
      toBinary_neg (by norm_num) (div_neg_of_neg_of_pos hneg (by exact_mod_cast hpos))
    have hfloor : ⌊toNumber (toNumber ((fence : ℚ) - due) / everyMs)⌋ + 1 ≤ 0 :=
      Int.add_one_le_of_lt (Int.floor_lt.2 (by exact_mod_cast hquotient))
    have hsteps : toNumber (⌊toNumber (toNumber ((fence : ℚ) - due) / everyMs)⌋ + 1) ≤ 0 :=
      toBinary_nonpos (by norm_num) (by exact_mod_cast hfloor)
    unfold intervalDue
    dsimp only
    rw [max_eq_left hsteps, zero_mul, toNumber, toNumber, toBinary_zero, add_zero]
    rfl
  · obtain rfl := hdue.unique (isNext_from hfrom hpos)
    rw [add_sub_cancel_left] at hnear
    have hn : 0 ≤ fence - anchor := sub_nonneg.2 hfrom
    have hk : 0 ≤ (fence - anchor) / everyMs := Int.ediv_nonneg hn hpos.le
    have hlt : fence - anchor < ((fence - anchor) / everyMs + 1) * everyMs :=
      Int.lt_ediv_add_one_mul_self (fence - anchor) hpos
    have hle : (fence - anchor) / everyMs + 1 ≤ ((fence - anchor) / everyMs + 1) * everyMs :=
      le_mul_of_one_le_right (by omega) hpos
    have hdifference : toNumber ((fence : ℚ) - anchor) = (fence - anchor : ℤ) := by
      rw [← Int.cast_sub]
      exact toNumber_intCast (by rw [abs_of_nonneg hn]; omega)
    have hquotient : ⌊toNumber ((fence - anchor : ℤ) / (everyMs : ℚ))⌋ = (fence - anchor) / everyMs :=
      floor_toBinary_div (by norm_num) hn hpos (by omega)
    have hsteps : toNumber (((fence - anchor) / everyMs : ℤ) + 1) = ((fence - anchor) / everyMs + 1 : ℤ) := by
      rw [← Int.cast_one, ← Int.cast_add]
      exact toNumber_intCast (by rw [abs_of_nonneg (by omega)]; omega)
    have hproduct : toNumber (((fence - anchor) / everyMs + 1 : ℤ) * (everyMs : ℚ)) =
        (((fence - anchor) / everyMs + 1) * everyMs : ℤ) := by
      rw [← Int.cast_mul]
      exact toNumber_intCast (by rw [abs_of_nonneg (by omega)]; exact hnear)
    unfold intervalDue
    dsimp only
    rw [hdifference, hquotient, hsteps, max_eq_right (by exact_mod_cast (by omega)), hproduct, ← Int.cast_add]

theorem intervalDue_eq (hpos : 0 < everyMs) (hdue : IsNext anchor everyMs fence due)
    (hrange : |due| ≤ 2 ^ 53) (hnear : due - anchor ≤ 2 ^ 53) : intervalDue anchor everyMs fence = due := by
  rw [intervalDue_eq_toNumber hpos hdue hnear]
  exact toNumber_intCast hrange

/-- A number past `2 ^ 53` is rounded to none below its predecessor. -/
theorem floor_toNumber_ge {x : ℚ} (h : 2 ^ 53 ≤ x) : 2 ^ 53 - 1 ≤ ⌊toNumber x⌋ := by
  have hpos : 0 < x := (by norm_num : (0 : ℚ) < 2 ^ 53).trans_le h
  have herror := (abs_le.1 (@abs_toBinary_sub_le_rel 53 x hpos.ne')).1
  rw [abs_of_pos hpos] at herror
  rw [Int.le_floor, toNumber]
  push_cast
  norm_num at herror h ⊢
  linarith

/-- An occurrence that is a date lies after the fence while the next instant of the grid is near the anchor. -/
theorem lt_intervalDue (hpos : 0 < everyMs) (hanchor : |anchor| ≤ 2 ^ 53)
    (hreach : ((fence - anchor) / everyMs + 1) * everyMs ≤ 2 ^ 53)
    (hdate : ⌊intervalDue anchor everyMs fence⌋ ≤ 8640000000000000) : fence < ⌊intervalDue anchor everyMs fence⌋ := by
  obtain ⟨due, hdue, hnear⟩ : ∃ due, IsNext anchor everyMs fence due ∧ due - anchor ≤ 2 ^ 53 := by
    obtain hbefore | hfrom := lt_or_ge fence anchor
    · exact ⟨anchor, isNext_before hbefore hpos, by norm_num⟩
    · exact ⟨_, isNext_from hfrom hpos, by rwa [add_sub_cancel_left]⟩
  have hgrid : anchor ≤ due := by
    obtain ⟨k, rfl⟩ := hdue.1.1
    have : 0 ≤ (k : ℤ) * everyMs := by positivity
    omega
  have hlow := (abs_le.1 hanchor).1
  obtain hhigh | hrange := lt_or_ge (2 ^ 53) due
  · rw [intervalDue_eq_toNumber hpos hdue hnear] at hdate
    have := floor_toNumber_ge (x := due) (by exact_mod_cast hhigh.le)
    omega
  · rw [intervalDue_eq hpos hdue (abs_le.2 ⟨hlow.trans hgrid, hrange⟩) hnear, Int.floor_intCast]
    exact hdue.1.2

theorem isNext_succ (hpos : 0 < everyMs) (k : ℕ) :
    IsNext anchor everyMs (anchor + k * everyMs) (anchor + (k + 1 : ℕ) * everyMs) := by
  have hnext := isNext_from (le_add_of_nonneg_right (by positivity) : anchor ≤ anchor + k * everyMs) hpos
  rwa [add_sub_cancel_left, Int.mul_ediv_cancel _ hpos.ne'] at hnext

theorem intervalDue_inexact :
    intervalDue (-8640000000000000) 3002399751580331 (-8640000000000000 + 2 * 3002399751580331) = 367199254740992 := by
  decide +kernel

theorem grid_missed : ¬ ∀ anchor everyMs fence due : ℤ, anchor.natAbs ≤ 8640000000000000 → 1000 ≤ everyMs →
    everyMs ≤ 2 ^ 53 - 1 → IsNext anchor everyMs fence due → due.natAbs ≤ 8640000000000000 →
      intervalDue anchor everyMs fence = due := by
  intro h
  have hnext := @isNext_succ (-8640000000000000) 3002399751580331 (by norm_num) 2
  have hdue := h _ _ _ _ (by norm_num) (by norm_num) (by norm_num) hnext (by norm_num)
  rw [show (-8640000000000000 + (2 : ℕ) * 3002399751580331 : ℤ) = -8640000000000000 + 2 * 3002399751580331 from rfl,
    intervalDue_inexact] at hdue
  norm_num at hdue

end IntervalGrid
