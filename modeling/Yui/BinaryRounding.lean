import Mathlib.Data.Int.Log
import Mathlib.Algebra.Order.Field.Rat
import Mathlib.Data.Rat.Floor
import Mathlib.Tactic.Linarith
import Mathlib.Tactic.FieldSimp
import Mathlib.Tactic.NormNum
import Mathlib.Tactic.Positivity

/-!
# Rounding to binary numbers of a given precision

`toBinary p x` is the number with `p` significant binary digits that is closest to `x`, and of two that are equally
close the one with the even significand. The exponent is not bounded.
-/

namespace BinaryRounding

/-- The closest integer, of two the even one. -/
def nearestEven (x : ℚ) : ℤ :=
  if x - ⌊x⌋ < 1 / 2 then ⌊x⌋ else if 1 / 2 < x - ⌊x⌋ then ⌊x⌋ + 1
  else if ⌊x⌋ % 2 = 0 then ⌊x⌋ else ⌊x⌋ + 1

theorem nearestEven_intCast (z : ℤ) : nearestEven z = z := by simp [nearestEven]

theorem abs_nearestEven_sub_le (x : ℚ) : |(nearestEven x : ℚ) - x| ≤ 1 / 2 := by
  have hfloor := Int.floor_le x
  have hlt := Int.lt_floor_add_one x
  rw [abs_le]
  unfold nearestEven
  split_ifs <;> push_cast <;> constructor <;> linarith

/-- The distance of the numbers of the precision around `x`. -/
def spacing (p : ℕ) (x : ℚ) : ℚ := 2 ^ (Int.log 2 |x| + 1 - p)

def toBinary (p : ℕ) (x : ℚ) : ℚ := if x = 0 then 0 else nearestEven (x / spacing p x) * spacing p x

variable {p : ℕ} {x : ℚ}

theorem spacing_pos : 0 < spacing p x := zpow_pos (by norm_num) _

@[simp] theorem toBinary_zero : toBinary p 0 = 0 := if_pos rfl

theorem abs_toBinary_sub_le (hx : x ≠ 0) : |toBinary p x - x| ≤ spacing p x / 2 := by
  have hpos := @spacing_pos p x
  have herror := abs_nearestEven_sub_le (x / spacing p x)
  have hsplit : toBinary p x - x = (nearestEven (x / spacing p x) - x / spacing p x) * spacing p x := by
    rw [toBinary, if_neg hx, sub_mul, div_mul_cancel₀ x hpos.ne']
  rw [hsplit, abs_mul, abs_of_pos hpos]
  calc |(nearestEven (x / spacing p x) : ℚ) - x / spacing p x| * spacing p x
      ≤ 1 / 2 * spacing p x := mul_le_mul_of_nonneg_right herror hpos.le
    _ = spacing p x / 2 := by ring

theorem spacing_le (hx : x ≠ 0) : spacing p x ≤ |x| * 2 ^ (1 - p : ℤ) := by
  have hlog : (2 : ℚ) ^ Int.log 2 |x| ≤ |x| := by
    exact_mod_cast Int.zpow_log_le_self (by norm_num : 1 < 2) (abs_pos.2 hx)
  rw [spacing, add_sub_assoc, zpow_add₀ (by norm_num)]
  exact mul_le_mul_of_nonneg_right hlog (zpow_pos (by norm_num) _).le

theorem abs_toBinary_sub_le_rel (hx : x ≠ 0) : |toBinary p x - x| ≤ |x| * 2 ^ (-p : ℤ) := by
  have hhalf : (2 : ℚ) ^ (1 - p : ℤ) / 2 = 2 ^ (-p : ℤ) := by
    rw [sub_eq_add_neg, zpow_add₀ (by norm_num), zpow_one]
    ring
  calc |toBinary p x - x| ≤ spacing p x / 2 := abs_toBinary_sub_le hx
    _ ≤ |x| * 2 ^ (1 - p : ℤ) / 2 := by linarith [@spacing_le p x hx]
    _ = |x| * 2 ^ (-p : ℤ) := by rw [mul_div_assoc, hhalf]

theorem toBinary_of_multiple {z : ℤ} (h : x = z * spacing p x) : toBinary p x = x := by
  by_cases hx : x = 0
  · rw [hx, toBinary_zero]
  · have hquotient : x / spacing p x = z := by
      rw [div_eq_iff spacing_pos.ne']
      exact h
    rw [toBinary, if_neg hx, hquotient, nearestEven_intCast]
    exact h.symm

theorem toBinary_intCast (hp : 0 < p) {z : ℤ} (h : |z| ≤ 2 ^ p) : toBinary p z = z := by
  by_cases hz : z = 0
  · simp [hz]
  · have hpos : (0 : ℚ) < |(z : ℚ)| := abs_pos.2 (by exact_mod_cast hz)
    obtain hlt | heq := lt_or_eq_of_le h
    · have hlog : Int.log 2 |(z : ℚ)| < p := by
        rw [← Int.lt_zpow_iff_log_lt (by norm_num) hpos]
        exact_mod_cast hlt
      have hexponent : Int.log 2 |(z : ℚ)| + 1 - p = -((p - 1 - Int.log 2 |(z : ℚ)|).toNat : ℤ) := by omega
      refine @toBinary_of_multiple _ _ (z * 2 ^ (p - 1 - Int.log 2 |(z : ℚ)|).toNat) ?_
      rw [spacing, hexponent, zpow_neg, zpow_natCast]
      push_cast
      field_simp
    · have hlog : Int.log 2 |(z : ℚ)| = p := by
        have hcast : |(z : ℚ)| = ((2 : ℕ) : ℚ) ^ (p : ℤ) := by
          rw [zpow_natCast]
          exact_mod_cast heq
        rw [hcast, Int.log_zpow (by norm_num)]
      obtain ⟨half, hhalf⟩ : (2 : ℤ) ∣ z := by
        rw [← dvd_abs, heq]
        exact dvd_pow_self 2 hp.ne'
      refine @toBinary_of_multiple _ _ half ?_
      rw [spacing, hlog, add_sub_cancel_left, zpow_one, hhalf]
      push_cast
      ring

theorem toBinary_neg (hp : 0 < p) (h : x < 0) : toBinary p x < 0 := by
  have herror := @abs_toBinary_sub_le_rel p x h.ne
  have hsmall : (2 : ℚ) ^ (-p : ℤ) < 1 := by
    rw [zpow_neg, zpow_natCast]
    exact inv_lt_one_of_one_lt₀ (one_lt_pow₀ (by norm_num) hp.ne')
  have habs : |x| * 2 ^ (-p : ℤ) < |x| := mul_lt_of_lt_one_right (abs_pos.2 h.ne) hsmall
  rw [abs_of_neg h] at herror habs
  linarith [(abs_le.1 herror).2]

theorem toBinary_nonpos (hp : 0 < p) (h : x ≤ 0) : toBinary p x ≤ 0 := by
  obtain hneg | rfl := lt_or_eq_of_le h
  · exact (toBinary_neg hp hneg).le
  · exact toBinary_zero.le

theorem floor_toBinary_div (hp : 0 < p) {n e : ℤ} (hn : 0 ≤ n) (he : 0 < e) (hbound : n < 2 ^ p) :
    ⌊toBinary p (n / e)⌋ = n / e := by
  have hepos : (0 : ℚ) < e := by exact_mod_cast he
  obtain hexact | hinexact := eq_or_ne (n % e) 0
  · have hq : (n : ℚ) / e = (n / e : ℤ) := by
      rw [div_eq_iff hepos.ne']
      exact_mod_cast (Int.ediv_mul_cancel (Int.dvd_of_emod_eq_zero hexact)).symm
    have hle : |n / e| ≤ 2 ^ p := by
      rw [abs_of_nonneg (Int.ediv_nonneg hn he.le)]
      exact (Int.ediv_le_self e hn).trans hbound.le
    rw [hq, toBinary_intCast hp hle, Int.floor_intCast]
  · have hmod := Int.emod_lt_of_pos n he
    have hmodpos := lt_of_le_of_ne (Int.emod_nonneg n he.ne') hinexact.symm
    have hsum := Int.emod_add_mul_ediv n e
    have hnpos : (0 : ℚ) < n := by
      have : 0 < n := by
        have := Int.ediv_nonneg hn he.le
        nlinarith
      exact_mod_cast this
    have hq : 0 < (n : ℚ) / e := div_pos hnpos hepos
    have herror := @abs_toBinary_sub_le_rel p _ hq.ne'
    have hsmall : |(n : ℚ) / e| * 2 ^ (-p : ℤ) < 1 / e := by
      rw [abs_of_pos hq, zpow_neg, zpow_natCast, div_mul_eq_mul_div, div_lt_div_iff_of_pos_right hepos,
        ← div_eq_mul_inv, div_lt_one (by positivity)]
      exact_mod_cast hbound
    have hsplit : (n : ℚ) = (n % e : ℤ) + e * (n / e : ℤ) := by exact_mod_cast hsum.symm
    have hlow : (n / e : ℤ) + 1 / (e : ℚ) ≤ n / e := by
      rw [hsplit, add_div, mul_div_cancel_left₀ _ hepos.ne', add_comm]
      gcongr
      exact_mod_cast hmodpos
    have hhigh : (n : ℚ) / e ≤ (n / e : ℤ) + 1 - 1 / (e : ℚ) := by
      have hle : ((n % e : ℤ) : ℚ) ≤ e - 1 := by exact_mod_cast Int.le_sub_one_of_lt hmod
      rw [hsplit, add_div, mul_div_cancel_left₀ _ hepos.ne']
      have := div_le_div_of_nonneg_right hle hepos.le
      rw [sub_div, div_self hepos.ne'] at this
      linarith
    obtain ⟨hleft, hright⟩ := abs_le.1 herror
    rw [Int.floor_eq_iff]
    constructor <;> linarith

end BinaryRounding
