import Mathlib.Data.List.Basic
import Mathlib.Logic.Function.Basic

/-!
# Saves of edited snapshots

A writer reads a table, edits its copy and saves both the copy and what it read. The save changes the keys
at which the two differ, provided that the table still holds there what was read. Values may take another
form when they are written.
-/

namespace SnapshotDelta

universe u v

variable {κ : Type u} {ν : Type v} {table before next before' next' : κ → Option ν} {written : ν → ν}

/-- The table holds what was read wherever the copy differs from it. -/
def Unmoved (table before next : κ → Option ν) : Prop := ∀ k, before k ≠ next k → table k = before k

open Classical in
/-- The table with the changes of the copy. -/
noncomputable def apply (written : ν → ν) (table before next : κ → Option ν) (k : κ) : Option ν :=
  if before k = next k then table k else (next k).map written

theorem apply_of_eq {k : κ} (h : before k = next k) : apply written table before next k = table k := if_pos h

theorem apply_of_ne {k : κ} (h : before k ≠ next k) :
    apply written table before next k = (next k).map written := if_neg h

theorem Unmoved.apply (h : Unmoved table before' next') (hdisjoint : ∀ k, before k ≠ next k → before' k = next' k) :
    Unmoved (apply written table before next) before' next' := by
  intro k hk
  have hsame : before k = next k := by
    by_contra hne
    exact hk (hdisjoint k hne)
  rw [apply_of_eq hsame]
  exact h k hk

end SnapshotDelta
