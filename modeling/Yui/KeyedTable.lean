import Mathlib.Data.List.Nodup

/-!
# Tables with a key

A table is the list of its rows, and a row is found by its key. Saving a row takes the place of the
row with the same key or adds the row at the end, so the keys of a table stay distinct.
-/

namespace KeyedTable

variable {κ ρ : Type*} [DecidableEq κ] (key : ρ → κ)

def get (table : List ρ) (k : κ) : Option ρ := table.find? fun row => key row = k

def replace (table : List ρ) (row : ρ) : List ρ :=
  table.map fun other => if key other = key row then row else other

def save (table : List ρ) (row : ρ) : List ρ :=
  if (get key table (key row)).isSome then replace key table row else table ++ [row]

variable {key}

variable {table : List ρ} {row : ρ}

theorem key_of_get {k : κ} (h : get key table k = some row) : key row = k := by
  simpa using List.find?_some h

theorem mem_of_get {k : κ} (h : get key table k = some row) :
    row ∈ table := List.mem_of_find?_eq_some h

theorem get_of_mem (hkeys : (table.map key).Nodup) (hrow : row ∈ table) : get key table (key row) = some row := by
  induction table with
  | nil => cases hrow
  | cons other rest ih =>
    rw [List.map_cons, List.nodup_cons] at hkeys
    rcases List.mem_cons.1 hrow with rfl | hrest
    · simp [get]
    · have hne : key other ≠ key row := by
        intro heq
        exact hkeys.1 (heq ▸ List.mem_map_of_mem hrest)
      have hget := ih hkeys.2 hrest
      simpa [get, hne] using hget

theorem get_replace (table : List ρ) (row : ρ) (k : κ) : get key (replace key table row) k =
      (get key table k).map fun other => if key other = key row then row else other := by
  induction table with
  | nil => rfl
  | cons other rest ih =>
    simp only [get, replace, List.map_cons, List.find?_cons] at ih ⊢
    by_cases hrow : key other = key row
    · by_cases hk : key row = k
      · simp [hrow, hk]
      · simp [hrow, hk, ih]
    · by_cases hk : key other = k
      · subst hk
        simp [hrow]
      · simp [hrow, hk, ih]

theorem get_save (table : List ρ) (row : ρ) (k : κ) :
    get key (save key table row) k = if key row = k then some row else get key table k := by
  unfold save
  split_ifs with hsome hk hk
  · rw [get_replace]
    rw [hk] at hsome
    obtain ⟨other, hother⟩ := Option.isSome_iff_exists.1 hsome
    rw [hother, Option.map_some, if_pos ((key_of_get hother).trans hk.symm)]
  · rw [get_replace]
    cases hother : get key table k with
    | none => rfl
    | some other =>
      have hne : key other ≠ key row := fun heq => hk (heq.symm.trans (key_of_get hother))
      rw [Option.map_some, if_neg hne]
  · rw [hk, Option.not_isSome_iff_eq_none] at hsome
    unfold get at hsome ⊢
    rw [List.find?_append, hsome]
    simp [hk]
  · unfold get
    rw [List.find?_append]
    simp [hk]

theorem keys_replace (table : List ρ) (row : ρ) : (replace key table row).map key = table.map key := by
  unfold replace
  rw [List.map_map]
  apply List.map_congr_left
  intro other _
  by_cases h : key other = key row
  · simp [h]
  · simp [h]

theorem keys_save (hkeys : (table.map key).Nodup) (row : ρ) : ((save key table row).map key).Nodup := by
  unfold save
  split_ifs with hsome
  · rw [keys_replace]
    exact hkeys
  · rw [List.map_append, List.map_singleton]
    apply List.Nodup.append hkeys (List.nodup_singleton _)
    rw [List.disjoint_singleton]
    intro hmem
    obtain ⟨other, hother, heq⟩ := List.mem_map.1 hmem
    apply hsome
    rw [← heq, get_of_mem hkeys hother]
    rfl

end KeyedTable
