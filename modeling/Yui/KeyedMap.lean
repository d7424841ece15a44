import Mathlib.Data.List.Induction
import Mathlib.Data.List.Nodup

/-!
# Insertion-ordered maps

A `Map` from the keys of its values: a value that is set again replaces the earlier one in its place.
-/

namespace KeyedMap

variable {α κ : Type} [DecidableEq κ] (key : α → κ)

/-- `entries.set(key(value), value)`. -/
def set (entries : List α) (value : α) : List α :=
  if key value ∈ entries.map key then entries.map fun entry => if key entry = key value then value else entry
  else entries ++ [value]

/-- `new Map(values.map(value => [key(value), value])).values()`. -/
def ofList (values : List α) : List α := values.foldl (set key) []

/-- `new Map(values.map(value => [key(value), value])).get(k)`: of two values with one key the later counts. -/
def lastOf (values : List α) (k : κ) : Option α := values.reverse.find? fun value => key value = k

variable {key} {entries values : List α} {value entry : α} {k : κ}

theorem mem_set (h : entry ∈ set key entries value) : entry = value ∨ entry ∈ entries := by
  unfold set at h
  split_ifs at h with hkey
  · obtain ⟨before, hbefore, heq⟩ := List.mem_map.1 h
    split_ifs at heq
    · exact .inl heq.symm
    · exact .inr (heq ▸ hbefore)
  · obtain h | h := List.mem_append.1 h
    · exact .inr h
    · exact .inl (List.mem_singleton.1 h)

theorem mem_set_of_ne (h : entry ∈ entries) (hne : key entry ≠ key value) : entry ∈ set key entries value := by
  unfold set
  split_ifs
  · exact List.mem_map.2 ⟨entry, h, if_neg hne⟩
  · exact List.mem_append_left _ h

theorem mem_set_self : value ∈ set key entries value := by
  unfold set
  split_ifs with hkey
  · obtain ⟨entry, hentry, heq⟩ := List.mem_map.1 hkey
    exact List.mem_map.2 ⟨entry, hentry, if_pos heq⟩
  · exact List.mem_append_right _ (List.mem_singleton.2 rfl)

theorem map_set_of_mem (h : key value ∈ entries.map key) : (set key entries value).map key = entries.map key := by
  unfold set
  rw [if_pos h, List.map_map]
  refine List.map_congr_left fun entry _ => ?_
  dsimp only [Function.comp_apply]
  split_ifs with heq
  · exact heq.symm
  · rfl

theorem map_set_of_notMem (h : key value ∉ entries.map key) :
    (set key entries value).map key = entries.map key ++ [key value] := by
  unfold set
  rw [if_neg h, List.map_append]
  rfl

theorem keys_set : k ∈ (set key entries value).map key ↔ k = key value ∨ k ∈ entries.map key := by
  by_cases h : key value ∈ entries.map key
  · rw [map_set_of_mem h]
    constructor
    · exact .inr
    · rintro (rfl | hk)
      · exact h
      · exact hk
  · rw [map_set_of_notMem h, List.mem_append, List.mem_singleton, or_comm]

theorem nodup_set (h : (entries.map key).Nodup) : ((set key entries value).map key).Nodup := by
  by_cases hmem : key value ∈ entries.map key
  · rwa [map_set_of_mem hmem]
  · rw [map_set_of_notMem hmem]
    exact List.Nodup.append h (List.nodup_singleton _) (by simpa using hmem)

/-- What a run of `set` gives: the entries are among the values, their keys are distinct, and no key is lost. -/
structure Collects (key : α → κ) (values entries : List α) : Prop where
  mem : ∀ entry ∈ entries, entry ∈ values
  nodup : (entries.map key).Nodup
  keys : ∀ value ∈ values, key value ∈ entries.map key

omit [DecidableEq κ] in
theorem Collects.nil : Collects key [] [] where
  mem := by simp
  nodup := by simp
  keys := by simp

theorem Collects.snoc (h : Collects key values entries) (value : α) :
    Collects key (values ++ [value]) (set key entries value) where
  mem entry hmem := by
    obtain rfl | hmem := mem_set hmem
    · simp
    · exact List.mem_append_left _ (h.mem entry hmem)
  nodup := nodup_set h.nodup
  keys other hmem := by
    obtain hmem | hmem := List.mem_append.1 hmem
    · exact keys_set.2 (.inr (h.keys other hmem))
    · rw [List.mem_singleton.1 hmem]
      exact keys_set.2 (.inl rfl)

theorem collects_foldl (h : Collects key values entries) (more : List α) :
    Collects key (values ++ more) (more.foldl (set key) entries) := by
  induction more generalizing values entries with
  | nil => simpa using h
  | cons value more ih => simpa using ih (h.snoc value)

theorem collects_ofList (values : List α) : Collects key values (ofList key values) := by
  have h := collects_foldl (@Collects.nil α κ key) values
  rwa [List.nil_append] at h

theorem foldl_set_of_nodup (h : ((entries ++ values).map key).Nodup) :
    values.foldl (set key) entries = entries ++ values := by
  induction values generalizing entries with
  | nil => rw [List.foldl_nil, List.append_nil]
  | cons value values ih =>
    have hnew : key value ∉ entries.map key := by
      rw [List.map_append, List.map_cons] at h
      exact fun hmem => (List.disjoint_of_nodup_append h) hmem List.mem_cons_self
    rw [List.foldl_cons, set, if_neg hnew, ih (by simpa using h), List.append_assoc, List.singleton_append]

theorem ofList_of_nodup (h : (values.map key).Nodup) : ofList key values = values := foldl_set_of_nodup h

theorem find?_of_mem (hnodup : (values.map key).Nodup) (h : value ∈ values) :
    values.find? (fun entry => key entry = key value) = some value := by
  cases hfound : values.find? fun entry => key entry = key value with
  | none => exact absurd (decide_eq_true rfl) (List.find?_eq_none.1 hfound value h)
  | some found =>
    have hkey : key found = key value := by simpa using List.find?_some hfound
    rw [List.inj_on_of_nodup_map hnodup (List.mem_of_find?_eq_some hfound) h hkey]

theorem lastOf_some (h : lastOf key values k = some value) : value ∈ values ∧ key value = k := by
  have hmem := List.mem_of_find?_eq_some h
  have hkey := List.find?_some h
  exact ⟨List.mem_reverse.1 hmem, by simpa using hkey⟩

theorem lastOf_none (h : lastOf key values k = none) : k ∉ values.map key := by
  intro hmem
  obtain ⟨value, hvalue, heq⟩ := List.mem_map.1 hmem
  have hnone := List.find?_eq_none.1 h value (List.mem_reverse.2 hvalue)
  exact hnone (by simpa using heq)

theorem lastOf_isSome (h : k ∈ values.map key) : ∃ value, lastOf key values k = some value := by
  cases hlast : lastOf key values k with
  | none => exact absurd h (lastOf_none hlast)
  | some value => exact ⟨value, rfl⟩

theorem lastOf_of_nodup (hnodup : (values.map key).Nodup) (h : value ∈ values) :
    lastOf key values (key value) = some value := by
  obtain ⟨found, hfound⟩ := lastOf_isSome (List.mem_map_of_mem (f := key) h)
  obtain ⟨hmem, hkey⟩ := lastOf_some hfound
  rw [hfound, List.inj_on_of_nodup_map hnodup hmem h hkey]

theorem lastOf_of_coarser {ι : Type} [DecidableEq ι] {coarse : α → ι} {value : α}
    (hcoarse : ∀ other ∈ values, key other = key value → coarse other = coarse value)
    (h : lastOf coarse values (coarse value) = some value) : lastOf key values (key value) = some value := by
  unfold lastOf at h ⊢
  obtain ⟨-, later, earlier, hsplit, hlater⟩ := List.find?_eq_some_iff_append.1 h
  refine List.find?_eq_some_iff_append.2 ⟨by simp, later, earlier, hsplit, fun other hmem => ?_⟩
  have hother : other ∈ values := by
    rw [← List.mem_reverse, hsplit]
    exact List.mem_append_left _ hmem
  have hdiffers := hlater other hmem
  simp only [Bool.not_eq_true', decide_eq_false_iff_not] at hdiffers ⊢
  exact fun hsame => hdiffers (hcoarse other hother hsame)

theorem mem_set_iff : entry ∈ set key entries value ↔ entry = value ∨ (entry ∈ entries ∧ key entry ≠ key value) := by
  constructor
  · intro h
    by_cases heq : entry = value
    · exact .inl heq
    · refine .inr ⟨(mem_set h).resolve_left heq, fun hkey => heq ?_⟩
      unfold set at h
      split_ifs at h with hmem
      · obtain ⟨before, hbefore, hbe⟩ := List.mem_map.1 h
        split_ifs at hbe with hsame
        · exact hbe.symm
        · exact absurd (hbe ▸ hkey) hsame
      · obtain h | h := List.mem_append.1 h
        · exact absurd (List.mem_map.2 ⟨entry, h, hkey⟩) hmem
        · exact List.mem_singleton.1 h
  · rintro (rfl | ⟨hmem, hne⟩)
    · exact mem_set_self
    · exact mem_set_of_ne hmem hne

theorem lastOf_snoc (values : List α) (value : α) (k : κ) :
    lastOf key (values ++ [value]) k = if key value = k then some value else lastOf key values k := by
  unfold lastOf
  rw [List.reverse_append, List.reverse_singleton, List.singleton_append, List.find?_cons]
  by_cases h : key value = k
  · rw [if_pos h, decide_eq_true h]
  · rw [if_neg h, decide_eq_false h]

/-- The map keeps the last value of each key. -/
theorem mem_ofList_iff : entry ∈ ofList key values ↔ lastOf key values (key entry) = some entry := by
  induction values using List.reverseRecOn with
  | nil => simp [ofList, lastOf]
  | append_singleton values value ih =>
    rw [ofList, List.foldl_append, List.foldl_cons, List.foldl_nil, mem_set_iff, lastOf_snoc]
    by_cases h : key value = key entry
    · rw [if_pos h, Option.some_inj, eq_comm, or_iff_left fun hne => hne.2 h.symm]
    · rw [if_neg h, ← ih, ← ofList]
      constructor
      · rintro (rfl | hmem)
        · exact absurd rfl h
        · exact hmem.1
      · exact fun hmem => .inr ⟨hmem, fun hkey => h hkey.symm⟩

end KeyedMap
