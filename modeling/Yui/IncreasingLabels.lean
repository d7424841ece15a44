import Mathlib.Data.List.Nodup
import Mathlib.Data.Finset.Card
import Mathlib.Order.Interval.Finset.Nat

/-!
# Lists with strictly increasing labels

Cutting such a list at a position and cutting it at a label agree exactly when the labels fill the
range that was cut off. `drop_eq_filter` is the agreement, and `exists_mem_take_of_gap` produces,
when a label of the range is missing, an entry above the range among the entries cut off.
-/

namespace IncreasingLabels

variable {α : Type*} {label : α → ℕ}

abbrev Increasing (label : α → ℕ) (l : List α) : Prop := l.Pairwise (fun x y => label x < label y)

variable {l : List α}

theorem nodup_map (h : Increasing label l) : (l.map label).Nodup :=
  List.pairwise_map.2 (h.imp (fun hlt => Nat.ne_of_lt hlt))

theorem append {l r : List α} (hl : Increasing label l) (hr : Increasing label r)
    (hlt : ∀ x ∈ l, ∀ y ∈ r, label x < label y) : Increasing label (l ++ r) :=
  List.pairwise_append.2 ⟨hl, hr, hlt⟩

/-- The entries at or below a bound come first. -/
theorem filter_append_filter (h : Increasing label l) (b : ℕ) :
    l.filter (fun x => label x ≤ b) ++ l.filter (fun x => b < label x) = l := by
  induction l with
  | nil => rfl
  | cons x l ih =>
    rw [Increasing, List.pairwise_cons] at h
    by_cases hx : label x ≤ b
    · have hx' : ¬ b < label x := Nat.not_lt.2 hx
      simp only [List.filter_cons, hx, hx', decide_true, decide_false, if_true,
        Bool.false_eq_true, if_false, List.cons_append, ih h.2]
    · have hx' : b < label x := Nat.lt_of_not_ge hx
      have hnone : l.filter (fun y => label y ≤ b) = [] := by
        rw [List.filter_eq_nil_iff]
        intro y hy
        have := h.1 y hy
        simp only [decide_eq_true_eq]
        omega
      have hall : l.filter (fun y => b < label y) = l := by
        rw [List.filter_eq_self]
        intro y hy
        have := h.1 y hy
        simp only [decide_eq_true_eq]
        omega
      simp only [List.filter_cons, hx, hx', decide_true, decide_false, if_true,
        Bool.false_eq_true, if_false, hnone, hall, List.nil_append]

theorem labels_subset_Icc {a : ℕ} (ha : ∀ x ∈ l, a ≤ label x) (b : ℕ) :
    ((l.filter (fun x => label x ≤ b)).map label).toFinset ⊆ Finset.Icc a b := by
  intro n hn
  simp only [List.mem_toFinset, List.mem_map, List.mem_filter, decide_eq_true_eq] at hn
  obtain ⟨x, ⟨hx, hb⟩, rfl⟩ := hn
  exact Finset.mem_Icc.2 ⟨ha x hx, hb⟩

variable {a b : ℕ}

theorem length_filter_le (h : Increasing label l) (ha : ∀ x ∈ l, a ≤ label x) :
    (l.filter (fun x => label x ≤ b)).length ≤ b + 1 - a := by
  have hcard := Finset.card_le_card (labels_subset_Icc ha b)
  rwa [List.toFinset_card_of_nodup (nodup_map (h.filter _)), List.length_map, Nat.card_Icc] at hcard

theorem length_filter_eq (h : Increasing label l)
    (ha : ∀ x ∈ l, a ≤ label x) (hfull : ∀ n, a ≤ n → n ≤ b → ∃ x ∈ l, label x = n) :
    (l.filter (fun x => label x ≤ b)).length = b + 1 - a := by
  refine Nat.le_antisymm (length_filter_le h ha) ?_
  have hsub : Finset.Icc a b ⊆ ((l.filter (fun x => label x ≤ b)).map label).toFinset := by
    intro n hn
    obtain ⟨h1, h2⟩ := Finset.mem_Icc.1 hn
    obtain ⟨x, hx, rfl⟩ := hfull n h1 h2
    simp only [List.mem_toFinset, List.mem_map, List.mem_filter, decide_eq_true_eq]
    exact ⟨x, ⟨hx, h2⟩, rfl⟩
  have hcard := Finset.card_le_card hsub
  rwa [List.toFinset_card_of_nodup (nodup_map (h.filter _)), List.length_map, Nat.card_Icc] at hcard

theorem drop_eq_filter (h : Increasing label l)
    (ha : ∀ x ∈ l, a ≤ label x) (hfull : ∀ n, a ≤ n → n ≤ b → ∃ x ∈ l, label x = n) :
    l.drop (b + 1 - a) = l.filter (fun x => b < label x) := by
  conv_lhs => rw [← filter_append_filter h b, ← length_filter_eq h ha hfull]
  exact List.drop_left

theorem take_eq_filter (h : Increasing label l)
    (ha : ∀ x ∈ l, a ≤ label x) (hfull : ∀ n, a ≤ n → n ≤ b → ∃ x ∈ l, label x = n) :
    l.take (b + 1 - a) = l.filter (fun x => label x ≤ b) := by
  conv_lhs => rw [← filter_append_filter h b, ← length_filter_eq h ha hfull]
  exact List.take_left

theorem exists_mem_take_of_gap (h : Increasing label l) {a b n : ℕ}
    (ha : ∀ x ∈ l, a ≤ label x) (hn : a ≤ n) (hnb : n ≤ b) (hgap : ∀ x ∈ l, label x ≠ n)
    (habove : ∃ x ∈ l, b < label x) : ∃ x ∈ l.take (b + 1 - a), b < label x := by
  have hlt : (l.filter (fun x => label x ≤ b)).length < b + 1 - a := by
    refine Nat.lt_of_le_of_ne (length_filter_le h ha) (fun heq => ?_)
    have hcard : (Finset.Icc a b).card ≤
        ((l.filter (fun x => label x ≤ b)).map label).toFinset.card := by
      rw [List.toFinset_card_of_nodup (nodup_map (h.filter _)), List.length_map, heq, Nat.card_Icc]
    have hmem := Finset.mem_Icc.2 ⟨hn, hnb⟩
    rw [← Finset.eq_of_subset_of_card_le (labels_subset_Icc ha b) hcard] at hmem
    simp only [List.mem_toFinset, List.mem_map, List.mem_filter] at hmem
    obtain ⟨x, ⟨hx, _⟩, hxn⟩ := hmem
    exact hgap x hx hxn
  obtain ⟨x, hx, hbx⟩ := habove
  cases hr : l.filter (fun x => b < label x) with
  | nil =>
    have hxr : x ∈ l.filter (fun x => b < label x) := by simpa using ⟨hx, hbx⟩
    simp [hr] at hxr
  | cons y r =>
    have hy : y ∈ l.filter (fun x => b < label x) := by simp [hr]
    refine ⟨y, ?_, by simpa using (List.mem_filter.1 hy).2⟩
    rw [← filter_append_filter h b, hr, List.take_append]
    refine List.mem_append_right _ ?_
    obtain ⟨k, hk⟩ : ∃ k, b + 1 - a - (l.filter (fun x => label x ≤ b)).length = k + 1 :=
      ⟨b + 1 - a - (l.filter (fun x => label x ≤ b)).length - 1, by omega⟩
    rw [hk, List.take_succ_cons]
    exact List.mem_cons_self

end IncreasingLabels
