import Mathlib.Data.List.Basic

/-!
# Arrays with a moving head

A queue kept as an array and the index of its next entry. Taking the next entry advances the head
and leaves the array as it is, and compaction empties the array once every entry is taken. Only the
entries behind the head are live.
-/

structure HeadArray (α : Type*) where
  items : List α
  head : ℕ
  head_le : head ≤ items.length

namespace HeadArray

variable {α : Type*}

def empty : HeadArray α := ⟨[], 0, Nat.le_refl _⟩

def live (a : HeadArray α) : List α := a.items.drop a.head

def hasNext (a : HeadArray α) : Bool := a.head < a.items.length

def push (a : HeadArray α) (x : α) : HeadArray α :=
  ⟨a.items ++ [x], a.head, Nat.le_trans a.head_le (by simp)⟩

/-- `items[head++]`. -/
def shift (a : HeadArray α) : Option (α × HeadArray α) :=
  if h : a.head < a.items.length then some (a.items[a.head], ⟨a.items, a.head + 1, h⟩) else none

def compact (a : HeadArray α) : HeadArray α := if a.hasNext then a else empty

@[simp] theorem live_empty : (empty : HeadArray α).live = [] := rfl

@[simp] theorem live_push (a : HeadArray α) (x : α) : (a.push x).live = a.live ++ [x] :=
  List.drop_append_of_le_length a.head_le

variable {a : HeadArray α}

theorem live_eq_nil_iff : a.live = [] ↔ a.hasNext = false := by
  simp [live, hasNext]

theorem hasNext_of_live {x : α} {rest : List α} (h : a.live = x :: rest) : a.hasNext = true := by
  by_contra hn
  rw [Bool.not_eq_true, ← live_eq_nil_iff, h] at hn
  cases hn

@[simp] theorem live_compact (a : HeadArray α) : a.compact.live = a.live := by
  unfold compact
  split_ifs with h
  · rfl
  · rw [Bool.not_eq_true, ← live_eq_nil_iff] at h
    rw [h, live_empty]

theorem shift_of_live {x : α} {rest : List α} (h : a.live = x :: rest) :
    ∃ b, a.shift = some (x, b) ∧ b.live = rest := by
  have hlt : a.head < a.items.length := by simpa [hasNext] using hasNext_of_live h
  have hdrop : a.live = a.items[a.head] :: a.items.drop (a.head + 1) := List.drop_eq_getElem_cons hlt
  rw [h, List.cons.injEq] at hdrop
  refine ⟨⟨a.items, a.head + 1, hlt⟩, ?_, hdrop.2.symm⟩
  rw [shift, dif_pos hlt, hdrop.1]

end HeadArray
