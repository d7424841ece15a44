import Mathlib.Data.List.Basic

/-!
# Journals of what happened

A journal is the list of what happened, in its order. What holds of every entry with respect to the ones
before it survives one more entry that has it.
-/

namespace EventJournal

variable {α : Type}

/-- Every entry stands in the relation to what was before it. -/
def Throughout (Φ : List α → α → Prop) (journal : List α) : Prop :=
  ∀ before entry later, journal = before ++ entry :: later → Φ before entry

theorem Throughout.nil (Φ : List α → α → Prop) : Throughout Φ [] := by
  intro before entry later heq
  simp at heq

theorem Throughout.snoc {Φ : List α → α → Prop} {journal : List α} {entry : α}
    (h : Throughout Φ journal) (hentry : Φ journal entry) : Throughout Φ (journal ++ [entry]) := by
  intro before found later heq
  obtain rfl | ⟨rest, last, rfl⟩ := later.eq_nil_or_concat'
  · obtain ⟨rfl, hlast⟩ := List.append_inj' heq rfl
    cases hlast
    exact hentry
  · rw [← List.cons_append, ← List.append_assoc] at heq
    exact h before found rest (List.append_inj' heq rfl).1

end EventJournal
