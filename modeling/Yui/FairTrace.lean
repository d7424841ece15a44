import Yui.FallibleRun

/-!
# Infinite traces and ranked progress

A schedule names the operation of every instant, and its trace gives the state at every instant.
Progress is proved with a rank and a token that says who owes the next step towards the goal: while
the goal is not reached an instant lowers the rank or keeps both rank and token. If every token is
given up some day, the goal is reached.
-/

namespace FallibleRun

variable {σ ι ε : Type*} (step : σ → ι → Except ε σ)

def trace (s : σ) (schedule : ℕ → ι) : ℕ → σ
  | 0 => s
  | n + 1 => attempt step (trace s schedule n) (schedule n)

variable {step}

theorem trace_preserves {Inv : σ → Prop} {s : σ} {schedule : ℕ → ι} (hs : Inv s)
    (hstep : ∀ n s t, Inv s → step s (schedule n) = .ok t → Inv t) (n : ℕ) : Inv (trace step s schedule n) := by
  induction n with
  | zero => exact hs
  | succ n ih => exact attempt_preserves ih (fun t ht => hstep n _ t ih ht)

end FallibleRun

namespace RankedProgress

variable {τ : Type*} {waiting goal : ℕ → Prop} {rank : ℕ → ℕ} {token : ℕ → τ}

theorem token_kept (hstep : ∀ n, waiting n → goal n ∨ waiting (n + 1) ∧
      (rank (n + 1) < rank n ∨ rank (n + 1) = rank n ∧ token (n + 1) = token n)) {n : ℕ} (hn : waiting n) (d : ℕ) :
    (∃ m, n ≤ m ∧ goal m) ∨ (∃ m, n ≤ m ∧ waiting m ∧ rank m < rank n) ∨
      waiting (n + d) ∧ rank (n + d) = rank n ∧ token (n + d) = token n := by
  induction d with
  | zero => exact .inr (.inr ⟨hn, rfl, rfl⟩)
  | succ d ih =>
    rcases ih with h | h | ⟨hd, hrank, htoken⟩
    · exact .inl h
    · exact .inr (.inl h)
    · rcases hstep (n + d) hd with h | ⟨hnext, hlower | ⟨hsame, hkept⟩⟩
      · exact .inl ⟨n + d, Nat.le_add_right n d, h⟩
      · exact .inr (.inl ⟨n + d + 1, by omega, hnext, hrank ▸ hlower⟩)
      · exact .inr (.inr ⟨hnext, hsame.trans hrank, hkept.trans htoken⟩)

theorem goal_of_waiting (hstep : ∀ n, waiting n → goal n ∨ waiting (n + 1) ∧
      (rank (n + 1) < rank n ∨ rank (n + 1) = rank n ∧ token (n + 1) = token n))
    (hfair : ∀ n, waiting n → ∃ m, n ≤ m ∧ token m ≠ token n) {n : ℕ} (hn : waiting n) : ∃ m, n ≤ m ∧ goal m := by
  generalize hr : rank n = r
  induction r using Nat.strongRecOn generalizing n with
  | ind r ih =>
    obtain ⟨m, hm, htoken⟩ := hfair n hn
    obtain ⟨d, rfl⟩ := Nat.exists_eq_add_of_le hm
    rcases token_kept hstep hn d with h | ⟨m', hm', hwaiting, hlower⟩ | ⟨_, _, hkept⟩
    · exact h
    · obtain ⟨g, hg, hgoal⟩ := ih (rank m') (hr ▸ hlower) hwaiting rfl
      exact ⟨g, Nat.le_trans hm' hg, hgoal⟩
    · exact absurd hkept htoken

end RankedProgress
