import Mathlib.Data.List.Basic

/-!
# Runs of operations that may fail

A fallible machine offers operations that either return a new state or raise an error. An
operation that raises leaves the state as it was, so every list of operations has a run, and an
invariant of the successful steps is an invariant of all states reached.

`Along` asks a condition of every operation in the state it is applied to, `Throughout` asks a
property of every state the run passes through. `along_iff_throughout` decides when the first is
exactly what the second needs.
-/

namespace FallibleRun

variable {σ ι ε : Type*} (step : σ → ι → Except ε σ)

def attempt (s : σ) (i : ι) : σ :=
  match step s i with
  | .ok t => t
  | .error _ => s

def run (s : σ) (ops : List ι) : σ := ops.foldl (attempt step) s

variable {step}

theorem attempt_ok {s t : σ} {i : ι} (h : step s i = .ok t) : attempt step s i = t := by
  simp only [attempt, h]

theorem attempt_error {s : σ} {i : ι} {e : ε} (h : step s i = .error e) : attempt step s i = s := by
  simp only [attempt, h]

@[simp] theorem run_nil (s : σ) : run step s [] = s := rfl

@[simp] theorem run_cons (s : σ) (i : ι) (ops : List ι) :
    run step s (i :: ops) = run step (attempt step s i) ops := rfl

theorem run_append (s : σ) (ops more : List ι) : run step s (ops ++ more) = run step (run step s ops) more := by
  simp only [run, List.foldl_append]

theorem run_snoc (s : σ) (ops : List ι) (i : ι) : run step s (ops ++ [i]) = attempt step (run step s ops) i := by
  rw [run_append, run_cons, run_nil]

theorem attempt_preserves {Inv : σ → Prop} {s : σ} {i : ι} (hs : Inv s)
    (hstep : ∀ t, step s i = .ok t → Inv t) : Inv (attempt step s i) := by
  cases h : step s i with
  | ok t => rw [attempt_ok h]; exact hstep t h
  | error e => rw [attempt_error h]; exact hs

/-- The invariant rule: a property of the start that every successful operation of the list
keeps holds in the state the whole run reaches. -/
theorem run_preserves {Inv : σ → Prop} {s : σ} (ops : List ι) (hs : Inv s)
    (hstep : ∀ i ∈ ops, ∀ s t, Inv s → step s i = .ok t → Inv t) : Inv (run step s ops) := by
  induction ops generalizing s with
  | nil => exact hs
  | cons i ops ih =>
    rw [run_cons]
    apply ih
    · exact attempt_preserves hs (fun t ht => hstep i (by simp) s t hs ht)
    · exact fun j hj => hstep j (by simp [hj])

variable (step) in
def Along (meets : σ → ι → Prop) : σ → List ι → Prop
  | _, [] => True
  | s, i :: ops => meets s i ∧ Along meets (attempt step s i) ops

variable (step) in
def Throughout (good : σ → Prop) : σ → List ι → Prop
  | s, [] => good s
  | s, i :: ops => good s ∧ Throughout good (attempt step s i) ops

theorem along_append {meets : σ → ι → Prop} {s : σ} {ops more : List ι} : Along step meets s (ops ++ more) ↔
      Along step meets s ops ∧ Along step meets (run step s ops) more := by
  induction ops generalizing s with
  | nil => simp [Along]
  | cons i ops ih => simp only [List.cons_append, Along, ih, run_cons, and_assoc]

theorem Throughout.start {good : σ → Prop} {s : σ} {ops : List ι} (h : Throughout step good s ops) : good s := by
  cases ops with
  | nil => exact h
  | cons i ops => exact h.1

theorem Throughout.final {good : σ → Prop} {s : σ} {ops : List ι}
    (h : Throughout step good s ops) : good (run step s ops) := by
  induction ops generalizing s with
  | nil => exact h
  | cons i ops ih => exact ih h.2

/-- A preorder that every step under the condition follows relates the start and the end of a run. -/
theorem run_relates {Inv : σ → Prop} {meets : σ → ι → Prop} {R : σ → σ → Prop}
    (hrefl : ∀ s, Inv s → R s s) (htrans : ∀ a b c, R a b → R b c → R a c)
    (hstep : ∀ s i t, Inv s → meets s i → step s i = .ok t → Inv t ∧ R s t)
    {s : σ} (hs : Inv s) {ops : List ι} (h : Along step meets s ops) :
    Inv (run step s ops) ∧ R s (run step s ops) := by
  induction ops generalizing s with
  | nil => exact ⟨hs, hrefl s hs⟩
  | cons i ops ih =>
    rw [run_cons]
    have hnext : Inv (attempt step s i) ∧ R s (attempt step s i) := by
      cases hi : step s i with
      | ok t =>
        rw [attempt_ok hi]
        exact hstep s i t hs h.1 hi
      | error e =>
        rw [attempt_error hi]
        exact ⟨hs, hrefl s hs⟩
    obtain ⟨hinv, hrun⟩ := ih hnext.1 h.2
    exact ⟨hinv, htrans _ _ _ hnext.2 hrun⟩

/-- Let the condition keep an invariant that gives the property, and let every operation outside
the condition lead from the invariant to a state without the property. Then the runs with the
property throughout are exactly the runs that meet the condition along the way. -/
theorem along_iff_throughout {Inv good : σ → Prop} {meets : σ → ι → Prop} (hgood : ∀ s, Inv s → good s)
    (hkeep : ∀ s i, Inv s → meets s i → Inv (attempt step s i))
    (hbreak : ∀ s i, Inv s → ¬ meets s i → ¬ good (attempt step s i)) {s : σ} (hs : Inv s) (ops : List ι) :
    Along step meets s ops ↔ Throughout step good s ops := by
  induction ops generalizing s with
  | nil => exact iff_of_true trivial (hgood s hs)
  | cons i ops ih =>
    by_cases hi : meets s i
    · simp only [Along, Throughout, ih (hkeep s i hs hi), hi, hgood s hs, true_and]
    · refine iff_of_false (fun h => hi h.1) (fun h => hbreak s i hs hi h.2.start)

end FallibleRun
