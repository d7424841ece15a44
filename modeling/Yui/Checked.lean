import Mathlib.Data.List.Basic

/-!
# Sequenced checks

Lemmas for code that runs checks in order and stops at the first error: a bind succeeds exactly
when both parts do, and an indexed traversal succeeds exactly when every element passes.
-/

namespace Checked

universe u v

variable {ε : Type u} {α β γ δ ζ : Type v}

theorem bind_ok {x : Except ε α} {f : α → Except ε β} {b : β} (h : x >>= f = .ok b) :
    ∃ a, x = .ok a ∧ f a = .ok b := by
  cases x with
  | error e => cases h
  | ok a => exact ⟨a, rfl, h⟩

theorem bind_ok₂ {x : Except ε α} {f : α → Except ε β} {g : α → β → Except ε γ} {c : γ}
    (h : (x >>= fun a => f a >>= g a) = .ok c) : ∃ a, x = .ok a ∧ ∃ b, f a = .ok b ∧ g a b = .ok c := by
  obtain ⟨a, ha, h⟩ := bind_ok h
  exact ⟨a, ha, bind_ok h⟩

theorem bind_ok₃ {x : Except ε α} {f : α → Except ε β} {g : α → β → Except ε γ} {k : α → β → γ → Except ε δ} {d : δ}
    (h : (x >>= fun a => f a >>= fun b => g a b >>= k a b) = .ok d) :
    ∃ a, x = .ok a ∧ ∃ b, f a = .ok b ∧ ∃ c, g a b = .ok c ∧ k a b c = .ok d := by
  obtain ⟨a, ha, h⟩ := bind_ok h
  exact ⟨a, ha, bind_ok₂ h⟩

theorem bind_ok₄ {x : Except ε α} {f : α → Except ε β} {g : α → β → Except ε γ} {k : α → β → γ → Except ε δ}
    {l : α → β → γ → δ → Except ε ζ} {e : ζ}
    (h : (x >>= fun a => f a >>= fun b => g a b >>= fun c => k a b c >>= l a b c) = .ok e) :
    ∃ a, x = .ok a ∧ ∃ b, f a = .ok b ∧ ∃ c, g a b = .ok c ∧ ∃ d, k a b c = .ok d ∧ l a b c d = .ok e := by
  obtain ⟨a, ha, h⟩ := bind_ok h
  exact ⟨a, ha, bind_ok₃ h⟩

@[simp] theorem ok_bind (a : α) (f : α → Except ε β) : (Except.ok a >>= f) = f a := rfl

@[simp] theorem error_bind (e : ε) (f : α → Except ε β) :
    ((Except.error e : Except ε α) >>= f) = .error e := rfl

theorem exists_of_isOk {x : Except ε α} (h : x.isOk = true) : ∃ a, x = .ok a := by
  cases x with
  | error e => cases h
  | ok a => exact ⟨a, rfl⟩

/-- `if (p) throw e`. -/
def refuse (p : Prop) [Decidable p] (e : ε) : Except ε PUnit.{v + 1} :=
  if p then .error e else .ok ⟨⟩

theorem refuse_ok {p : Prop} [Decidable p] {e : ε} {u : PUnit.{v + 1}} (h : refuse p e = .ok u) : ¬ p := by
  unfold refuse at h
  split_ifs at h with hp
  exact hp

@[simp] theorem refuse_of_not {p : Prop} [Decidable p] (h : ¬ p) (e : ε) :
    refuse p e = .ok PUnit.unit.{v + 1} := if_neg h

theorem refuse_iff {p : Prop} [Decidable p] {e : ε} :
    refuse p e = .ok PUnit.unit.{v + 1} ↔ ¬ p := ⟨refuse_ok, fun h => refuse_of_not h e⟩

/-- Two checks in a row pass exactly when both do. -/
theorem seq_iff {x : Except ε PUnit.{v + 1}} {y : Except ε β} {b : β} :
    (x >>= fun _ => y) = .ok b ↔ x = .ok ⟨⟩ ∧ y = .ok b := by
  cases x with
  | error e => simp
  | ok a => simp

/-- A check applied to an optional value, which is left out when absent. -/
def onSome (check : α → Except ε β) : Option α → Except ε (Option β)
  | none => .ok none
  | some value => do
    let result ← check value
    .ok (some result)

variable {value : Option α}

theorem onSome_ok {check : α → Except ε β} {result : Option β} (h : onSome check value = .ok result) :
    (∀ y ∈ result, ∃ x ∈ value, check x = .ok y) ∧ result.isSome = value.isSome := by
  cases value with
  | none =>
    cases h
    simp
  | some x =>
    obtain ⟨y, hy, h⟩ := bind_ok h
    cases h
    simp [hy]

theorem onSome_of_fixed {check : α → Except ε α}
    (h : ∀ x ∈ value, check x = .ok x) : onSome check value = .ok value := by
  cases value with
  | none => rfl
  | some x => simp [onSome, h x rfl]

theorem onSome_isOk {check : α → Except ε β}
    (h : ∀ x ∈ value, ∃ y, check x = .ok y) : ∃ result, onSome check value = .ok result := by
  cases value with
  | none => exact ⟨none, rfl⟩
  | some x =>
    obtain ⟨y, hy⟩ := h x rfl
    exact ⟨some y, by simp [onSome, hy]⟩

/-- `values.map((value, index) => check(value, index))` with a check that may throw. -/
def mapIndexed (check : α → ℕ → Except ε β) : ℕ → List α → Except ε (List β)
  | _, [] => .ok []
  | index, value :: values => do
    let first ← check value index
    let rest ← mapIndexed check (index + 1) values
    .ok (first :: rest)

variable {values : List α}

theorem mapIndexed_of_fixed {check : α → ℕ → Except ε α} (h : ∀ x ∈ values, ∀ i, check x i = .ok x) (index : ℕ) :
    mapIndexed check index values = .ok values := by
  induction values generalizing index with
  | nil => rfl
  | cons value values ih =>
    rw [mapIndexed, h value (by simp), ih (fun x hx => h x (by simp [hx]))]
    rfl

variable {check : α → ℕ → Except ε β}

theorem mapIndexed_isOk (h : ∀ x ∈ values, ∀ i, ∃ y, check x i = .ok y) (index : ℕ) :
    ∃ result, mapIndexed check index values = .ok result := by
  induction values generalizing index with
  | nil => exact ⟨[], rfl⟩
  | cons value values ih =>
    obtain ⟨first, hfirst⟩ := h value (by simp) index
    obtain ⟨rest, hrest⟩ := ih (fun x hx => h x (by simp [hx])) (index + 1)
    exact ⟨first :: rest, by rw [mapIndexed, hfirst, hrest]; rfl⟩

theorem mapIndexed_ok {index : ℕ} {result : List β} (h : mapIndexed check index values = .ok result) :
    List.Forall₂ (fun x y => ∃ i, check x i = .ok y) values result := by
  induction values generalizing index result with
  | nil =>
    cases h
    exact .nil
  | cons value values ih =>
    obtain ⟨first, hfirst, h⟩ := bind_ok h
    obtain ⟨rest, hrest, h⟩ := bind_ok h
    cases h
    exact .cons ⟨index, hfirst⟩ (ih hrest)

theorem mapIndexed_mem {index : ℕ}
    {result : List β} (h : mapIndexed check index values = .ok result) {y : β} (hy : y ∈ result) :
    ∃ x ∈ values, ∃ i, check x i = .ok y := by
  have hall := mapIndexed_ok h
  clear h
  induction hall with
  | nil => cases hy
  | cons hxy _ ih =>
    rcases List.mem_cons.1 hy with rfl | hy
    · exact ⟨_, by simp, hxy⟩
    · obtain ⟨x, hx, hi⟩ := ih hy
      exact ⟨x, by simp [hx], hi⟩

end Checked
