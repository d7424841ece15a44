import Mathlib.Data.List.Basic
import Mathlib.Algebra.Order.Ring.Rat

/-!
# Guarded saves of a shared table

Several connections save rows of one table under a write lock. A save compares its row with the row it
replaces. A late save reads the previous row under the lock, an early save before it. A late save always
replaces a row that its guard has seen; an early save does so while the row it has read is still there
when it takes the lock.
-/

namespace GuardedSave

structure Policy (K R : Type) where
  key : R → K
  create : R → Bool
  guard : R → R → Bool
  early : R → Bool

variable {ι K R : Type}

/-- Whether a row may be written over what is there. -/
def Policy.allows (p : Policy K R) (previous : Option R) (row : R) : Bool :=
  match previous with
  | none => p.create row
  | some previous => p.guard previous row

/-- A save in progress: before the lock, under it, and with its row written but not committed. -/
inductive Phase (R : Type) where
  | checked (row : R) (read : Option R)
  | locked (row : R) (read : Option R)
  | written (row : R)
  deriving DecidableEq

structure System (ι K R : Type) where
  table : K → Option R
  holder : Option ι
  calls : ι → Option (Phase R)
  replaced : List (R × R)

inductive Step (ι R : Type) where
  | enter (c : ι) (row : R) (valid : Bool)
  | lock (c : ι) (works : Bool)
  | write (c : ι) (works : Bool)
  | commit (c : ι) (works : Bool)

variable [DecidableEq ι] [DecidableEq K]

namespace System

def setCall (s : System ι K R) (c : ι) (phase : Option (Phase R)) : System ι K R :=
  { s with calls := fun other => if other = c then phase else s.calls other }

def setHolder (s : System ι K R) (holder : Option ι) : System ι K R := { s with holder := holder }

/-- The save ends without a row. -/
def rollback (s : System ι K R) (c : ι) : System ι K R := (s.setHolder none).setCall c none

/-- The rows that a commit replaces are remembered with those that replace them. -/
def put (p : Policy K R) (s : System ι K R) (row : R) : System ι K R :=
  { s with
    table := fun key => if key = p.key row then some row else s.table key
    replaced := s.replaced ++ (s.table (p.key row)).toList.map fun previous => (previous, row) }

end System

variable (p : Policy K R)

def step (s : System ι K R) : Step ι R → System ι K R
  | .enter c row valid =>
    match s.calls c with
    | some _ => s
    | none =>
      if valid = false then s
      else if p.early row = true then
        let read := s.table (p.key row)
        if p.allows read row = true then s.setCall c (some (.checked row read)) else s
      else s.setCall c (some (.checked row none))
  | .lock c works =>
    match s.calls c with
    | some (.checked row read) =>
      if s.holder = none ∧ works = true then
        (s.setHolder (some c)).setCall c (some (.locked row read))
      else s.setCall c none
    | _ => s
  | .write c works =>
    match s.calls c with
    | some (.locked row _) =>
      if works = false then s.rollback c
      else if p.early row = true ∨ p.allows (s.table (p.key row)) row = true then
        s.setCall c (some (.written row))
      else s.rollback c
    | _ => s
  | .commit c works =>
    match s.calls c with
    | some (.written row) => if works = true then (s.put p row).rollback c else s.rollback c
    | _ => s

def run (s : System ι K R) : List (Step ι R) → System ι K R
  | [] => s
  | statement :: statements => run (step p s statement) statements

/-- Every row that was replaced passed the guard against the row that replaced it. -/
def Guarded (s : System ι K R) : Prop := ∀ pair ∈ s.replaced, p.guard pair.1 pair.2 = true

/-- An early save takes the lock while the row it has read is still there. -/
def Fresh (s : System ι K R) : Step ι R → Prop
  | .lock c _ => ∀ row read, s.calls c = some (.checked row read) → p.early row = true →
      s.table (p.key row) = read
  | _ => True

def FreshRun (s : System ι K R) : List (Step ι R) → Prop
  | [] => True
  | statement :: statements => Fresh p s statement ∧ FreshRun (step p s statement) statements

/-- What the phase of a save says about the table. -/
def Phase.Holds (s : System ι K R) (c : ι) : Phase R → Prop
  | .checked row read => p.early row = true → p.allows read row = true
  | .locked row _ => s.holder = some c ∧
      (p.early row = true → p.allows (s.table (p.key row)) row = true)
  | .written row => s.holder = some c ∧ p.allows (s.table (p.key row)) row = true

structure Sound (s : System ι K R) : Prop where
  phases : ∀ c phase, s.calls c = some phase → phase.Holds p s c
  guarded : Guarded p s

section Steps

variable {p} {s : System ι K R} {c : ι}

omit [DecidableEq ι] [DecidableEq K] in
theorem Phase.Holds.of_eq {s' : System ι K R} {phase : Phase R} (h : phase.Holds p s c)
    (htable : s'.table = s.table) (hholder : s.holder = some c → s'.holder = some c) : phase.Holds p s' c := by
  cases phase with
  | checked row read => exact h
  | locked row read => exact ⟨hholder h.1, fun hearly => by rw [htable]; exact h.2 hearly⟩
  | written row => exact ⟨hholder h.1, by rw [htable]; exact h.2⟩

omit [DecidableEq K] in
theorem Sound.setCall (h : Sound p s) {phase : Option (Phase R)}
    (hphase : ∀ next, phase = some next → next.Holds p s c) : Sound p (s.setCall c phase) := by
  refine ⟨fun other next hnext => ?_, h.guarded⟩
  have hkeep : ∀ next : Phase R, next.Holds p s other → next.Holds p (s.setCall c phase) other :=
    fun next hholds => hholds.of_eq rfl id
  change (if other = c then phase else s.calls other) = some next at hnext
  split_ifs at hnext with hother
  · rw [hother] at hkeep ⊢
    exact hkeep next (hphase next hnext)
  · exact hkeep next (h.phases other next hnext)

omit [DecidableEq K] in
/-- The lock is released by the connection that holds it. -/
theorem Sound.rollback (h : Sound p s) (hholder : s.holder = some c) : Sound p (s.rollback c) := by
  refine ⟨fun other next hnext => ?_, h.guarded⟩
  change (if other = c then none else s.calls other) = some next at hnext
  split_ifs at hnext with hother
  have hholds := h.phases other next hnext
  cases next with
  | checked row read => exact hholds
  | locked row read => exact absurd (Option.some.inj (hholds.1.symm.trans hholder)) hother
  | written row => exact absurd (Option.some.inj (hholds.1.symm.trans hholder)) hother

theorem Sound.commit (h : Sound p s) {row : R} (hcall : s.calls c = some (.written row)) :
    Sound p ((s.put p row).rollback c) := by
  obtain ⟨hholder, hallows⟩ := h.phases c _ hcall
  constructor
  · intro other next hnext
    change (if other = c then none else s.calls other) = some next at hnext
    split_ifs at hnext with hother
    have hholds := h.phases other next hnext
    cases next with
    | checked row read => exact hholds
    | locked row read => exact absurd (Option.some.inj (hholds.1.symm.trans hholder)) hother
    | written row => exact absurd (Option.some.inj (hholds.1.symm.trans hholder)) hother
  · intro pair hpair
    obtain hold | hnew := List.mem_append.1 hpair
    · exact h.guarded pair hold
    · obtain ⟨previous, hprevious, rfl⟩ := List.mem_map.1 hnew
      rw [Option.mem_toList] at hprevious
      rw [Option.mem_def.1 hprevious] at hallows
      exact hallows

theorem step_sound (h : Sound p s) (statement : Step ι R) (hfresh : Fresh p s statement) :
    Sound p (step p s statement) := by
  cases statement with
  | enter c row valid =>
    unfold step
    dsimp only
    split
    · exact h
    · split_ifs with hvalid hearly hallows
      · exact h
      · exact h.setCall fun next hnext => Option.some.inj hnext ▸ fun _ => hallows
      · exact h
      · exact h.setCall fun next hnext => Option.some.inj hnext ▸ fun hlate => absurd hlate hearly
  | lock c works =>
    unfold step
    dsimp only
    split
    · rename_i row read hcall
      split_ifs with hfree
      · have hchecked := h.phases c _ hcall
        have htaken : Sound p (s.setHolder (some c)) := by
          refine ⟨fun other next hnext => ?_, h.guarded⟩
          refine (h.phases other next hnext).of_eq rfl fun hheld => ?_
          rw [hfree.1] at hheld
          cases hheld
        refine htaken.setCall fun next hnext => Option.some.inj hnext ▸ ⟨rfl, fun hearly => ?_⟩
        have hread := hfresh row read hcall hearly
        change p.allows (s.table (p.key row)) row = true
        rw [hread]
        exact hchecked hearly
      · exact h.setCall fun next hnext => by cases hnext
    · exact h
  | write c works =>
    unfold step
    dsimp only
    split
    · rename_i row read hcall
      obtain ⟨hholder, hearlier⟩ := h.phases c _ hcall
      split_ifs with hworks hallowed
      · exact h.rollback hholder
      · refine h.setCall fun next hnext => Option.some.inj hnext ▸ ⟨hholder, ?_⟩
        exact hallowed.elim hearlier id
      · exact h.rollback hholder
    · exact h
  | commit c works =>
    unfold step
    dsimp only
    split
    · rename_i row hcall
      split_ifs
      · exact h.commit hcall
      · exact h.rollback (h.phases c _ hcall).1
    · exact h

theorem run_guarded (statements : List (Step ι R)) (hcalls : ∀ c, s.calls c = none)
    (hnone : s.replaced = []) (hfresh : FreshRun p s statements) : Guarded p (run p s statements) := by
  have hsound : ∀ statements (s : System ι K R), Sound p s → FreshRun p s statements →
      Sound p (run p s statements) := by
    intro statements
    induction statements with
    | nil => exact fun s h _ => h
    | cons statement statements ih =>
      exact fun s h hfresh => ih _ (step_sound h statement hfresh.1) hfresh.2
  refine (hsound statements s ⟨fun c phase hphase => ?_, ?_⟩ hfresh).guarded
  · rw [hcalls c] at hphase
    cases hphase
  · rw [Guarded, hnone]
    intro pair hpair
    cases hpair

end Steps

section Ranked

variable {p} {s : System ι K R} {c : ι} {P : R → Prop} {rank : R → ℚ}

/-- The rows written under one key climb, and the table holds the highest of them. -/
structure Climbs (p : Policy K R) (P : R → Prop) (rank : R → ℚ) (s : System ι K R) : Prop where
  climbs : s.replaced.Pairwise fun first second =>
    P first.2 → p.key first.2 = p.key second.2 → rank first.2 < rank second.2
  top : ∀ pair ∈ s.replaced, P pair.2 →
    ∃ row, s.table (p.key pair.2) = some row ∧ rank pair.2 ≤ rank row

theorem Climbs.commit (h : Climbs p P rank s) (hsound : Sound p s)
    (hkey : ∀ first second, p.key first = p.key second → P first → P second)
    (hrank : ∀ previous row, P row → p.guard previous row = true → rank previous < rank row) {row : R}
    (hcall : s.calls c = some (.written row)) : Climbs p P rank ((s.put p row).rollback c) := by
  obtain ⟨-, hallows⟩ := hsound.phases c _ hcall
  -- A row of the same key stands below the one that is replaced now.
  have hbelow : ∀ pair ∈ s.replaced, P pair.2 → p.key pair.2 = p.key row →
      rank pair.2 < rank row := by
    intro pair hpair hP hsame
    obtain ⟨previous, hprevious, hle⟩ := h.top pair hpair hP
    rw [hsame] at hprevious
    rw [hprevious] at hallows
    exact lt_of_le_of_lt hle (hrank previous row (hkey _ _ hsame hP) hallows)
  constructor
  · apply List.pairwise_append.2
    refine ⟨h.climbs, ?_, ?_⟩
    · cases s.table (p.key row) with
      | none => exact List.Pairwise.nil
      | some previous => exact List.pairwise_singleton _ _
    · intro first hfirst second hsecond hP hsame
      obtain ⟨previous, -, rfl⟩ := List.mem_map.1 hsecond
      exact hbelow first hfirst hP hsame
  · intro pair hpair hP
    change ∃ top, (if p.key pair.2 = p.key row then some row else s.table (p.key pair.2)) = some top ∧ _
    by_cases hsame : p.key pair.2 = p.key row
    · rw [if_pos hsame]
      refine ⟨row, rfl, ?_⟩
      obtain hold | hnew := List.mem_append.1 hpair
      · exact (hbelow pair hold hP hsame).le
      · obtain ⟨previous, -, rfl⟩ := List.mem_map.1 hnew
        exact le_refl _
    · rw [if_neg hsame]
      obtain hold | hnew := List.mem_append.1 hpair
      · exact h.top pair hold hP
      · obtain ⟨previous, -, rfl⟩ := List.mem_map.1 hnew
        exact absurd rfl hsame

theorem step_table (s : System ι K R) (statement : Step ι R) :
    ((step p s statement).table = s.table ∧ (step p s statement).replaced = s.replaced) ∨
      ∃ c row, s.calls c = some (.written row) ∧ step p s statement = (s.put p row).rollback c := by
  cases statement with
  | enter c row valid =>
    unfold step
    dsimp only
    split
    · exact .inl ⟨rfl, rfl⟩
    · split_ifs <;> exact .inl ⟨rfl, rfl⟩
  | lock c works | write c works =>
    unfold step
    dsimp only
    split
    · split_ifs <;> exact .inl ⟨rfl, rfl⟩
    · exact .inl ⟨rfl, rfl⟩
  | commit c works =>
    unfold step
    dsimp only
    split
    · rename_i row hcall
      split_ifs
      · exact .inr ⟨c, row, hcall, rfl⟩
      · exact .inl ⟨rfl, rfl⟩
    · exact .inl ⟨rfl, rfl⟩

variable (P rank) in
theorem run_climbs (statements : List (Step ι R)) (hcalls : ∀ c, s.calls c = none)
    (hnone : s.replaced = []) (hfresh : FreshRun p s statements)
    (hkey : ∀ first second, p.key first = p.key second → P first → P second)
    (hrank : ∀ previous row, P row → p.guard previous row = true → rank previous < rank row) :
    Climbs p P rank (run p s statements) := by
  have hclimbs : ∀ statements (s : System ι K R), Sound p s → Climbs p P rank s →
      FreshRun p s statements → Climbs p P rank (run p s statements) := by
    intro statements
    induction statements with
    | nil => exact fun s _ h _ => h
    | cons statement statements ih =>
      intro s hsound h hfresh
      refine ih _ (step_sound hsound statement hfresh.1) ?_ hfresh.2
      obtain ⟨htable, hreplaced⟩ | ⟨c, row, hcall, hstep⟩ := step_table (p := p) s statement
      · exact ⟨hreplaced ▸ h.climbs, by rw [htable, hreplaced]; exact h.top⟩
      · rw [hstep]
        exact h.commit hsound hkey hrank hcall
  refine hclimbs statements s ⟨fun c phase hphase => ?_, ?_⟩ ⟨?_, ?_⟩ hfresh
  · rw [hcalls c] at hphase
    cases hphase
  · rw [Guarded, hnone]
    intro pair hpair
    cases hpair
  · rw [hnone]
    exact List.Pairwise.nil
  · rw [hnone]
    intro pair hpair
    cases hpair

end Ranked

end GuardedSave
