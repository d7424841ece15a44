import Mathlib.Data.Set.Basic
import Mathlib.Logic.Relation

/-!
# Programs of commands that may be cut short

A program issues commands one at a time and goes on with the answer of each, which may be an error.
`run` performs it to its end. A machine performs programs one after another in a world that others
change as well, any command may fail, and the program under way may be lost at any point.

A protocol gives every program point a token: it says which commands are permitted there, which
answers may come and what they teach. If an invariant of world and token survives every permitted
command, every change by others and the loss of the program, it holds in every configuration that is
reached by programs that keep to the protocol.
-/

universe u

inductive Program (Cmd : Type u) (Answer : Cmd → Type) (ε α : Type) : Type u where
  | done (value : α)
  | raise (error : ε)
  | call (command : Cmd) (next : Except ε (Answer command) → Program Cmd Answer ε α)

namespace Program

variable {Cmd : Type u} {Answer : Cmd → Type} {ε α β : Type}

def bind : Program Cmd Answer ε α → (α → Program Cmd Answer ε β) → Program Cmd Answer ε β
  | .done value, f => f value
  | .raise error, _ => .raise error
  | .call command next, f => .call command fun answer => (next answer).bind f

/-- `try { program } catch (error) { handler }`. -/
def handle : Program Cmd Answer ε α → (ε → Program Cmd Answer ε α) → Program Cmd Answer ε α
  | .done value, _ => .done value
  | .raise error, handler => handler error
  | .call command next, handler => .call command fun answer => (next answer).handle handler

instance : Monad (Program Cmd Answer ε) where
  pure := .done
  bind := .bind

def ofExcept : Except ε α → Program Cmd Answer ε α
  | .ok value => .done value
  | .error error => .raise error

def issue (command : Cmd) : Program Cmd Answer ε (Answer command) := .call command ofExcept

/-- Every command the program may issue, whatever the answers, is of the set. -/
def Issues (S : Cmd → Prop) : Program Cmd Answer ε α → Prop
  | .done _ => True
  | .raise _ => True
  | .call command next => S command ∧ ∀ answer, Issues S (next answer)

theorem Issues.bind {S : Cmd → Prop} {p : Program Cmd Answer ε α}
    {f : α → Program Cmd Answer ε β} (hp : p.Issues S) (hf : ∀ value, (f value).Issues S) : (p.bind f).Issues S := by
  induction p with
  | done value => exact hf value
  | raise error => trivial
  | call command next ih => exact ⟨hp.1, fun answer => ih answer (hp.2 answer)⟩

theorem Issues.handle {S : Cmd → Prop} {p : Program Cmd Answer ε α}
    {handler : ε → Program Cmd Answer ε α} (hp : p.Issues S)
    (hh : ∀ error, (handler error).Issues S) : (p.handle handler).Issues S := by
  induction p with
  | done value => trivial
  | raise error => exact hh error
  | call command next ih => exact ⟨hp.1, fun answer => ih answer (hp.2 answer)⟩

theorem Issues.issue {S : Cmd → Prop} {command : Cmd} (h : S command) :
    (issue command : Program Cmd Answer ε _).Issues S := by
  refine ⟨h, fun answer => ?_⟩
  cases answer with
  | ok value => trivial
  | error error => trivial

theorem Issues.mono {S T : Cmd → Prop} (h : ∀ command, S command → T command)
    {p : Program Cmd Answer ε α} (hp : p.Issues S) : p.Issues T := by
  induction p with
  | done value => trivial
  | raise error => trivial
  | call command next ih => exact ⟨h command hp.1, fun answer => ih answer (hp.2 answer)⟩

section Run

variable {World : Type} (perform : World → (c : Cmd) → Except ε (Answer c) × World)

def run : World → Program Cmd Answer ε α → Except ε α × World
  | w, .done value => (.ok value, w)
  | w, .raise error => (.error error, w)
  | w, .call command next => run (perform w command).2 (next (perform w command).1)

variable {perform}

theorem run_bind (w : World) (p : Program Cmd Answer ε α) (f : α → Program Cmd Answer ε β) :
    run perform w (p.bind f) =
      match run perform w p with
      | (.ok value, w') => run perform w' (f value)
      | (.error error, w') => (.error error, w') := by
  induction p generalizing w with
  | done value => rfl
  | raise error => rfl
  | call command next ih => exact ih _ _

theorem run_bind_ok {w w' : World} {p : Program Cmd Answer ε α} {value : α}
    (h : run perform w p = (.ok value, w')) (f : α → Program Cmd Answer ε β) :
    run perform w (p.bind f) = run perform w' (f value) := by
  rw [run_bind, h]

theorem run_bind_error {w w' : World} {p : Program Cmd Answer ε α} {error : ε}
    (h : run perform w p = (.error error, w')) (f : α → Program Cmd Answer ε β) :
    run perform w (p.bind f) = (.error error, w') := by
  rw [run_bind, h]

theorem run_issue (w : World) (command : Cmd) :
    run perform w (issue command : Program Cmd Answer ε _) = perform w command := by
  unfold issue
  rw [run]
  cases h : perform w command with
  | mk answer w' =>
    cases answer with
    | ok value => rfl
    | error error => rfl

theorem run_handle (w : World) (p : Program Cmd Answer ε α) (handler : ε → Program Cmd Answer ε α) :
    run perform w (p.handle handler) =
      match run perform w p with
      | (.ok value, w') => (.ok value, w')
      | (.error error, w') => run perform w' (handler error) := by
  induction p generalizing w with
  | done value => rfl
  | raise error => rfl
  | call command next ih => exact ih _ _

theorem run_handle_ok {w : World} {p : Program Cmd Answer ε α} {handler : ε → Program Cmd Answer ε α} {Q : α → Prop}
    (hp : ∀ value w', run perform w p = (.ok value, w') → Q value)
    (hh : ∀ w' error, ∃ value w'', run perform w' (handler error) = (.ok value, w'') ∧ Q value) :
    ∃ value w', run perform w (p.handle handler) = (.ok value, w') ∧ Q value := by
  rw [run_handle]
  cases h : run perform w p with
  | mk result w' =>
    cases result with
    | ok value => exact ⟨value, w', rfl, hp value w' h⟩
    | error error => exact hh w' error

theorem Issues.run {S : Cmd → Prop} {I : World → Prop}
    (hI : ∀ w c, S c → I w → I (perform w c).2) {p : Program Cmd Answer ε α} (hp : p.Issues S)
    {w : World} (hw : I w) : I (run perform w p).2 := by
  induction p generalizing w with
  | done value => exact hw
  | raise error => exact hw
  | call command next ih => exact ih _ (hp.2 _) (hI w command hp.1 hw)

end Run

end Program

/-- Which commands a token permits, which answers may come, the token after an answer, and the tokens with which a
program may end. -/
structure Protocol (Cmd : Type u) (Answer : Cmd → Type) (ε : Type) (τ : Type) where
  permits : τ → Cmd → Prop
  answers : (c : Cmd) → Except ε (Answer c) → Prop
  after : τ → (c : Cmd) → Except ε (Answer c) → τ
  rests : τ → Prop := fun _ => True

namespace Protocol

variable {Cmd : Type u} {Answer : Cmd → Type} {ε α β τ : Type} (P : Protocol Cmd Answer ε τ)

open Program

/-- The program keeps to the protocol from the token on, and returns or raises as described. -/
def Keeps (Q : τ → α → Prop) (R : τ → ε → Prop) : τ → Program Cmd Answer ε α → Prop
  | t, .done value => Q t value
  | t, .raise error => R t error
  | t, .call command next =>
    P.permits t command ∧ ∀ answer, P.answers command answer →
      Keeps Q R (P.after t command answer) (next answer)

variable {P}

theorem Keeps.bind {Q : τ → α → Prop} {R : τ → ε → Prop} {S : τ → β → Prop} {t : τ}
    {p : Program Cmd Answer ε α} {f : α → Program Cmd Answer ε β} (hp : P.Keeps Q R t p)
    (hf : ∀ t value, Q t value → P.Keeps S R t (f value)) : P.Keeps S R t (p.bind f) := by
  induction p generalizing t with
  | done value => exact hf t value hp
  | raise error => exact hp
  | call command next ih => exact ⟨hp.1, fun answer ha => ih answer (hp.2 answer ha)⟩

theorem Keeps.handle {Q : τ → α → Prop} {R S : τ → ε → Prop} {t : τ}
    {p : Program Cmd Answer ε α} {handler : ε → Program Cmd Answer ε α} (hp : P.Keeps Q R t p)
    (hh : ∀ t error, R t error → P.Keeps Q S t (handler error)) : P.Keeps Q S t (p.handle handler) := by
  induction p generalizing t with
  | done value => exact hp
  | raise error => exact hh t error hp
  | call command next ih => exact ⟨hp.1, fun answer ha => ih answer (hp.2 answer ha)⟩

theorem Keeps.issue {command : Cmd} {Q : τ → Answer command → Prop} {R : τ → ε → Prop} {t : τ}
    (hpermits : P.permits t command)
    (hok : ∀ answer, P.answers command (.ok answer) → Q (P.after t command (.ok answer)) answer)
    (herror : ∀ error, R (P.after t command (.error error)) error) : P.Keeps Q R t (Program.issue command) := by
  refine ⟨hpermits, fun answer ha => ?_⟩
  cases answer with
  | ok value => exact hok value ha
  | error error => exact herror error

theorem Keeps.mono {Q Q' : τ → α → Prop} {R R' : τ → ε → Prop} (hQ : ∀ t value, Q t value → Q' t value)
    (hR : ∀ t error, R t error → R' t error) {t : τ} {p : Program Cmd Answer ε α}
    (hp : P.Keeps Q R t p) : P.Keeps Q' R' t p := by
  induction p generalizing t with
  | done value => exact hQ t value hp
  | raise error => exact hR t error hp
  | call command next ih => exact ⟨hp.1, fun answer ha => ih answer (hp.2 answer ha)⟩

/-- Commands that every token of a set permits, and that lead to no token outside it. -/
theorem Keeps.of_issues {S : Cmd → Prop} {I : τ → Prop}
    (hS : ∀ t c, S c → I t → P.permits t c ∧ ∀ answer, I (P.after t c answer)) {t : τ}
    {p : Program Cmd Answer ε α} (hp : p.Issues S) (ht : I t) : P.Keeps (fun t _ => I t) (fun t _ => I t) t p := by
  induction p generalizing t with
  | done value => exact ht
  | raise error => exact ht
  | call command next ih =>
    obtain ⟨hpermits, hafter⟩ := hS t command hp.1 ht
    exact ⟨hpermits, fun answer _ => ih answer (hp.2 answer) (hafter answer)⟩

end Protocol

/-- What moves the world: performing a command, the changes by others, and the loss of what the
machine remembers, in the worlds where it may crash. -/
structure Machine (World : Type) (Cmd : Type u) (Answer : Cmd → Type) (ε : Type) where
  performs : World → (c : Cmd) → Except ε (Answer c) → World → Prop
  changes : World → World → Prop
  forgets : World → World
  crashes : World → Prop := fun _ => True

namespace Machine

variable {World : Type} {Cmd : Type u} {Answer : Cmd → Type} {ε τ : Type}
  (M : Machine World Cmd Answer ε) (passes : Program Cmd Answer ε Unit → Prop)

inductive Step : World × Option (Program Cmd Answer ε Unit) → World × Option (Program Cmd Answer ε Unit) → Prop where
  | begin (w : World) (p : Program Cmd Answer ε Unit) (hp : passes p) : Step (w, none) (w, some p)
  | perform (w w' : World) (c : Cmd) (next : Except ε (Answer c) → Program Cmd Answer ε Unit)
      (answer : Except ε (Answer c)) (h : M.performs w c answer w') :
      Step (w, some (.call c next)) (w', some (next answer))
  | finish (w : World) (value : Unit) : Step (w, some (.done value)) (w, none)
  | fail (w : World) (error : ε) : Step (w, some (.raise error)) (w, none)
  | change (w w' : World) (p : Option (Program Cmd Answer ε Unit)) (h : M.changes w w') :
      Step (w, p) (w', p)
  | crash (w : World) (p : Option (Program Cmd Answer ε Unit)) (h : M.crashes w) : Step (w, p) (M.forgets w, none)

/-- A machine that may perform every command may perform a whole program undisturbed. -/
theorem steps_run {perform : World → (c : Cmd) → Except ε (Answer c) × World}
    (hperform : ∀ w c, M.performs w c (perform w c).1 (perform w c).2) (w : World) (p : Program Cmd Answer ε Unit) :
    Relation.ReflTransGen (M.Step passes) (w, some p) ((Program.run perform w p).2, none) := by
  induction p generalizing w with
  | done value => exact .single (.finish w value)
  | raise error => exact .single (.fail w error)
  | call command next ih =>
    exact .head (.perform w _ command next _ (hperform w command)) (ih _ _)

/-- The first commands of a program, performed undisturbed. -/
def advance (perform : World → (c : Cmd) → Except ε (Answer c) × World) :
    ℕ → World × Program Cmd Answer ε Unit → World × Program Cmd Answer ε Unit
  | n + 1, (w, .call command next) =>
    advance perform n ((perform w command).2, next (perform w command).1)
  | _, config => config

/-- The commands that are performed so. -/
def performed (perform : World → (c : Cmd) → Except ε (Answer c) × World) :
    ℕ → World × Program Cmd Answer ε Unit → List (World × Cmd)
  | n + 1, (w, .call command next) =>
    (w, command) :: performed perform n ((perform w command).2, next (perform w command).1)
  | _, _ => []

/-- A machine that may perform each of the first commands may stop after them. -/
theorem steps_advance {perform : World → (c : Cmd) → Except ε (Answer c) × World} (n : ℕ) (w : World)
    (p : Program Cmd Answer ε Unit) (hperform : ∀ pair ∈ performed perform n (w, p),
      M.performs pair.1 pair.2 (perform pair.1 pair.2).1 (perform pair.1 pair.2).2) :
    Relation.ReflTransGen (M.Step passes) (w, some p)
      ((advance perform n (w, p)).1, some (advance perform n (w, p)).2) := by
  induction n generalizing w p with
  | zero => exact .refl
  | succ n ih =>
    cases p with
    | done value => exact .refl
    | raise error => exact .refl
    | call command next =>
      refine .head (.perform w _ command next _ (hperform _ (.head _))) (ih _ _ fun pair hpair => ?_)
      exact hperform pair (.tail _ hpair)

theorem step_advance {perform : World → (c : Cmd) → Except ε (Answer c) × World} {w : World}
    {p : Program Cmd Answer ε Unit} (hp : performed perform 1 (w, p) ≠ [])
    (hperform : ∀ c, M.performs w c (perform w c).1 (perform w c).2) :
    M.Step passes (w, some p) ((advance perform 1 (w, p)).1, some (advance perform 1 (w, p)).2) := by
  cases p with
  | done value => exact absurd rfl hp
  | raise error => exact absurd rfl hp
  | call command next => exact .perform w _ command next _ (hperform command)

variable {M passes} {P : Protocol Cmd Answer ε τ} {idle : τ} {Inv : World → τ → Prop}

/-- The invariant holds with a token from which the program under way keeps to the protocol. -/
def Guarded (P : Protocol Cmd Answer ε τ) (idle : τ) (Inv : World → τ → Prop)
    (config : World × Option (Program Cmd Answer ε Unit)) : Prop :=
  match config.2 with
  | none => Inv config.1 idle
  | some p => ∃ t, Inv config.1 t ∧ P.Keeps (fun t _ => P.rests t) (fun t _ => P.rests t) t p

/-- What an invariant of a protocol has to survive. -/
structure Sound (M : Machine World Cmd Answer ε) (passes : Program Cmd Answer ε Unit → Prop)
    (P : Protocol Cmd Answer ε τ) (idle : τ) (Inv : World → τ → Prop) : Prop where
  pass : ∀ p, passes p → P.Keeps (fun t _ => P.rests t) (fun t _ => P.rests t) idle p
  answer : ∀ w t c answer w', Inv w t → M.performs w c answer w' → P.answers c answer
  perform : ∀ w t c answer w', Inv w t → P.permits t c → M.performs w c answer w' →
    Inv w' (P.after t c answer)
  change : ∀ w t w', Inv w t → M.changes w w' → Inv w' t
  rest : ∀ w t, P.rests t → Inv w t → Inv w idle
  forget : ∀ w t, M.crashes w → Inv w t → Inv (M.forgets w) idle

theorem Sound.step (hs : Sound M passes P idle Inv)
    {config next : World × Option (Program Cmd Answer ε Unit)} (hc : Guarded P idle Inv config)
    (hstep : M.Step passes config next) : Guarded P idle Inv next := by
  cases hstep with
  | begin w p hp => exact ⟨idle, hc, hs.pass p hp⟩
  | perform w w' c rest answer h =>
    obtain ⟨t, hinv, hkeeps⟩ := hc
    exact ⟨P.after t c answer, hs.perform w t c answer w' hinv hkeeps.1 h,
      hkeeps.2 answer (hs.answer w t c answer w' hinv h)⟩
  | finish w value | fail w error =>
    obtain ⟨t, hinv, hrests⟩ := hc
    exact hs.rest w t hrests hinv
  | change w w' p h =>
    cases p with
    | none => exact hs.change w idle w' hc h
    | some p =>
      obtain ⟨t, hinv, hkeeps⟩ := hc
      exact ⟨t, hs.change w t w' hinv h, hkeeps⟩
  | crash w p hcrash =>
    cases p with
    | none => exact hs.forget w idle hcrash hc
    | some p =>
      obtain ⟨t, hinv, _⟩ := hc
      exact hs.forget w t hcrash hinv

end Machine
