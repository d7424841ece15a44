import Yui.CommandProgram

/-!
# How a program ends

A program that is performed to its end, with the changes of others before every command, ends with a value or an
error in some world. What an invariant survives at every command and every change holds there, together with what
keeping to the protocol says of the value.
-/

universe u

namespace Machine

variable {World : Type} {Cmd : Type u} {Answer : Cmd → Type} {ε α τ : Type}

inductive Ends (M : Machine World Cmd Answer ε) : World → Program Cmd Answer ε α → Except ε α → World → Prop where
  | done (w : World) (value : α) : Ends M w (.done value) (.ok value) w
  | raise (w : World) (error : ε) : Ends M w (.raise error) (.error error) w
  | call {w w' w'' : World} {c : Cmd} {next : Except ε (Answer c) → Program Cmd Answer ε α}
      {answer : Except ε (Answer c)} {result : Except ε α} (h : M.performs w c answer w')
      (rest : Ends M w' (next answer) result w'') : Ends M w (.call c next) result w''
  | change {w w' w'' : World} {p : Program Cmd Answer ε α} {result : Except ε α} (h : M.changes w w')
      (rest : Ends M w' p result w'') : Ends M w p result w''

/-- What an invariant has to survive while one program is performed. -/
structure Upholds (M : Machine World Cmd Answer ε) (P : Protocol Cmd Answer ε τ) (Inv : World → τ → Prop) : Prop where
  answer : ∀ w t c answer w', Inv w t → M.performs w c answer w' → P.answers c answer
  perform : ∀ w t c answer w', Inv w t → P.permits t c → M.performs w c answer w' → Inv w' (P.after t c answer)
  change : ∀ w t w', Inv w t → M.changes w w' → Inv w' t

theorem Upholds.ends {M : Machine World Cmd Answer ε} {P : Protocol Cmd Answer ε τ} {Inv : World → τ → Prop}
    (hup : Upholds M P Inv) {Q : τ → α → Prop} {R : τ → ε → Prop} {w w' : World}
    {p : Program Cmd Answer ε α} {result : Except ε α} (hends : M.Ends w p result w') {t : τ} (hinv : Inv w t)
    (hkeeps : P.Keeps Q R t p) :
    ∃ t', Inv w' t' ∧ (∀ value, result = .ok value → Q t' value) ∧ ∀ error, result = .error error → R t' error := by
  induction hends generalizing t with
  | done w value =>
    refine ⟨t, hinv, fun other heq => ?_, nofun⟩
    cases heq
    exact hkeeps
  | raise w error =>
    refine ⟨t, hinv, nofun, fun other heq => ?_⟩
    cases heq
    exact hkeeps
  | call h rest ih =>
    exact ih (hup.perform _ t _ _ _ hinv hkeeps.1 h) (hkeeps.2 _ (hup.answer _ t _ _ _ hinv h))
  | change h rest ih => exact ih (hup.change _ t _ hinv h) hkeeps

end Machine
