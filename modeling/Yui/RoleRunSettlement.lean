import Yui.RoleRunDispatch

/-!
# Settlements over whole runs

The results on settled dispatches for every run of the queue: which signals a settlement consumes,
what a token that was captured earlier still settles, and how far apart two settlements of one run
are.
-/

open JsText Checked FallibleRun

namespace WorkMailbox

section Host

variable [JsHost]

/-- The store and the journal of the role's mailbox after a run from an empty store. -/
def reached (tasks : String → Option String) (input : RoleRunDispatchIdentity)
    (ops : List QueueOperation) : QueueStore × List LedgerEntry :=
  run (journaledStep (roleRunTarget input)) (emptyStore tasks, []) ops

variable {tasks : String → Option String} {input : RoleRunDispatchIdentity}

theorem reached_append (ops more : List QueueOperation) : reached tasks input (ops ++ more) =
      run (journaledStep (roleRunTarget input)) (reached tasks input ops) more :=
  run_append _ _ _

theorem reached_coherent (tasks : String → Option String) (input : RoleRunDispatchIdentity)
    (ops : List QueueOperation) : StoreCoherent (reached tasks input ops).1 := by
  refine @run_preserves _ _ _ (journaledStep (roleRunTarget input))
    (fun s => StoreCoherent s.1) _ ops ?_ ?_
  · simp [StoreCoherent, emptyStore]
  · intro op _ s t hs h
    obtain ⟨next, hnext, h⟩ := bind_ok h
    cases h
    exact hs.step hnext

variable {ops : List QueueOperation}

theorem normalTarget_of_stored {m : Mailbox}
    (h : (reached tasks input ops).1.mailboxes (roleRunTarget input) = some m) :
    NormalTarget (roleRunTarget input) := by
  obtain ⟨htarget, hm⟩ := reached_coherent tasks input ops _ m h
  exact htarget ▸ hm.target

/-- A settled dispatch: the signals up to the one that carries the run's key are consumed, and the
signals behind it stay pending. -/
structure SettledAt (input : RoleRunDispatchIdentity) (s : QueueStore × List LedgerEntry)
    (next : QueueStore) (n : ℕ) : Prop where
  dispatch : ∃ e, s.2[n]? = some e ∧ e.key = roleRunDispatchDedupeKey input
  before : Journals (s.1.mailboxAt (roleRunTarget input)) s.2
    (cursor (s.1.mailboxAt (roleRunTarget input)))
  unconsumed : cursor (s.1.mailboxAt (roleRunTarget input)) ≤ n
  after : Journals (next.mailboxAt (roleRunTarget input)) s.2 (n + 1)

variable {next : QueueStore} {expected : Option (Option RoleRunDispatchToken)}

theorem settledAt_of_settled
    (h : settleRoleRunDispatch (reached tasks input ops).1 input expected = .ok (.settled, next)) :
    ∃ n, SettledAt input (reached tasks input ops) next n ∧ ∀ token, expected = some (some token) → token = .pending
        (cursor ((reached tasks input ops).1.mailboxAt (roleRunTarget input)) + 1) (n + 1) := by
  have hcoherent := reached_coherent tasks input ops
  rcases settleRoleRunDispatch_ok hcoherent h with ⟨hne, _⟩ | ⟨_, m, token, hm, hcap, hexp, hset⟩
  · exact absurd rfl hne
  have hfollowed : Followed (roleRunTarget input) (reached tasks input ops) :=
    ((Followed.initial (normalTarget_of_stored hm) tasks).run ops).1
  have hat : (reached tasks input ops).1.mailboxAt (roleRunTarget input) = m := by simp [QueueStore.mailboxAt, hm]
  have hj := hfollowed.journals
  rw [hat] at hj
  obtain ⟨n, e, settled, he, hkey, hn, htoken, hnext, hsame, rfl⟩ := hj.settleToken hcap hset
  have hput : ((reached tasks input ops).1.put settled).mailboxAt (roleRunTarget input) = settled := by
    rw [← (hcoherent _ m hm).1, ← hsame, mailboxAt_put]
  refine ⟨n, ⟨⟨e, he, hkey⟩, by rwa [hat], by rwa [hat], by rwa [hput]⟩, fun t ht => ?_⟩
  rw [hexp t ht, htoken, hat]

theorem captured_settledAt {earlier later : List QueueOperation} {token : RoleRunDispatchToken}
    (hcap : captureRoleRunDispatch
      ((reached tasks input earlier).1.mailboxes (roleRunTarget input)) input = some token)
    (h : settleRoleRunDispatch (reached tasks input (earlier ++ later)).1 input
      (some (some token)) = .ok (.settled, next)) :
    ∃ n e, (reached tasks input earlier).2[n]? = some e ∧ e.key = roleRunDispatchDedupeKey input ∧
      (reached tasks input earlier).2 <+: (reached tasks input (earlier ++ later)).2 ∧
      SettledAt input (reached tasks input (earlier ++ later)) next n := by
  obtain ⟨n, hsettled, htoken⟩ := settledAt_of_settled h
  cases hm : (reached tasks input earlier).1.mailboxes (roleRunTarget input) with
  | none => simp [hm, captureRoleRunDispatch] at hcap
  | some m =>
    have hfollowed : Followed (roleRunTarget input) (reached tasks input earlier) :=
      ((Followed.initial (normalTarget_of_stored hm) tasks).run earlier).1
    have hj := hfollowed.journals
    have hat : (reached tasks input earlier).1.mailboxAt (roleRunTarget input) = m := by
      simp [QueueStore.mailboxAt, hm]
    rw [hat] at hj
    rw [hm] at hcap
    obtain ⟨n', e, he, hkey, _, hpending⟩ := hj.capture hcap
    have hn : n' = n := by
      have heq := hpending.symm.trans (htoken token rfl)
      simp only [RoleRunDispatchToken.pending.injEq] at heq
      omega
    subst hn
    refine ⟨n', e, he, hkey, ?_, hsettled⟩
    rw [reached_append]
    exact (hfollowed.run later).2.extended

theorem reached_settle {outcome : RoleRunDispatchSettlement}
    (h : settleRoleRunDispatch (reached tasks input ops).1 input expected = .ok (outcome, next)) :
    reached tasks input (ops ++ [QueueOperation.settleRoleRunDispatch input expected]) =
      (next, (reached tasks input ops).2) := by
  rw [reached, run_snoc]
  refine attempt_ok ?_
  have hstep : queueStep (reached tasks input ops).1 (.settleRoleRunDispatch input expected) =
      .ok next := by rw [queueStep, h, ok_bind]
  exact congrArg (fun r => r >>= _) hstep

theorem followed_of_settled
    (h : settleRoleRunDispatch (reached tasks input ops).1 input expected = .ok (.settled, next))
    (more : List QueueOperation) : Followed (roleRunTarget input) (reached tasks input more) := by
  rcases settleRoleRunDispatch_ok (reached_coherent tasks input ops) h with
    ⟨hne, _⟩ | ⟨_, m, _, hm, _⟩
  · exact absurd rfl hne
  · exact ((Followed.initial (normalTarget_of_stored hm) tasks).run more).1

theorem settledAt_spaced {ops more : List QueueOperation} {next next' : QueueStore} {n n' : ℕ}
    (h : settleRoleRunDispatch (reached tasks input ops).1 input expected = .ok (.settled, next))
    (hn : SettledAt input (reached tasks input ops) next n) (hn' : SettledAt input (reached tasks input
      (ops ++ [QueueOperation.settleRoleRunDispatch input expected] ++ more)) next' n') : n + 256 < n' := by
  have hadv := ((followed_of_settled h (ops ++ [QueueOperation.settleRoleRunDispatch input expected])).run more).2
  have hspaced :=
    (followed_of_settled h (ops ++ [QueueOperation.settleRoleRunDispatch input expected] ++ more)).spaced
  rw [← reached_append, reached_settle h] at hadv
  have hforward : n + 1 ≤ n' := by
    rw [← hn.after.cursor_eq]
    exact hadv.forward.trans hn'.unconsumed
  obtain ⟨e, he, hkey⟩ := hn.dispatch
  obtain ⟨e', he', hkey'⟩ := hn'.dispatch
  obtain ⟨hlt, hget⟩ := List.getElem?_eq_some_iff.1 he
  have hkept := hadv.extended.getElem hlt
  obtain ⟨hlt', hget'⟩ := List.getElem?_eq_some_iff.1 he'
  exact hspaced n n' (hlt.trans_le hadv.extended.length_le) hlt' hforward (by rw [← hkept, hget, hget', hkey, hkey'])

structure ExactSettlement (tasks : String → Option String) (input : RoleRunDispatchIdentity) : Prop where
  unchanged : ∀ ops expected outcome next,
    settleRoleRunDispatch (reached tasks input ops).1 input expected = .ok (outcome, next) →
    outcome ≠ .settled → next = (reached tasks input ops).1
  settled : ∀ ops expected next,
    settleRoleRunDispatch (reached tasks input ops).1 input expected = .ok (.settled, next) →
    ∃ n, SettledAt input (reached tasks input ops) next n
  captured : ∀ earlier later token next,
    captureRoleRunDispatch ((reached tasks input earlier).1.mailboxes (roleRunTarget input)) input =
      some token →
    settleRoleRunDispatch (reached tasks input (earlier ++ later)).1 input (some (some token)) =
      .ok (.settled, next) →
    ∃ n e, (reached tasks input earlier).2[n]? = some e ∧ e.key = roleRunDispatchDedupeKey input ∧
      (reached tasks input earlier).2 <+: (reached tasks input (earlier ++ later)).2 ∧
      SettledAt input (reached tasks input (earlier ++ later)) next n
  spaced : ∀ ops more expected next next' n n',
    settleRoleRunDispatch (reached tasks input ops).1 input expected = .ok (.settled, next) →
    SettledAt input (reached tasks input ops) next n →
    SettledAt input (reached tasks input
      (ops ++ [.settleRoleRunDispatch input expected] ++ more)) next' n' →
    n + 256 < n'

theorem exactSettlement (tasks : String → Option String) (input : RoleRunDispatchIdentity) :
    ExactSettlement tasks input where
  unchanged ops expected outcome next h hne := by
    rcases settleRoleRunDispatch_ok (reached_coherent tasks input ops) h with ⟨_, rfl⟩ | ⟨rfl, _⟩
    · rfl
    · exact absurd rfl hne
  settled ops expected next h := (settledAt_of_settled h).imp fun _ hn => hn.1
  captured earlier later token next hcap h := captured_settledAt hcap h
  spaced ops more expected next next' n n' h hn hn' := settledAt_spaced h hn hn'

end Host

end WorkMailbox
