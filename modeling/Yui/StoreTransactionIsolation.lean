import Yui.StoreTransactionAsync

/-!
# Isolation of asynchronous transactions

While no call starts inside the transaction of another, a callback has the connection to itself until it
settles, and every call has all of its writes or none. A call that starts during the await of another
joins the transaction of that other, and shares its end.
-/

open StoreTransaction

namespace AsyncTransaction

variable {ι W : Type} [DecidableEq ι] {s : Instance ι W} {id : ι}

/-- The rows account for a call that has settled, or not begun. -/
def Accounted (id : ι) (rows : Journal ι W) : Option (Call W) → Prop
  | none => own id rows = []
  | some call =>
    call.body.isSome = true ∧
      ((call.outcome = some (.ok ()) ∧ own id rows = call.wrote) ∨
        ∃ error, call.outcome = some (.error error) ∧ own id rows = [])

/-- The callback of `owner` has the open transaction to itself. -/
structure Holds (s : Instance ι W) (owner : ι) (call : Call W) (base : Database (Journal ι W) Unit) : Prop where
  owns : call.owns = true
  outcome : call.outcome = none
  snapshot : s.connection.snapshot = some base
  inTransaction : s.connection.inTransaction = true
  others : ∀ id, id ≠ owner → Accounted id base.tables (s.calls id)
  fresh : own owner base.tables = []
  rows : s.connection.db.tables = base.tables ++ call.wrote.map fun value => (owner, value)

inductive Sound (s : Instance ι W) : Prop
  | idle (hidle : s.connection.Idle)
      (hall : ∀ id, Accounted id s.connection.db.tables (s.calls id))
  | held (owner : ι) (call : Call W) (base : Database (Journal ι W) Unit)
      (hstored : s.calls owner = some call) (hheld : Holds s owner call base)

@[simp] theorem setCall_calls (s : Instance ι W) (id : ι) (call : Call W) (other : ι) :
    (s.setCall id call).calls other = if other = id then some call else s.calls other := rfl

@[simp] theorem setCall_connection (s : Instance ι W) (id : ι) (call : Call W) :
    (s.setCall id call).connection = s.connection := rfl

omit [DecidableEq ι] in
@[simp] theorem setConnection_connection (s : Instance ι W) (c : Connection (Journal ι W) Unit) :
    (s.setConnection c).connection = c := rfl

/-- The writes of one call say nothing about another. -/
theorem Accounted.append {other : ι} (hother : id ≠ other) {rows : Journal ι W} {call : Option (Call W)}
    (h : Accounted id rows call) (values : List W) :
    Accounted id (rows ++ values.map fun value => (other, value)) call := by
  have hown : own id (rows ++ values.map fun value => (other, value)) = own id rows := by
    rw [own_append, own_other (Ne.symm hother), List.append_nil]
  unfold Accounted at h ⊢
  rw [hown]
  exact h

theorem Sound.isolated (h : Sound s) : s.Isolated := by
  have hsettled : ∀ (id : ι) (call : Call W) (rows : Journal ι W), Accounted id rows (some call) →
      (call.outcome = some (.ok ()) → call.wrote.Sublist (own id rows)) ∧
        ∀ error, call.outcome = some (.error error) → own id rows = [] := by
    intro id call rows haccounted
    obtain ⟨-, ⟨hok, hrows⟩ | ⟨error, herror, hrows⟩⟩ := haccounted
    · exact ⟨fun _ => hrows ▸ List.Sublist.refl _, fun error herror => (by rw [hok] at herror; cases herror)⟩
    · exact ⟨fun hok => (by rw [herror] at hok; cases hok), fun _ _ => hrows⟩
  intro id call hcall
  cases h with
  | idle hidle hall =>
    have haccounted := hall id
    rw [hcall] at haccounted
    unfold Instance.committed
    rw [hidle.snapshot]
    exact hsettled id call _ haccounted
  | held owner held base hstored hheld =>
    unfold Instance.committed
    rw [hheld.snapshot]
    by_cases howner : id = owner
    · subst howner
      have hsame : call = held := Option.some.inj (hcall.symm.trans hstored)
      have hpending := hheld.outcome
      rw [← hsame] at hpending
      exact ⟨fun hok => (by rw [hpending] at hok; cases hok),
        fun _ herror => (by rw [hpending] at herror; cases herror)⟩
    · have haccounted := hheld.others id howner
      rw [hcall] at haccounted
      exact hsettled id call _ haccounted

variable {call : Call W}

theorem settled_sound (hcalls : ∀ other, other ≠ id → Accounted other s.connection.db.tables (s.calls other))
    (hidle : s.connection.Idle)
    (hcall : Accounted id s.connection.db.tables (some call)) : Sound (s.setCall id call) := by
  apply Sound.idle (s := s.setCall id call) hidle
  intro other
  rw [setCall_calls, setCall_connection]
  by_cases hother : other = id
  · rw [if_pos hother, hother]
    exact hcall
  · rw [if_neg hother]
    exact hcalls other hother

theorem Holds.resume {base : Database (Journal ι W) Unit} (h : Holds s id call base)
    (piece : Piece ι W id) (last : Bool) : Sound (s.resume id call piece last) := by
  have hjoined := exec_joined piece.program s.connection h.inTransaction
  have hwrote := wrote_spec piece.writes s.connection
  unfold Instance.resume
  rw [hjoined]
  refine Sound.held id _ base (if_pos rfl)
    ⟨h.owns, h.outcome, h.snapshot, h.inTransaction, ?_, h.fresh, ?_⟩
  · intro other hother
    rw [setCall_calls, if_neg hother]
    exact h.others other hother
  · have htables := hwrote
    rw [h.rows] at htables
    simpa [Connection.after, List.append_assoc] using htables

theorem sync_sound (hidle : s.connection.Idle)
    (hall : ∀ id, Accounted id s.connection.db.tables (s.calls id)) (hnew : s.calls id = none)
    (call : SyncCall ι W id) : Sound (s.sync id call) := by
  have hfresh : own id s.connection.db.tables = [] := by
    have h := hall id
    rw [hnew] at h
    exact h
  have hexec := exec_idle call.program s.connection hidle
  unfold Instance.sync
  obtain ⟨error, herror, hdb⟩ | ⟨hok, htables⟩ :=
    sync_atomic call.program call.opens s.connection hidle
  · apply settled_sound (s := s.setConnection (call.program.exec s.connection).2) _ hexec
    · exact ⟨rfl, .inr ⟨error, by rw [herror], by rw [setConnection_connection, hdb]; exact hfresh⟩⟩
    · intro other _
      rw [setConnection_connection, hdb]
      exact hall other
  · rw [wrote_spec call.writes s.connection] at htables
    apply settled_sound (s := s.setConnection (call.program.exec s.connection).2) _ hexec
    · refine ⟨rfl, .inl ⟨by rw [hok], ?_⟩⟩
      rw [setConnection_connection, htables, own_append, own_self, hfresh]
      rfl
    · intro other hother
      rw [setConnection_connection, htables]
      exact (hall other).append hother _

theorem refused_accounted {rows : Journal ι W} (h : own id rows = []) : Accounted id rows (some Instance.refused) :=
  ⟨rfl, .inr ⟨.driver, rfl, h⟩⟩

theorem start_sound (hidle : s.connection.Idle)
    (hall : ∀ id, Accounted id s.connection.db.tables (s.calls id)) (hnew : s.calls id = none)
    (io : Io) (piece : Piece ι W id) (last : Bool) : Sound (s.start id io piece last) := by
  have hfresh : own id s.connection.db.tables = [] := by
    have h := hall id
    rw [hnew] at h
    exact h
  unfold Instance.start
  rw [if_neg (by simp [hidle.inTransaction])]
  split_ifs
  · exact settled_sound (fun other _ => hall other) hidle (refused_accounted hfresh)
  · exact settled_sound (s := s.setConnection s.connection.begin_.rollback) (fun other _ => hall other)
      ⟨rfl, rfl, rfl, rfl⟩ (refused_accounted hfresh)
  · have hheld : Holds (s.setConnection s.connection.begin_) id ⟨true, [], none, none⟩ s.connection.db :=
      ⟨rfl, rfl, rfl, rfl, fun other _ => hall other, hfresh, (List.append_nil _).symm⟩
    exact hheld.resume piece last

theorem finish_sound {base : Database (Journal ι W) Unit} (h : Holds s id call base)
    (io : Io) {result : Except Error Unit} (hbody : call.body = some result) :
    Sound (s.finish id io call result) := by
  have hidle := settle_idle io Connection.dirty (result, s.connection)
  unfold Instance.finish
  rw [if_pos h.owns]
  obtain ⟨error, herror, hdb⟩ | ⟨hok, -, htables⟩ :=
    settle_atomic io Connection.dirty result s.connection base h.snapshot
  · apply settled_sound
      (s := s.setConnection (settle io Connection.dirty (result, s.connection)).2) _ hidle
    · refine ⟨by simp [hbody], .inr ⟨error, by rw [herror], ?_⟩⟩
      rw [setConnection_connection, hdb]
      exact h.fresh
    · intro other hother
      rw [setConnection_connection, hdb]
      exact h.others other hother
  · rw [h.rows] at htables
    apply settled_sound
      (s := s.setConnection (settle io Connection.dirty (result, s.connection)).2) _ hidle
    · refine ⟨by simp [hbody], .inl ⟨by rw [hok], ?_⟩⟩
      rw [setConnection_connection, htables, own_append, own_self, h.fresh]
      rfl
    · intro other hother
      rw [setConnection_connection, htables]
      exact (h.others other hother).append hother _

theorem Sound.running (h : Sound s) (hcall : s.calls id = some call)
    (hrunning : call.body = none ∨ call.outcome = none) : ∃ base, Holds s id call base := by
  have hopen : ∀ rows : Journal ι W, ¬ Accounted id rows (some call) := by
    rintro rows ⟨hbody, hsettled⟩
    obtain hnone | hnone := hrunning
    · rw [hnone] at hbody
      cases hbody
    · obtain ⟨hok, -⟩ | ⟨error, herror, -⟩ := hsettled
      · rw [hnone] at hok
        cases hok
      · rw [hnone] at herror
        cases herror
  cases h with
  | idle hidle hall =>
    have haccounted := hall id
    rw [hcall] at haccounted
    exact absurd haccounted (hopen _)
  | held owner held base hstored hheld =>
    by_cases howner : id = owner
    · subst howner
      have hsame : call = held := Option.some.inj (hcall.symm.trans hstored)
      subst hsame
      exact ⟨base, hheld⟩
    · have haccounted := hheld.others id howner
      rw [hcall] at haccounted
      exact absurd haccounted (hopen _)

/-- A call starts while nothing is open. -/
theorem Sound.alone (h : Sound s) (halone : s.connection.inTransaction = false) :
    s.connection.Idle ∧ ∀ id, Accounted id s.connection.db.tables (s.calls id) := by
  cases h with
  | idle hidle hall => exact ⟨hidle, hall⟩
  | held owner held base hstored hheld =>
    have hopen := hheld.inTransaction
    rw [halone] at hopen
    cases hopen

theorem apply_sound (h : Sound s) (event : Event ι W) (halone : s.Alone event) : Sound (s.apply event) := by
  cases event with
  | sync id call =>
    unfold Instance.apply
    dsimp only
    split_ifs with hknown
    · exact h
    · obtain ⟨hidle, hall⟩ := h.alone halone
      exact sync_sound hidle hall (by simpa using hknown) call
  | start id io piece last =>
    unfold Instance.apply
    dsimp only
    split_ifs with hknown
    · exact h
    · obtain ⟨hidle, hall⟩ := h.alone halone
      exact start_sound hidle hall (by simpa using hknown) io piece last
  | resume id piece last =>
    unfold Instance.apply
    dsimp only
    split
    · rename_i owns wrote outcome hcall
      obtain ⟨base, hheld⟩ := h.running hcall (.inl rfl)
      exact hheld.resume piece last
    · exact h
  | finish id io =>
    unfold Instance.apply
    dsimp only
    split
    · rename_i owns wrote result hcall
      obtain ⟨base, hheld⟩ := h.running hcall (.inr rfl)
      exact finish_sound hheld io rfl
    · exact h

/-- While no call starts inside the transaction of another, a call that returned has its writes in the
database and a call that threw has none. -/
theorem undisturbed_isolated (s : Instance ι W) (hidle : s.connection.Idle)
    (hnew : ∀ id, s.calls id = none ∧ own id s.connection.db.tables = []) (events : List (Event ι W))
    (halone : s.Undisturbed events) : (s.run events).Isolated := by
  have hsound : ∀ events (s : Instance ι W), Sound s → s.Undisturbed events → Sound (s.run events) := by
    intro events
    induction events with
    | nil => exact fun s h _ => h
    | cons event events ih => exact fun s h halone => ih _ (apply_sound h event halone.1) halone.2
  refine (hsound events s (.idle hidle fun id => ?_) halone).isolated
  rw [(hnew id).1]
  exact (hnew id).2

section Overlap

def openStore : Instance ℕ ℕ := ⟨⟨⟨[], (), 0⟩, none, false, false, false, false⟩, fun _ => none⟩

def saveOf (id value : ℕ) : Program (Journal ℕ ℕ) Unit false :=
  .mutate .works (.write fun rows => rows ++ [(id, value)])

theorem saveOf_writes (id value : ℕ) : WritesAs id (saveOf id value) := fun _ => ⟨value, rfl⟩

def saveCall (id value : ℕ) : SyncCall ℕ ℕ id := ⟨saveOf id value, saveOf_writes id value, rfl⟩

def emptyPiece (id : ℕ) : Piece ℕ ℕ id := ⟨.done, trivial⟩

def failingPiece (id : ℕ) : Piece ℕ ℕ id := ⟨.throw (.thrown "inspect failed"), trivial⟩

/-- A save of another caller runs while the callback of call 1 awaits, and then the callback rejects. -/
def lostSave : List (Event ℕ ℕ) :=
  [.start 1 .works (emptyPiece 1) false, .sync 2 (saveCall 2 7), .resume 1 (failingPiece 1) false,
    .finish 1 .works]

/-- The save has returned, and its row is gone. -/
theorem joined_save_lost : ¬ ∀ events : List (Event ℕ ℕ), (openStore.run events).connection.inTransaction = false →
      (openStore.run events).Isolated := by
  intro hall
  have hisolated := hall lostSave rfl 2 ⟨false, [7], some (.ok ()), some (.ok ())⟩ rfl
  have hrows := hisolated.1 rfl
  exact absurd hrows (by decide)

def savePiece (id value : ℕ) : Piece ℕ ℕ id := ⟨saveOf id value, saveOf_writes id value⟩

/-- Call 1 writes, awaits and writes again, and a save follows it. -/
def apartSave : List (Event ℕ ℕ) :=
  [.start 1 .works (savePiece 1 5) false, .resume 1 (savePiece 1 6) true, .finish 1 .works, .sync 2 (saveCall 2 7)]

theorem undisturbed_isolated_save : (openStore.run apartSave).connection.db.tables = [(1, 5), (1, 6), (2, 7)] ∧
    (openStore.run apartSave).Isolated :=
  ⟨by decide, undisturbed_isolated openStore ⟨rfl, rfl, rfl, rfl⟩ (fun _ => ⟨rfl, rfl⟩) _
    ⟨rfl, trivial, trivial, rfl, trivial⟩⟩

end Overlap

end AsyncTransaction
