import Yui.StoreTransactionLaw

/-!
# Overlapping calls on one store

Several callers share one instance of the store. A `transactionAsync` keeps its transaction open while its
callback awaits, and the calls of other callers run in between. Each row write is recorded with the call
that made it: the tables are the list of the writes they have taken.
-/

open StoreTransaction

namespace AsyncTransaction

abbrev Journal (ι W : Type) := List (ι × W)

variable {ι W : Type}

def WritesAs (id : ι) : {w : Bool} → Program (Journal ι W) Unit w → Prop
  | _, .done | _, .throw _ | _, .sequence _ => True
  | _, .read next => ∀ db, WritesAs id (next db)
  | _, .write row => ∀ rows, ∃ value, row rows = rows ++ [(id, value)]
  | _, .seq first second => WritesAs id first ∧ WritesAs id second
  | _, .attempt body handler => WritesAs id body ∧ ∀ error, WritesAs id (handler error)
  | _, .mutate _ body | _, .call _ _ body => WritesAs id body

/-- A `#mutate`, or a transaction that may write. -/
def opensWrite {T S : Type} : Program T S false → Bool
  | .mutate _ _ | .call .transaction _ _ | .call (.revisionCas _) _ _ => true
  | _ => false

structure SyncCall (ι W : Type) (id : ι) where
  program : Program (Journal ι W) Unit false
  writes : WritesAs id program
  opens : opensWrite program = true

/-- What a callback does up to its next await. -/
structure Piece (ι W : Type) (id : ι) where
  program : Program (Journal ι W) Unit false
  writes : WritesAs id program

inductive Event (ι W : Type) where
  | sync (id : ι) (call : SyncCall ι W id)
  | start (id : ι) (io : Io) (piece : Piece ι W id) (last : Bool)
  | resume (id : ι) (piece : Piece ι W id) (last : Bool)
  | finish (id : ι) (io : Io)

/-- A call: whether it opened the transaction, what it wrote, how its body ended and how it settled. -/
structure Call (W : Type) where
  owns : Bool
  wrote : List W
  body : Option (Except Error Unit)
  outcome : Option (Except Error Unit)

structure Instance (ι W : Type) where
  connection : Connection (Journal ι W) Unit
  calls : ι → Option (Call W)

variable [DecidableEq ι]

def own (id : ι) (rows : Journal ι W) : List W :=
  rows.filterMap fun row => if row.1 = id then some row.2 else none

/-- What a program writes when it runs in a transaction. -/
def wrote (id : ι) (p : Program (Journal ι W) Unit false) (c : Connection (Journal ι W) Unit) : List W :=
  (own id (p.run c.queryOnly c.db).db.tables).drop (own id c.db.tables).length

namespace Instance

def setCall (s : Instance ι W) (id : ι) (call : Call W) : Instance ι W :=
  { s with calls := fun other => if other = id then some call else s.calls other }

def setConnection (s : Instance ι W) (c : Connection (Journal ι W) Unit) : Instance ι W :=
  { s with connection := c }

/-- How the callback stands after a piece of it. -/
def ended (last : Bool) : Except Error Unit → Option (Except Error Unit)
  | .error error => some (.error error)
  | .ok _ => if last = true then some (.ok ()) else none

def resume (s : Instance ι W) (id : ι) (call : Call W) (piece : Piece ι W id) (last : Bool) : Instance ι W :=
  let after := piece.program.exec s.connection
  (s.setConnection after.2).setCall id
    { call with
      wrote := call.wrote ++ AsyncTransaction.wrote id piece.program s.connection
      body := ended last after.1 }

def sync (s : Instance ι W) (id : ι) (call : SyncCall ι W id) : Instance ι W :=
  let after := call.program.exec s.connection
  (s.setConnection after.2).setCall id
    ⟨false, AsyncTransaction.wrote id call.program s.connection, some after.1, some after.1⟩

def refused : Call W := ⟨false, [], some (.error .driver), some (.error .driver)⟩

/-- `transactionAsync` up to the first await of its callback. -/
def start (s : Instance ι W) (id : ι) (io : Io) (piece : Piece ι W id) (last : Bool) : Instance ι W :=
  if s.connection.inTransaction = true then s.resume id ⟨false, [], none, none⟩ piece last
  else if io.begin_ = false then s.setCall id refused
  else if io.prepare = false then (s.setConnection s.connection.begin_.rollback).setCall id refused
  else (s.setConnection s.connection.begin_).resume id ⟨true, [], none, none⟩ piece last

/-- The end of a `transactionAsync`, after its callback has ended. -/
def finish (s : Instance ι W) (id : ι) (io : Io) (call : Call W) (result : Except Error Unit) : Instance ι W :=
  if call.owns = true then
    let after := settle io Connection.dirty (result, s.connection)
    (s.setConnection after.2).setCall id { call with outcome := some after.1 }
  else s.setCall id { call with outcome := some result }

def apply (s : Instance ι W) : Event ι W → Instance ι W
  | .sync id call => if (s.calls id).isSome = true then s else s.sync id call
  | .start id io piece last => if (s.calls id).isSome = true then s else s.start id io piece last
  | .resume id piece last =>
    match s.calls id with
    | some ⟨owns, wrote, none, outcome⟩ => s.resume id ⟨owns, wrote, none, outcome⟩ piece last
    | _ => s
  | .finish id io =>
    match s.calls id with
    | some ⟨owns, wrote, some result, none⟩ => s.finish id io ⟨owns, wrote, some result, none⟩ result
    | _ => s

def run (s : Instance ι W) : List (Event ι W) → Instance ι W
  | [] => s
  | event :: events => (s.apply event).run events

/-- The rows that a transaction of another connection sees. -/
def committed (s : Instance ι W) : Journal ι W :=
  (s.connection.snapshot.getD s.connection.db).tables

/-- A call that returned has its writes in the database, and a call that threw has none of them. -/
def Isolated (s : Instance ι W) : Prop :=
  ∀ id call, s.calls id = some call →
    (call.outcome = some (.ok ()) → call.wrote.Sublist (own id s.committed)) ∧
      ∀ error, call.outcome = some (.error error) → own id s.committed = []

/-- No call starts while a transaction is open. -/
def Alone (s : Instance ι W) : Event ι W → Prop
  | .sync _ _ | .start _ _ _ _ => s.connection.inTransaction = false
  | .resume _ _ _ | .finish _ _ => True

def Undisturbed (s : Instance ι W) : List (Event ι W) → Prop
  | [] => True
  | event :: events => s.Alone event ∧ (s.apply event).Undisturbed events

end Instance

section Writes

variable {id other : ι} {rows : Journal ι W} {values : List W}

theorem own_append (id : ι) (rows more : Journal ι W) : own id (rows ++ more) = own id rows ++ own id more := by
  simp [own, List.filterMap_append]

theorem own_self (id : ι) (values : List W) : own id (values.map fun value => (id, value)) = values := by
  induction values with
  | nil => rfl
  | cons value values ih =>
    simp only [own, List.map_cons, List.filterMap_cons, if_true]
    exact congrArg (value :: ·) ih

theorem own_other (h : other ≠ id) (values : List W) : own id (values.map fun value => (other, value)) = [] := by
  simp [own, h]

omit [DecidableEq ι] in
/-- A program only adds rows of its own call. -/
theorem run_writes (queryOnly : Bool) {w : Bool} (p : Program (Journal ι W) Unit w)
    (hp : WritesAs id p) (db : Database (Journal ι W) Unit) :
    ∃ values : List W, (p.run queryOnly db).db.tables = db.tables ++ values.map fun value => (id, value) := by
  induction p generalizing db with
  | done | throw error => exact ⟨[], (List.append_nil _).symm⟩
  | read next ih => exact ih db (hp db) db
  | write row =>
    simp only [StoreTransaction.Program.run]
    split_ifs
    · exact ⟨[], (List.append_nil _).symm⟩
    · obtain ⟨value, hvalue⟩ := hp db.tables
      exact ⟨[value], hvalue⟩
  | sequence number =>
    simp only [StoreTransaction.Program.run]
    split_ifs <;> exact ⟨[], (List.append_nil _).symm⟩
  | seq first second ihFirst ihSecond =>
    obtain ⟨values, hvalues⟩ := ihFirst hp.1 db
    simp only [StoreTransaction.Program.run]
    cases (first.run queryOnly db).result with
    | error error => exact ⟨values, hvalues⟩
    | ok _ =>
      obtain ⟨more, hmore⟩ := ihSecond hp.2 (first.run queryOnly db).db
      exact ⟨values ++ more, by dsimp only; rw [hmore, hvalues, List.map_append, List.append_assoc]⟩
  | attempt body handler ihBody ihHandler =>
    obtain ⟨values, hvalues⟩ := ihBody hp.1 db
    simp only [StoreTransaction.Program.run]
    cases (body.run queryOnly db).result with
    | ok _ => exact ⟨values, hvalues⟩
    | error error =>
      obtain ⟨more, hmore⟩ := ihHandler error (hp.2 error) (body.run queryOnly db).db
      exact ⟨values ++ more, by dsimp only; rw [hmore, hvalues, List.map_append, List.append_assoc]⟩
  | mutate io body ih =>
    obtain ⟨values, hvalues⟩ := ih hp db
    simp only [StoreTransaction.Program.run]
    cases (body.run queryOnly db).result with
    | error error => exact ⟨values, hvalues⟩
    | ok _ => exact ⟨values, hvalues⟩
  | call kind io body ih =>
    obtain ⟨values, hvalues⟩ := ih hp db
    cases kind with
    | transaction | readTransaction => exact ⟨values, hvalues⟩
    | revisionCas expected =>
      simp only [StoreTransaction.Program.run]
      split_ifs
      · exact ⟨[], (List.append_nil _).symm⟩
      · exact ⟨values, hvalues⟩

theorem wrote_spec {p : Program (Journal ι W) Unit false} (hp : WritesAs id p) (c : Connection (Journal ι W) Unit) :
    (p.run c.queryOnly c.db).db.tables = c.db.tables ++ (wrote id p c).map fun value => (id, value) := by
  obtain ⟨values, hvalues⟩ := run_writes c.queryOnly p hp c.db
  have hwrote : wrote id p c = values := by
    unfold wrote
    rw [hvalues, own_append, own_self, List.drop_left]
  rw [hwrote, hvalues]

end Writes

section Atomic

variable {T S : Type}

theorem settle_atomic (io : Io) (bump : Connection T S → Bool) (result : Except Error Unit)
    (d : Connection T S) (base : Database T S) (hsnapshot : d.snapshot = some base) :
    (∃ error, (settle io bump (result, d)).1 = .error error ∧ (settle io bump (result, d)).2.db = base) ∨
      (settle io bump (result, d)).1 = .ok () ∧ result = .ok () ∧
        (settle io bump (result, d)).2.db.tables = d.db.tables := by
  have hrollback : ∀ d' : Connection T S, d'.snapshot = some base → d'.rollback.db = base := by
    intro d' h
    simp [Connection.rollback, Connection.reset, h]
  cases result with
  | error error => exact .inl ⟨error, rfl, hrollback d hsnapshot⟩
  | ok _ =>
    unfold settle finish
    dsimp only
    by_cases hfails : bump d = true ∧ (io.bump = false ∨ d.queryOnly = true)
    · rw [if_pos hfails]
      exact .inl ⟨_, rfl, hrollback d hsnapshot⟩
    · rw [if_neg hfails]
      by_cases hcommit : io.commit = false
      · rw [if_pos hcommit]
        refine .inl ⟨_, rfl, hrollback _ ?_⟩
        split_ifs <;> exact hsnapshot
      · rw [if_neg hcommit]
        refine .inr ⟨rfl, rfl, ?_⟩
        split_ifs <;> rfl

theorem sync_atomic (p : Program T S false) (hp : opensWrite p = true) (c : Connection T S) (hc : c.Idle) :
    (∃ error, (p.exec c).1 = .error error ∧ (p.exec c).2.db = c.db) ∨
      (p.exec c).1 = .ok () ∧ (p.exec c).2.db.tables = (p.run c.queryOnly c.db).db.tables := by
  have hidle : ¬ c.inTransaction = true := by simp [hc.inTransaction]
  cases p with
  | mutate io body =>
    simp only [StoreTransaction.Program.exec, mutate]
    rw [if_neg hidle]
    split_ifs with hbegin
    · exact .inl ⟨_, rfl, rfl⟩
    · simp only [prepared]
      split_ifs
      · exact .inl ⟨_, rfl, rfl⟩
      · rw [begin_joined c]
        obtain hfailed | ⟨hok, hresult, htables⟩ := settle_atomic io (fun _ => true)
          (body.run c.queryOnly c.db).result (c.begin_.after (body.run c.queryOnly c.db)) c.db rfl
        · exact .inl hfailed
        · refine .inr ⟨hok, htables.trans ?_⟩
          simp only [StoreTransaction.Program.run, hresult]
          rfl
  | call kind io body =>
    cases kind with
    | transaction =>
      simp only [StoreTransaction.Program.exec, transact]
      rw [if_neg hidle]
      split_ifs with hbegin
      · exact .inl ⟨_, rfl, rfl⟩
      · simp only [prepared]
        split_ifs
        · exact .inl ⟨_, rfl, rfl⟩
        · rw [begin_joined c]
          obtain hfailed | ⟨hok, hresult, htables⟩ := settle_atomic io Connection.dirty
            (body.run c.queryOnly c.db).result (c.begin_.after (body.run c.queryOnly c.db))
            c.db rfl
          · exact .inl hfailed
          · exact .inr ⟨hok, htables⟩
    | readTransaction => cases hp
    | revisionCas expected =>
      simp only [StoreTransaction.Program.exec, transact, StoreTransaction.Program.run]
      rw [if_neg hidle]
      by_cases hbegin : io.begin_ = false
      · rw [if_pos hbegin]
        exact .inl ⟨_, rfl, rfl⟩
      rw [if_neg hbegin]
      simp only [checked]
      by_cases hrevision : c.db.revision = expected
      · have hopened : ¬ c.begin_.db.revision ≠ expected := fun h => h hrevision
        have hbefore : ¬ c.db.revision ≠ expected := fun h => h hrevision
        rw [if_neg hopened, begin_joined c, if_neg hbefore]
        cases hresult : (body.run c.queryOnly c.db).result with
        | error error => exact .inl ⟨_, rfl, rfl⟩
        | ok _ =>
          simp only [preparedAfter]
          split_ifs
          · exact .inl ⟨_, rfl, rfl⟩
          · obtain hfailed | ⟨hok, -, htables⟩ := settle_atomic io Connection.dirty (.ok ())
              (c.begin_.after (body.run c.queryOnly c.db)) c.db rfl
            · exact .inl hfailed
            · exact .inr ⟨hok, htables⟩
      · have hopened : c.begin_.db.revision ≠ expected := hrevision
        rw [if_pos hopened]
        exact .inl ⟨_, rfl, rfl⟩
  | done | throw error | read next | seq first second | attempt body handler => cases hp

end Atomic

end AsyncTransaction
