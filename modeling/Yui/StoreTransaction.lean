import Mathlib.Data.List.Basic

/-!
# Transactions of the task store

A connection of the store has its database, the snapshot that a rollback restores, and the flags that
decide whether a call opens a transaction or joins the one that is open. A program is what a client or the
body of a store operation does: it writes rows inside `#mutate`, nests the transaction calls, and may throw
or catch anywhere. `tables` stands for every table but `global_sequences` and the revision of `home_meta`.
`#nextGlobalId`, which writes `global_sequences` alone and outside `#mutate`, is left out.
-/

namespace StoreTransaction

structure Database (T S : Type) where
  tables : T
  sequences : S
  revision : ℕ

structure Connection (T S : Type) where
  db : Database T S
  snapshot : Option (Database T S)
  inTransaction : Bool
  writeTransaction : Bool
  dirty : Bool
  queryOnly : Bool

inductive Error where
  | thrown (message : String)
  | driver
  | readOnly
  | conflict (current : ℕ)
  deriving DecidableEq

/-- The statements of the store that the driver lets fail. -/
structure Io where
  begin_ : Bool
  prepare : Bool
  bump : Bool
  commit : Bool

def Io.works : Io := ⟨true, true, true, true⟩

inductive Call where
  | transaction
  | readTransaction
  | revisionCas (expected : ℕ)

/-- A program. The index says whether it is the body of a `#mutate`, where rows are written. -/
inductive Program (T S : Type) : Bool → Type where
  | done {w : Bool} : Program T S w
  | throw {w : Bool} (error : Error) : Program T S w
  | read {w : Bool} (next : Database T S → Program T S w) : Program T S w
  | write (row : T → T) : Program T S true
  | sequence (number : S → S) : Program T S true
  | seq {w : Bool} (first second : Program T S w) : Program T S w
  | attempt {w : Bool} (body : Program T S w) (handler : Error → Program T S w) : Program T S w
  | mutate {w : Bool} (io : Io) (body : Program T S true) : Program T S w
  | call {w : Bool} (kind : Call) (io : Io) (body : Program T S w) : Program T S w

variable {T S : Type}

namespace Connection

/-- `#begin`: the snapshot, and the flags. -/
def begin_ (c : Connection T S) : Connection T S :=
  { c with snapshot := some c.db, inTransaction := true, writeTransaction := true, dirty := false }

/-- The `BEGIN` of `readTransaction`, which leaves the other flags. -/
def beginRead (c : Connection T S) : Connection T S :=
  { c with snapshot := some c.db, inTransaction := true }

def reset (c : Connection T S) : Connection T S :=
  { c with snapshot := none, inTransaction := false, writeTransaction := false, dirty := false }

def rollback (c : Connection T S) : Connection T S :=
  { c with db := c.snapshot.getD c.db }.reset

def bumpRevision (c : Connection T S) : Connection T S :=
  { c with db := { c.db with revision := c.db.revision + 1 } }

def markDirty (c : Connection T S) : Connection T S := { c with dirty := true }

def setQueryOnly (c : Connection T S) (queryOnly : Bool) : Connection T S :=
  { c with queryOnly := queryOnly }

structure Idle (c : Connection T S) : Prop where
  snapshot : c.snapshot = none
  inTransaction : c.inTransaction = false
  writeTransaction : c.writeTransaction = false
  dirty : c.dirty = false

end Connection

abbrev Result (T S : Type) := Except Error Unit × Connection T S

/-- `#bumpRevision` and `#commit`, with the rollback of the catch block. -/
def finish (io : Io) (bump : Bool) (c : Connection T S) : Result T S :=
  if bump = true ∧ (io.bump = false ∨ c.queryOnly = true) then (.error .driver, c.rollback)
  else
    let bumped := if bump = true then c.bumpRevision else c
    if io.commit = false then (.error .driver, bumped.rollback) else (.ok (), bumped.reset)

/-- A result inside the `try` of a transaction. -/
def settle (io : Io) (bump : Connection T S → Bool) : Result T S → Result T S
  | (.error error, c) => (.error error, c.rollback)
  | (.ok _, c) => finish io (bump c) c

/-- `#prepareWrite` before the body. -/
def prepared (io : Io) (body : Connection T S → Result T S) (c : Connection T S) : Result T S :=
  if io.prepare = false then (.error .driver, c) else body c

/-- The check of `transactionWithRevisionCas` before the body. -/
def checked (expected : ℕ) (body : Connection T S → Result T S) (c : Connection T S) : Result T S :=
  if c.db.revision ≠ expected then (.error (.conflict c.db.revision), c) else body c

/-- After the body of a `transactionWithRevisionCas` that wrote, the head of the schema is checked. -/
def preparedAfter (io : Io) : Result T S → Result T S
  | (.error error, c) => (.error error, c)
  | (.ok _, c) => if c.dirty = true ∧ io.prepare = false then (.error .driver, c) else (.ok (), c)

def mutate (io : Io) (body : Connection T S → Result T S) (c : Connection T S) : Result T S :=
  if c.inTransaction = true then
    match body c with
    | (.error error, c) => (.error error, c)
    | (.ok _, c) => (.ok (), c.markDirty)
  else if io.begin_ = false then (.error .driver, c)
  else settle io (fun _ => true) (prepared io body c.begin_)

def transact (kind : Call) (io : Io) (body : Connection T S → Result T S) (c : Connection T S) : Result T S :=
  match kind with
  | .transaction =>
    if c.inTransaction = true then body c
    else if io.begin_ = false then (.error .driver, c)
    else settle io Connection.dirty (prepared io body c.begin_)
  | .readTransaction =>
    if c.inTransaction = true then body c
    else
      let guarded := c.setQueryOnly true
      if io.begin_ = false then (.error .driver, guarded)
      else
        let (result, ended) := settle io (fun _ => false) (prepared io body guarded.beginRead)
        (result, ended.setQueryOnly c.queryOnly)
  | .revisionCas expected =>
    if c.inTransaction = true then checked expected body c
    else if io.begin_ = false then (.error .driver, c)
    else settle io Connection.dirty (preparedAfter io (checked expected body c.begin_))

def Program.exec : {w : Bool} → Program T S w → Connection T S → Result T S
  | _, .done, c => (.ok (), c)
  | _, .throw error, c => (.error error, c)
  | _, .read next, c => (next c.db).exec c
  | _, .write row, c =>
    if c.queryOnly = true then (.error .readOnly, c)
    else (.ok (), { c with db := { c.db with tables := row c.db.tables } })
  | _, .sequence number, c =>
    if c.queryOnly = true then (.error .readOnly, c)
    else (.ok (), { c with db := { c.db with sequences := number c.db.sequences } })
  | _, .seq first second, c =>
    match first.exec c with
    | (.error error, c) => (.error error, c)
    | (.ok _, c) => second.exec c
  | _, .attempt body handler, c =>
    match body.exec c with
    | (.error error, c) => (handler error).exec c
    | (.ok _, c) => (.ok (), c)
  | _, .mutate io body, c => StoreTransaction.mutate io body.exec c
  | _, .call kind io body, c => transact kind io body.exec c

end StoreTransaction
