import Yui.StoreTransactionLaw

/-!
# The persistence worker

The worker handles one request at a time on its writer connection. A write that carries a request id is
skipped when the outbox has the id, and otherwise runs in one transaction that writes the id to the outbox
when a store mutation has completed in it. The worker may die at any point of a delivery, and a request
may be delivered again.
-/

open StoreTransaction

namespace PersistenceWorker

/-- The tables, with the request ids of the outbox apart. -/
structure Tables (R : Type) where
  rows : R
  outbox : List String

variable {R S : Type}

/-- The body of a store method: no outbox row is deleted, and no error is caught. -/
def IsMethod : {w : Bool} → Program (Tables R) S w → Prop
  | _, .done | _, .throw _ | _, .sequence _ => True
  | _, .read next => ∀ db, IsMethod (next db)
  | _, .write row => ∀ tables, tables.outbox ⊆ (row tables).outbox
  | _, .seq first second => IsMethod first ∧ IsMethod second
  | _, .attempt _ _ => False
  | _, .mutate _ body | _, .call _ _ body => IsMethod body

/-- A store method with its arguments. -/
structure Method (R S : Type) where
  program : Program (Tables R) S false
  isMethod : IsMethod program

inductive Request (R S : Type) where
  | call (method : Method R S)
  | transaction (commands : List (Method R S)) (expectedRevision : Option ℕ)

inductive Answer where
  | alreadyApplied
  | result
  | error (error : Error)
  deriving DecidableEq

/-- Where the worker dies in a delivery, if it does. -/
inductive Fate where
  | answered
  | beforeTransaction
  | insideTransaction
  | beforeResponse
  deriving DecidableEq

/-- A delivery of a request. `cancelled` is what the polls of `shouldCancel` return. -/
structure Delivery (R S : Type) where
  requestId : String
  request : Request R S
  io : Io
  cancelled : ℕ → Bool
  fate : Fate

def cancelError : Error := .thrown "Storage command batch cancelled."

/-- The commands of a batch, with a poll before each and one before the commit. -/
def commandBatch (cancelled : ℕ → Bool) : ℕ → List (Method R S) → Program (Tables R) S false
  | poll, [] => if cancelled poll = true then .throw cancelError else .done
  | poll, method :: methods =>
    if cancelled poll = true then .throw cancelError
    else .seq method.program (commandBatch cancelled (poll + 1) methods)

abbrev Store (R S : Type) := Database (Tables R) S

/-- `#insertOutbox`. -/
def insertOutbox (requestId : String) (c : Connection (Tables R) S) : Connection (Tables R) S :=
  { c with db := { c.db with tables := { c.db.tables with outbox := c.db.tables.outbox ++ [requestId] } } }

/-- The end of a transaction that carries a request id. -/
def settleRequest (requestId : String) (io : Io) : Result (Tables R) S → Result (Tables R) S
  | (.error error, c) => (.error error, c.rollback)
  | (.ok _, c) =>
    if c.dirty = false then finish io false c
    else if requestId ∈ c.db.tables.outbox then
      (.error (.thrown ("Outbox request already applied: " ++ requestId)), c.rollback)
    else finish io true (insertOutbox requestId c)

/-- `transaction` with a request id, outside a transaction. -/
def transaction (requestId : String) (io : Io) (body : Connection (Tables R) S → Result (Tables R) S)
    (c : Connection (Tables R) S) : Result (Tables R) S :=
  if io.begin_ = false then (.error .driver, c)
  else settleRequest requestId io (prepared io body c.begin_)

/-- `transactionAsyncBatch` with a request id, outside a transaction. -/
def transactionAsyncBatch (requestId : String) (io : Io) (expectedRevision : Option ℕ)
    (body : Connection (Tables R) S → Result (Tables R) S) (c : Connection (Tables R) S) : Result (Tables R) S :=
  if io.begin_ = false then (.error .driver, c)
  else
    settleRequest requestId io (preparedAfter io
      (match expectedRevision with
        | none => body c.begin_
        | some expected => checked expected body c.begin_))

def writer (db : Store R S) : Connection (Tables R) S := ⟨db, none, false, false, false, false⟩

namespace Delivery

/-- What the transaction of the delivery runs. -/
def body (d : Delivery R S) : Program (Tables R) S false :=
  match d.request with
  | .call method => method.program
  | .transaction commands _ => commandBatch d.cancelled 0 commands

def execute (d : Delivery R S) (db : Store R S) : Result (Tables R) S :=
  match d.request with
  | .call _ => transaction d.requestId d.io d.body.exec (writer db)
  | .transaction _ expectedRevision =>
    transactionAsyncBatch d.requestId d.io expectedRevision d.body.exec (writer db)

/-- `handleCall` and `handleTransaction`. -/
def handle (d : Delivery R S) (db : Store R S) : Answer × Store R S :=
  if d.requestId ∈ db.tables.outbox then (.alreadyApplied, db)
  else
    match d.execute db with
    | (.ok _, c) => (.result, c.db)
    | (.error error, c) => (.error error, c.db)

/-- A delivery with the death of the worker: SQLite forgets a transaction that was not committed. -/
def deliver (d : Delivery R S) (db : Store R S) : Option Answer × Store R S :=
  match d.fate with
  | .beforeTransaction | .insideTransaction => (none, db)
  | .beforeResponse => (none, (d.handle db).2)
  | .answered => (some (d.handle db).1, (d.handle db).2)

/-- The delivery commits, and a store mutation has completed in it. -/
def commits (d : Delivery R S) (db : Store R S) : Bool :=
  (decide (d.fate = .answered) || decide (d.fate = .beforeResponse)) &&
    decide ((d.handle db).1 = .result) && (d.body.run false db).completed

end Delivery

def run (db : Store R S) : List (Delivery R S) → Store R S
  | [] => db
  | d :: ds => run (d.deliver db).2 ds

/-- The requests whose mutations a run commits, in order. -/
def committed (db : Store R S) : List (Delivery R S) → List String
  | [] => []
  | d :: ds =>
    if d.commits db = true then d.requestId :: committed (d.deliver db).2 ds
    else committed (d.deliver db).2 ds

/-- The batch is cancelled, or its revision is not the one that it expects. -/
def Delivery.Refused (d : Delivery R S) (db : Store R S) : Prop :=
  match d.request with
  | .call _ => False
  | .transaction commands expectedRevision =>
    (∃ poll, poll ≤ commands.length ∧ d.cancelled poll = true) ∨
      ∃ expected, expectedRevision = some expected ∧ db.revision ≠ expected

end PersistenceWorker
