import Yui.StoreTransaction

/-!
# The revision law of the task store

A program inside a transaction changes the database and may complete a store mutation. From that, what an
outermost call leaves: all of its rows or none of them, the flags of a connection without a transaction,
and a revision that counts the call when a mutation completed. A call that returns after changing rows
without completing a mutation is not counted.
-/

namespace StoreTransaction

variable {T S : Type}

structure Outcome (T S : Type) where
  result : Except Error Unit
  db : Database T S
  completed : Bool

def Program.run (queryOnly : Bool) : {w : Bool} → Program T S w → Database T S → Outcome T S
  | _, .done, db => ⟨.ok (), db, false⟩
  | _, .throw error, db => ⟨.error error, db, false⟩
  | _, .read next, db => (next db).run queryOnly db
  | _, .write row, db =>
    if queryOnly = true then ⟨.error .readOnly, db, false⟩
    else ⟨.ok (), { db with tables := row db.tables }, false⟩
  | _, .sequence number, db =>
    if queryOnly = true then ⟨.error .readOnly, db, false⟩
    else ⟨.ok (), { db with sequences := number db.sequences }, false⟩
  | _, .seq first second, db =>
    let left := first.run queryOnly db
    match left.result with
    | .error error => ⟨.error error, left.db, left.completed⟩
    | .ok _ =>
      let right := second.run queryOnly left.db
      ⟨right.result, right.db, left.completed || right.completed⟩
  | _, .attempt body handler, db =>
    let left := body.run queryOnly db
    match left.result with
    | .error error =>
      let right := (handler error).run queryOnly left.db
      ⟨right.result, right.db, left.completed || right.completed⟩
    | .ok _ => left
  | _, .mutate _ body, db =>
    let inner := body.run queryOnly db
    match inner.result with
    | .error _ => inner
    | .ok _ => { inner with completed := true }
  | _, .call kind _ body, db =>
    match kind with
    | .transaction | .readTransaction => body.run queryOnly db
    | .revisionCas expected =>
      if db.revision ≠ expected then ⟨.error (.conflict db.revision), db, false⟩
      else body.run queryOnly db

/-- The connection after a program inside a transaction. -/
def Connection.after (c : Connection T S) (outcome : Outcome T S) : Connection T S :=
  { c with db := outcome.db, dirty := c.dirty || outcome.completed }

theorem exec_joined {w : Bool} (p : Program T S w) (c : Connection T S) (hc : c.inTransaction = true) :
    p.exec c = ((p.run c.queryOnly c.db).result, c.after (p.run c.queryOnly c.db)) := by
  induction p generalizing c with
  | done => simp [Program.exec, Program.run, Connection.after]
  | throw error => simp [Program.exec, Program.run, Connection.after]
  | read next ih =>
    simp only [Program.exec, Program.run]
    exact ih c.db c hc
  | write row | sequence number =>
    simp only [Program.exec, Program.run]
    split_ifs
    · simp [Connection.after]
    · simp [Connection.after]
  | seq first second ihFirst ihSecond =>
    simp only [Program.exec, Program.run, ihFirst c hc]
    cases (first.run c.queryOnly c.db).result with
    | error error => rfl
    | ok _ =>
      dsimp only
      rw [ihSecond (c.after (first.run c.queryOnly c.db)) hc]
      simp [Connection.after, Bool.or_assoc]
  | attempt body handler ihBody ihHandler =>
    simp only [Program.exec, Program.run, ihBody c hc]
    cases hresult : (body.run c.queryOnly c.db).result with
    | error error =>
      dsimp only
      rw [ihHandler error (c.after (body.run c.queryOnly c.db)) hc]
      simp [Connection.after, Bool.or_assoc]
    | ok _ =>
      dsimp only
      rw [hresult]
  | mutate io body ih =>
    simp only [Program.exec, Program.run, mutate, ih c hc, hc]
    cases hresult : (body.run c.queryOnly c.db).result with
    | error error =>
      dsimp only
      rw [hresult]
      rfl
    | ok _ => simp [Connection.after, Connection.markDirty]
  | call kind io body ih =>
    cases kind with
    | transaction | readTransaction =>
      simp only [Program.exec, Program.run, transact, hc]
      exact ih c hc
    | revisionCas expected =>
      simp only [Program.exec, Program.run, transact, checked, hc]
      by_cases hrevision : c.db.revision = expected
      · simp only [hrevision, ne_eq, not_true_eq_false, if_false, if_true]
        exact ih c hc
      · simp [hrevision, Connection.after]

theorem run_revision {w : Bool} (queryOnly : Bool) (p : Program T S w) (db : Database T S) :
    (p.run queryOnly db).db.revision = db.revision := by
  induction p generalizing db with
  | done | throw error => rfl
  | read next ih => exact ih db db
  | write row | sequence number =>
    simp only [Program.run]
    split_ifs <;> rfl
  | seq first second ihFirst ihSecond =>
    simp only [Program.run]
    cases (first.run queryOnly db).result with
    | error error => exact ihFirst db
    | ok _ => exact (ihSecond _).trans (ihFirst db)
  | attempt body handler ihBody ihHandler =>
    simp only [Program.run]
    cases (body.run queryOnly db).result with
    | error error => exact (ihHandler error _).trans (ihBody db)
    | ok _ => exact ihBody db
  | mutate io body ih =>
    simp only [Program.run]
    cases (body.run queryOnly db).result with
    | error error => exact ih db
    | ok _ => exact ih db
  | call kind io body ih =>
    cases kind with
    | transaction | readTransaction => exact ih db
    | revisionCas expected =>
      simp only [Program.run]
      split_ifs
      · rfl
      · exact ih db

theorem run_queryOnly {w : Bool} (p : Program T S w) (db : Database T S) : (p.run true db).db = db := by
  induction p generalizing db with
  | done | throw error => rfl
  | read next ih => exact ih db db
  | write row | sequence number => rfl
  | seq first second ihFirst ihSecond =>
    simp only [Program.run]
    cases (first.run true db).result with
    | error error => exact ihFirst db
    | ok _ => exact (ihSecond _).trans (ihFirst db)
  | attempt body handler ihBody ihHandler =>
    simp only [Program.run]
    cases (body.run true db).result with
    | error error => exact (ihHandler error _).trans (ihBody db)
    | ok _ => exact ihBody db
  | mutate io body ih =>
    simp only [Program.run]
    cases (body.run true db).result with
    | error error => exact ih db
    | ok _ => exact ih db
  | call kind io body ih =>
    cases kind with
    | transaction | readTransaction => exact ih db
    | revisionCas expected =>
      simp only [Program.run]
      split_ifs
      · rfl
      · exact ih db

section Law

variable {c : Connection T S} {io : Io} {w : Bool}

/-- What a call leaves for its caller. `completed` says whether a store mutation completed in it. -/
structure Lawful (c : Connection T S) (completed : Bool) (after : Result T S) : Prop where
  idle : after.2.Idle
  restored : ∀ error, after.1 = .error error → after.2.db = c.db
  counted : after.1 = .ok () → after.2.db.tables ≠ c.db.tables →
    after.2.db.revision = c.db.revision + 1
  quiet : completed = false → after.2.db.tables = c.db.tables → after.2.db.revision = c.db.revision

variable {d : Connection T S}

theorem lawful_rollback (hsnapshot : d.snapshot = some c.db) (completed : Bool)
    (error : Error) : Lawful c completed (.error error, d.rollback) := by
  have hdb : d.rollback.db = c.db := by
    unfold Connection.rollback Connection.reset
    rw [hsnapshot]
    rfl
  exact ⟨⟨rfl, rfl, rfl, rfl⟩, fun _ _ => hdb, nofun, fun _ _ => by rw [hdb]⟩

theorem lawful_finish (hsnapshot : d.snapshot = some c.db) (bump completed : Bool)
    (hrevision : d.db.revision = c.db.revision)
    (hbump : bump = false → d.db.tables = c.db.tables) (hquiet : bump = true → completed = true) :
    Lawful c completed (finish io bump d) := by
  cases bump with
  | true =>
    simp only [finish, true_and, reduceIte]
    split_ifs with hfails hcommit
    · exact lawful_rollback hsnapshot completed _
    · exact lawful_rollback (d := d.bumpRevision) hsnapshot completed _
    · refine ⟨⟨rfl, rfl, rfl, rfl⟩, (by simp), fun _ _ => ?_, fun hnone _ => ?_⟩
      · exact congrArg Nat.succ hrevision
      · rw [hquiet rfl] at hnone
        cases hnone
  | false =>
    simp only [finish, Bool.false_eq_true, false_and, reduceIte]
    split_ifs with hcommit
    · exact lawful_rollback hsnapshot completed _
    · exact ⟨⟨rfl, rfl, rfl, rfl⟩, (by simp),
        fun _ htables => absurd (hbump rfl) htables, fun _ _ => hrevision⟩

theorem settle_idle (io : Io) (bump : Connection T S → Bool) (after : Result T S) :
    (settle io bump after).2.Idle := by
  obtain ⟨result, d⟩ := after
  cases result with
  | error error => exact ⟨rfl, rfl, rfl, rfl⟩
  | ok _ =>
    unfold settle finish
    dsimp only
    split_ifs <;> exact ⟨rfl, rfl, rfl, rfl⟩

/-- The next call of a client starts its own transaction. -/
theorem exec_idle (p : Program T S w) (c : Connection T S) (hc : c.Idle) : (p.exec c).2.Idle := by
  induction p generalizing c with
  | done | throw error => exact hc
  | read next ih => exact ih c.db c hc
  | write row | sequence number =>
    simp only [Program.exec]
    split_ifs
    · exact hc
    · exact ⟨hc.snapshot, hc.inTransaction, hc.writeTransaction, hc.dirty⟩
  | seq first second ihFirst ihSecond =>
    have hfirst := ihFirst c hc
    simp only [Program.exec]
    revert hfirst
    cases first.exec c with
    | mk result d =>
      intro hfirst
      cases result with
      | error error => exact hfirst
      | ok _ => exact ihSecond d hfirst
  | attempt body handler ihBody ihHandler =>
    have hbody := ihBody c hc
    simp only [Program.exec]
    revert hbody
    cases body.exec c with
    | mk result d =>
      intro hbody
      cases result with
      | error error => exact ihHandler error d hbody
      | ok _ => exact hbody
  | mutate io body ih =>
    simp only [Program.exec, mutate]
    rw [if_neg (by simp [hc.inTransaction])]
    split_ifs
    · exact hc
    · exact settle_idle io _ _
  | call kind io body ih =>
    simp only [Program.exec, transact]
    cases kind with
    | transaction | revisionCas expected =>
      dsimp only
      rw [if_neg (by simp [hc.inTransaction])]
      split_ifs
      · exact hc
      · exact settle_idle io _ _
    | readTransaction =>
      dsimp only
      rw [if_neg (by simp [hc.inTransaction])]
      split_ifs
      · exact ⟨hc.snapshot, hc.inTransaction, hc.writeTransaction, hc.dirty⟩
      · have hended := settle_idle io (fun _ => false) (prepared io body.exec (c.setQueryOnly true).beginRead)
        exact ⟨hended.snapshot, hended.inTransaction, hended.writeTransaction, hended.dirty⟩

/-- Whether the body of a call completes a store mutation. -/
def Program.completes (c : Connection T S) : {w : Bool} → Program T S w → Bool
  | _, .mutate _ _ => true
  | _, .call _ _ body => (body.run c.queryOnly c.db).completed
  | _, _ => false

/-- A call that returns after changing a row completes a store mutation. -/
def Program.marks (c : Connection T S) : {w : Bool} → Program T S w → Prop
  | _, .call .transaction io body =>
    io.begin_ = true → io.prepare = true → io.commit = true →
      (body.run c.queryOnly c.db).result = .ok () →
        (body.run c.queryOnly c.db).completed = true ∨
          (body.run c.queryOnly c.db).db.tables = c.db.tables
  | _, .call (.revisionCas expected) io body =>
    io.begin_ = true → c.db.revision = expected → io.commit = true →
      (body.run c.queryOnly c.db).result = .ok () →
        (body.run c.queryOnly c.db).completed = true ∨
          (body.run c.queryOnly c.db).db.tables = c.db.tables
  | _, _ => True

def Program.isCall : {w : Bool} → Program T S w → Bool
  | _, .mutate _ _ | _, .call _ _ _ => true
  | _, _ => false

theorem begin_joined (c : Connection T S) (p : Program T S w) :
    p.exec c.begin_ = ((p.run c.queryOnly c.db).result, c.begin_.after (p.run c.queryOnly c.db)) :=
  exec_joined p c.begin_ rfl

theorem lawful_failed (hc : c.Idle) (completed : Bool) (error : Error) : Lawful c completed (.error error, c) :=
  ⟨hc, fun _ _ => rfl, nofun, fun _ _ => rfl⟩

theorem mutate_lawful (hc : c.Idle) (io : Io) (body : Program T S true) : Lawful c true (mutate io body.exec c) := by
  unfold mutate
  rw [if_neg (by simp [hc.inTransaction])]
  split_ifs with hbegin
  · exact lawful_failed hc true _
  · unfold prepared
    split_ifs
    · exact lawful_rollback rfl true _
    · rw [begin_joined c]
      cases (body.run c.queryOnly c.db).result with
      | error error => exact lawful_rollback rfl true _
      | ok _ =>
        exact lawful_finish rfl true true (run_revision _ body c.db) (by simp) fun _ => rfl

theorem read_lawful (hc : c.Idle) (io : Io) (body : Program T S w) (completed : Bool) :
    Lawful c completed (transact .readTransaction io body.exec c) := by
  have hjoined : body.exec (c.setQueryOnly true).beginRead =
      ((body.run true c.db).result, (c.setQueryOnly true).beginRead.after (body.run true c.db)) :=
    exec_joined body (c.setQueryOnly true).beginRead rfl
  have hdb := run_queryOnly body c.db
  unfold transact
  dsimp only
  rw [if_neg (by simp [hc.inTransaction])]
  split_ifs with hbegin
  · exact ⟨⟨hc.snapshot, hc.inTransaction, hc.writeTransaction, hc.dirty⟩, fun _ _ => rfl,
      (by simp), fun _ _ => rfl⟩
  · have hend : ∀ after : Result T S, Lawful c completed after →
        Lawful c completed (after.1, after.2.setQueryOnly c.queryOnly) :=
      fun after h => ⟨⟨h.idle.snapshot, h.idle.inTransaction, h.idle.writeTransaction, h.idle.dirty⟩,
        h.restored, h.counted, h.quiet⟩
    apply hend
    unfold prepared
    split_ifs
    · exact lawful_rollback rfl completed _
    · rw [hjoined]
      cases (body.run true c.db).result with
      | error error => exact lawful_rollback rfl completed _
      | ok _ =>
        apply lawful_finish rfl false completed
        · exact congrArg Database.revision hdb
        · exact fun _ => congrArg Database.tables hdb
        · exact fun h => by cases h

theorem finish_lawful_iff (io : Io) (hsnapshot : d.snapshot = some c.db) (hrevision : d.db.revision = c.db.revision) :
    Lawful c d.dirty (finish io d.dirty d) ↔ (io.commit = true → d.dirty = true ∨ d.db.tables = c.db.tables) := by
  constructor
  · intro hlawful hcommit
    by_cases hdirty : d.dirty = true
    · exact .inl hdirty
    · have hclean : d.dirty = false := eq_false_of_ne_true hdirty
      rw [hclean] at hlawful
      simp only [finish, Bool.false_eq_true, false_and, reduceIte, hcommit, Bool.true_eq_false] at hlawful
      by_contra hneither
      have hcounted := hlawful.counted rfl fun hsame => hneither (.inr hsame)
      have hlaw : d.db.revision = c.db.revision + 1 := hcounted
      omega
  · intro hcondition
    by_cases hdirty : d.dirty = true
    · rw [hdirty]
      exact lawful_finish hsnapshot true true hrevision (by simp) fun _ => rfl
    · have hclean : d.dirty = false := eq_false_of_ne_true hdirty
      by_cases hcommit : io.commit = true
      · rw [hclean]
        apply lawful_finish hsnapshot false false hrevision _ fun h => by cases h
        exact fun _ => (hcondition hcommit).resolve_left hdirty
      · rw [hclean]
        simp only [finish, Bool.false_eq_true, false_and, reduceIte, hcommit]
        exact lawful_rollback hsnapshot false _

theorem begin_after (c : Connection T S) (outcome : Outcome T S) :
    (c.begin_.after outcome).dirty = outcome.completed := by
  simp [Connection.begin_, Connection.after]

theorem transaction_lawful_iff (hc : c.Idle) (io : Io) (body : Program T S w) :
    Lawful c (body.run c.queryOnly c.db).completed (transact .transaction io body.exec c) ↔
      (Program.call .transaction io body).marks c := by
  unfold transact Program.marks
  dsimp only
  rw [if_neg (by simp [hc.inTransaction])]
  by_cases hbegin : io.begin_ = true
  · rw [if_neg (by simp [hbegin])]
    unfold prepared
    by_cases hprepare : io.prepare = true
    · rw [if_neg (by simp [hprepare]), begin_joined c]
      cases hresult : (body.run c.queryOnly c.db).result with
      | error error =>
        exact iff_of_true (lawful_rollback rfl _ _) fun _ _ _ hok => by cases hok
      | ok _ =>
        have hiff := finish_lawful_iff (c := c) (d := c.begin_.after (body.run c.queryOnly c.db)) io rfl
          (run_revision _ body c.db)
        rw [begin_after] at hiff
        unfold settle
        dsimp only
        rw [begin_after, hiff]
        exact ⟨fun h _ _ hcommit _ => h hcommit, fun h hcommit => h hbegin hprepare hcommit rfl⟩
    · rw [if_pos (eq_false_of_ne_true hprepare)]
      exact iff_of_true (lawful_rollback rfl _ _) fun _ h => absurd h hprepare
  · rw [if_pos (eq_false_of_ne_true hbegin)]
    exact iff_of_true (lawful_failed hc _ _) fun h => absurd h hbegin

theorem cas_lawful_iff (hc : c.Idle) (expected : ℕ) (io : Io) (body : Program T S w) :
    Lawful c (body.run c.queryOnly c.db).completed (transact (.revisionCas expected) io body.exec c) ↔
      (Program.call (.revisionCas expected) io body).marks c := by
  unfold transact Program.marks
  dsimp only
  rw [if_neg (by simp [hc.inTransaction])]
  by_cases hbegin : io.begin_ = true
  · rw [if_neg (by simp [hbegin])]
    unfold checked
    by_cases hrevision : c.db.revision = expected
    · rw [if_neg (by simp [Connection.begin_, hrevision]), begin_joined c]
      cases hresult : (body.run c.queryOnly c.db).result with
      | error error =>
        exact iff_of_true (lawful_rollback rfl _ _) fun _ _ _ hok => by cases hok
      | ok _ =>
        have hiff := finish_lawful_iff (c := c) (d := c.begin_.after (body.run c.queryOnly c.db)) io rfl
          (run_revision _ body c.db)
        rw [begin_after] at hiff
        unfold preparedAfter
        dsimp only
        rw [begin_after]
        by_cases hfails : (body.run c.queryOnly c.db).completed = true ∧ io.prepare = false
        · rw [if_pos hfails]
          exact iff_of_true (lawful_rollback rfl _ _) fun _ _ _ _ => .inl hfails.1
        · rw [if_neg hfails]
          unfold settle
          dsimp only
          rw [begin_after, hiff]
          exact ⟨fun h _ _ hcommit _ => h hcommit, fun h hcommit => h hbegin hrevision hcommit rfl⟩
    · rw [if_pos (by simpa [Connection.begin_] using hrevision)]
      exact iff_of_true (lawful_rollback rfl _ _) fun _ h => absurd h hrevision
  · rw [if_pos (eq_false_of_ne_true hbegin)]
    exact iff_of_true (lawful_failed hc _ _) fun h => absurd h hbegin

/-- An outermost call keeps the revision law exactly when, returning after a change of rows, it has
completed a store mutation. -/
theorem call_lawful_iff (p : Program T S w) (hp : p.isCall = true) (c : Connection T S) (hc : c.Idle) :
    Lawful c (p.completes c) (p.exec c) ↔ p.marks c := by
  cases p with
  | mutate io body => exact iff_of_true (mutate_lawful hc io body) trivial
  | call kind io body =>
    cases kind with
    | transaction => exact transaction_lawful_iff hc io body
    | readTransaction => exact iff_of_true (read_lawful hc io body _) trivial
    | revisionCas expected => exact cas_lawful_iff hc expected io body
  | done | throw error | read next | write row | sequence number | seq first second
  | attempt body handler => cases hp

/-- `saveGateArtifact` with the log of a step that the artifact does not have: the artifact is written and
then the log is refused. -/
def saveUnmatchedLog : Program ℕ Unit false :=
  .mutate .works (.seq (.write fun rows => rows + 1) (.throw (.thrown "Gate artifact log has no matching step")))

def newDatabase : Connection ℕ Unit := ⟨⟨0, (), 0⟩, none, false, false, false, false⟩

theorem newDatabase_idle : newDatabase.Idle := ⟨rfl, rfl, rfl, rfl⟩

/-- A caught error of a store operation leaves its rows and not its revision. -/
theorem caught_error_uncounted : ¬ ∀ (p : Program ℕ Unit false) (c : Connection ℕ Unit), p.isCall = true → c.Idle →
      Lawful c (p.completes c) (p.exec c) := by
  intro hall
  have hlawful := hall (.call .transaction .works (.attempt saveUnmatchedLog fun _ => .done)) newDatabase
    rfl newDatabase_idle
  exact absurd (hlawful.counted rfl (by decide)) (by decide)

def countedWrite : Program ℕ Unit false := .mutate .works (.write fun rows => rows + 1)

/-- A transaction around a mutation and a transaction of its own. -/
def nestedWrite : Program ℕ Unit false :=
  .call .transaction .works (.seq countedWrite (.call .transaction .works countedWrite))

theorem call_lawful_nested : Lawful newDatabase (nestedWrite.completes newDatabase) (nestedWrite.exec newDatabase) :=
  (call_lawful_iff nestedWrite rfl newDatabase newDatabase_idle).2 fun _ _ _ _ => .inl rfl

end Law

end StoreTransaction
