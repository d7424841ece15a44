import Yui.PersistenceWorker

/-!
# Writes of the persistence worker happen once

A delivery leaves the tables and the revision, or commits the rows of its body together with its request
id and one revision. The outbox keeps its ids, so that a request is committed at most once in a run and
each later delivery of it is answered from the outbox.
-/

open StoreTransaction

namespace PersistenceWorker

variable {R S : Type}

theorem run_keeps (queryOnly : Bool) {w : Bool} (p : Program (Tables R) S w) (hp : IsMethod p)
    (db : Store R S) : db.tables.outbox ⊆ (p.run queryOnly db).db.tables.outbox := by
  induction p generalizing db with
  | done | throw error => exact fun _ h => h
  | read next ih => exact ih db (hp db) db
  | write row =>
    simp only [StoreTransaction.Program.run]
    split_ifs
    · exact fun _ h => h
    · exact hp db.tables
  | sequence number =>
    simp only [StoreTransaction.Program.run]
    split_ifs <;> exact fun _ h => h
  | seq first second ihFirst ihSecond =>
    simp only [StoreTransaction.Program.run]
    cases (first.run queryOnly db).result with
    | error error => exact ihFirst hp.1 db
    | ok _ => exact fun id h => ihSecond hp.2 _ (ihFirst hp.1 db h)
  | attempt body handler ihBody ihHandler => exact hp.elim
  | mutate io body ih =>
    simp only [StoreTransaction.Program.run]
    cases (body.run queryOnly db).result with
    | error error => exact ih hp db
    | ok _ => exact ih hp db
  | call kind io body ih =>
    cases kind with
    | transaction | readTransaction => exact ih hp db
    | revisionCas expected =>
      simp only [StoreTransaction.Program.run]
      split_ifs
      · exact fun _ h => h
      · exact ih hp db

theorem run_completed (queryOnly : Bool) {w : Bool} (p : Program (Tables R) S w) (hp : IsMethod p)
    (hw : w = false) (db : Store R S) (hok : (p.run queryOnly db).result = .ok ()) :
    (p.run queryOnly db).completed = true ∨ (p.run queryOnly db).db.tables = db.tables := by
  induction p generalizing db with
  | done | throw error => exact .inr rfl
  | read next ih => exact ih db (hp db) hw db hok
  | write row => cases hw
  | sequence number => cases hw
  | seq first second ihFirst ihSecond =>
    simp only [StoreTransaction.Program.run] at hok ⊢
    cases hfirst : (first.run queryOnly db).result with
    | error error =>
      rw [hfirst] at hok
      cases hok
    | ok _ =>
      rw [hfirst] at hok
      have hleft := ihFirst hp.1 hw db hfirst
      have hright := ihSecond hp.2 hw (first.run queryOnly db).db hok
      dsimp only
      rw [Bool.or_eq_true]
      obtain hdone | hsame := hleft
      · exact .inl (.inl hdone)
      · exact hright.imp .inr fun h => h.trans hsame
  | attempt body handler ihBody ihHandler => exact hp.elim
  | mutate io body ih =>
    simp only [StoreTransaction.Program.run] at hok ⊢
    cases hbody : (body.run queryOnly db).result with
    | error error =>
      rw [hbody] at hok
      exact absurd (hbody.symm.trans hok) (by simp)
    | ok _ => exact .inl rfl
  | call kind io body ih =>
    cases kind with
    | transaction | readTransaction => exact ih hp hw db hok
    | revisionCas expected =>
      simp only [StoreTransaction.Program.run] at hok ⊢
      split_ifs at hok ⊢
      exact ih hp hw db hok

theorem commandBatch_isMethod (cancelled : ℕ → Bool) (methods : List (Method R S)) (poll : ℕ) :
    IsMethod (commandBatch cancelled poll methods) := by
  induction methods generalizing poll with
  | nil =>
    unfold commandBatch
    split_ifs <;> trivial
  | cons method methods ih =>
    unfold commandBatch
    split_ifs
    · trivial
    · exact ⟨method.isMethod, ih (poll + 1)⟩

theorem body_isMethod (d : Delivery R S) : IsMethod d.body := by
  unfold Delivery.body
  cases d.request with
  | call method => exact method.isMethod
  | transaction commands expectedRevision => exact commandBatch_isMethod _ commands 0

theorem commandBatch_cancelled {cancelled : ℕ → Bool} (queryOnly : Bool) (methods : List (Method R S))
    {poll at_ : ℕ} (hfrom : poll ≤ at_) (hto : at_ ≤ poll + methods.length) (hat : cancelled at_ = true)
    (db : Store R S) : ((commandBatch cancelled poll methods).run queryOnly db).result ≠ .ok () := by
  induction methods generalizing poll db with
  | nil =>
    have hsame : poll = at_ := by
      simp only [List.length_nil, Nat.add_zero] at hto
      omega
    unfold commandBatch
    rw [if_pos (hsame ▸ hat)]
    simp [StoreTransaction.Program.run]
  | cons method methods ih =>
    unfold commandBatch
    split_ifs with hpoll
    · simp [StoreTransaction.Program.run]
    · have hnext : poll + 1 ≤ at_ := by
        by_contra hlate
        have hsame : poll = at_ := by omega
        rw [hsame] at hpoll
        exact hpoll hat
      simp only [StoreTransaction.Program.run]
      cases (method.program.run queryOnly db).result with
      | error error => simp
      | ok _ =>
        apply ih hnext
        rw [List.length_cons] at hto
        omega

section Settle

variable {db : Store R S} {requestId : String} {io : Io}

/-- What a transaction that carries a request id leaves. -/
inductive Settled (db : Store R S) (requestId : String) (outcome : Outcome (Tables R) S) :
    Result (Tables R) S → Prop
  | restored (error : Error) (c : Connection (Tables R) S) (hdb : c.db = db) :
      Settled db requestId outcome (.error error, c)
  | quiet (c : Connection (Tables R) S) (hok : outcome.result = .ok ())
      (hcompleted : outcome.completed = false) (hdb : c.db = outcome.db) :
      Settled db requestId outcome (.ok (), c)
  | committed (c : Connection (Tables R) S) (hok : outcome.result = .ok ())
      (hcompleted : outcome.completed = true) (hnew : requestId ∉ outcome.db.tables.outbox)
      (htables : c.db.tables = ⟨outcome.db.tables.rows, outcome.db.tables.outbox ++ [requestId]⟩)
      (hrevision : c.db.revision = outcome.db.revision + 1) :
      Settled db requestId outcome (.ok (), c)

theorem settled_error {outcome : Outcome (Tables R) S} {d : Connection (Tables R) S}
    (hsnapshot : d.snapshot = some db) (error : Error) : Settled db requestId outcome (.error error, d.rollback) := by
  apply Settled.restored
  simp [Connection.rollback, Connection.reset, hsnapshot]

variable (db requestId io) in
/-- The body of the transaction, followed by its end. -/
theorem settleRequest_settled (outcome : Outcome (Tables R) S) :
    Settled db requestId outcome (settleRequest requestId io (outcome.result, (writer db).begin_.after outcome)) := by
  have hsnapshot : ((writer db).begin_.after outcome).snapshot = some db := rfl
  cases hresult : outcome.result with
  | error error => exact settled_error hsnapshot error
  | ok _ =>
    unfold settleRequest
    dsimp only
    rw [begin_after]
    by_cases hcompleted : outcome.completed = true
    · rw [if_neg (by simp [hcompleted])]
      by_cases hknown : requestId ∈ outcome.db.tables.outbox
      · rw [if_pos (show requestId ∈ ((writer db).begin_.after outcome).db.tables.outbox from hknown)]
        exact settled_error hsnapshot _
      · rw [if_neg (show requestId ∉ ((writer db).begin_.after outcome).db.tables.outbox from hknown)]
        simp only [finish, true_and, reduceIte]
        split_ifs
        · exact settled_error (d := insertOutbox requestId ((writer db).begin_.after outcome)) hsnapshot _
        · exact settled_error
            (d := (insertOutbox requestId ((writer db).begin_.after outcome)).bumpRevision) hsnapshot _
        · exact Settled.committed
            (insertOutbox requestId ((writer db).begin_.after outcome)).bumpRevision.reset hresult hcompleted
            hknown rfl rfl
    · have hclean : outcome.completed = false := eq_false_of_ne_true hcompleted
      rw [if_pos hclean]
      simp only [finish, Bool.false_eq_true, false_and, reduceIte]
      split_ifs
      · exact settled_error hsnapshot _
      · exact Settled.quiet ((writer db).begin_.after outcome).reset hresult hclean rfl

theorem settleRequest_failed (outcome : Outcome (Tables R) S) {d : Connection (Tables R) S}
    (hsnapshot : d.snapshot = some db) (error : Error) :
    Settled db requestId outcome (settleRequest requestId io (.error error, d)) :=
  settled_error hsnapshot error

end Settle

theorem execute_settled (d : Delivery R S) (db : Store R S) :
    Settled db d.requestId (d.body.run false db) (d.execute db) := by
  have hjoined : d.body.exec (writer db).begin_ =
      ((d.body.run false db).result, (writer db).begin_.after (d.body.run false db)) :=
    begin_joined (writer db) d.body
  unfold Delivery.execute
  cases d.request with
  | call method =>
    dsimp only [transaction]
    split_ifs
    · exact Settled.restored _ _ rfl
    · unfold prepared
      split_ifs
      · exact settleRequest_failed _ rfl _
      · rw [hjoined]
        exact settleRequest_settled _ _ _ _
  | transaction commands expectedRevision =>
    have hafter : Settled db d.requestId (d.body.run false db)
        (settleRequest d.requestId d.io (preparedAfter d.io (d.body.exec (writer db).begin_))) := by
      rw [hjoined]
      cases hresult : (d.body.run false db).result with
      | error error => exact settleRequest_failed _ rfl _
      | ok _ =>
        unfold preparedAfter
        dsimp only
        split_ifs
        · exact settleRequest_failed _ rfl _
        · have hsettled := settleRequest_settled db d.requestId d.io (d.body.run false db)
          rw [hresult] at hsettled
          exact hsettled
    dsimp only [transactionAsyncBatch]
    split_ifs
    · exact Settled.restored _ _ rfl
    · cases expectedRevision with
      | none => exact hafter
      | some expected =>
        dsimp only [checked]
        split_ifs
        · exact settleRequest_failed _ rfl _
        · exact hafter

theorem deliver_step (d : Delivery R S) (db : Store R S) : (d.commits db = true ∧ d.requestId ∉ db.tables.outbox ∧
        (d.deliver db).2.tables = ⟨(d.body.run false db).db.tables.rows,
          (d.body.run false db).db.tables.outbox ++ [d.requestId]⟩ ∧ (d.deliver db).2.revision = db.revision + 1) ∨
      d.commits db = false ∧ (d.deliver db).2.tables = db.tables ∧ (d.deliver db).2.revision = db.revision := by
  by_cases hlives : d.fate = .answered ∨ d.fate = .beforeResponse
  · have hdeliver : (d.deliver db).2 = (d.handle db).2 := by
      obtain h | h := hlives <;> simp only [Delivery.deliver, h]
    have hcommits : d.commits db =
        (decide ((d.handle db).1 = .result) && (d.body.run false db).completed) := by
      obtain h | h := hlives <;> simp [Delivery.commits, h]
    rw [hdeliver, hcommits]
    unfold Delivery.handle
    by_cases hknown : d.requestId ∈ db.tables.outbox
    · rw [if_pos hknown]
      exact .inr ⟨rfl, rfl, rfl⟩
    · rw [if_neg hknown]
      have hsettled := execute_settled d db
      revert hsettled
      cases d.execute db with
      | mk result c =>
        intro hsettled
        cases hsettled with
        | restored error _ hdb =>
          dsimp only
          rw [hdb]
          exact .inr ⟨by simp, rfl, rfl⟩
        | quiet _ hok hcompleted hdb =>
          dsimp only
          rw [hdb, hcompleted]
          have hsame := (run_completed false d.body (body_isMethod d) rfl db hok).resolve_left (by simp [hcompleted])
          exact .inr ⟨by simp, hsame, run_revision false d.body db⟩
        | committed _ hok hcompleted hnew htables hrevision =>
          dsimp only
          rw [hcompleted, htables, hrevision, run_revision false d.body db]
          exact .inl ⟨by simp, hknown, rfl, rfl⟩
  · have hnone : d.deliver db = (none, db) := by
      unfold Delivery.deliver
      cases hfate : d.fate with
      | answered => exact absurd (.inl hfate) hlives
      | beforeResponse => exact absurd (.inr hfate) hlives
      | beforeTransaction | insideTransaction => rfl
    rw [hnone]
    rw [not_or] at hlives
    exact .inr ⟨by simp [Delivery.commits, hlives.1, hlives.2], rfl, rfl⟩

theorem deliver_known (d : Delivery R S) {db : Store R S} (h : d.requestId ∈ db.tables.outbox) :
    d.deliver db = (if d.fate = .answered then some .alreadyApplied else none, db) := by
  have hhandle : d.handle db = (.alreadyApplied, db) := if_pos h
  unfold Delivery.deliver
  rw [hhandle]
  cases d.fate <;> rfl

theorem deliver_keeps (d : Delivery R S) (db : Store R S) : db.tables.outbox ⊆ (d.deliver db).2.tables.outbox := by
  obtain ⟨-, -, htables, -⟩ | ⟨-, htables, -⟩ := deliver_step d db
  · rw [htables]
    exact fun id h => List.mem_append_left _ (run_keeps false d.body (body_isMethod d) db h)
  · rw [htables]
    exact fun _ h => h

theorem deliver_refused (d : Delivery R S) {db : Store R S} (h : d.Refused db) : (d.deliver db).2 = db := by
  have hhandle : (d.handle db).2 = db := by
    unfold Delivery.handle
    split_ifs with hknown
    · rfl
    · have hsettled := execute_settled d db
      have herror : (d.execute db).1 ≠ .ok () := by
        intro hok
        unfold Delivery.Refused at h
        cases hrequest : d.request with
        | call method =>
          rw [hrequest] at h
          exact h
        | transaction commands expectedRevision =>
          rw [hrequest] at h
          obtain ⟨poll, hpoll, hcancelled⟩ | ⟨expected, rfl, hrevision⟩ := h
          · have hbody : d.body = commandBatch d.cancelled 0 commands := by simp only [Delivery.body, hrequest]
            have hresult := commandBatch_cancelled false commands (Nat.zero_le poll)
              (by rw [Nat.zero_add]; exact hpoll) hcancelled db
            rw [← hbody] at hresult
            revert hsettled hok
            cases d.execute db with
            | mk result c =>
              intro hsettled hok
              cases hsettled with
              | restored error _ hdb => cases hok
              | quiet _ hdone | committed _ hdone => exact hresult hdone
          · have hchecked : d.execute db = transactionAsyncBatch d.requestId d.io (some expected)
                d.body.exec (writer db) := by
              simp only [Delivery.execute, hrequest]
            have hother : ((writer db).begin_).db.revision ≠ expected := hrevision
            rw [hchecked] at hok
            simp only [transactionAsyncBatch, checked, if_pos hother, preparedAfter, settleRequest] at hok
            split_ifs at hok
      revert hsettled herror
      cases d.execute db with
      | mk result c =>
        intro hsettled herror
        cases hsettled with
        | restored error _ hdb => exact hdb
        | quiet | committed => exact absurd rfl herror
  unfold Delivery.deliver
  cases d.fate <;> first | rfl | exact hhandle

theorem run_keeps_outbox (db : Store R S) (ds : List (Delivery R S)) :
    db.tables.outbox ⊆ (run db ds).tables.outbox := by
  induction ds generalizing db with
  | nil => exact fun _ h => h
  | cons d ds ih => exact fun id h => ih _ (deliver_keeps d db h)

theorem committed_outbox (db : Store R S) (ds : List (Delivery R S)) :
    ∀ id ∈ committed db ds, id ∉ db.tables.outbox ∧ id ∈ (run db ds).tables.outbox := by
  induction ds generalizing db with
  | nil =>
    intro id h
    cases h
  | cons d ds ih =>
    intro id h
    unfold committed at h
    obtain ⟨hcommits, hnew, htables, -⟩ | ⟨hcommits, htables, -⟩ := deliver_step d db
    · rw [if_pos hcommits] at h
      obtain rfl | hlater := List.mem_cons.1 h
      · refine ⟨hnew, run_keeps_outbox _ ds ?_⟩
        rw [htables]
        exact List.mem_append_right _ (List.mem_singleton_self _)
      · obtain ⟨hfresh, hkept⟩ := ih _ id hlater
        exact ⟨fun hold => hfresh (deliver_keeps d db hold), hkept⟩
    · rw [if_neg (by simp [hcommits])] at h
      obtain ⟨hfresh, hkept⟩ := ih _ id h
      exact ⟨fun hold => hfresh (deliver_keeps d db hold), hkept⟩

/-- What a run of deliveries does with its requests. -/
structure ExactlyOnce (db : Store R S) (ds : List (Delivery R S)) : Prop where
  once : (committed db ds).Nodup
  revision : (run db ds).revision = db.revision + (committed db ds).length
  effect : ∀ (before : List (Delivery R S)) (d : Delivery R S) after, ds = before ++ d :: after →
    d.commits (run db before) = true →
    (d.deliver (run db before)).2.tables =
        ⟨(d.body.run false (run db before)).db.tables.rows,
          (d.body.run false (run db before)).db.tables.outbox ++ [d.requestId]⟩ ∧
      (d.deliver (run db before)).2.revision = (run db before).revision + 1
  quiet : ∀ (before : List (Delivery R S)) (d : Delivery R S) after, ds = before ++ d :: after →
    d.commits (run db before) = false →
    (d.deliver (run db before)).2.tables = (run db before).tables ∧
      (d.deliver (run db before)).2.revision = (run db before).revision
  replay : ∀ (before : List (Delivery R S)) (d : Delivery R S) after, ds = before ++ d :: after →
    d.requestId ∈ committed db before →
    d.deliver (run db before) =
      (if d.fate = .answered then some .alreadyApplied else none, run db before)
  refused : ∀ (before : List (Delivery R S)) (d : Delivery R S) after, ds = before ++ d :: after →
    d.Refused (run db before) →
    (d.deliver (run db before)).2 = run db before

theorem committed_nodup (db : Store R S) (ds : List (Delivery R S)) : (committed db ds).Nodup := by
  induction ds generalizing db with
  | nil => exact List.nodup_nil
  | cons d ds ih =>
    unfold committed
    obtain ⟨hcommits, hnew, htables, -⟩ | ⟨hcommits, -⟩ := deliver_step d db
    · rw [if_pos hcommits]
      refine List.nodup_cons.2 ⟨fun hagain => ?_, ih _⟩
      apply (committed_outbox _ ds _ hagain).1
      rw [htables]
      exact List.mem_append_right _ (List.mem_singleton_self _)
    · rw [if_neg (by simp [hcommits])]
      exact ih _

theorem run_counts (db : Store R S) (ds : List (Delivery R S)) :
    (run db ds).revision = db.revision + (committed db ds).length := by
  induction ds generalizing db with
  | nil => rfl
  | cons d ds ih =>
    unfold run committed
    rw [ih]
    obtain ⟨hcommits, -, -, hrevision⟩ | ⟨hcommits, -, hrevision⟩ := deliver_step d db
    · rw [if_pos hcommits, hrevision, List.length_cons]
      omega
    · rw [if_neg (by simp [hcommits]), hrevision]

/-- In every run of deliveries, with deaths and replays anywhere, each request is applied at most once, its
replays are answered from the outbox, and a refused batch leaves everything as it was. -/
theorem writes_exactly_once (db : Store R S) (ds : List (Delivery R S)) : ExactlyOnce db ds := by
  refine ⟨committed_nodup db ds, run_counts db ds, ?_, ?_, ?_, ?_⟩
  · intro before d after _ hcommits
    obtain ⟨-, -, htables, hrevision⟩ | ⟨hquiet, -⟩ := deliver_step d (run db before)
    · exact ⟨htables, hrevision⟩
    · rw [hcommits] at hquiet
      cases hquiet
  · intro before d after _ hquiet
    obtain ⟨hcommits, -⟩ | ⟨-, hsame⟩ := deliver_step d (run db before)
    · rw [hcommits] at hquiet
      cases hquiet
    · exact hsame
  · intro before d after _ hcommitted
    exact deliver_known d (committed_outbox db before d.requestId hcommitted).2
  · exact fun before d after _ hrefused => deliver_refused d hrefused

def sampleMethod : Method ℕ Unit where
  program := .mutate .works (.write fun tables => { tables with rows := tables.rows + 1 })
  isMethod := fun _ => List.Subset.refl _

def sampleDelivery (fate : Fate) : Delivery ℕ Unit :=
  ⟨"request-1", .call sampleMethod, .works, fun _ => false, fate⟩

/-- The answer is lost, and the replay does not write again. -/
example : let db := run ⟨⟨0, []⟩, (), 0⟩ [sampleDelivery .beforeResponse]
    db.tables = ⟨1, ["request-1"]⟩ ∧ (sampleDelivery .answered).deliver db = (some .alreadyApplied, db) := ⟨rfl, rfl⟩

end PersistenceWorker
