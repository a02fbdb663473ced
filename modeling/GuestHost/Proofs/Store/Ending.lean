import GuestHost.Proofs.Store.Transaction
/-!
How the transaction around a request begins and ends. Giving up always works. Keeping what has been done may
fail, and then the transaction is still open, or the store has given it up by itself.
-/
namespace GuestHost.Store

namespace Connection

variable {c : Connection} {ts : Tables}

/-- Giving up an open transaction works whatever becomes of storage. -/
theorem attempt_rollback (hsaved : c.saved = some ts) (mishap : Option Failure) :
    c.attempt mishap [] .rollback = (.ok [], { c with tables := ts, saved := none }) := by
  have hrun : c.run [] .rollback = (.ok [], { c with tables := ts, saved := none }) := by
    simp only [run, settle, rollback, hsaved]
  rw [← hrun]
  cases mishap <;> rfl

theorem attempt_commit (hsaved : c.saved = some ts) :
    c.attempt none [] .commit = (.ok [], { c with saved := none }) := by
  simp only [attempt, run, settle, commit, hsaved]

/-- Keeping what has been done needs storage. -/
theorem attempt_commit_of_mishap (hsaved : c.saved = some ts) (f : Failure) :
    c.attempt (some f) [] .commit = (.error f, c.fail f) := by
  have hneeds : c.needsStorage .commit = true := by
    rw [needsStorage, inTransaction, hsaved]
    rfl
  simp only [attempt, if_pos hneeds, letDown]

theorem fail_of_lost {f : Failure} (hlost : f.lost = true) (hsaved : c.saved = some ts) :
    c.fail f = { c with tables := ts, saved := none } := by
  rw [fail, if_pos hlost, committed, hsaved, Option.getD_some]

end Connection

namespace Database

variable {db db' : Database} {c : Connection}

theorem begin_of_idle {db : Database} (h : db.saved? = none) :
    ∃ db', db.begin = (.ok (), db') ∧ db'.tables? = db.tables? ∧ db'.saved? = db.tables? := by
  unfold begin
  cases hc : db.conn with
  | none => exact ⟨db, rfl, rfl, by simp only [saved?, tables?, hc]; rfl⟩
  | some c =>
    have hsaved : c.saved = none := by simpa only [saved?, hc, Option.bind_some] using h
    simp only [Connection.begin, hsaved]
    exact ⟨_, rfl, by simp only [tables?, hc, Option.map_some], by simp only [tables?, hc]; rfl⟩

theorem saved?_begin {db : Database} (h : db.saved? = none) : db.begin.2.saved? = db.tables? := by
  obtain ⟨db', hbegin, -, hsaved⟩ := begin_of_idle h
  rw [hbegin]
  exact hsaved

theorem begin_of_open {db : Database} (h : db.saved?.isSome) :
    db.begin = (.error .nestedTransaction, db) := by
  unfold begin
  cases hc : db.conn with
  | none =>
    simp only [saved?, hc] at h
    cases h
  | some c =>
    simp only [saved?, hc, Option.bind_some] at h
    obtain ⟨ts, hts⟩ := Option.isSome_iff_exists.mp h
    simp only [Connection.begin, hts]

/-- The open transaction has been given up: the tables that it saved are back. -/
structure GivenUp (db db' : Database) : Prop where
  tables : db'.tables? = db.saved?.or db.tables?
  saved : db'.saved? = none
  declared : db'.declared = db.declared

theorem finish_of_idle (h : db.saved? = none) (step : Plan) : db.finish step = (.ok (), db) := by
  unfold finish
  cases hc : db.conn with
  | none => rfl
  | some c =>
    rw [saved?_of_conn hc] at h
    have hidle : c.inTransaction = false := by rw [Connection.inTransaction, h]; rfl
    simp only [hidle, Bool.false_eq_true, if_false]

theorem finish_of_open {ts : Tables} (hc : db.conn = some c) (hsaved : c.saved = some ts)
    (step : Plan) : db.finish step = ((db.run c [] step).1.map fun _ => (), (db.run c [] step).2) := by
  have hopen : c.inTransaction = true := by rw [Connection.inTransaction, hsaved]; rfl
  unfold finish
  simp only [hc, hopen, if_true]

/-- Without a transaction there is nothing to give up. -/
theorem givenUp_of_idle (h : db.saved? = none) : GivenUp db db where
  tables := by rw [h, Option.none_or]
  saved := h
  declared := rfl

theorem givenUp_of_open {ts : Tables} (hc : db.conn = some c) (hsaved : c.saved = some ts)
    {mishaps : List (Option Failure)} :
    GivenUp db { db with conn := some { c with tables := ts, saved := none }, mishaps } where
  tables := by
    rw [saved?_of_conn hc, hsaved]
    rfl
  saved := rfl
  declared := rfl

/-- Giving up brings back what an open transaction has saved, and otherwise does nothing. -/
theorem rollback_eq (db : Database) : ∃ db', db.rollback = (.ok (), db') ∧ GivenUp db db' := by
  unfold rollback
  cases hsaved : db.saved? with
  | none => exact ⟨db, finish_of_idle hsaved _, givenUp_of_idle hsaved⟩
  | some ts =>
    obtain ⟨c, hc, hts⟩ := Option.bind_eq_some_iff.mp hsaved
    rw [finish_of_open hc hts, run, Connection.attempt_rollback hts]
    exact ⟨_, rfl, givenUp_of_open hc hts⟩

/-- Keeping what has been done ends the transaction and changes no table. If it fails, the transaction is
as it was, or it has been given up. -/
theorem commit_cases (db : Database) :
    (∃ db', db.commit = (.ok (), db') ∧ db'.tables? = db.tables? ∧ db'.saved? = none) ∨
      ∃ e db', db.commit = (.error e, db') ∧
        (e.lost = true ∧ GivenUp db db' ∨
          e.lost = false ∧ db'.tables? = db.tables? ∧ db'.saved? = db.saved?) := by
  unfold commit
  cases hsaved : db.saved? with
  | none => exact .inl ⟨db, finish_of_idle hsaved _, rfl, hsaved⟩
  | some ts =>
    obtain ⟨c, hc, hts⟩ := Option.bind_eq_some_iff.mp hsaved
    rw [finish_of_open hc hts, run]
    cases db.mishaps.head?.join with
    | none =>
      rw [Connection.attempt_commit hts]
      exact .inl ⟨_, rfl, (tables?_of_conn hc).symm, rfl⟩
    | some f =>
      rw [Connection.attempt_commit_of_mishap hts]
      refine .inr ⟨_, _, rfl, ?_⟩
      cases hlost : f.lost with
      | true =>
        rw [Connection.fail_of_lost hlost hts]
        exact .inl ⟨hlost, givenUp_of_open hc hts⟩
      | false =>
        have hfail : c.fail f = c := by rw [Connection.fail, hlost, if_neg Bool.false_ne_true]
        rw [hfail]
        exact .inr ⟨hlost, (tables?_of_conn hc).symm, hts⟩

/-- Giving up after it was not possible to keep what has been done. -/
theorem givenUp_of_failedCommit {e : StoreError} (h : db.commit = (.error e, db')) :
    GivenUp db db'.rollback.2 := by
  obtain ⟨db₁, hrollback, htables, hsaved, hdeclared⟩ := db'.rollback_eq
  have hcommit := db.declared_commit
  rw [h] at hcommit
  rw [hrollback]
  refine ⟨?_, hsaved, hdeclared.trans hcommit⟩
  obtain ⟨db₂, hok, -⟩ | ⟨e', db₂, hfail, hleft⟩ := db.commit_cases
  · rw [h] at hok
    cases hok
  · rw [h] at hfail
    cases hfail
    obtain ⟨-, hgone⟩ | ⟨-, hsame, hstill⟩ := hleft
    · rw [htables, hgone.saved, Option.none_or, hgone.tables]
    · rw [htables, hsame, hstill]

end Database

end GuestHost.Store
