import GuestHost.Proofs.Outcome
import GuestHost.Store.Database
/-!
Running a text for the program. Either it is refused and nothing has happened, or the plan of its first
statement is run on the open connection. Only a plan that is run can lose the open transaction.
-/
namespace GuestHost.Store

def StoreError.lost : StoreError → Bool
  | .sql f => f.lost
  | _ => false

/-- Whether something has failed and the open transaction is lost with it. -/
def loses {α : Type} (r : Except StoreError α) : Bool :=
  match r with
  | .ok _ => false
  | .error e => e.lost

theorem loses_map {α δ : Type} (f : α → δ) (r : Except StoreError α) : loses (r.map f) = loses r := by
  cases r <;> rfl

namespace Database

/-- A plan that is about to be run, with the data for it. -/
structure Launch where
  conn : Connection
  data : List Datum
  plan : Plan

variable {db : Database} {sql : String} {params : Value}

/-- What a text is run as, unless it is refused before. -/
def launch? (db : Database) (sql : String) (params : Value) : Option Launch :=
  match db.conn with
  | none => none
  | some c =>
    match prepare c.tables sql, bindParams params with
    | .ok p, .ok data => if data.length = p.params then some ⟨c, data, p.plan⟩ else none
    | _, _ => none

/-- A plan is run on the open connection, and it is that of the first statement. -/
theorem launch?_eq_some {l : Launch} (h : db.launch? sql params = some l) :
    db.conn = some l.conn ∧ ∃ p, prepare l.conn.tables sql = .ok p ∧ p.plan = l.plan := by
  unfold launch? at h
  cases hc : db.conn with
  | none =>
    rw [hc] at h
    cases h
  | some c =>
    simp only [hc] at h
    split at h
    · next p data hp _ =>
      split at h
      · cases h
        exact ⟨rfl, p, hp, rfl⟩
      · cases h
    · cases h

/-- What comes of a launch. -/
def after (db : Database) (l : Launch) : Except StoreError (List Row) × Database :=
  db.run l.conn l.data l.plan

/-- Whether running a text loses the open transaction, and the database that it leaves. -/
def launched (db : Database) (sql : String) (params : Value) : Bool × Database :=
  match db.launch? sql params with
  | none => (false, db)
  | some l => (loses (db.after l).1, (db.after l).2)

theorem lost_bindParams {e : StoreError} (h : bindParams params = .error e) : e.lost = false := by
  cases params <;> cases h
  all_goals rfl

theorem launched_rows (db : Database) (sql : String) (params : Value) :
    (loses (db.rows sql params).1, (db.rows sql params).2) = db.launched sql params := by
  unfold rows launched launch?
  cases db.conn with
  | none => rfl
  | some c =>
    simp only
    cases prepare c.tables sql with
    | error e => rfl
    | ok p =>
      cases hd : bindParams params with
      | error e =>
        simp only [Except.mapError, Except.ok_bind, Except.error_bind, loses, lost_bindParams hd]
      | ok data =>
        simp only [Except.mapError, Except.ok_bind, checkParams]
        by_cases hlength : data.length = p.params
        · simp only [if_pos hlength, Except.ok_bind, pure, Except.pure, loses_map]
          rfl
        · simp only [if_neg hlength]
          rfl

theorem launched_execute (db : Database) (sql : String) (params : Value) :
    (loses (db.execute sql params).1, (db.execute sql params).2) = db.launched sql params := by
  unfold execute launched launch?
  cases db.conn with
  | none => rfl
  | some c =>
    simp only
    cases hd : bindParams params with
    | error e =>
      cases prepare c.tables sql <;> simp only [Except.error_bind, loses, lost_bindParams hd]
    | ok data =>
      cases prepare c.tables sql with
      | error e => rfl
      | ok p =>
        simp only [Except.mapError, Except.ok_bind, checkParams]
        by_cases hlength : data.length = p.params
        · simp only [if_pos hlength, Except.ok_bind, pure, Except.pure, after]
          rcases db.run c data p.plan with ⟨e | rows, db'⟩
          · rfl
          · cases rows <;> rfl
        · simp only [if_neg hlength]
          rfl

theorem launched_answer (db : Database) (sql : String) (params : Value)
    {f : List String → List Value → Except StoreError Value}
    (hf : ∀ names rows, loses (f names rows) = false) :
    (loses (db.answer sql params f).1, (db.answer sql params f).2) = db.launched sql params := by
  rw [← launched_rows]
  unfold answer
  rcases db.rows sql params with ⟨e | ⟨names, rs⟩, db'⟩
  · rfl
  · exact Prod.ext (hf names rs) rfl

/-- Statements declare nothing. -/
theorem declared_launched (db : Database) (sql : String) (params : Value) :
    (db.launched sql params).2.declared = db.declared := by
  unfold launched
  cases db.launch? sql params <;> rfl

end Database

end GuestHost.Store
