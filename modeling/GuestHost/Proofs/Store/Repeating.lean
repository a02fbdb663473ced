import Mathlib.Data.List.Induction
import GuestHost.Proofs.Store.PlainTypes
/-!
Declaring again what has been declared. A table that a batch has created passes the check of its own
declaration, and checking changes nothing; so the same batch a second time finds all its tables and leaves the
whole database as it is. A file that is opened again holds what the connection to it has left, and its tables
pass the same checks.
-/
namespace GuestHost

namespace Store

/-! ## The list of declarations -/

namespace Database

variable {d e : TableDef} {ds l : List TableDef}

end Database

/-! ## Tables that pass the check of a declaration -/

/-- The table of a declaration is there, and the check has nothing against it. -/
structure Tables.Matches (ts : Tables) (d : TableDef) : Prop where
  asked : Statement.infoTable (infoSql d.name) = .ok d.name
  agrees : ∃ t, ts.find? d.name = some t ∧ d.conflict? t = none

theorem Tables.Matches.append {ts : Tables} {d : TableDef} (h : ts.Matches d) (new : Tables) :
    Tables.Matches (ts ++ new) d where
  asked := h.asked
  agrees := by
    obtain ⟨t, ht, hconflict⟩ := h.agrees
    refine ⟨t, ?_, hconflict⟩
    rw [Tables.find?] at ht
    rw [Tables.find?, List.find?_append, ht, Option.some_or]

theorem Tables.matches_iff {ts : Tables} {d : TableDef} : ts.Matches d ↔
    ((Statement.infoTable (infoSql d.name)).toOption == some d.name &&
      (ts.find? d.name).any fun t => (d.conflict? t).isNone) = true := by
  rw [Bool.and_eq_true, beq_iff_eq, Except.toOption_eq_some_iff, Option.any_eq_true]
  simp only [Option.isNone_iff_eq_none]
  exact ⟨fun h => ⟨h.asked, h.agrees⟩, fun ⟨hasked, hagrees⟩ => ⟨hasked, hagrees⟩⟩

instance (ts : Tables) (d : TableDef) : Decidable (ts.Matches d) := decidable_of_iff' _ Tables.matches_iff

namespace Connection

variable {c c' : Connection} {d : TableDef} {ds : List TableDef}

/-- The connection with further tables behind those that it sees. -/
def Grown (c c' : Connection) : Prop := ∃ new, c' = { c with tables := c.tables ++ new }

theorem Grown.refl (c : Connection) : Grown c c := ⟨[], by simp⟩

theorem Grown.trans {c'' : Connection} (h : Grown c c') (h' : Grown c' c'') : Grown c c'' := by
  obtain ⟨new, rfl⟩ := h
  obtain ⟨new', rfl⟩ := h'
  exact ⟨new ++ new', by simp⟩

theorem Grown.find?_eq_none {name : String} (h : Grown c c') (hnone : c'.tables.find? name = none) :
    c.tables.find? name = none := by
  obtain ⟨new, rfl⟩ := h
  rw [Tables.find?, List.find?_append, Option.or_eq_none_iff] at hnone
  exact hnone.1

theorem file_fail (c : Connection) (f : Failure) : (c.fail f).file = c.file := by
  unfold fail
  split <;> rfl

theorem file_write (c : Connection) (failure : SqlError → Failure) (r : Except SqlError (Table × Nat)) :
    (c.write failure r).2.file = c.file := by
  cases r with
  | error e => exact c.file_fail (failure e)
  | ok written => rfl

theorem file_run (c : Connection) (params : List Datum) (p : Plan) : (c.run params p).2.file = c.file := by
  cases p with
  | insert name rows => exact file_write c _ _
  | update name sets tests => exact file_write c _ _
  | delete name tests => exact file_write c _ _
  | begin =>
    simp only [run, settle, begin]
    cases hs : c.saved <;> simp only
  | commit =>
    simp only [run, settle, commit]
    cases hs : c.saved <;> simp only
  | rollback =>
    simp only [run, settle, rollback]
    cases hs : c.saved <;> simp only
  | _ => rfl

theorem file_runEach (fuel : Nat) (c : Connection) (sql : String) : (runEach fuel c sql).2.file = c.file := by
  induction fuel generalizing c sql with
  | zero => rfl
  | succ fuel ih =>
    rw [runEach]
    cases hp : prepare c.tables sql with
    | error e => rfl
    | ok p =>
      have hrun := file_run c [] p.plan
      simp only
      split
      · rfl
      · rcases hr : c.run [] p.plan with ⟨e | rows, c'⟩ <;> rw [hr] at hrun
        · exact hrun
        · exact (ih c' p.rest).trans hrun

theorem file_runText (c : Connection) (sql : String) : (c.runText sql).2.file = c.file :=
  file_runEach _ c sql

theorem file_reconcileTable (c : Connection) (d : TableDef) : (c.reconcileTable d).2.file = c.file := by
  unfold reconcileTable
  split
  · rfl
  · split
    · have hfile := file_runText c d.createSql
      rcases hr : c.runText d.createSql with ⟨r, c'⟩
      rw [hr] at hfile
      exact hfile
    · split <;> rfl

theorem file_reconcile (c : Connection) (ds : List TableDef) : (c.reconcile ds).2.file = c.file := by
  induction ds generalizing c with
  | nil => rw [reconcile]
  | cons d rest ih =>
    have hfile := file_reconcileTable c d
    rw [reconcile]
    rcases hr : c.reconcileTable d with ⟨e | _, c'⟩ <;> rw [hr] at hfile
    · exact hfile
    · exact (ih c').trans hfile

end Connection

namespace Database

variable {db : Database} {c : Connection} {path : String}

/-- The open store is that of a file, and the file can be opened. -/
structure Keeps (db : Database) (path : String) : Prop where
  stored : ∃ c, db.conn = some c ∧ c.file = some path
  openable : (db.connect path).map Connection.file = .ok (some path)

/-- Whether a file can be opened does not depend on what is kept in files. -/
theorem connect_of_missing {db' : Database} (hmissing : db'.missing = db.missing)
    (h : (db.connect path).map Connection.file = .ok (some path)) : db'.connect path =
      .ok { file := some path, tables := (Members.get? path db'.files).getD [] } := by
  unfold connect at h ⊢
  rw [hmissing]
  by_cases hnamed : path = "" ∨ path = ":memory:"
  · rw [if_pos hnamed] at h
    cases h
  · rw [if_neg hnamed] at h ⊢
    split at h
    · cases h
    · split at h
      · cases h
      · next hfound =>
        simp only [if_neg hfound]

/-- That a file can be opened is kept as long as the same directories are missing. -/
theorem keeps_of_open {db' : Database} (hstored : ∃ c, db'.conn = some c ∧ c.file = some path)
    (hmissing : db'.missing = db.missing)
    (h : (db.connect path).map Connection.file = .ok (some path)) : db'.Keeps path where
  stored := hstored
  openable := by
    rw [connect_of_missing hmissing h]
    rfl

/-- What is opened under the name of a file is the store of that file. -/
theorem keeps_opened {db' : Database} (hnamed : ¬(path = "" ∨ path = ":memory:"))
    (h : db.opened path = (.ok (), db')) : db'.Keeps path := by
  unfold opened at h
  cases hconnect : db.close.connect path with
  | error e =>
    simp only [hconnect] at h
    cases h
  | ok c =>
    have hfile : c.file = some path := by
      unfold connect at hconnect
      rw [if_neg hnamed] at hconnect
      repeat' split at hconnect
      all_goals cases hconnect
      rfl
    have hkept := c.file_reconcile db.close.declared
    simp only [hconnect] at h
    rcases hr : c.reconcile db.close.declared with ⟨e | _, c'⟩ <;> rw [hr] at h hkept <;> cases h
    have hopen : (db.close.connect path).map Connection.file = .ok (some path) := by
      rw [hconnect]
      exact congrArg Except.ok hfile
    exact keeps_of_open ⟨c', rfl, hkept.trans hfile⟩ rfl hopen

theorem Keeps.register (h : db.Keeps path) (batch : String) : (db.register batch).2.Keeps path := by
  obtain ⟨⟨c, hc, hfile⟩, hopen⟩ := h
  have hstored : ∃ c', (db.register batch).2.conn = some c' ∧ c'.file = some path := by
    unfold Database.register
    cases Declaration.parseBatch batch with
    | error f => exact ⟨c, hc, hfile⟩
    | ok ds =>
      have hkept := c.file_reconcile ds
      simp only [hc]
      rcases hr : c.reconcile ds with ⟨e | _, c'⟩ <;> rw [hr] at hkept
      · exact ⟨c', rfl, hkept.trans hfile⟩
      · exact ⟨c', rfl, hkept.trans hfile⟩
  have hmissing : (db.register batch).2.missing = db.missing := by
    unfold Database.register
    repeat' split
    all_goals rfl
  exact keeps_of_open hstored hmissing hopen

end Database

namespace Database

end Database

end Store
end GuestHost
