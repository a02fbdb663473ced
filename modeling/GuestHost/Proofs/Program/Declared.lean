import Mathlib.Data.List.Induction
import GuestHost.Proofs.Program.Atomicity
import GuestHost.Proofs.Store.Reconciling
/-!
Declared tables and the tables of the store, along a run. The list of declarations has no part in
transactions, so tables whose declarations stay are taken back when a transaction is given up, by a rollback
or by the store itself. Apart from those, every declared table is in the open store with its columns, whatever
is opened, declared, begun and ended, as long as other statements are about rows only.
-/
namespace GuestHost

namespace Store.Database

end Store.Database

namespace Program

open Host Store

/-- What becomes of a database: a call of the program, or a step of the transaction around it. -/
inductive Move where
  | call (op : Operation)
  | begin
  | commit
  | rollback

/-- The declared tables that giving up the open transaction takes away: they are there now, and were not
when it began. -/
def createdWithin (db : Database) : List TableDef :=
  match db.tables?, db.saved? with
  | some now, some before => db.declared.filter fun d =>
    (now.find? d.name).isSome && (before.find? d.name).isNone
  | _, _ => []

namespace Move

def apply (db : Database) : Move → Database
  | call op => op.apply db
  | begin => db.begin.2
  | commit => db.commit.2
  | rollback => db.rollback.2

/-- Texts that create tables are read as they are meant, and other statements are about rows. -/
def Proper : Move → Prop
  | call (.register batch) => ∀ ds, Declaration.parseBatch batch = .ok ds → ∀ d ∈ ds, d.Faithful
  | call (.sql _ text _) => RowLevel text
  | _ => True

/-- Whether the open transaction is given up: by a rollback, or because the move fails and the transaction
is lost with it. -/
def givesUp (db : Database) : Move → Bool
  | call op => op.loses db
  | begin => false
  | commit => loses db.commit.1
  | rollback => true

/-- The declared tables that are taken away after one more move. -/
def undone (db : Database) (before : List TableDef) (m : Move) : List TableDef :=
  if m.givesUp db then before ++ createdWithin db
  else
    match m with
    | call (.open _) => []
    | call (.register batch) =>
      match (db.register batch).1, Declaration.parseBatch batch with
      | .ok (), .ok ds => before.filter (· ∉ ds)
      | _, _ => before
    | _ => before

end Move

/-- A database, and the declared tables that have been taken away. -/
structure Watched where
  database : Database
  undone : List TableDef := []

namespace Watched

def step (w : Watched) (m : Move) : Watched where
  database := m.apply w.database
  undone := m.undone w.database w.undone

def run (w : Watched) (moves : List Move) : Watched := moves.foldl step w

theorem run_append (w : Watched) (moves : List Move) (m : Move) :
    w.run (moves ++ [m]) = (w.run moves).step m := by
  rw [run, run, List.foldl_append]
  rfl

end Watched

/-- All declared tables are in the open store, with their columns, but for those that have been taken away;
and a transaction has only added tables. -/
structure InStep (db : Database) (undone : List TableDef) : Prop where
  faithful : ∀ d ∈ db.declared, d.Faithful
  shows : ∀ ts, db.tables? = some ts → ∀ d ∈ db.declared, d ∉ undone → ts.Shows d
  grows : ∀ now before, db.tables? = some now → db.saved? = some before →
    Tables.Extends before now

namespace InStep

variable {db db' : Database} {undone ds : List TableDef} {c c' : Connection}

/-- Without an open store there is nothing to be in step with. -/
theorem closed (hfaithful : ∀ d ∈ db.declared, d.Faithful) (hclosed : db.conn = none) :
    InStep db undone := by
  have hnone : db.tables? = none := Database.tables?_of_closed hclosed
  refine ⟨hfaithful, fun ts hts => ?_, fun now before hnow => ?_⟩
  · rw [hnone] at hts
    cases hts
  · rw [hnone] at hnow
    cases hnow

/-- The same tables and declarations are as much in step, whatever a transaction would bring back, as long
as it has only added tables. -/
theorem showing (h : InStep db undone) (hdeclared : db'.declared = db.declared)
    (htables : db'.tables? = db.tables?)
    (hgrows : ∀ now before, db'.tables? = some now → db'.saved? = some before →
      Tables.Extends before now) : InStep db' undone where
  faithful := hdeclared ▸ h.faithful
  shows ts hts d hd := h.shows ts (htables ▸ hts) d (hdeclared ▸ hd)
  grows := hgrows

theorem same (h : InStep db undone) (hdeclared : db'.declared = db.declared)
    (htables : db'.tables? = db.tables?) (hsaved : db'.saved? = db.saved?) : InStep db' undone :=
  h.showing hdeclared htables fun now before hnow hbefore =>
    h.grows now before (htables ▸ hnow) (hsaved ▸ hbefore)

/-- Further tables in the open store, or the same ones with other rows, were not there either when the
transaction began. -/
theorem grows_on (h : InStep db undone) (hc : db.conn = some c) (hc' : db'.conn = some c')
    (hgrow : Tables.Extends c.tables c'.tables ∧ c'.saved = c.saved) (now before : Tables)
    (hnow : db'.tables? = some now) (hbefore : db'.saved? = some before) :
    Tables.Extends before now := by
  rw [Database.tables?_of_conn hc'] at hnow
  cases hnow
  rw [Database.saved?_of_conn hc', hgrow.2, ← Database.saved?_of_conn hc] at hbefore
  exact (h.grows c.tables before (Database.tables?_of_conn hc) hbefore).trans hgrow.1

theorem grow (h : InStep db undone) (hdeclared : db'.declared = db.declared)
    (hc : db.conn = some c) (hc' : db'.conn = some c')
    (hgrow : Tables.Extends c.tables c'.tables ∧ c'.saved = c.saved) : InStep db' undone where
  faithful := hdeclared ▸ h.faithful
  shows ts hts d hd hkept := by
    rw [Database.tables?_of_conn hc'] at hts
    cases hts
    exact (h.shows c.tables (Database.tables?_of_conn hc) d (hdeclared ▸ hd) hkept).extends hgrow.1
  grows := h.grows_on hc hc' hgrow

theorem mono {more : List TableDef} (h : InStep db undone) (hmore : undone ⊆ more) : InStep db more where
  faithful := h.faithful
  shows ts hts d hd hkept := h.shows ts hts d hd fun hmem => hkept (hmore hmem)
  grows := h.grows

/-- What is there and has not been created since the transaction began was there when it began, with the
same columns. -/
theorem shows_saved (h : InStep db undone) {before : Tables} (hbefore : db.saved? = some before)
    {d : TableDef} (hd : d ∈ db.declared) (hkept : d ∉ undone) (hold : d ∉ createdWithin db) :
    before.Shows d := by
  obtain ⟨now, hnow⟩ := Database.tables?_of_saved? hbefore
  have hshows : now.Shows d := h.shows now hnow d hd hkept
  refine hshows.of_extends (h.grows now before hnow hbefore) ?_
  by_contra hgone
  refine hold ?_
  obtain ⟨t, ht, -⟩ := hshows
  rw [createdWithin, hnow, hbefore]
  refine List.mem_filter.mpr ⟨hd, ?_⟩
  rw [ht]
  simpa using hgone

/-- Whoever gives up the transaction, the tables created in it are gone. -/
theorem givenUp (h : InStep db undone) (hgone : Database.GivenUp db db') :
    InStep db' (undone ++ createdWithin db) := by
  refine ⟨hgone.declared ▸ h.faithful, fun ts hts d hd hkept => ?_, fun now before _ hbefore => ?_⟩
  · rw [hgone.declared] at hd
    obtain ⟨hkept, hold⟩ := not_or.mp fun hmem => hkept (List.mem_append.mpr hmem)
    rw [hgone.tables] at hts
    cases hbefore : db.saved? with
    | none =>
      rw [hbefore, Option.none_or] at hts
      exact h.shows ts hts d hd hkept
    | some before =>
      rw [hbefore, Option.some_or] at hts
      cases hts
      exact h.shows_saved hbefore hd hkept hold
  · rw [hgone.saved] at hbefore
    cases hbefore

theorem sql (h : InStep db undone) (call : SqlCall) {text : String} (params : Value)
    (htext : RowLevel text) :
    InStep (Operation.apply db (.sql call text params))
      (Move.undone db undone (.call (.sql call text params))) := by
  have hgives : Move.givesUp db (.call (.sql call text params)) = (db.launched text params).1 :=
    Operation.loses_sql call db text params
  unfold Move.undone
  rw [Operation.apply_sql, hgives]
  have hdeclared := db.declared_launched text params
  cases hc : db.conn with
  | none =>
    rw [Database.launched_of_closed hc]
    exact h
  | some c =>
    obtain ⟨c', hc', ⟨hlost, hback, hnone⟩ | ⟨hlost, hshape, hsaved⟩⟩ :=
      Database.launched_of_rowLevel hc htext params
    · rw [if_pos hlost]
      refine h.givenUp ⟨?_, (Database.saved?_of_conn hc').trans hnone, hdeclared⟩
      rw [Database.tables?_of_conn hc', hback, Database.saved?_of_conn hc, Database.tables?_of_conn hc]
      rw [Option.or_some]
      rfl
    · rw [hlost, if_neg Bool.false_ne_true]
      exact h.grow hdeclared hc hc' ⟨.of_shape hshape, hsaved⟩

/-- Of the declared tables, those of a batch that has just been reconciled are there in any case. -/
theorem recorded (h : InStep db undone) (hds : ∀ d ∈ ds, d.Faithful)
    (hdeclared : db'.declared = ds.foldl (fun ds d => Database.record d ds) db.declared)
    (hc : db.conn = some c) (hreconcile : c.reconcile ds = (.ok (), c')) (hc' : db'.conn = some c') :
    InStep db' (undone.filter (· ∉ ds)) := by
  have hgrow := c.extends_reconcile fun d hd => (hds d hd).lone
  have hshows := Connection.shows_reconcile hds hreconcile
  rw [hreconcile] at hgrow
  have hmem : ∀ d ∈ db'.declared, d ∈ ds ∨ d ∈ db.declared := fun d hd =>
    Database.mem_foldl_record (hdeclared ▸ hd)
  refine ⟨fun d hd => (hmem d hd).elim (hds d) (h.faithful d), fun ts hts d hd hkept => ?_,
    h.grows_on hc hc' hgrow⟩
  rw [Database.tables?_of_conn hc'] at hts
  cases hts
  by_cases hnew : d ∈ ds
  · exact hshows d hnew
  · have hold : d ∈ db.declared := (hmem d hd).resolve_left hnew
    have hkept' : d ∉ undone := fun hmem => hkept (List.mem_filter.mpr ⟨hmem, decide_eq_true hnew⟩)
    exact (h.shows c.tables (Database.tables?_of_conn hc) d hold hkept').extends hgrow.1

theorem register (h : InStep db undone) (batch : String)
    (hbatch : ∀ ds, Declaration.parseBatch batch = .ok ds → ∀ d ∈ ds, d.Faithful) :
    InStep (db.register batch).2 (Move.undone db undone (.call (.register batch))) := by
  have hgives : Move.givesUp db (.call (.register batch)) = loses (db.register batch).1 := rfl
  rcases db.register_cases batch with ⟨ds, hds, hok, hdeclared, hconn⟩ | ⟨⟨e, he⟩, hdeclared, hconn⟩
  · have hundone : Move.undone db undone (.call (.register batch)) = undone.filter (· ∉ ds) := by
      rw [Move.undone, hgives, hok]
      simp only [loses, Bool.false_eq_true, if_false, hds]
    rw [hundone]
    rcases hconn with ⟨-, hnone⟩ | ⟨c, c', hc, hreconcile, hc'⟩
    · refine .closed (fun d hd => ?_) hnone
      exact (Database.mem_foldl_record (hdeclared ▸ hd)).elim (hbatch ds hds d) (h.faithful d)
    · exact h.recorded (hbatch ds hds) hdeclared hc hreconcile hc'
  · have hmore : undone ⊆ Move.undone db undone (.call (.register batch)) := by
      simp only [Move.undone, he]
      split
      · exact List.subset_append_left _ _
      · exact List.Subset.refl _
    refine InStep.mono ?_ hmore
    rcases hconn with hsame | ⟨ds, c, hds, hc, hc'⟩
    · exact h.same hdeclared (congrArg (Option.map Connection.tables) hsame)
        (congrArg (Option.bind · Connection.saved) hsame)
    · exact h.grow hdeclared hc hc' (c.extends_reconcile fun d hd => (hbatch ds hds d hd).lone)

theorem opened (h : InStep db undone) (path : String) : InStep (db.opened path).2 [] := by
  have hfaithful : ∀ d ∈ (db.opened path).2.declared, d.Faithful :=
    db.declared_opened path ▸ h.faithful
  rcases db.opened_cases path with hnone | ⟨c, c', hfresh, hc', hopen⟩
  · exact .closed hfaithful hnone
  · refine ⟨hfaithful, fun ts hts d hd _ => ?_, fun now before _ hbefore => ?_⟩
    · rw [Database.tables?_of_conn hopen] at hts
      cases hts
      exact Connection.shows_reconcile h.faithful hc' d (db.declared_opened path ▸ hd)
    · have hsaved := (c.extends_reconcile fun d hd => (h.faithful d hd).lone).2
      rw [hc', hfresh] at hsaved
      rw [Database.saved?_of_conn hopen, hsaved] at hbefore
      cases hbefore

theorem begin (h : InStep db undone) : InStep db.begin.2 undone := by
  cases hsaved : db.saved? with
  | some before =>
    rw [Database.begin_of_open (by rw [hsaved]; rfl)]
    exact h
  | none =>
    obtain ⟨db', hbegin, htables, hsaved'⟩ := Database.begin_of_idle hsaved
    have hdeclared := db.declared_begin
    rw [hbegin] at hdeclared ⊢
    refine h.showing hdeclared htables fun now before hnow hbefore => ?_
    rw [hsaved', ← htables, hnow] at hbefore
    cases hbefore
    exact .refl now

theorem commit (h : InStep db undone) : InStep db.commit.2 (Move.undone db undone .commit) := by
  have hdeclared := db.declared_commit
  have hgives : Move.givesUp db .commit = loses db.commit.1 := rfl
  unfold Move.undone
  rw [hgives]
  obtain ⟨db', hcommit, htables, hsaved⟩ | ⟨e, db', hcommit, hleft⟩ := db.commit_cases
  · rw [hcommit] at hdeclared ⊢
    refine h.showing hdeclared htables fun now before _ hbefore => ?_
    rw [hsaved] at hbefore
    cases hbefore
  · rw [hcommit] at hdeclared ⊢
    obtain ⟨hlost, hgone⟩ | ⟨hlost, htables, hsaved⟩ := hleft
    · simp only [loses, hlost, if_true]
      exact h.givenUp hgone
    · simp only [loses, hlost, Bool.false_eq_true, if_false]
      exact h.same hdeclared htables hsaved

theorem rollback (h : InStep db undone) : InStep db.rollback.2 (undone ++ createdWithin db) := by
  obtain ⟨db', hrollback, hgone⟩ := db.rollback_eq
  rw [hrollback]
  exact h.givenUp hgone

theorem step {m : Move} (h : InStep db undone) (hm : m.Proper) :
    InStep (m.apply db) (m.undone db undone) := by
  cases m with
  | call op =>
    cases op with
    | «open» path => exact h.opened path
    | register batch => exact h.register batch hm
    | sql c text params => exact h.sql c params hm
  | begin => exact h.begin
  | commit => exact h.commit
  | rollback => exact h.rollback

end InStep

end Program

end GuestHost
