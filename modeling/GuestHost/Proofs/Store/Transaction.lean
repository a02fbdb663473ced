import GuestHost.Proofs.Store.Running
/-!
What begins and ends transactions. A statement that does saves the tables or forgets them, and so does a
failure with which the open transaction is lost; every other one leaves the saved tables alone, whatever
else it does. So do declarations, as long as no text that they run holds such a statement.
-/
namespace GuestHost.Store

/-- Statements that begin or end a transaction. -/
def Statement.controls : Statement → Bool
  | .begin => true
  | .commit => true
  | .rollback => true
  | _ => false

/-- Whether the plan leaves a transaction open, if it is one that begins or ends transactions. -/
def Plan.turn? : Plan → Option Bool
  | .begin => some true
  | .commit => some false
  | .rollback => some false
  | _ => none

/-- How a loss turns the transaction, if there is one. -/
def losing (lost : Bool) : Option Bool := if lost then some false else none

/-- What a plan that has been run does to the transaction. One that has failed leaves it as it is, or it
is lost. -/
def Plan.turned? (p : Plan) (r : Except StoreError (List Row)) : Option Bool :=
  match r with
  | .ok _ => p.turn?
  | .error e => losing e.lost

/-- What giving up brings back after such a plan, by what it did before and the tables that were there. -/
def backup (turn : Option Bool) (saved tables : Option Tables) : Option Tables :=
  match turn with
  | none => saved
  | some true => saved.or tables
  | some false => none

theorem backup_losing (lost : Bool) (saved tables : Option Tables) :
    backup (losing lost) saved tables = if lost then none else saved := by
  cases lost <;> rfl

theorem losing_ne_some_true (lost : Bool) : losing lost ≠ some true := by
  cases lost <;> rintro ⟨⟩

theorem isSome_backup {turn : Option Bool} {saved tables : Option Tables}
    (h : turn = some true → tables.isSome) :
    (backup turn saved tables).isSome = turn.getD saved.isSome := by
  cases turn with
  | none => rfl
  | some b =>
    cases b with
    | false => rfl
    | true =>
      simp only [backup, Option.isSome_or, h rfl, Bool.or_true, Option.getD_some]

/-- Whether the first statement of a text begins or ends a transaction. -/
def controls (sql : String) : Bool :=
  match Statement.parse (fun _ => false) sql with
  | .ok r => r.statement.controls
  | .error _ => false

/-- The texts that are left when statements are taken off the front of a text. -/
inductive Follows : String → String → Prop where
  | refl (sql : String) : Follows sql sql
  | next {sql text : String} (h : Follows sql text) {taken : String → Bool} {r : Statement.Reading}
    (hr : Statement.parse taken text = .ok r) : Follows sql r.rest

/-- No statement of the text begins or ends a transaction. -/
def Plain (sql : String) : Prop := ∀ text, Follows sql text → controls text = false

theorem Follows.cons {sql text : String} {taken : String → Bool} {r : Statement.Reading}
    (hr : Statement.parse taken sql = .ok r) (h : Follows r.rest text) : Follows sql text := by
  induction h with
  | refl => exact .next (.refl sql) hr
  | next _ hr' ih => exact .next ih hr'

theorem Plain.rest {sql : String} (h : Plain sql) {taken : String → Bool} {r : Statement.Reading}
    (hr : Statement.parse taken sql = .ok r) : Plain r.rest :=
  fun text ht => h text (ht.cons hr)

namespace Parser

/-- Whatever the reader reads is of one kind. -/
def Yields {α : Type} (P : α → Prop) (a : Parser α) : Prop := ∀ c x c', a.run c = .ok (x, c') → P x

namespace Yields

variable {α δ : Type} {P : α → Prop}

theorem pure {x : α} (h : P x) : Yields P (Pure.pure x) := by
  intro c y c' hy
  cases hy
  exact h

theorem bind {a : Parser δ} {f : δ → Parser α} (h : ∀ x, Yields P (f x)) : Yields P (a >>= f) := by
  intro c y c' hy
  rw [StateT.run_bind, Except.bind_eq_ok_iff] at hy
  obtain ⟨⟨x, c₁⟩, -, hy⟩ := hy
  exact h x c₁ y c' hy

end Yields

theorem createTable_yields (taken : String → Bool) :
    Yields (fun s => s.controls = false) (createTable taken) := by
  unfold createTable
  repeat' with_reducible first
    | exact Yields.pure rfl
    | refine Yields.bind fun _ => ?_
    | split

/-- A step of a transaction reads the same whatever tables are there. -/
theorem statement_of_controls {taken : String → Bool} {c c' : Cursor} {s : Statement}
    (h : (statement taken).run c = .ok (s, c')) (hs : s.controls = true) (other : String → Bool) :
    (statement other).run c = .ok (s, c') := by
  unfold statement at h ⊢
  rw [StateT.run_bind, Except.bind_eq_ok_iff] at h
  obtain ⟨⟨b, c₁⟩, hb, h⟩ := h
  rw [StateT.run_bind, hb, Except.ok_bind]
  cases b with
  | true =>
    rw [if_pos rfl] at h
    have hcontrols : s.controls = false := createTable_yields taken _ _ _ h
    rw [hs] at hcontrols
    cases hcontrols
  | false =>
    rw [if_neg Bool.false_ne_true] at h ⊢
    exact h

end Parser

theorem Statement.parse_of_controls {taken : String → Bool} {sql : String} {r : Reading}
    (h : parse taken sql = .ok r) (hr : r.statement.controls = true) : Store.controls sql = true := by
  have hsame : parse (fun _ => false) sql = .ok r := by
    simp only [parse] at h ⊢
    split at h
    · exact h
    · simp only [StateT.run_bind, Except.bind_eq_ok_iff] at h ⊢
      obtain ⟨⟨⟨s, rest⟩, c⟩, ⟨⟨s', c₁⟩, hs, hrest⟩, h⟩ := h
      refine ⟨⟨⟨s, rest⟩, c⟩, ⟨⟨s', c₁⟩, ?_, hrest⟩, h⟩
      have hs' : s' = s := by
        obtain ⟨⟨rest', c₂⟩, -, hpure⟩ := hrest
        cases hpure
        rfl
      cases h
      exact Parser.statement_of_controls hs (hs' ▸ hr) _
  unfold Store.controls
  rw [hsame]
  exact hr

/-- Only statements that control transactions are planned as such. -/
theorem Plan.turn?_ofStatement {sql : String} {tables : Tables} {s : Statement} {p : Plan}
    (h : ofStatement sql tables s = .ok p) : p.turn?.isSome = s.controls := by
  have hyields : Except.Yields (fun p => p.turn?.isSome = s.controls) (ofStatement sql tables s) := by
    cases s <;>
      simp only [ofStatement, insertion, selection, change, deletion, Statement.controls] <;>
      repeat' with_reducible first
        | exact Except.Yields.ok rfl
        | exact Except.Yields.error _
        | exact Except.Yields.pure rfl
        | exact Except.Yields.throw _
        | refine Except.Yields.bind fun _ => ?_
        | split
  exact hyields p h

/-- A text whose first statement controls no transaction is prepared as such. -/
theorem turn?_prepare {tables : Tables} {sql : String} {p : Prepared}
    (h : prepare tables sql = .ok p) (hsql : controls sql = false) : p.plan.turn? = none := by
  unfold prepare at h
  simp only [Except.bind_eq_ok_iff] at h
  obtain ⟨r, hr, plan, hplan, h⟩ := h
  cases h
  rw [← Option.not_isSome_iff_eq_none, Plan.turn?_ofStatement hplan]
  intro hc
  rw [Statement.parse_of_controls hr hc] at hsql
  cases hsql

theorem Plain.prepare {tables : Tables} {sql : String} {p : Prepared} (h : Plain sql)
    (hp : prepare tables sql = .ok p) : Plain p.rest := by
  unfold Store.prepare at hp
  simp only [Except.bind_eq_ok_iff] at hp
  obtain ⟨r, hr, plan, -, hp⟩ := hp
  cases hp
  exact h.rest hr

theorem lost_conflict? {d : TableDef} {t : Table} {e : StoreError} (h : d.conflict? t = some e) :
    e.lost = false := by
  obtain ⟨c, -, hc⟩ := List.exists_of_findSome?_eq_some h
  split at hc
  · cases hc
    rfl
  · split at hc
    · cases hc
    · cases hc
      rfl

namespace Connection

theorem saved_fail (c : Connection) (f : Failure) :
    (c.fail f).saved = if f.lost then none else c.saved := by
  unfold fail
  split <;> rfl

/-- Writing rows loses the transaction or leaves it alone. -/
theorem saved_write (c : Connection) (failure : SqlError → Failure)
    (r : Except SqlError (Table × Nat)) {p : Plan} (hp : p.turn? = none) :
    (c.write failure r).2.saved =
      backup (p.turned? ((c.write failure r).1.mapError .sql)) c.saved (some c.tables) := by
  cases r with
  | error e =>
    have hlost : p.turned? ((c.write failure (.error e)).1.mapError .sql) = losing (failure e).lost := rfl
    rw [hlost, backup_losing]
    exact c.saved_fail (failure e)
  | ok written =>
    have hturn : p.turned? ((c.write failure (.ok written)).1.mapError .sql) = p.turn? := rfl
    rw [hturn, hp]
    rfl

/-- Beginning saves the tables unless they are saved already, and ending forgets what is saved. -/
theorem saved_run (c : Connection) (params : List Datum) (p : Plan) :
    (c.run params p).2.saved =
      backup (p.turned? ((c.run params p).1.mapError .sql)) c.saved (some c.tables) := by
  cases p with
  | insert name rows => exact saved_write c _ _ rfl
  | update name sets tests => exact saved_write c _ _ rfl
  | delete name tests => exact saved_write c _ _ rfl
  | begin =>
    simp only [run, settle, begin]
    cases hs : c.saved <;> simp only [hs] <;> rfl
  | commit =>
    simp only [run, settle, commit]
    cases hs : c.saved <;> simp only [hs] <;> rfl
  | rollback =>
    simp only [run, settle, rollback]
    cases hs : c.saved <;> simp only [hs] <;> rfl
  | _ => rfl

theorem saved_letDown (c : Connection) (f : Failure) (p : Plan) :
    (c.letDown f p).saved = if f.lost then none else c.saved := by
  have hletDown : (c.letDown f p).saved = (c.fail f).saved := by cases p <;> rfl
  rw [hletDown, saved_fail]

theorem saved_attempt (c : Connection) (mishap : Option Failure) (params : List Datum) (p : Plan) :
    (c.attempt mishap params p).2.saved =
      backup (p.turned? ((c.attempt mishap params p).1.mapError .sql)) c.saved (some c.tables) := by
  unfold attempt
  cases mishap with
  | none => exact c.saved_run params p
  | some f =>
    by_cases hneeds : c.needsStorage p = true
    · simp only [if_pos hneeds]
      rw [saved_letDown]
      exact (backup_losing f.lost _ _).symm
    · simp only [if_neg hneeds]
      exact c.saved_run params p

theorem saved_runEach (fuel : Nat) (c : Connection) {sql : String} (h : Plain sql) :
    (runEach fuel c sql).2.saved =
      if loses ((runEach fuel c sql).1.mapError .sql) then none else c.saved := by
  induction fuel generalizing c sql with
  | zero => rfl
  | succ fuel ih =>
    rw [runEach]
    cases hp : prepare c.tables sql with
    | error e => rfl
    | ok p =>
      have hrun := saved_run c [] p.plan
      have hplan := turn?_prepare hp (h sql (.refl sql))
      simp only
      split
      · rfl
      · rcases hr : c.run [] p.plan with ⟨f | rows, c'⟩ <;> rw [hr] at hrun
        · exact hrun.trans (backup_losing f.lost _ _)
        · have hsaved : c'.saved = c.saved := by
            have hturned : p.plan.turned? ((Except.ok rows).mapError .sql) = p.plan.turn? := rfl
            rw [hrun, hturned, hplan]
            rfl
          simp only
          rw [ih c' (h.prepare hp), hsaved]

theorem saved_runText (c : Connection) {sql : String} (h : Plain sql) :
    (c.runText sql).2.saved = if loses ((c.runText sql).1.mapError .sql) then none else c.saved :=
  saved_runEach _ c h

/-- Creating or checking a declared table is no transaction control if its text holds none. -/
theorem saved_reconcileTable (c : Connection) {d : TableDef} (h : Plain d.createSql) :
    (c.reconcileTable d).2.saved = if loses (c.reconcileTable d).1 then none else c.saved := by
  unfold reconcileTable
  cases Statement.infoTable (infoSql d.name) with
  | error e => rfl
  | ok name =>
    cases hfind : c.tables.find? name with
    | none =>
      simp only [hfind]
      exact saved_runText c h
    | some t =>
      simp only [hfind]
      cases hconflict : d.conflict? t with
      | none => rfl
      | some e =>
        simp only [loses, lost_conflict? hconflict]
        rfl

theorem saved_reconcile (c : Connection) (ds : List TableDef) (h : ∀ d ∈ ds, Plain d.createSql) :
    (c.reconcile ds).2.saved = if loses (c.reconcile ds).1 then none else c.saved := by
  induction ds generalizing c with
  | nil => rw [reconcile]; rfl
  | cons d rest ih =>
    obtain ⟨hd, hrest⟩ := List.forall_mem_cons.mp h
    have hsaved := saved_reconcileTable c hd
    rw [reconcile]
    rcases hr : c.reconcileTable d with ⟨e | _, c'⟩ <;> rw [hr] at hsaved
    · exact hsaved
    · simp only
      rw [ih c' hrest, hsaved]
      rfl

end Connection

namespace Database

/-- The tables that the open store shows. -/
def tables? (db : Database) : Option Tables := db.conn.map Connection.tables

/-- The tables that giving up the open transaction would bring back. -/
def saved? (db : Database) : Option Tables := db.conn.bind Connection.saved

theorem tables?_of_conn {db : Database} {c : Connection} (h : db.conn = some c) :
    db.tables? = some c.tables := by rw [tables?, h, Option.map_some]

theorem tables?_of_closed {db : Database} (h : db.conn = none) : db.tables? = none := by
  rw [tables?, h, Option.map_none]

theorem saved?_of_conn {db : Database} {c : Connection} (h : db.conn = some c) :
    db.saved? = c.saved := by rw [saved?, h, Option.bind_some]

/-- Only an open store has something to give up. -/
theorem tables?_of_saved? {db : Database} {before : Tables} (h : db.saved? = some before) :
    ∃ now, db.tables? = some now := by
  obtain ⟨c, hc, -⟩ := Option.bind_eq_some_iff.mp h
  exact ⟨c.tables, tables?_of_conn hc⟩

theorem inTransaction_eq (db : Database) : db.inTransaction = db.saved?.isSome := by
  unfold inTransaction saved?
  cases db.conn <;> rfl

theorem isOpen_eq (db : Database) : db.isOpen = db.tables?.isSome := by
  unfold isOpen tables?
  rw [Option.isSome_map]

/-! A store stays open whatever is run and declared. -/

theorem isOpen_launched (db : Database) (sql : String) (params : Value) :
    (db.launched sql params).2.isOpen = db.isOpen := by
  unfold launched
  cases hl : db.launch? sql params with
  | none => rfl
  | some l =>
    unfold isOpen
    rw [(launch?_eq_some hl).1]
    rfl

theorem isOpen_register (db : Database) (batch : String) :
    (db.register batch).2.isOpen = db.isOpen := by
  unfold register
  split
  · rfl
  · split
    · rfl
    · next c hc =>
      unfold isOpen
      rw [hc]
      split <;> rfl

theorem isOpen_begin (db : Database) : db.begin.2.isOpen = db.isOpen := by
  unfold begin
  split
  · rfl
  · next c hc =>
    unfold isOpen
    split
    · rw [hc]
      rfl
    · rfl

/-- Whether the statement that is run, if one is, leaves a transaction open. -/
def turn? (db : Database) (sql : String) (params : Value) : Option Bool :=
  (db.launch? sql params).bind fun l => l.plan.turned? (db.after l).1

/-- A statement that controls no transactions turns one by losing it only. -/
theorem turn?_of_controls {db : Database} {sql : String} {params : Value}
    (h : controls sql = false) : db.turn? sql params = losing (db.launched sql params).1 := by
  unfold turn? launched
  cases hl : db.launch? sql params with
  | none => rfl
  | some l =>
    obtain ⟨-, p, hp, hplan⟩ := launch?_eq_some hl
    have hturn := turn?_prepare hp h
    rw [hplan] at hturn
    rw [Option.bind_some]
    simp only
    rcases (db.after l).1 with e | rows
    · rfl
    · exact hturn

/-- A statement turns transactions on an open store only. -/
theorem tables?_of_turn {db : Database} {sql : String} {params : Value} {b : Bool}
    (h : db.turn? sql params = some b) : db.tables?.isSome := by
  obtain ⟨l, hl, -⟩ := Option.bind_eq_some_iff.mp h
  rw [tables?_of_conn (launch?_eq_some hl).1]
  rfl

theorem saved?_run {db : Database} {c : Connection} (hc : db.conn = some c) (data : List Datum)
    (p : Plan) : (db.run c data p).2.saved? =
      backup (p.turned? (db.run c data p).1) db.saved? db.tables? := by
  rw [saved?_of_conn hc, tables?_of_conn hc]
  exact c.saved_attempt db.mishaps.head?.join data p

theorem saved?_launched (db : Database) (sql : String) (params : Value) :
    (db.launched sql params).2.saved? = backup (db.turn? sql params) db.saved? db.tables? := by
  unfold launched turn?
  cases hl : db.launch? sql params with
  | none => rfl
  | some l => exact saved?_run (launch?_eq_some hl).1 l.data l.plan

theorem saved?_register (db : Database) {batch : String}
    (h : ∀ ds, Declaration.parseBatch batch = .ok ds → ∀ d ∈ ds, Plain d.createSql) :
    (db.register batch).2.saved? = if loses (db.register batch).1 then none else db.saved? := by
  unfold register
  split
  · rfl
  · next ds hb =>
    split
    · next hc =>
      simp only [saved?, hc]
      rfl
    · next c hc =>
      have hsaved := c.saved_reconcile ds (h ds hb)
      rcases hr : c.reconcile ds with ⟨e | _, c'⟩ <;> rw [hr] at hsaved <;>
        simp only [saved?, hc, Option.bind_some] <;> exact hsaved

theorem saved?_close (db : Database) : db.close.saved? = none := by
  unfold close
  cases hc : db.conn with
  | none => simp only [saved?, hc, Option.bind_none]
  | some c =>
    simp only
    cases c.file <;> rfl

theorem declared_begin (db : Database) : db.begin.2.declared = db.declared := by
  unfold begin
  split
  · rfl
  · split <;> rfl

theorem declared_finish (db : Database) (step : Plan) :
    (db.finish step).2.declared = db.declared := by
  unfold finish
  split
  · rfl
  · split <;> rfl

theorem declared_commit (db : Database) : db.commit.2.declared = db.declared := declared_finish db _

theorem declared_close (db : Database) : db.close.declared = db.declared := by
  unfold close
  split
  · rfl
  · split <;> rfl

theorem conn_close (db : Database) : db.close.conn = none := by
  unfold close
  split
  · next hc => exact hc
  · split <;> rfl

theorem saved_connect {db : Database} {path : String} {c : Connection} (h : db.connect path = .ok c) :
    c.saved = none := by
  unfold connect at h
  repeat' split at h
  all_goals cases h
  all_goals rfl

/-- A newly opened store has no open transaction. -/
theorem saved?_opened (db : Database) (path : String) (h : ∀ d ∈ db.declared, Plain d.createSql) :
    (db.opened path).2.saved? = none := by
  unfold opened
  cases hc : db.close.connect path with
  | error e => simpa only [hc] using saved?_close db
  | ok c =>
    have hsaved := c.saved_reconcile db.close.declared (db.declared_close.symm ▸ h)
    rw [saved_connect hc, ite_self] at hsaved
    simp only [hc]
    rcases hr : c.reconcile db.close.declared with ⟨e | _, c'⟩ <;> rw [hr] at hsaved <;> simp only
    · exact saved?_close _
    · exact hsaved

end Database

end GuestHost.Store
