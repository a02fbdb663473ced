import GuestHost.Proofs.Store.Shape
/-!
Declarations that are taken. A batch that is reconciled leaves a store in which each of its tables is there
with the declared columns, provided that the store reads the texts that create tables as they are meant.
-/
namespace GuestHost.Store

namespace Token

theorem scan_pragma (fuel : Nat) (rest : List Char) :
    scan (fuel + 1) 0 ('P' :: 'R' :: 'A' :: 'G' :: 'M' :: 'A' :: ' ' :: rest) =
      ⟨.word "PRAGMA", "PRAGMA", 0, 6⟩ :: scan fuel 6 (' ' :: rest) := rfl

theorem scan_table_info (fuel : Nat) (rest : List Char) :
    scan (fuel + 3) 6 (' ' :: 't' :: 'a' :: 'b' :: 'l' :: 'e' :: '_' :: 'i' :: 'n' :: 'f' :: 'o' ::
        '(' :: '"' :: rest) =
      ⟨.word "table_info", "table_info", 7, 17⟩ :: ⟨.symbol, "(", 17, 18⟩ :: scan fuel 18 ('"' :: rest) :=
  rfl

end Token

theorem toList_infoSql (name : String) : (infoSql name).toList =
    'P' :: 'R' :: 'A' :: 'G' :: 'M' :: 'A' :: ' ' :: 't' :: 'a' :: 'b' :: 'l' :: 'e' :: '_' :: 'i' :: 'n' ::
      'f' :: 'o' :: '(' :: '"' :: (Token.doubled name.toList ++ '"' :: ')' :: []) := by
  unfold infoSql quoteName
  simp only [String.toList_append, String.toList_ofList, List.append_assoc]
  rfl

/-- The first words of the text that asks for columns, and the tokens from the name of the table on. -/
theorem ofText_infoSql (name : String) : ∃ fuel,
    (Token.visible (Token.doubled name.toList ++ '"' :: ')' :: [])).length < fuel ∧
    Token.ofText (infoSql name) = ⟨.word "PRAGMA", "PRAGMA", 0, 6⟩ ::
      ⟨.word "table_info", "table_info", 7, 17⟩ :: ⟨.symbol, "(", 17, 18⟩ ::
        Token.scan (fuel + 1) 18 ('"' :: Token.visible (Token.doubled name.toList ++ '"' :: ')' :: [])) := by
  refine ⟨(Token.visible (Token.doubled name.toList ++ '"' :: ')' :: [])).length + 15, by omega, ?_⟩
  rw [Token.ofText_eq, toList_infoSql, ← Token.scan_table_info, ← Token.scan_pragma]
  rfl

/-- Behind the first words of the text there is a token that can be no other name. -/
theorem tokens_infoSql (name : String) : ∃ t more, Token.ofText (infoSql name) =
    ⟨.word "PRAGMA", "PRAGMA", 0, 6⟩ :: ⟨.word "table_info", "table_info", 7, 17⟩ ::
      ⟨.symbol, "(", 17, 18⟩ :: t :: more ∧ ∀ n, t.name? = some n → n = name := by
  obtain ⟨fuel, -, htokens⟩ := ofText_infoSql name
  generalize hs : Token.visible (Token.doubled name.toList ++ '"' :: ')' :: []) = s at htokens
  obtain ⟨t, more, hscan, hkind⟩ := Token.scan_quote fuel 18 s
  refine ⟨t, more, by rw [htokens, hscan], fun n hn => ?_⟩
  rw [Token.name?, Token.identifier?, hkind] at hn
  rcases hname : Token.scanQuoted '"' s with _ | ⟨m, r⟩ <;> rw [hname] at hn <;> cases hn
  rw [← hs] at hname
  rw [Token.name_of_scanQuoted (by decide) hname, String.ofList_toList]

namespace Parser

variable {c : Cursor}

theorem symbol_run {s : String} (h : c.token.isSymbol s = true) (hfault : c.fault = none) :
    (symbol s).run c = .ok ((), { c with tokens := c.tokens.tail }) := by
  simp [symbol, symbol?, atSymbol, take, h, hfault]

/-- What is read of a question for columns behind its first words. -/
theorem tableInfo_run {sql : String} {ts : List Token} (htokens : Token.ofText sql =
      ⟨.word "PRAGMA", "PRAGMA", 0, 6⟩ :: ⟨.word "table_info", "table_info", 7, 17⟩ ::
        ⟨.symbol, "(", 17, 18⟩ :: ts) :
    tableInfo.run (Cursor.ofText sql) = (do let n ← name; symbol ")"; return n : Parser String).run
      { sql := sql, tokens := ts } := by
  have hcursor : Cursor.ofText sql = { sql := sql, tokens := ⟨.word "PRAGMA", "PRAGMA", 0, 6⟩ ::
      ⟨.word "table_info", "table_info", 7, 17⟩ :: ⟨.symbol, "(", 17, 18⟩ :: ts } := by
    rw [Cursor.ofText, htokens]
    rfl
  have hpragma : Token.isKeyword ⟨.word "PRAGMA", "PRAGMA", 0, 6⟩ "PRAGMA" = true := by decide
  have hinfo : Token.isKeyword ⟨.word "table_info", "table_info", 7, 17⟩ "TABLE_INFO" = true := by decide
  generalize Cursor.ofText sql = c at *
  rw [tableInfo, bracketed, StateT.run_bind, keyword_run (hcursor ▸ hpragma) (hcursor ▸ rfl),
    Except.ok_bind, StateT.run_bind, keyword_run (hcursor ▸ hinfo) (hcursor ▸ rfl), Except.ok_bind,
    StateT.run_bind, symbol_run (hcursor ▸ rfl) (hcursor ▸ rfl), Except.ok_bind, hcursor]
  rfl

end Parser

/-- The question for the columns of a table is read as one for the table of that name. -/
theorem infoTable_infoSql {name n : String} (h : Statement.infoTable (infoSql name) = .ok n) :
    n = name := by
  obtain ⟨t, more, htokens, hname⟩ := tokens_infoSql name
  rw [Statement.infoTable, Except.map_eq_ok_iff] at h
  obtain ⟨⟨n, c'⟩, hrun, rfl⟩ := h
  rw [Parser.tableInfo_run htokens, StateT.run_bind, Except.bind_eq_ok_iff] at hrun
  obtain ⟨⟨m, c₁⟩, hm, hrun⟩ := hrun
  rw [StateT.run_bind, Except.bind_eq_ok_iff] at hrun
  obtain ⟨_, -, hrun⟩ := hrun
  cases hrun
  exact hname _ (Parser.name_run_eq_ok hm)

/-! What it means that a store has a declared table. -/

/-- Every declared column is there: under its name, letter case aside, and with its type, letter case and
the white space around it aside. -/
def Table.Bears (t : Table) (d : TableDef) : Prop :=
  ∀ c ∈ d.columns, ∃ a ∈ t.columns, Text.sameIgnoringCase a.name c.name = true ∧
    Text.sameIgnoringCase (Text.trim a.type.text) (Text.trim c.type) = true

instance (t : Table) (d : TableDef) : Decidable (t.Bears d) :=
  inferInstanceAs (Decidable (∀ c ∈ d.columns, ∃ a ∈ t.columns,
    Text.sameIgnoringCase a.name c.name = true ∧
      Text.sameIgnoringCase (Text.trim a.type.text) (Text.trim c.type) = true))

theorem Table.bears_of_columns {t t' : Table} {d : TableDef} (h : t.Bears d)
    (hcolumns : t'.columns = t.columns) : t'.Bears d := by
  intro c hc
  rw [hcolumns]
  exact h c hc

/-- The check of a table that is there looks for just that. -/
theorem Table.bears_of_conflict? {t : Table} {d : TableDef} (h : d.conflict? t = none) : t.Bears d := by
  intro c hc
  have hcolumn := List.findSome?_eq_none_iff.mp h c hc
  split at hcolumn
  · cases hcolumn
  · next a ha =>
    split at hcolumn
    · next htype =>
      refine ⟨a, List.mem_of_find?_eq_some ha, ?_, htype⟩
      simpa using List.find?_some (p := fun a : Column => Text.sameIgnoringCase a.name c.name) ha
    · cases hcolumn

namespace Tables

/-- The table of a declaration is there, with its columns. -/
def Shows (ts : Tables) (d : TableDef) : Prop := ∃ t, ts.find? d.name = some t ∧ t.Bears d

theorem shows_iff {ts : Tables} {d : TableDef} :
    ts.Shows d ↔ (ts.find? d.name).any (fun t => decide (t.Bears d)) = true := by
  unfold Shows
  cases ts.find? d.name <;> simp

instance (ts : Tables) (d : TableDef) : Decidable (ts.Shows d) := decidable_of_iff' _ shows_iff

theorem Shows.extends {ts ts' : Tables} {d : TableDef} (h : ts.Shows d) (hts : Extends ts ts') :
    ts'.Shows d := by
  obtain ⟨t, ht, hbears⟩ := h
  obtain ⟨t', ht', hcolumns⟩ := hts _ t ht
  exact ⟨t', ht', Table.bears_of_columns hbears hcolumns⟩

/-- A table that was there before had the columns that it has now. -/
theorem Shows.of_extends {ts ts' : Tables} {d : TableDef} (h : ts'.Shows d) (hts : Extends ts ts')
    (hold : (ts.find? d.name).isSome) : ts.Shows d := by
  obtain ⟨t, ht⟩ := Option.isSome_iff_exists.mp hold
  obtain ⟨t', ht', hcolumns⟩ := hts _ t ht
  obtain ⟨t'', ht'', hbears⟩ := h
  obtain rfl : t'' = t' := Option.some.inj (ht''.symm.trans ht')
  exact ⟨t, ht, Table.bears_of_columns hbears hcolumns.symm⟩

end Tables

/-- The text that creates a table is read, if at all, as one statement, and as one for a table with the
declared columns. Types and constraints are part of the text as they stand, so they decide about this. -/
structure TableDef.Faithful (d : TableDef) : Prop where
  lone : Lone d.createSql
  bears : ∀ r columns, Statement.parse (fun _ => false) d.createSql = .ok r →
    r.statement = .createTable d.name false columns → (Plan.newTable d.name columns).Bears d

/-- A test for definitions whose text is read as it is meant. -/
def TableDef.readsBack (d : TableDef) : Bool :=
  match Statement.parse (fun _ => false) d.createSql with
  | .error _ => true
  | .ok r => r.rest == "" && match r.statement with
    | .createTable _ _ columns => decide ((Plan.newTable d.name columns).Bears d)
    | _ => false

namespace Connection

variable {c c' : Connection} {d : TableDef} {ds : List TableDef}

theorem Created.extends {r : Except StoreError Unit × Connection} (h : Created c d r) :
    Tables.Extends c.tables r.2.tables ∧ r.2.saved = c.saved := by
  cases h with
  | same r => exact ⟨.refl _, rfl⟩
  | added => exact ⟨.append _ _, rfl⟩

theorem extends_reconcile (c : Connection) (h : ∀ d ∈ ds, Lone d.createSql) :
    Tables.Extends c.tables (c.reconcile ds).2.tables ∧ (c.reconcile ds).2.saved = c.saved := by
  induction ds generalizing c with
  | nil => exact ⟨.refl _, rfl⟩
  | cons d rest ih =>
    obtain ⟨hd, hrest⟩ := List.forall_mem_cons.mp h
    have hhead := (created_reconcileTable c hd).extends
    rw [reconcile]
    rcases hr : c.reconcileTable d with ⟨e | _, c₁⟩ <;> rw [hr] at hhead
    · exact hhead
    · obtain ⟨hextends, hsaved⟩ := ih c₁ hrest
      exact ⟨hhead.1.trans hextends, hsaved.trans hhead.2⟩

theorem find?_newTable (hnew : c.tables.find? d.name = none) (columns : List ColumnSpec) :
    Tables.find? (c.tables ++ [Plan.newTable d.name columns]) d.name =
      some (Plan.newTable d.name columns) := by
  have hname : Text.sameIgnoringCase (Plan.newTable d.name columns).name d.name = true :=
    Text.sameIgnoringCase_refl d.name
  rw [Tables.find?] at hnew
  rw [Tables.find?, List.find?_append, hnew, Option.none_or, List.find?_cons, hname]

/-- A table that is created without a failure has the declared columns. -/
theorem shows_createSql (hd : d.Faithful) (hnew : c.tables.find? d.name = none)
    (h : (c.runText d.createSql).1 = .ok ()) : (c.runText d.createSql).2.tables.Shows d := by
  obtain ⟨e, hrun⟩ | ⟨r, columns, hparse, hr, hrun⟩ := createSql_cases hd.lone hnew
  · rw [hrun] at h
    cases h
  · rw [hrun]
    exact ⟨Plan.newTable d.name columns, find?_newTable hnew columns, hd.bears r columns hparse hr⟩

/-- A declaration that is reconciled is shown. -/
theorem shows_reconcileTable (hd : d.Faithful) (h : c.reconcileTable d = (.ok (), c')) :
    c'.tables.Shows d := by
  unfold reconcileTable at h
  cases hinfo : Statement.infoTable (infoSql d.name) with
  | error e =>
    simp only [hinfo] at h
    cases h
  | ok name =>
    obtain rfl := infoTable_infoSql hinfo
    simp only [hinfo] at h
    cases hfind : c.tables.find? d.name with
    | none =>
      simp only [hfind] at h
      rcases hrun : c.runText d.createSql with ⟨e | _, c₁⟩ <;> rw [hrun] at h <;> cases h
      have hshows := shows_createSql hd hfind (by rw [hrun])
      rwa [hrun] at hshows
    | some t =>
      simp only [hfind] at h
      cases hconflict : d.conflict? t with
      | some e =>
        rw [hconflict] at h
        cases h
      | none =>
        rw [hconflict] at h
        cases h
        exact ⟨t, hfind, Table.bears_of_conflict? hconflict⟩

/-- A batch that is reconciled is shown as a whole. -/
theorem shows_reconcile (hds : ∀ d ∈ ds, d.Faithful) (h : c.reconcile ds = (.ok (), c')) :
    ∀ d ∈ ds, c'.tables.Shows d := by
  induction ds generalizing c with
  | nil => nofun
  | cons d rest ih =>
    obtain ⟨hd, hrest⟩ := List.forall_mem_cons.mp hds
    rw [reconcile] at h
    rcases hr : c.reconcileTable d with ⟨e | _, c₁⟩ <;> rw [hr] at h
    · cases h
    · have hlater := (c₁.extends_reconcile fun x hx => (hrest x hx).lone).1
      simp only at h
      rw [h] at hlater
      exact List.forall_mem_cons.mpr ⟨(shows_reconcileTable hd hr).extends hlater, ih hrest h⟩

end Connection

namespace Database

/-! What a statement, a batch and an opening leave. -/

theorem launched_of_closed {db : Database} (h : db.conn = none) (sql : String) (params : Value) :
    db.launched sql params = (false, db) := by
  unfold launched launch?
  rw [h]

/-- A statement about rows loses the open transaction, or it leaves the tables, rows aside, and what is
saved. -/
theorem launched_of_rowLevel {db : Database} {c : Connection} {sql : String} (hc : db.conn = some c)
    (h : RowLevel sql) (params : Value) : ∃ c', (db.launched sql params).2.conn = some c' ∧
      ((db.launched sql params).1 = true ∧ c'.tables = c.committed ∧ c'.saved = none ∨
        (db.launched sql params).1 = false ∧ c'.tables.shape = c.tables.shape ∧ c'.saved = c.saved) := by
  unfold launched
  cases hl : db.launch? sql params with
  | none => exact ⟨c, hc, .inr ⟨rfl, rfl, rfl⟩⟩
  | some l =>
    obtain ⟨hconn, p, hp, hplan⟩ := launch?_eq_some hl
    obtain rfl : c = l.conn := Option.some.inj (hc.symm.trans hconn)
    have hlevel : l.plan.rowLevel = true := hplan ▸ rowLevel_prepare h hp
    have hrows := l.conn.rowsOnly_attempt db.mishaps.head?.join l.data hlevel
    have hsaved := l.conn.saved_attempt db.mishaps.head?.join l.data l.plan
    rw [Connection.turned?_of_rowLevel hlevel, backup_losing] at hsaved
    unfold Connection.RowsOnly at hrows
    refine ⟨_, rfl, ?_⟩
    cases hlost : loses (db.after l).1 with
    | true => exact .inl ⟨hlost, (if_pos hlost).mp hrows, hsaved.trans (if_pos hlost)⟩
    | false =>
      have hkept : ¬loses (db.after l).1 = true := by
        rw [hlost]
        exact Bool.false_ne_true
      exact .inr ⟨hlost, (if_neg hkept).mp hrows, hsaved.trans (if_neg hkept)⟩

/-- A batch that is recorded has been reconciled with the open store, if there is one. -/
theorem register_cases (db : Database) (batch : String) :
    (∃ ds, Declaration.parseBatch batch = .ok ds ∧ (db.register batch).1 = .ok () ∧
      (db.register batch).2.declared = ds.foldl (fun ds d => record d ds) db.declared ∧
      ((db.conn = none ∧ (db.register batch).2.conn = none) ∨
        ∃ c c', db.conn = some c ∧ c.reconcile ds = (.ok (), c') ∧
          (db.register batch).2.conn = some c')) ∨
    (∃ e, (db.register batch).1 = .error e) ∧ (db.register batch).2.declared = db.declared ∧
      ((db.register batch).2.conn = db.conn ∨ ∃ ds c, Declaration.parseBatch batch = .ok ds ∧
        db.conn = some c ∧ (db.register batch).2.conn = some (c.reconcile ds).2) := by
  unfold register
  cases hbatch : Declaration.parseBatch batch with
  | error f => exact .inr ⟨⟨_, rfl⟩, rfl, .inl rfl⟩
  | ok ds =>
    cases hc : db.conn with
    | none => exact .inl ⟨ds, rfl, rfl, rfl, .inl ⟨rfl, rfl⟩⟩
    | some c =>
      simp only
      rcases hr : c.reconcile ds with ⟨e | _, c'⟩
      · exact .inr ⟨⟨e, rfl⟩, rfl, .inr ⟨ds, c, rfl, rfl, by rw [hr]⟩⟩
      · exact .inl ⟨ds, rfl, rfl, rfl, .inr ⟨c, c', rfl, hr, rfl⟩⟩

/-- A store that is open after opening has been reconciled with all declarations. -/
theorem opened_cases (db : Database) (path : String) : (db.opened path).2.conn = none ∨
    ∃ c c' : Connection, c.saved = none ∧ c.reconcile db.declared = (.ok (), c') ∧
      (db.opened path).2.conn = some c' := by
  unfold opened
  cases hc : db.close.connect path with
  | error e =>
    simp only [hc]
    exact .inl db.conn_close
  | ok c =>
    simp only [hc, declared_close]
    rcases hr : c.reconcile db.declared with ⟨e | _, c'⟩
    · exact .inl (conn_close _)
    · exact .inr ⟨c, c', saved_connect hc, hr, rfl⟩

end Database

end GuestHost.Store
