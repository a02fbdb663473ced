import GuestHost.Proofs.Store.Creating
/-!
Declarations that fail. A batch is reconciled definition by definition, and there is no going back: the
tables that definitions before the failing one have created stay in the store, and nothing else changes.
-/
namespace GuestHost.Store

/-- Nothing in the text can be run. -/
def Blank (sql : String) : Prop := ∀ taken, Statement.parse taken sql = .ok ⟨.empty, 0, ""⟩

/-- Behind the first statement of the text there is none. -/
def Lone (sql : String) : Prop :=
  ∀ r, Statement.parse (fun _ => false) sql = .ok r → Blank r.rest

/-- A text of which nothing is left behind its first statement, if it has one. -/
theorem lone_of_rest {sql : String}
    (h : ∀ r ∈ (Statement.parse (fun _ => false) sql).toOption, r.rest = "") : Lone sql := by
  intro r hr taken
  have hrest : r.rest = "" := h r (by rw [hr]; rfl)
  rw [hrest]
  rfl

namespace Connection

variable {c c' : Connection} {d : TableDef} {ds : List TableDef}

theorem runEach_blank (fuel : Nat) (c : Connection) {sql : String} (h : Blank sql) :
    runEach fuel c sql = (.ok (), c) := by
  cases fuel with
  | zero => rfl
  | succ fuel =>
    have hp : prepare c.tables sql = .ok ⟨.nothing, 0, ""⟩ := by
      rw [prepare, h]
      rfl
    rw [runEach, hp]
    rfl

/-- What a declaration may leave of a connection: the same, or one table more, without rows. -/
inductive Created (c : Connection) (d : TableDef) : Except StoreError Unit × Connection → Prop where
  | same (r : Except StoreError Unit) : Created c d (r, c)
  | added {t : Table} (hname : t.name = d.name) (hrows : t.rows = [])
    (hnew : c.tables.find? d.name = none) :
    Created c d (.ok (), { c with tables := c.tables ++ [t] })

/-- A text that is read for a table that is not there yet makes that table. -/
theorem runText_createSql {r : Statement.Reading} (h : Lone d.createSql)
    (hnew : c.tables.find? d.name = none)
    (hparse : Statement.parse (fun name => (c.tables.find? name).isSome) d.createSql = .ok r) :
    ∃ columns, r.statement = .createTable d.name false columns ∧
      Statement.parse (fun _ => false) d.createSql = .ok r ∧ c.runText d.createSql =
        (.ok (), { c with tables := c.tables ++ [Plan.newTable d.name columns] }) := by
  obtain ⟨⟨columns, hr⟩, hfree⟩ := parse_createSql hparse
  refine ⟨columns, hr, hfree, ?_⟩
  rw [runText, runEach, prepare]
  simp only [hparse, Except.ok_bind, hr, Plan.ofStatement, hnew, Option.isSome_none, Bool.false_eq_true,
    if_false, pure, Except.pure, run, runEach_blank _ _ (h r hfree)]
  exact if_neg (by rintro ⟨⟩)

/-- Where a declared table is not there yet, its text is refused, or there is one table more. -/
theorem createSql_cases (h : Lone d.createSql) (hnew : c.tables.find? d.name = none) :
    (∃ e, c.runText d.createSql = (.error e, c)) ∨
      ∃ r columns, Statement.parse (fun _ => false) d.createSql = .ok r ∧
        r.statement = .createTable d.name false columns ∧ c.runText d.createSql =
          (.ok (), { c with tables := c.tables ++ [Plan.newTable d.name columns] }) := by
  cases hparse : Statement.parse (fun name => (c.tables.find? name).isSome) d.createSql with
  | error e =>
    refine .inl ⟨e, ?_⟩
    rw [runText, runEach, prepare, hparse]
    rfl
  | ok r =>
    obtain ⟨columns, hr, hfree, hrun⟩ := runText_createSql h hnew hparse
    exact .inr ⟨r, columns, hfree, hr, hrun⟩

theorem created_createSql (c : Connection) (h : Lone d.createSql) :
    Created c d ((c.runText d.createSql).1.mapError .sql, (c.runText d.createSql).2) := by
  cases hfind : c.tables.find? d.name with
  | none =>
    obtain ⟨e, hrun⟩ | ⟨r, columns, -, -, hrun⟩ := createSql_cases h hfind
    · rw [hrun]
      exact .same _
    · rw [hrun]
      exact .added rfl rfl hfind
  | some t =>
    rw [runText, runEach, prepare]
    cases hparse : Statement.parse (fun name => (c.tables.find? name).isSome) d.createSql with
    | error e => exact .same _
    | ok r =>
      obtain ⟨⟨columns, hr⟩, hfree⟩ := parse_createSql hparse
      rw [Except.ok_bind, hr, Plan.ofStatement]
      simp only [hfind, Option.isSome_some, if_true, Except.ok_bind, pure, Except.pure, run,
        runEach_blank _ c (h r hfree)]
      exact .same _

theorem created_reconcileTable (c : Connection) (h : Lone d.createSql) :
    Created c d (c.reconcileTable d) := by
  unfold reconcileTable
  split
  · exact .same _
  · split
    · have hcreated := created_createSql c h
      rcases hrun : c.runText d.createSql with ⟨r, c₁⟩
      rw [hrun] at hcreated
      exact hcreated
    · split <;> exact .same _

/-- Further tables behind those of a connection, none with rows, and each for a definition that had no
table before. -/
def Adds (c : Connection) (ds : List TableDef) (c' : Connection) : Prop :=
  ∃ new, c' = { c with tables := c.tables ++ new } ∧ ∀ t ∈ new, t.rows = [] ∧
    (∃ d ∈ ds, t.name = d.name) ∧ c.tables.find? t.name = none

theorem Created.adds {r : Except StoreError Unit × Connection} (h : Created c d r) :
    Adds c [d] r.2 := by
  cases h with
  | same r => exact ⟨[], by simp, nofun⟩
  | @added t hname hrows hnew =>
    refine ⟨[t], rfl, fun s hs => ?_⟩
    obtain rfl := List.mem_singleton.mp hs
    exact ⟨hrows, ⟨d, List.mem_singleton_self d, hname⟩, hname ▸ hnew⟩

theorem Adds.trans {c₁ c₂ : Connection} {ds' : List TableDef} (h : Adds c ds c₁) (h' : Adds c₁ ds' c₂) :
    Adds c (ds ++ ds') c₂ := by
  obtain ⟨new, rfl, hnew⟩ := h
  obtain ⟨new', rfl, hnew'⟩ := h'
  refine ⟨new ++ new', by simp, fun t ht => ?_⟩
  rcases List.mem_append.mp ht with ht | ht
  · obtain ⟨hrows, ⟨d, hd, hname⟩, hnone⟩ := hnew t ht
    exact ⟨hrows, ⟨d, List.mem_append_left _ hd, hname⟩, hnone⟩
  · obtain ⟨hrows, ⟨d, hd, hname⟩, hnone⟩ := hnew' t ht
    refine ⟨hrows, ⟨d, List.mem_append_right _ hd, hname⟩, ?_⟩
    rw [Tables.find?, List.find?_append, Option.or_eq_none_iff] at hnone
    exact hnone.1

end Connection

namespace Database

/-- A store without tables. -/
def bare : Database := { conn := some {} }

/-- A store with one table. -/
def single : Database :=
  { conn := some { tables := [{ name := "t", columns := [{ name := "x", type := .none }] }] } }

end Database
end GuestHost.Store
