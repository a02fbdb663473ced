import GuestHost.Store.Connection
import GuestHost.Store.Declaration
import GuestHost.Text.Lowercase
/-!
The database of a guest program: one connection at a time, and the tables that the program has declared.
Whenever a declaration meets an open store, its tables are created or have to match the ones there.
-/
namespace GuestHost.Store

inductive StoreError where
  | notOpen
  | sql (f : Failure)
  | batch (failure : Json.Failure)
  | missingColumn (table column : String)
  | typeMismatch (table column declared actual : String)
  | rowCount (rows : Nat)
  | tooManyRows (rows : Nat)
  | nestedTransaction
  | badParams (kind : Kind)

namespace StoreError

/-- An error with which no transaction is lost. -/
def ofSql (e : SqlError) : StoreError := .sql e

def message : StoreError → String
  | notOpen => "no database is open"
  | sql f => "sqlite: " ++ f.error.message
  | batch f => "invalid table batch: " ++ f.message
  | missingColumn table column => "table " ++ table ++ ": missing column " ++ column
  | typeMismatch table column declared actual =>
    "table " ++ table ++ ": column " ++ column ++ " declared " ++ declared ++ ", store has " ++ actual
  | rowCount n => "expected exactly one row, got " ++ toString n
  | tooManyRows n => "expected at most one row, got " ++ toString n
  | nestedTransaction => "a transaction is already open"
  | badParams k => "query parameters must be an array, got " ++ k.name

/-- Disagreements between a declaration and the store end the program. -/
def isFatal : StoreError → Bool
  | missingColumn _ _ => true
  | typeMismatch _ _ _ _ => true
  | _ => false

end StoreError

def ColumnDef.sql (c : ColumnDef) : String :=
  let constraints := Text.trim c.constraints
  quoteName c.name ++ " " ++ c.type ++ (if constraints = "" then "" else " " ++ constraints)

/-- The statement that creates a declared table. -/
def TableDef.createSql (d : TableDef) : String :=
  "CREATE TABLE " ++ quoteName d.name ++ " (" ++ ", ".intercalate (d.columns.map ColumnDef.sql) ++ ")"

/-- The statement that asks for the columns of a table. -/
def infoSql (table : String) : String := "PRAGMA table_info(" ++ quoteName table ++ ")"

/-- The first declared column that a table lacks or has under another type. -/
def TableDef.conflict? (d : TableDef) (t : Table) : Option StoreError :=
  d.columns.findSome? fun c =>
    match t.columns.find? fun a => Text.sameIgnoringCase a.name c.name with
    | none => some (.missingColumn d.name c.name)
    | some a =>
      if Text.sameIgnoringCase (Text.trim a.type.text) (Text.trim c.type) then none
      else some (.typeMismatch d.name c.name c.type a.type.text)

namespace Connection

/-- Creates a declared table, or checks the one that is there. Types and constraints of the declaration
are part of the text that is run, whatever stands in them. -/
@[irreducible] def reconcileTable (c : Connection) (d : TableDef) : Except StoreError Unit × Connection :=
  match Statement.infoTable (infoSql d.name) with
  | .error e => (.error (.ofSql e), c)
  | .ok name =>
    match c.tables.find? name with
    | none =>
      let (result, c) := c.runText d.createSql
      (result.mapError .sql, c)
    | some t =>
      match d.conflict? t with
      | some e => (.error e, c)
      | none => (.ok (), c)

/-- Reconciles declarations in order. What an earlier one created stays when a later one fails. -/
def reconcile (c : Connection) : List TableDef → Except StoreError Unit × Connection
  | [] => (.ok (), c)
  | d :: rest =>
    match c.reconcileTable d with
    | (.error e, c) => (.error e, c)
    | (.ok (), c) => c.reconcile rest

end Connection

structure Database where
  conn : Option Connection := none
  declared : List TableDef := []
  /-- The files that hold committed tables, by path. -/
  files : Members Tables := []
  /-- Directories that do not exist, so that nothing in them can be opened. -/
  missing : List String := []
  /-- How storage fails the next statements that are run for the program and the steps that end its
  transactions, one after the other. Where nothing is listed it works, as it does while a store is opened and
  declared tables are created. -/
  mishaps : List (Option Failure) := []

namespace Database

def isOpen (db : Database) : Bool := db.conn.isSome

def inTransaction (db : Database) : Bool :=
  match db.conn with
  | some c => c.inTransaction
  | none => false

/-- Drops the connection; its file keeps what has been committed. -/
def close (db : Database) : Database :=
  match db.conn with
  | none => db
  | some c =>
    match c.file with
    | none => { db with conn := none }
    | some path => { db with conn := none, files := Members.set path c.committed db.files }

/-- A new connection to a file, or to a store of its own for the names that ask for none. -/
def connect (db : Database) (path : String) : Except SqlError Connection :=
  if path = "" ∨ path = ":memory:" then .ok {}
  else
    match path.toList.findIdx? (· = '\x00') with
    | some i => .error (.nullCharacter (String.ofList (path.toList.take i)).utf8ByteSize)
    | none =>
      if db.missing.any fun dir => (dir ++ "/").toList.isPrefixOf path.toList then
        .error (.cannotOpen path)
      else .ok { file := some path, tables := (Members.get? path db.files).getD [] }

/-- Opens a store in place of the present one, and reconciles every table declared so far. If that
fails, no store is open. -/
def opened (db : Database) (path : String) : Except StoreError Unit × Database :=
  let db := db.close
  match db.connect path with
  | .error e => (.error (.ofSql e), db)
  | .ok c =>
    match c.reconcile db.declared with
    | (.ok (), c) => (.ok (), { db with conn := some c })
    | (.error e, c) => (.error e, { db with conn := some c }.close)

/-- Records a declaration in the place of an earlier one of its name. -/
def record (d : TableDef) : List TableDef → List TableDef
  | [] => [d]
  | e :: rest => if e.name = d.name then d :: rest else e :: record d rest

/-- Declares a batch of tables, reconciled at once if a store is open. A batch that fails is not
recorded. -/
def register (db : Database) (batch : String) : Except StoreError Unit × Database :=
  match Declaration.parseBatch batch with
  | .error f => (.error (.batch f), db)
  | .ok defs =>
    let declared := defs.foldl (fun ds d => record d ds) db.declared
    match db.conn with
    | none => (.ok (), { db with declared })
    | some c =>
      match c.reconcile defs with
      | (.ok (), c) => (.ok (), { db with conn := some c, declared })
      | (.error e, c) => (.error e, { db with conn := some c })

def bindParams : Value → Except StoreError (List Datum)
  | .undefined => .ok []
  | .null => .ok []
  | .array items => .ok (items.map Datum.ofValue)
  | v => .error (.badParams v.kind)

/-- As many data as the statement takes. Of a longer list only one datum too many is counted. -/
def checkParams (needed : Nat) (params : List Datum) : Except StoreError Unit :=
  if params.length = needed then .ok ()
  else .error (.ofSql (.paramCount (min params.length (needed + 1)) needed))

/-- The object of a result row, by lower-case column names in ascending order. -/
def rowValue (names : List String) (r : Row) : Value :=
  .object (Members.sorted (Members.ofPairs (names.zip (r.cells.map Datum.toValue))))

/-- Runs a plan on the open connection, as storage allows. -/
def run (db : Database) (c : Connection) (params : List Datum) (p : Plan) :
    Except StoreError (List Row) × Database :=
  let (result, c) := c.attempt db.mishaps.head?.join params p
  (result.mapError .sql, { db with conn := some c, mishaps := db.mishaps.tail })

/-- How many rows the last statement that changes rows has changed. -/
def changes (db : Database) : Nat := (db.conn.map Connection.changes).getD 0

/-- The column names and rows of a query. -/
def rows (db : Database) (sql : String) (params : Value) :
    Except StoreError (List String × List Value) × Database :=
  match db.conn with
  | none => (.error .notOpen, db)
  | some c =>
    let prepared : Except StoreError (Prepared × List Datum) := do
      let p ← (prepare c.tables sql).mapError .ofSql
      let data ← bindParams params
      checkParams p.params data
      return (p, data)
    match prepared with
    | .error e => (.error e, db)
    | .ok (p, data) =>
      let names := p.plan.columnNames.map Text.lowercase
      let (result, db) := db.run c data p.plan
      (result.map fun rs => (names, rs.map (rowValue names)), db)

/-- What a query makes of its columns and rows. -/
def answer (db : Database) (sql : String) (params : Value)
    (f : List String → List Value → Except StoreError Value) : Except StoreError Value × Database :=
  let (result, db) := db.rows sql params
  (result.bind fun (names, rs) => f names rs, db)

/-- Columns and rows as one object. -/
def exec (db : Database) (sql : String) (params : Value) : Except StoreError Value × Database :=
  db.answer sql params fun names rs =>
    .ok (.object [("columns", .array (names.map .string)), ("rows", .array rs)])

def query (db : Database) (sql : String) (params : Value) : Except StoreError Value × Database :=
  db.answer sql params fun _ rs => .ok (.array rs)

/-- The only row. -/
def fetchOne (db : Database) (sql : String) (params : Value) : Except StoreError Value × Database :=
  db.answer sql params fun
    | _, [r] => .ok r
    | _, rs => .error (.rowCount rs.length)

/-- The only row, or null if there is none. -/
def fetchOptional (db : Database) (sql : String) (params : Value) :
    Except StoreError Value × Database :=
  db.answer sql params fun
    | _, [] => .ok .null
    | _, [r] => .ok r
    | _, rs => .error (.tooManyRows rs.length)

/-- Runs a statement for its effect, and tells how many rows changed. -/
def execute (db : Database) (sql : String) (params : Value) : Except StoreError Value × Database :=
  match db.conn with
  | none => (.error .notOpen, db)
  | some c =>
    let prepared : Except StoreError (Prepared × List Datum) := do
      let data ← bindParams params
      let p ← (prepare c.tables sql).mapError .ofSql
      checkParams p.params data
      return (p, data)
    match prepared with
    | .error e => (.error e, db)
    | .ok (p, data) =>
      match db.run c data p.plan with
      | (.error e, db) => (.error e, db)
      | (.ok [], db) => (.ok (.object [("changes", .integer (Int64.ofInt db.changes))]), db)
      | (.ok _, db) => (.error (.ofSql .returnedRows), db)

/-- Begins a transaction. Nothing happens while no store is open. -/
def begin (db : Database) : Except StoreError Unit × Database :=
  match db.conn with
  | none => (.ok (), db)
  | some c =>
    match c.begin with
    | .ok c => (.ok (), { db with conn := some c })
    | .error _ => (.error .nestedTransaction, db)

/-- Ends the open transaction, if there is one, by the given step. -/
def finish (db : Database) (step : Plan) : Except StoreError Unit × Database :=
  match db.conn with
  | none => (.ok (), db)
  | some c =>
    if c.inTransaction then
      let (result, db) := db.run c [] step
      (result.map fun _ => (), db)
    else (.ok (), db)

def commit (db : Database) : Except StoreError Unit × Database := db.finish .commit

def rollback (db : Database) : Except StoreError Unit × Database := db.finish .rollback

end Database
end GuestHost.Store
