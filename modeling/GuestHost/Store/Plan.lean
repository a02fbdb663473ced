import GuestHost.Store.Statement
/-!
Plans: statements checked against the tables that are there. Making a plan changes nothing.
-/
namespace GuestHost.Store

/-- A value for a place of a row. -/
structure Assignment where
  target : Target
  value : Scalar
  deriving DecidableEq

inductive Plan where
  | nothing
  /-- A statement that finds nothing left to do. -/
  | idle
  | create (table : Table)
  | drop (name : String)
  | insert (table : String) (rows : List (List Assignment))
  | query (q : Query) (names : List String)
  | update (table : String) (sets : List Assignment) (tests : List Scalar)
  | delete (table : String) (tests : List Scalar)
  | begin
  | commit
  | rollback
  deriving DecidableEq

namespace Assignment

/-- The assignments to one place. -/
def targeting (g : Target) (row : List Assignment) : List Assignment := row.filter fun a => a.target == g

/-- The values that count for a new row: for each column the first one given, then the last row number. -/
def ofNewRow (t : Table) (row : List Assignment) : List Scalar :=
  ((t.columns.zipIdx.flatMap fun (_, i) => (targeting (.cell i) row).head?.toList) ++
    (targeting .number row).getLast?.toList).map value

/-- The values that count for a changed row: the last row number, then the last value of each column. -/
def ofChange (t : Table) (row : List Assignment) : List Scalar :=
  ((targeting .number row).getLast?.toList ++
    t.columns.zipIdx.flatMap fun (_, i) => (targeting (.cell i) row).getLast?.toList).map value

end Assignment

namespace Plan

def wantTable (tables : Tables) (name : String) : Except SqlError Table :=
  match tables.find? name with
  | some t => .ok t
  | none => .error (.noTable name)

def isAutoincrement : Constraint → Bool
  | .primaryKey _ auto => auto
  | _ => false

def defaultOf (ks : List Constraint) : Datum :=
  ks.foldl (fun d k => match k with | .default e => e | _ => d) .null

/-- The constraints of a column that come with an index; the first makes it. -/
def indexed (c : ColumnSpec) : List Constraint :=
  c.constraints.filter fun k => k == .unique || (ColumnSpec.isPrimary k && !c.showsNumber)

def column (c : ColumnSpec) : Column where
  name := c.name
  type := c.type
  notNull := c.constraints.contains .notNull
  unique := !(indexed c).isEmpty
  descending := (indexed c).head?.any fun
    | .primaryKey down _ => down
    | _ => false
  default := defaultOf c.constraints

def newTable (name : String) (columns : List ColumnSpec) : Table where
  name := name
  columns := columns.map column
  numberColumn := columns.findIdx? ColumnSpec.showsNumber
  ascending := columns.any fun c => c.constraints.any isAutoincrement

/-- Throws the last of some faults. -/
def refuse (faults : List SqlError) : Except SqlError Unit :=
  match faults.getLast? with
  | some e => .error e
  | none => .ok ()

/-- Where the values of an insertion go. -/
def insertTargets (name : String) (t : Table) (columns : Option (List String)) :
    Except SqlError (List Target) :=
  match columns with
  | none => .ok (t.columns.filterMap fun c => t.target? c.name)
  | some names => names.mapM fun n =>
    match t.target? n with
    | some g => .ok g
    | none => .error (.noInsertColumn name n)

/-- The values of groups of rows, which are looked up from the last group to the first, each with the
number of its values. Only a row alone may hold no count. -/
def groupValues (sql : String) (alone : Bool) : List RowGroup → Except SqlError (List (List Scalar))
  | [] => .ok []
  | g :: rest => do
    let later ← groupValues sql alone rest
    let rows ← (g.first :: g.rest).mapM fun row =>
      row.mapM (({ counting := !alone } : Scope).resolve sql)
    match later with
    | next :: _ => if next.length ≠ g.first.length then throw .unevenValues
    | [] => pure ()
    return rows ++ later

def insertion (sql : String) (tables : Tables) (name : String) (columns : Option (List String))
    (groups : List RowGroup) : Except SqlError Plan := do
  let t ← wantTable tables name
  let targets ← insertTargets name t columns
  let rows ← groupValues sql (groups.length = 1) groups
  let width := (rows.head?.map List.length).getD 0
  if width ≠ targets.length then
    match columns with
    | none => throw (.tableValueCount name targets.length width)
    | some names => throw (.valueCount width names.length)
  let assigned := rows.map fun vs => (targets.zip vs).map fun (g, v) => ⟨g, v⟩
  let computed :=
    if rows.length = 1 then assigned.flatMap (Assignment.ofNewRow t) else rows.flatten
  let counting := groups.any fun g => !g.rest.isEmpty
  refuse (computed.flatMap (Scalar.faults sql counting))
  return .insert name assigned

/-- The assignments of a change, each checked for its value before its column. -/
def assignments (sql : String) (s : Scope) (t : Table) :
    List (String × Expr) → Except SqlError (List Assignment)
  | [] => .ok []
  | (name, e) :: rest => do
    let v ← s.resolve sql e
    match t.target? name with
    | some g => return ⟨g, v⟩ :: (← assignments sql s t rest)
    | none => throw (.noColumn name none)

def selection (sql : String) (tables : Tables) (s : Select) : Except SqlError Plan := do
  let _ ← s.columnNames tables
  let (q, results) ← s.resolve sql tables
  refuse (q.faults sql)
  return .query (q.planned tables) (results.map Result.name)

def change (sql : String) (tables : Tables) (name : String) (sets : List (String × Expr))
    (condition : Option Expr) : Except SqlError Plan := do
  if maxColumns < sets.length then throw .tooManySets
  let t ← wantTable tables name
  let s := Scope.ofTable name t
  let assigned ← assignments sql s t sets
  let tests ← s.resolveTests sql condition
  refuse ((tests ++ Assignment.ofChange t assigned).flatMap (Scalar.faults sql true))
  return .update name assigned tests

def deletion (sql : String) (tables : Tables) (name : String) (condition : Option Expr) :
    Except SqlError Plan := do
  let t ← wantTable tables name
  let tests ← (Scope.ofTable name t).resolveTests sql condition
  refuse (tests.flatMap (Scalar.faults sql true))
  return .delete name tests

def ofStatement (sql : String) (tables : Tables) : Statement → Except SqlError Plan
  | .empty => .ok .nothing
  | .createTable name _ columns =>
    if (tables.find? name).isSome then .ok .idle else .ok (.create (newTable name columns))
  | .dropTable name ifPresent =>
    if (tables.find? name).isSome then .ok (.drop name)
    else if ifPresent then .ok .idle
    else .error (.noTable name)
  | .insert table columns rows => insertion sql tables table columns rows
  | .select s => selection sql tables s
  | .update table sets condition => change sql tables table sets condition
  | .delete table condition => deletion sql tables table condition
  | .begin => .ok .begin
  | .commit => .ok .commit
  | .rollback => .ok .rollback

/-- The names of the result columns. -/
def columnNames : Plan → List String
  | query _ names => names
  | _ => []

end Plan

/-- A statement ready to run, how many parameters it takes, and the text that follows it. -/
structure Prepared where
  plan : Plan
  params : Nat
  rest : String

/-- Prepares the first statement of a text. -/
def prepare (tables : Tables) (sql : String) : Except SqlError Prepared := do
  let r ← Statement.parse (fun name => (tables.find? name).isSome) sql
  return ⟨← Plan.ofStatement sql tables r.statement, r.params, r.rest⟩

end GuestHost.Store
