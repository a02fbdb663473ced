import GuestHost.Store.ColumnType
import GuestHost.Store.Error
/-!
Tables and their rows. Every row has a number, and no two rows of a table have the same one. Rows stand by
descending number, so that a new row, whose number is mostly the greatest, goes to the front. One column may
show the number instead of a cell of its own.
-/
namespace GuestHost.Store

structure Column where
  name : String
  type : ColumnType
  notNull : Bool := false
  unique : Bool := false
  /-- Whether the index of a column without repetitions begins with the greatest cell. -/
  descending : Bool := false
  default : Datum := .null
  deriving DecidableEq

structure Row where
  number : Int
  cells : List Datum
  deriving DecidableEq

structure Table where
  name : String
  columns : List Column
  /-- The column that shows the numbers of the rows. -/
  numberColumn : Option Nat := none
  /-- Whether a number is never given out again; `lastNumber` is then the greatest one so far. -/
  ascending : Bool := false
  lastNumber : Int := 0
  rows : List Row := []
  deriving DecidableEq

/-- Where a value of a new or changed row goes. -/
inductive Target where
  | number
  | cell (index : Nat)
  deriving DecidableEq, Repr

/-- Names that stand for the number of a row wherever no column has them. -/
def isRowNumber (name : String) : Bool :=
  ["rowid", "oid", "_rowid_"].contains (Text.asciiLower name)

def Row.cell (r : Row) (i : Nat) : Datum := r.cells[i]?.getD .null

/-- Whether one of the rows has a number. -/
def hasRow (n : Int) : List Row → Bool
  | [] => false
  | q :: rest => q.number == n || (n < q.number && hasRow n rest)

/-- Puts a row where its number belongs, in the place of the row of that number if there is one. -/
def putRow (r : Row) : List Row → List Row
  | [] => [r]
  | q :: rest =>
    if q.number < r.number then r :: q :: rest
    else if q.number = r.number then r :: rest
    else q :: putRow r rest

/-- The rows without the one of a number. -/
def removeRow (n : Int) : List Row → List Row
  | [] => []
  | q :: rest => if q.number = n then rest else q :: removeRow n rest

namespace Table

def columnIndex? (t : Table) (name : String) : Option Nat :=
  t.columns.findIdx? fun c => Text.sameIgnoringCase c.name name

/-- What a column name means as the target of a value. -/
def target? (t : Table) (name : String) : Option Target :=
  match t.columnIndex? name with
  | some i => some (if t.numberColumn = some i then .number else .cell i)
  | none => if isRowNumber name then some .number else none

/-- The name under which the number of a row is shown. -/
def numberName (t : Table) : String :=
  ((t.numberColumn.bind fun i => t.columns[i]?).map Column.name).getD "rowid"

/-- The number of the next row: one more than the greatest. If there is none greater it is any free one,
and a table that gives none out again has run out of them. -/
def nextNumber (t : Table) : Except SqlError Int :=
  let last := (t.rows.head?.map Row.number).getD 0
  let last := if t.ascending then max last t.lastNumber else last
  if last < maxInteger then .ok (last + 1)
  else if t.ascending then .error .full
  else
    let free (n : Nat) : Bool := t.rows.all fun r => r.number ≠ (n : Int) + 1
    .ok ((((List.range (t.rows.length + 1)).find? free).getD 0 : Nat) + 1)

/-- A row number asked for by a datum; null leaves the choice to the table. -/
def number? (d : Datum) : Except SqlError (Option Int) :=
  match d.toNumber.toWhole with
  | .null => .ok none
  | .integer n => .ok (some n)
  | _ => .error .datatypeMismatch

/-- The row that some data make in this table. -/
def row (t : Table) (number : Int) (data : List Datum) : Row :=
  let cells := t.columns.zipIdx.map fun (c, i) =>
    if t.numberColumn = some i then .integer number
    else (data[i]?.getD .null).adapt c.type.affinity
  ⟨number, cells⟩

/-- The first rule of the table that a row would break, in the place of `old` if it has one: cells that may
not be null, then the number, then the columns without repetitions from the last to the first. -/
def violation? (t : Table) (old : Option Int) (r : Row) : Option SqlError :=
  let columns := t.columns.zipIdx
  let missing := columns.find? fun (c, i) => c.notNull && r.cell i == .null
  let repeated := columns.reverse.find? fun (c, i) =>
    c.unique && t.rows.any fun q => (q.cell i).same (r.cell i) && old != some q.number
  match missing with
  | some (c, _) => some (.notNull t.name c.name)
  | none =>
    if old != some r.number && hasRow r.number t.rows then some (.unique t.name t.numberName)
    else repeated.map fun (c, _) => .unique t.name c.name

def insert (t : Table) (number : Datum) (data : List Datum) : Except SqlError Table := do
  let n ← match ← number? number with
    | some n => pure n
    | none => t.nextNumber
  let r := t.row n data
  match t.violation? none r with
  | some e => throw e
  | none =>
    return { t with rows := putRow r t.rows, lastNumber := max t.lastNumber n }

/-- Puts another row in the place of `old`. Without a new number the row keeps its own. -/
def replace (t : Table) (old : Row) (number : Option Datum) (data : List Datum) :
    Except SqlError Table := do
  let n ← match number with
    | none => pure old.number
    | some d =>
      match ← number? d with
      | some n => pure n
      | none => throw .datatypeMismatch
  let r := t.row n data
  match t.violation? (some old.number) r with
  | some e => throw e
  | none =>
    let others := if n = old.number then t.rows else removeRow old.number t.rows
    return { t with rows := putRow r others }

/-- The values that a new row has where none is given. -/
def defaults (t : Table) : List Datum := t.columns.map Column.default

end Table

abbrev Tables := List Table

namespace Tables

/-- Letter case does not tell tables apart. -/
def find? (ts : Tables) (name : String) : Option Table :=
  List.find? (fun t => Text.sameIgnoringCase t.name name) ts

def put (t : Table) : Tables → Tables
  | [] => [t]
  | s :: rest => if Text.sameIgnoringCase s.name t.name then t :: rest else s :: put t rest

def remove (ts : Tables) (name : String) : Tables :=
  ts.filter fun t => !Text.sameIgnoringCase t.name name

end Tables
end GuestHost.Store
