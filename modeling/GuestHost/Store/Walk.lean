import GuestHost.Store.Table
/-!
The order in which the rows of a table are visited. A column without repetitions comes with an index: its
cells in ascending order, or in descending one, each with the number of its row. A query that asks for this
order is answered along the index, and so is one that needs nothing which the index does not hold, if the
index is narrower than the table. It shows where rows are alike to the query, and where no order is asked for.
-/
namespace GuestHost.Store

inductive Walk where
  | byNumber
  /-- Along the index of a column, forward or backward. Null cells are the least; equal ones follow their
  numbers in the index. -/
  | byColumn (index : Nat) (backward : Bool)
  deriving DecidableEq, Repr

/-- Ten times the binary logarithm of a number, to the next tenth below. -/
def logTenths (n : Nat) : Nat :=
  if n < 2 then 0
  else
    let k := n.log2
    ([0, 2, 3, 5, 6, 7, 8, 9][n * 8 / Nat.pow 2 k % 8]?).getD 0 + 10 * k

namespace Table

/-- Whether the index of a column is descending. -/
def descends (t : Table) (i : Nat) : Bool := (t.columns[i]?.map Column.descending).getD false

def rowsAlong (t : Table) : Walk → List Row
  | .byNumber => t.rows.reverse
  | .byColumn i backward =>
    let last : Ordering := if t.descends i then .lt else .gt
    let entries := t.rows.reverse.mergeSort fun r s => (r.cell i).compare (s.cell i) != last
    if backward then entries.reverse else entries

/-- The size of a row, on the scale of `logTenths`. -/
def rowSize (t : Table) : Nat :=
  let cells := t.columns.foldl (fun n c => n + c.type.width) 0
  logTenths (4 * (if t.numberColumn.isSome then cells else cells + 1))

/-- The size of a row of the index of a column: the cell and the number. -/
def entrySize (c : Column) : Nat := logTenths (4 * (c.type.width + 1))

/-- The work of reading an entry in the place of a row. -/
def entryCost (t : Table) (c : Column) : Nat := 15 * entrySize c / t.rowSize

/-- Whether the index of a column holds all of some columns. -/
def covers (t : Table) (i : Nat) (used : List Nat) : Bool :=
  used.all fun j => j == i || t.numberColumn == some j

/-- The index that is read in place of the table: the one of least work, of several the latest. -/
def coveringWalk (t : Table) (used : List Nat) : Walk :=
  let found := t.columns.zipIdx.foldl (fun best (c, i) =>
    if c.unique && t.covers i used && entrySize c < t.rowSize then
      match best with
      | some (cost, j) => if cost < t.entryCost c then some (cost, j) else some (t.entryCost c, i)
      | none => some (t.entryCost c, i)
    else best) (none : Option (Nat × Nat))
  match found with
  | some (_, i) => .byColumn i false
  | none => .byNumber

/-- The walk that brings the rows in the order of a column, if there is one. -/
def columnWalk? (t : Table) (i : Nat) (descending : Bool) : Option Walk :=
  if t.numberColumn = some i then some .byNumber
  else if (t.columns[i]?.map Column.unique).getD false then some (.byColumn i (descending != t.descends i))
  else none

end Table
end GuestHost.Store
