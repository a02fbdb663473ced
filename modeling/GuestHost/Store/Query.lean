import GuestHost.Store.Walk
/-!
Queries whose names have been resolved: what they read, and the rows they give.
-/
namespace GuestHost.Store

/-- A term over the cells of one row. -/
inductive Scalar where
  | literal (d : Datum)
  /-- A number in base sixteen that is no word, with the text that shows it and its place. -/
  | oversized (shown : String) (offset : Nat)
  | param (index : Nat)
  | column (index : Nat) (affinity : Option Affinity)
  | number
  | negate (s : Scalar)
  | plus (s : Scalar)
  | equal (l r : Scalar)
  /-- How many rows there are, with the word that asks for it and its place. -/
  | count (word : String) (offset : Nat)
  deriving DecidableEq

namespace Scalar

def affinity : Scalar → Option Affinity
  | column _ a => a
  | number => some .integer
  | _ => none

/-- The affinity under which two terms are compared. -/
def commonAffinity (l r : Scalar) : Affinity :=
  match l.affinity, r.affinity with
  | some a, some b => if a.isNumeric || b.isNumeric then .numeric else .blob
  | some a, none => a
  | none, some b => b
  | none, none => .blob

/-- Brings two data into comparable classes: numeric columns read text as numbers, and text columns
number beside text as text. -/
def align (a : Affinity) (x y : Datum) : Datum × Datum :=
  if a.isNumeric then (x.toNumber, y.toNumber)
  else if a = .text ∧ (x.rank = 2 ∨ y.rank = 2) then (x.adapt .text, y.adapt .text)
  else (x, y)

/-- The truth value of an equality, null if one side is. -/
def equality (x y : Datum) : Datum :=
  match x, y with
  | .null, _ => .null
  | _, .null => .null
  | x, y => .integer (if x.same y then 1 else 0)

/-- The datum of a term on a row, if there is one, where `total` rows have been selected. -/
def eval (params : List Datum) (total : Nat) (r : Option Row) : Scalar → Datum
  | literal d => d
  | oversized _ _ => .null
  | param i => params[i]?.getD .null
  | column i _ => ((r.map fun q => q.cell i)).getD .null
  | number => ((r.map fun q => Datum.integer q.number)).getD .null
  | negate s => (s.eval params total r).negated
  | plus s => s.eval params total r
  | equal a b =>
    let (x, y) := align (commonAffinity a b) (a.eval params total r) (b.eval params total r)
    equality x y
  | count _ _ => .integer total

/-- The parts of a term that have no parts of their own. -/
def leaves : Scalar → List Scalar
  | negate s => s.leaves
  | plus s => s.leaves
  | equal l r => l.leaves ++ r.leaves
  | s => [s]

/-- The columns of a row that a term looks at. -/
def columns (s : Scalar) : List Nat :=
  s.leaves.filterMap fun
    | column i _ => some i
    | _ => none

def isCount : Scalar → Bool
  | count _ _ => true
  | _ => false

def counts (s : Scalar) : Bool := s.leaves.any isCount

/-- A term without columns. -/
def isConstant (s : Scalar) : Bool :=
  s.leaves.all fun
    | column _ _ => false
    | number => false
    | count _ _ => false
    | _ => true

/-- Puts other terms in the place of the columns. -/
def subst (values : List Scalar) : Scalar → Scalar
  | column i a => (values[i]?).getD (column i a)
  | negate s => negate (s.subst values)
  | plus s => plus (s.subst values)
  | equal l r => equal (l.subst values) (r.subst values)
  | s => s

end Scalar

namespace Scalar

/-- What is wrong with a term when it comes to be computed. -/
def faults (sql : String) (counting : Bool) (s : Scalar) : List SqlError :=
  s.leaves.filterMap fun
    | oversized shown offset => some (.oversized shown ⟨sql, offset⟩)
    | count word offset => if counting then none else some (.misplacedCount word false ⟨sql, offset⟩)
    | _ => none

end Scalar

/-- Whether a row passes all tests. -/
def passes (params : List Datum) (tests : List Scalar) (r : Row) : Bool :=
  tests.all fun t => (t.eval params 0 (some r)).isTrue

structure Output where
  name : String
  value : Scalar
  deriving DecidableEq

structure SortKey where
  value : Scalar
  descending : Bool
  deriving DecidableEq

inductive Query where
  /-- One row without cells. -/
  | single
  | table (name : String) (walk : Walk)
  | select (source : Query) (tests : List Scalar) (order : List SortKey) (outputs : List Scalar)
  deriving DecidableEq

namespace Query

/-- Whether outputs make one row of all rows. -/
def summarizes (outputs : List Scalar) : Bool := outputs.any Scalar.counts

/-- The columns that the parts of a selection look at. -/
def columnsUsed (tests : List Scalar) (order : List SortKey) (outputs : List Scalar) : List Nat :=
  (tests ++ order.map SortKey.value ++ outputs).flatMap Scalar.columns

/-- A selection from a source. What a selection takes from another one it takes from the source of that one
directly, and an order inside counts only where there is none outside. A source that sums up its rows
stays apart, and one whose order decides which row comes first in an outer sum. So does a source without a
table; of its terms only those count that are looked at. -/
def selectFrom (source : Query) (tests : List Scalar) (order : List SortKey) (outputs : List Scalar) :
    Query :=
  match source with
  | select inner innerTests innerOrder values =>
    if summarizes values || (summarizes outputs && order.isEmpty && !innerOrder.isEmpty) then
      select source tests order outputs
    else if inner = single then
      let used := columnsUsed tests order outputs
      let kept := values.zipIdx.map fun (v, i) => if used.contains i then v else .literal .null
      select (select single innerTests [] kept) tests order outputs
    else
      let outer := order.map fun k => { k with value := k.value.subst values }
      selectFrom inner (innerTests ++ tests.map (Scalar.subst values))
        (if order.isEmpty then innerOrder else outer) (outputs.map (Scalar.subst values))
  | source => select source tests order outputs

/-- Whether the rows of a selection come in its order: a sum has one row, and so has a selection without a
source. -/
def sorts (source : Query) (outputs : List Scalar) : Bool := source != single && !summarizes outputs

/-- What is wrong with the terms of a query. An order that sorts nothing does not count. -/
def faults (sql : String) : Query → List SqlError
  | select source tests order outputs =>
    let order := if sorts source outputs then order else []
    source.faults sql ++ tests.flatMap (Scalar.faults sql false) ++
      order.flatMap (fun k => k.value.faults sql false) ++ outputs.flatMap (Scalar.faults sql true)
  | _ => []

/-- The column that an equality ties to a constant. -/
def tied? : Scalar → Option Nat
  | .equal (.column i _) s => if s.isConstant then some i else none
  | .equal s (.column i _) => if s.isConstant then some i else none
  | _ => none

/-- The walk that a selection from a table takes: along its first sort key that is not tied to a constant,
or else where there is least to read. -/
def walk (t : Table) (tests : List Scalar) (order : List SortKey) (outputs : List Scalar) : Walk :=
  let free (k : SortKey) : Bool :=
    match k.value with
    | .column i _ => !(tests.any fun s => tied? s == some i)
    | _ => true
  let first := if summarizes outputs then none else order.find? free
  let ordered := first.bind fun k =>
    match k.value with
    | .column i _ => t.columnWalk? i k.descending
    | .number => some .byNumber
    | _ => none
  ordered.getD (t.coveringWalk (columnsUsed tests order outputs))

/-- The query with a walk for each table that it reads. -/
def planned (tables : Tables) : Query → Query
  | select (table name w) tests order outputs =>
    let w := ((tables.find? name).map fun t => walk t tests order outputs).getD w
    select (table name w) tests order outputs
  | select source tests order outputs => select (source.planned tables) tests order outputs
  | q => q

/-- The order of two rows under sort keys, the first key counting most. -/
def before (params : List Datum) (r s : Row) : List SortKey → Bool
  | [] => true
  | k :: rest =>
    match (k.value.eval params 0 (some r)).compare (k.value.eval params 0 (some s)) with
    | .lt => !k.descending
    | .gt => k.descending
    | .eq => before params r s rest

/-- The rows that outputs make of selected rows. A count makes one row of them all, whose other cells
come from the first. -/
def project (params : List Datum) (outputs : List Scalar) (rows : List Row) : List Row :=
  let total := rows.length
  let make (r : Option Row) : Row := ⟨0, outputs.map fun o => o.eval params total r⟩
  if summarizes outputs then [make rows.head?] else rows.map fun r => make (some r)

/-- The rows of a query, in order. -/
def rows (tables : Tables) (params : List Datum) : Query → List Row
  | single => [⟨0, []⟩]
  | table name walk => ((tables.find? name).map fun t => t.rowsAlong walk).getD []
  | select source tests order outputs =>
    let chosen := (source.rows tables params).filter (passes params tests)
    let ordered :=
      if sorts source outputs then chosen.mergeSort fun r s => before params r s order else chosen
    project params outputs ordered

end Query
end GuestHost.Store
