import GuestHost.Store.Plan
/-!
A connection: the tables it sees, and what has to come back if its transaction is given up.
-/
namespace GuestHost.Store

structure Connection where
  /-- The file that keeps the tables; a connection without one loses them. -/
  file : Option String := none
  tables : Tables := []
  /-- The tables as they were when the open transaction began. -/
  saved : Option Tables := none
  /-- How many rows the last inserting, updating or deleting statement changed. -/
  changes : Nat := 0
  deriving DecidableEq

namespace Connection

def inTransaction (c : Connection) : Bool := c.saved.isSome

/-- The tables that stay when the connection is dropped. -/
def committed (c : Connection) : Tables := c.saved.getD c.tables

def begin (c : Connection) : Except SqlError Connection :=
  match c.saved with
  | some _ => .error .beginInside
  | none => .ok { c with saved := some c.tables }

def commit (c : Connection) : Except SqlError Connection :=
  match c.saved with
  | some _ => .ok { c with saved := none }
  | none => .error .commitOutside

def rollback (c : Connection) : Except SqlError Connection :=
  match c.saved with
  | some ts => .ok { c with tables := ts, saved := none }
  | none => .error .rollbackOutside

/-- What a failing statement leaves: nothing has changed, or the open transaction is gone with all that has
been done in it. -/
def fail (c : Connection) (f : Failure) : Connection :=
  if f.lost then { c with tables := c.committed, saved := none } else c

/-- The value assigned to a place, the first assignment counting. -/
def assigned? (values : List (Target × Datum)) (g : Target) : Option Datum :=
  (values.find? fun v => v.1 = g).map Prod.snd

def evaluate (params : List Datum) (r : Option Row) (row : List Assignment) : List (Target × Datum) :=
  row.map fun a => (a.target, a.value.eval params 1 r)

/-- The data of a row after some assignments. -/
def overwrite (values : List (Target × Datum)) (data : List Datum) : List Datum :=
  data.zipIdx.map fun (d, i) => (assigned? values (.cell i)).getD d

/-- Inserts rows one after the other. Of several numbers for one row the last counts. -/
def insertRows (params : List Datum) (t : Table) (rows : List (List Assignment)) :
    Except SqlError Table :=
  rows.foldlM (fun t row =>
    let values := evaluate params none row
    t.insert ((assigned? values.reverse .number).getD .null) (overwrite values t.defaults)) t

/-- Changes some rows one after the other. Of several values for one place the last counts. -/
def updateRows (params : List Datum) (t : Table) (sets : List Assignment) (chosen : List Row) :
    Except SqlError Table :=
  chosen.foldlM (fun t old =>
    let values := (evaluate params (some old) sets).reverse
    t.replace old (assigned? values .number) (overwrite values old.cells)) t

/-- Whether an insertion can be undone without the rest of its transaction: it is of several rows, and
the table has more to refuse in them than that its numbers have run out. -/
def undoneAlone (t : Table) (rows : List (List Assignment)) : Bool :=
  1 < rows.length &&
    (rows.any (fun row => row.any fun a => a.target = .number) ||
      t.columns.zipIdx.any fun (c, i) => c.unique || (c.notNull && t.numberColumn ≠ some i))

/-- How an insertion fails: a table without numbers left ends the transaction of any that is not undone
alone. -/
def insertFailure (ts : Tables) (name : String) (rows : List (List Assignment)) (e : SqlError) : Failure :=
  { error := e, lost := e = .full && !(ts.find? name).any fun t => undoneAlone t rows }

/-- Takes over a changed table with the number of changed rows. -/
def write (c : Connection) (failure : SqlError → Failure) (result : Except SqlError (Table × Nat)) :
    Except Failure (List Row) × Connection :=
  match result with
  | .ok (t, n) => (.ok [], { c with tables := c.tables.put t, changes := n })
  | .error e => (.error (failure e), { c.fail (failure e) with changes := 0 })

/-- What a step of the transaction leaves. -/
def settle (c : Connection) (result : Except SqlError Connection) :
    Except Failure (List Row) × Connection :=
  match result with
  | .ok d => (.ok [], d)
  | .error e => (.error e, c)

def run (c : Connection) (params : List Datum) : Plan → Except Failure (List Row) × Connection
  | .nothing => (.error SqlError.nothing, c)
  | .idle => (.ok [], c)
  | .create t => (.ok [], { c with tables := c.tables ++ [t] })
  | .drop name => (.ok [], { c with tables := c.tables.remove name })
  | .query q _ => (.ok (q.rows c.tables params), c)
  | .insert name rows =>
    c.write (insertFailure c.tables name rows) do
      let t ← Plan.wantTable c.tables name
      return (← insertRows params t rows, rows.length)
  | .update name sets tests =>
    c.write (fun e => e) do
      let t ← Plan.wantTable c.tables name
      let chosen := (t.rowsAlong .byNumber).filter (passes params tests)
      return (← updateRows params t sets chosen, chosen.length)
  | .delete name tests =>
    c.write (fun e => e) do
      let t ← Plan.wantTable c.tables name
      let kept := t.rows.filter fun r => !passes params tests r
      return ({ t with rows := kept }, t.rows.length - kept.length)
  | .begin => c.settle c.begin
  | .commit => c.settle c.commit
  | .rollback => c.settle c.rollback

/-- Whether storage has a part in the plan. A transaction that begins or is given up leaves it alone. -/
def needsStorage (c : Connection) : Plan → Bool
  | .nothing | .idle | .begin | .rollback => false
  | .commit => c.inTransaction
  | _ => true

/-- What is left when storage fails a plan. -/
def letDown (c : Connection) (f : Failure) : Plan → Connection
  | .insert _ _ | .update _ _ _ | .delete _ _ => { c.fail f with changes := 0 }
  | _ => c.fail f

/-- Runs a plan, unless it needs storage and that has a mishap. -/
def attempt (c : Connection) (mishap : Option Failure) (params : List Datum) (p : Plan) :
    Except Failure (List Row) × Connection :=
  match mishap with
  | some f => if c.needsStorage p then (.error f, c.letDown f p) else c.run params p
  | none => c.run params p

/-- Prepares and runs the statements of a text one after the other, as many as the fuel allows. What
those before a failing one have done stays, unless the transaction is lost. -/
def runEach : Nat → Connection → String → Except Failure Unit × Connection
  | 0, c, _ => (.ok (), c)
  | fuel + 1, c, sql =>
    match prepare c.tables sql with
    | .error e => (.error e, c)
    | .ok p =>
      if p.plan = .nothing then (.ok (), c)
      else
        match c.run [] p.plan with
        | (.error e, c) => (.error e, c)
        | (.ok _, c) => runEach fuel c p.rest

/-- Runs all statements of a text, without parameters. Every statement takes a byte at least. -/
def runText (c : Connection) (sql : String) : Except Failure Unit × Connection :=
  runEach (sql.utf8ByteSize + 1) c sql

end Connection
end GuestHost.Store
