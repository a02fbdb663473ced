import GuestHost.Store.ColumnType
import GuestHost.Store.Token
/-!
Statements as they are written, before any name in them has been looked up.
-/
namespace GuestHost.Store

inductive Expr where
  | literal (d : Datum)
  /-- A number and its place. -/
  | number (n : Number) (offset : Nat)
  | param (index : Nat)
  /-- A column, perhaps of a named table, and its place. A name in double quotes that is no column is a
  text. -/
  | column (table : Option String) (name : String) (quote : Quote) (offset : Nat)
  | negate (e : Expr)
  /-- A plus sign in front changes nothing but that the term is no column any more. -/
  | plus (e : Expr)
  | equal (l r : Expr)
  /-- The number of rows, with the word that asks for it and its place. -/
  | count (word : String) (offset : Nat)

namespace Expr

/-- Whether a term is made of others. -/
def hasParts : Expr → Bool
  | .negate _ => true
  | .plus _ => true
  | .equal _ _ => true
  | _ => false

/-- A minus or plus sign in front of a term takes the place of a plus sign that the term has. -/
def signed (minus : Bool) (e : Expr) : Expr :=
  let inner := match e with
    | .plus f => f
    | e => e
  if minus then .negate inner else .plus inner

/-- The small integer that a term spells, signs and all. -/
def small? : Expr → Option Int
  | .number n _ =>
    match n.integer? false with
    | some k => if 0 ≤ k ∧ k ≤ 0x7FFFFFFF then some k else none
    | none => none
  | .negate e => e.small?.map fun k => -k
  | .plus e => e.small?
  | _ => none

/-- The place of the first part of a term that has one. -/
def offset? : Expr → Option Nat
  | .number _ offset => some offset
  | .column _ _ _ offset => some offset
  | .count _ offset => some offset
  | .negate e => e.offset?
  | .plus e => e.offset?
  | .equal l _ => l.offset?
  | _ => none

end Expr

/-- A result column and the text it takes its name from, which reaches up to the next token. -/
inductive ResultItem where
  | all
  /-- Every column of a named table. -/
  | allOf (table : String)
  | term (e : Expr) (label : Option String) (text : String)

structure OrderTerm where
  term : Expr
  descending : Bool

mutual

inductive Select where
  | mk (items : List ResultItem) (source : Source) (condition : Option Expr) (order : List OrderTerm)

inductive Source where
  | nowhere
  | table (name : String) (label : Option String)
  | query (s : Select) (label : Option String)

end

inductive Constraint where
  | primaryKey (descending autoincrement : Bool)
  | notNull
  | nullable
  | unique
  | default (d : Datum)
  deriving DecidableEq

structure ColumnSpec where
  name : String
  type : ColumnType
  constraints : List Constraint

/-- Rows of values that are read in one go: behind the first row stand only rows of constants. -/
structure RowGroup where
  first : List Expr
  rest : List (List Expr)

inductive Statement where
  | empty
  | createTable (name : String) (ifAbsent : Bool) (columns : List ColumnSpec)
  | dropTable (name : String) (ifPresent : Bool)
  | insert (table : String) (columns : Option (List String)) (rows : List RowGroup)
  | select (s : Select)
  | update (table : String) (sets : List (String × Expr)) (condition : Option Expr)
  | delete (table : String) (condition : Option Expr)
  | begin
  | commit
  | rollback

end GuestHost.Store
