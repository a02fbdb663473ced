import GuestHost.Store.Query
import GuestHost.Store.Syntax
/-!
What the names in a statement stand for, and the queries that the names make.
-/
namespace GuestHost.Store

/-- No list of columns is longer. -/
def maxColumns : Nat := 2000

/-- What the names in a term can stand for. -/
structure Scope where
  table : Option String := none
  columns : List (String × Option Affinity) := []
  /-- The name that the row number shows under, if rows have numbers. -/
  numberName : Option String := none
  /-- The labels of results, which count where no column has the name. -/
  labels : List (String × Scalar) := []
  /-- Whether rows may be counted. -/
  counting : Bool := false

namespace Scope

def ofTable (written : String) (t : Table) : Scope where
  table := some written
  columns := t.columns.map fun c => (c.name, some c.type.affinity)
  numberName := some t.numberName

def index? (s : Scope) (name : String) : Option Nat :=
  s.columns.findIdx? fun c => Text.sameIgnoringCase c.1 name

def column? (s : Scope) (name : String) : Option Scalar :=
  match s.index? name with
  | some i => some (.column i ((s.columns[i]?.map Prod.snd).getD none))
  | none => if s.numberName.isSome && isRowNumber name then some .number else none

def label? (s : Scope) (name : String) : Option Scalar :=
  (s.labels.find? fun l => Text.sameIgnoringCase l.1 name).map Prod.snd

/-- Bare words that are no column may still be truth values. -/
def truth? (name : String) : Option Datum :=
  if Text.asciiLower name = "true" then some (.integer 1)
  else if Text.asciiLower name = "false" then some (.integer 0)
  else none

/-- A name of its own: a column, a label, or in the quotes for it a text or as a bare word a truth value. -/
def bareName? (s : Scope) (name : String) (quote : Quote) : Option Scalar :=
  match s.column? name, s.label? name, quote with
  | some c, _, _ => some c
  | none, some v, _ => some v
  | none, none, .double => some (.literal (.text name))
  | none, none, .bare => (truth? name).map .literal
  | none, none, .other => none

/-- A number, with a minus sign or without. -/
def numberTerm (negative : Bool) (n : Number) (offset : Nat) : Scalar :=
  match Datum.ofNumber? negative n, n with
  | some d, _ => .literal d
  | none, .hex _ raw => .oversized (if negative then "-" ++ raw else raw) offset
  | none, .decimal _ => .literal .null

/-- A term with the columns and values that its names stand for. A misplaced count does not end the
search: a name or a count that is wrong beside it is told in its stead. -/
def resolve (sql : String) (s : Scope) : Expr → Except SqlError Scalar
  | .literal d => .ok (.literal d)
  | .number n offset => .ok (numberTerm false n offset)
  | .param i => .ok (.param i)
  | .negate (.number n offset) => .ok (numberTerm true n offset)
  | .negate e => (resolve sql s e).map .negate
  | .plus e => (resolve sql s e).map .plus
  | .equal l r =>
    match resolve sql s l, resolve sql s r with
    | .ok a, .ok b => .ok (.equal a b)
    | .error (.misplacedCount word early p), .error e =>
      .error (if r.hasParts then .misplacedCount word early p else e)
    | .error e, _ => .error e
    | .ok _, .error e => .error e
  | .count word offset =>
    if s.counting then .ok (.count word offset)
    else .error (.misplacedCount word true ⟨sql, offset⟩)
  | .column (some table) name _ offset =>
    let here := s.table.any (Text.sameIgnoringCase table)
    match if here then s.column? name else none with
    | some c => .ok c
    | none => .error (.noColumn (table ++ "." ++ name) (some ⟨sql, offset⟩))
  | .column none name quote offset =>
    match s.bareName? name quote with
    | some v => .ok v
    | none => .error (.noColumn name (some ⟨sql, offset⟩))

def resolveTests (sql : String) (s : Scope) (condition : Option Expr) : Except SqlError (List Scalar) :=
  match condition with
  | none => .ok []
  | some e => (s.resolve sql e).map fun v => [v]

/-- The name of a result: its label, the name of the column it is, or the text of the term. -/
def resultName (s : Scope) (value : Scalar) (label : Option String) (text : String) : String :=
  match label, value with
  | some a, _ => a
  | none, .column i _ => ((s.columns[i]?).map Prod.fst).getD text
  | none, .number => s.numberName.getD text
  | none, _ => text

end Scope

/-- A result column; `labelled` says whether other terms may use its name. -/
structure Result where
  name : String
  value : Scalar
  labelled : Bool
  deriving DecidableEq

namespace Scope

def everyColumn (s : Scope) : List Result :=
  s.columns.zipIdx.map fun (c, i) => ⟨c.1, .column i c.2, true⟩

def resolveItems (sql : String) (s : Scope) : List ResultItem → Except SqlError (List Result)
  | [] => .ok []
  | .all :: rest => do
    return s.everyColumn ++ (← resolveItems sql s rest)
  | .allOf _ :: rest => do
    return s.everyColumn ++ (← resolveItems sql s rest)
  | .term e label text :: rest => do
    let value ← s.resolve sql e
    return ⟨s.resultName value label text, value, label.isSome⟩ :: (← resolveItems sql s rest)

/-- A sort key: a label, the position of a result counted from one, or a term of its own. -/
inductive Key where
  | value (s : Scalar)
  | position (n : Nat)

def resolveKey (sql : String) (s : Scope) (width index : Nat) (e : Expr) : Except SqlError Key :=
  let term : Except SqlError Key :=
    match e.small? with
    | some k =>
      if k < 1 ∨ 0xFFFF < k then
        .error (.keyPosition (index + 1) width (e.offset?.map fun o => ⟨sql, o⟩))
      else .ok (.position k.toNat)
    | none => (s.resolve sql e).map .value
  match e with
  | .column none name _ _ =>
    match s.label? name with
    | some v => .ok (.value v)
    | none => term
  | _ => term

/-- The sort keys of a query. Positions are looked up when all keys are known. -/
def resolveOrder (sql : String) (s : Scope) (results : List Result) (order : List OrderTerm) :
    Except SqlError (List SortKey) := do
  let width := results.length
  let keys ← order.zipIdx.mapM fun (t, i) => s.resolveKey sql width i t.term
  if maxColumns < keys.length then throw .tooManyKeys
  (keys.zip order).zipIdx.mapM fun ((k, t), i) =>
    match k with
    | .value v => .ok ⟨v, t.descending⟩
    | .position n =>
      match results[n - 1]? with
      | some r => .ok ⟨r.value, t.descending⟩
      | none => .error (.keyPosition (i + 1) width none)

end Scope

namespace Expr

/-- A term that needs no row. A bare word is one if it is a truth value. -/
def isConstant : Expr → Bool
  | .column none name .bare _ => (Scope.truth? name).isSome
  | .column _ _ _ _ => false
  | .count _ _ => false
  | .negate e => e.isConstant
  | .plus e => e.isConstant
  | .equal l r => l.isConstant && r.isConstant
  | _ => true

def hasParam : Expr → Bool
  | .param _ => true
  | .negate e => e.hasParam
  | .plus e => e.hasParam
  | .equal l r => l.hasParam || r.hasParam
  | _ => false

end Expr

namespace Select

/-- A name without the number that told it apart from an equal one. -/
def baseName (name : String) : String :=
  let behind := (name.toList.reverse.dropWhile isDigit)
  match behind with
  | ':' :: rest => String.ofList rest.reverse
  | _ => name

/-- A name that none of the others has, letter case aside: equal names are numbered from one. After the fourth
number the search goes on from how many names there are. -/
def freshName (others : List String) : Nat → Nat → String → String
  | 0, _, name => name
  | fuel + 1, n, name =>
    if others.any (Text.sameIgnoringCase name) then
      let n := if n < 4 then n + 1 else max (n + 1) others.length
      freshName others fuel n (baseName name ++ ":" ++ toString n)
    else name

/-- Names as an outer query sees them: no truth values, and all different. -/
def distinctNames (names : List String) : List String :=
  names.zipIdx.foldl (fun seen (name, i) =>
    let name := if (Scope.truth? name).isSome then "column" ++ toString (i + 1) else name
    seen ++ [freshName seen (seen.length + 1) 0 name]) []

/-- The name that an outer query knows a term by. -/
def termName (e : Expr) (label : Option String) (text : String) : String :=
  match label, e with
  | some a, _ => a
  | none, .column _ name _ _ => name
  | none, _ => text

mutual

/-- The names of a query's columns. Tables that are not there are found out first, from the innermost query
on. -/
def columnNames (tables : Tables) : Select → Except SqlError (List String)
  | .mk items source _ _ => do
    let (label, names) ← sourceNames tables source
    let lists ← items.mapM fun
      | .all =>
        match names with
        | some ns => .ok ns
        | none => .error .noSource
      | .allOf t =>
        if label.any (Text.sameIgnoringCase t) then .ok (names.getD []) else .error (.noTable t)
      | .term e label text => .ok [termName e label text]
    let all := lists.flatten
    if maxColumns < all.length then throw .tooManyResults
    return all

/-- What a source is called, and its columns, if it has any. -/
def sourceNames (tables : Tables) : Source → Except SqlError (Option String × Option (List String))
  | .nowhere => .ok (none, none)
  | .table name label =>
    match tables.find? name with
    | some t => .ok (some (label.getD name), some (t.columns.map Column.name))
    | none => .error (.noTable name)
  | .query s label => do
    let names ← columnNames tables s
    return (label, some (distinctNames names))

end

/-- The query over a source that a selection makes, with its results. -/
def resolveOver (sql : String) (query : Query) (scope : Scope) (items : List ResultItem)
    (condition : Option Expr) (order : List OrderTerm) : Except SqlError (Query × List Result) := do
  let results ← ({ scope with counting := true } : Scope).resolveItems sql items
  let values := results.map Result.value
  let labels := results.filterMap fun r => if r.labelled then some (r.name, r.value) else none
  let inner := { scope with labels, counting := Query.summarizes values }
  let tests ← inner.resolveTests sql condition
  let keys ← ({ inner with counting := true } : Scope).resolveOrder sql results order
  return (query.selectFrom tests keys values, results)

mutual

/-- A query and its results, once all tables are known to be there. -/
def resolve (sql : String) (tables : Tables) : Select → Except SqlError (Query × List Result)
  | .mk items source condition order => do
    let (query, scope) ← resolveSource sql tables source
    resolveOver sql query scope items condition order

def resolveSource (sql : String) (tables : Tables) : Source → Except SqlError (Query × Scope)
  | .nowhere => .ok (.single, {})
  | .table name label =>
    match tables.find? name with
    | some t => .ok (.table name .byNumber, .ofTable (label.getD name) t)
    | none => .error (.noTable name)
  | .query s label => do
    let names ← columnNames tables s
    let (query, results) ← resolve sql tables s
    let columns := (distinctNames names).zip (results.map fun r => r.value.affinity)
    return (query, { table := label, columns })

end

end Select
end GuestHost.Store
