import GuestHost.Store.Definition
/-!
How statements are read.
-/
namespace GuestHost.Store
namespace Parser

def condition? : Parser (Option Expr) := do
  if ← keyword? "WHERE" then return some (← term) else return none

/-- A table name before a point and a star. -/
def starredTable? : Parser (Option String) := do
  match (← get).tokens with
  | t :: d :: s :: _ =>
    if d.isSymbol "." && s.isSymbol "*" then return t.name? else return none
  | _ => return none

def resultItem : Parser ResultItem := do
  if ← symbol? "*" then return .all
  match ← starredTable? with
  | some table =>
    take
    take
    take
    return .allOf table
  | none =>
    let first ← peek
    let e ← term
    let next ← peek
    let text := (← slice first.start next.start).toList
    return .term e (← label?) (String.ofList (trimSpace text))

def orderTerm : Parser OrderTerm := do
  let e ← term
  return ⟨e, ← descending?⟩

def order : Parser (List OrderTerm) := do
  if ← keyword? "ORDER" then
    keyword "BY"
    commaList orderTerm
  else return []

/-- A query behind its first word, with at most as many queries inside one another as the fuel allows. -/
def select : Nat → Parser Select
  | 0 => fail
  | depth + 1 => do
    let _ ← keyword? "ALL"
    let items ← commaList resultItem
    let source ←
      if ← keyword? "FROM" then
        if ← atSymbol "(" then
          let s ← bracketed (do keyword "SELECT"; select depth)
          pure (Source.query s (← label?))
        else
          let n ← name
          pure (Source.table n (← label?))
      else pure Source.nowhere
    let condition ← condition?
    return .mk items source condition (← order)

def dropTable : Parser Statement := do
  keyword "TABLE"
  let ifPresent ← keyword? "IF"
  if ifPresent then keyword "EXISTS"
  return .dropTable (← name) ifPresent

/-- The first fault of a row that is read in one go with the rows before it. -/
def rowFault? (sql : String) (width : Nat) (row : List Expr) : Option SqlError :=
  if row.length ≠ width then some .unevenValues
  else
    (row.flatMap fun e =>
      match ({} : Scope).resolve sql e with
      | .ok s => s.faults sql false
      | .error _ => []).getLast?

/-- Puts a row behind others, the last group of which stands first and its rows in reverse. A constant row
joins a group that starts with one, and its faults are found at once. -/
def addRow (sql : String) (row : List Expr) : List RowGroup → Option SqlError × List RowGroup
  | [] => (none, [⟨row, []⟩])
  | g :: groups =>
    if row.all Expr.isConstant && g.first.all Expr.isConstant then
      let width := g.first.length
      let early :=
        if g.rest.isEmpty then
          if maxColumns < width then some .tooManyResults else rowFault? sql width g.first
        else none
      (early <|> rowFault? sql width row, ⟨g.first, row :: g.rest⟩ :: groups)
    else (none, ⟨row, []⟩ :: g :: groups)

/-- The rows of values behind some others. -/
def valueRows : Nat → List RowGroup → Parser (List RowGroup)
  | 0, _ => fail
  | fuel + 1, groups => do
    let row ← bracketed (commaList term)
    let (fault, groups) := addRow (← get).sql row groups
    blameIf fault
    if ← symbol? "," then valueRows fuel groups
    else return (groups.map fun g => ⟨g.first, g.rest.reverse⟩).reverse

def insert : Parser Statement := do
  keyword "INTO"
  let table ← name
  let columns ← if ← atSymbol "(" then some <$> bracketed (commaList name) else pure none
  keyword "VALUES"
  return .insert table columns (← valueRows (← get).bound [])

def setClause : Parser (String × Expr) := do
  let n ← name
  symbol "="
  return (n, ← term)

def update : Parser Statement := do
  let table ← name
  keyword "SET"
  let sets ← commaList setClause
  return .update table sets (← condition?)

def delete : Parser Statement := do
  keyword "FROM"
  let table ← name
  return .delete table (← condition?)

/-- The word that may follow a step of a transaction, and a name behind it. -/
def transaction : Parser Unit := do
  if ← keyword? "TRANSACTION" then
    if (← peek).name?.isSome then
      let _ ← name

def begin : Parser Unit := do
  if !(← keyword? "DEFERRED") then
    if !(← keyword? "IMMEDIATE") then
      let _ ← keyword? "EXCLUSIVE"
  transaction

/-- A statement by its first word. -/
def statement (taken : String → Bool) : Parser Statement := do
  if ← keyword? "CREATE" then createTable taken
  else if ← keyword? "DROP" then dropTable
  else if ← keyword? "INSERT" then insert
  else if ← keyword? "SELECT" then return .select (← select (← get).bound)
  else if ← keyword? "UPDATE" then update
  else if ← keyword? "DELETE" then delete
  else if ← keyword? "BEGIN" then begin; return .begin
  else if ← keyword? "COMMIT" then transaction; return .commit
  else if ← keyword? "END" then transaction; return .commit
  else if ← keyword? "ROLLBACK" then transaction; return .rollback
  else fail

/-- The end of the first statement, and the text behind it, which is not looked at. -/
def finish : Parser String := do
  let t ← peek
  match t.kind with
  | .finish => take
  | _ => symbol ";"
  slice t.stop (← get).sql.utf8ByteSize

/-- The table whose columns a statement asks for. -/
def tableInfo : Parser String := do
  keyword "PRAGMA"
  keyword "TABLE_INFO"
  bracketed name

end Parser

namespace Statement

/-- The table whose columns a statement asks for. -/
def infoTable (sql : String) : Except SqlError String :=
  (Parser.tableInfo.run (Cursor.ofText sql)).map Prod.fst

/-- A statement with how many parameters it has, and the text that follows it. -/
structure Reading where
  statement : Statement
  params : Nat
  rest : String

/-- Reads the first statement of a text. -/
def parse (taken : String → Bool) (sql : String) : Except SqlError Reading :=
  let c := Cursor.ofText sql
  match c.token.kind with
  | .finish => .ok ⟨.empty, 0, ""⟩
  | _ => do
    let ((s, rest), c) ← (do return (← Parser.statement taken, ← Parser.finish) :
      Parser (Statement × String)).run c
    return ⟨s, c.params, rest⟩

end Statement
end GuestHost.Store
