import GuestHost.Store.Scope
import GuestHost.Store.Term
/-!
How the definition of a table is read, and what may be wrong with it. The faults of a column come before
anything that follows the column.
-/
namespace GuestHost.Store

namespace ColumnSpec

def isPrimary : Constraint → Bool
  | .primaryKey _ _ => true
  | _ => false

def keys (c : ColumnSpec) : List Constraint := c.constraints.filter isPrimary

/-- Whether a column shows the row number: an integer primary key that does not descend. -/
def showsNumber (c : ColumnSpec) : Bool :=
  c.type.usual && c.type.text == "INTEGER" && c.constraints.any fun
    | .primaryKey descending _ => !descending
    | _ => false

end ColumnSpec

namespace Parser

/-- A part of the text between two offsets. -/
def slice (start stop : Nat) : Parser String := do
  return Text.textLossy (((Text.encode (← get).sql).take stop).drop start)

/-- A number in the brackets behind a type, perhaps with a sign. -/
def sizeNumber : Parser Unit := do
  if !(← symbol? "-") then
    let _ ← symbol? "+"
  match (← peek).kind with
  | .number _ => take
  | _ => fail

/-- The words of a type, with the end of the last one. -/
def typeWords (stop : Nat) : Nat → Parser Nat
  | 0 => return stop
  | fuel + 1 => do
    let t ← peek
    match t.freeName? with
    | some _ => take; typeWords t.stop fuel
    | none => return stop

/-- The type of a column: any words, and one or two numbers in brackets. -/
def columnType : Parser ColumnType := do
  let t ← peek
  match t.freeName? with
  | none => return .none
  | some _ =>
    let stop ← typeWords t.stop (← get).bound
    if ← symbol? "(" then
      sizeNumber
      if ← symbol? "," then sizeNumber
      let last ← peek
      symbol ")"
      return .ofWritten (← slice t.start last.stop)
    else return .ofWritten (← slice t.start stop)

/-- A plain value: a number, a text, a blob, null or the present time. -/
def plainValue : Parser Expr := do
  let t ← peek
  match t.kind with
  | .number n => take; return .number n t.start
  | .grouped digits => groupedNumber digits t.start
  | .string s => literal (.text s)
  | .blob bytes => literal (.blob bytes)
  | .word w =>
    if t.isKeyword "NULL" then literal .null
    else
      match clockText w with
      | some s => literal (.text s)
      | none => fail
  | _ => fail

/-- A default that is a name: a truth value, or else the name as a text. -/
def nameDefault (n : String) (quote : Quote) : Parser Expr :=
  match if quote = .bare then Scope.truth? n else none with
  | some d => literal d
  | none => literal (.text n)

/-- The value of a constant term. -/
def constantValue (e : Expr) : Datum :=
  match ({} : Scope).resolve "" e with
  | .ok s => s.eval [] 0 none
  | .error _ => .null

/-- The default of a column: a plain value with a sign or without, a name, or a constant term in brackets. -/
def defaultValue (columnName : String) (defining : Bool) : Parser Datum := do
  if ← symbol? "+" then return constantValue (← plainValue)
  else if ← symbol? "-" then return constantValue (.negate (← plainValue))
  else if ← atSymbol "(" then
    let e ← bracketed term
    if e.isConstant && !e.hasParam then return constantValue e
    else
      if defining then blame (.variableDefault columnName)
      return .null
  else
    let t ← peek
    match t.kind with
    | .quoted n quote => return constantValue (← nameDefault n quote)
    | .word w =>
      if t.freeName?.isSome ∧ (clockText w).isNone then return constantValue (← nameDefault w .bare)
      else if t.isKeyword "INDEXED" then return constantValue (← nameDefault w .other)
      else return constantValue (← plainValue)
    | _ => return constantValue (← plainValue)

/-- Passes over one of two words that say how to sort, and says whether it was the one for descending. -/
def descending? : Parser Bool := do
  if ← keyword? "ASC" then return false else keyword? "DESC"

/-- The constraint that starts at the next token, if one does. -/
def constraint? (columnName : String) (defining : Bool) : Parser (Option Constraint) := do
  if ← keyword? "PRIMARY" then
    keyword "KEY"
    let down ← descending?
    return some (.primaryKey down (← keyword? "AUTOINCREMENT"))
  else if ← keyword? "NOT" then
    keyword "NULL"
    return some .notNull
  else if ← keyword? "NULL" then return some .nullable
  else if ← keyword? "UNIQUE" then return some .unique
  else if ← keyword? "DEFAULT" then return some (.default (← defaultValue columnName defining))
  else return none

/-- The fault of a key that comes to a column. `keyed` says whether there is one already. -/
def keyFault? (table : String) (keyed : Bool) (c : ColumnSpec) : Constraint → Option SqlError
  | .primaryKey down auto =>
    if keyed then some (.severalPrimaryKeys table)
    else if auto && !ColumnSpec.showsNumber { c with constraints := [.primaryKey down auto] } then
      some .autoincrement
    else none
  | _ => none

/-- The constraints of a column, as far as they reach. `defining` names the table if it is a new one. -/
def constraints (defining : Option String) (keyed : Bool) : Nat → ColumnSpec → Parser ColumnSpec
  | 0, c => return c
  | fuel + 1, c => do
    if ← keyword? "CONSTRAINT" then
      let _ ← name
      constraints defining keyed fuel c
    else
      match ← constraint? c.name defining.isSome with
      | none => return c
      | some k =>
        let keyed := keyed || !c.keys.isEmpty
        blameIf (defining.bind fun table => keyFault? table keyed c k)
        constraints defining keyed fuel { c with constraints := c.constraints ++ [k] }

/-- A column behind some others. -/
def columnSpec (defining : Option String) (earlier : List ColumnSpec) : Parser ColumnSpec := do
  let n ← name
  let type ← columnType
  match defining with
  | none => pure ()
  | some table =>
    if maxColumns ≤ earlier.length then blame (.tooManyColumns table)
    else if earlier.any fun c => Text.sameIgnoringCase c.name n then blame (.duplicateColumn n)
  let keyed := earlier.any fun c => !c.keys.isEmpty
  constraints defining keyed (← get).bound ⟨n, type, []⟩

/-- The columns of a table, the earlier ones in reverse. -/
def columnSpecs (defining : Option String) : Nat → List ColumnSpec → Parser (List ColumnSpec)
  | 0, _ => fail
  | fuel + 1, earlier => do
    let c ← columnSpec defining earlier
    if ← symbol? "," then columnSpecs defining fuel (c :: earlier)
    else return (c :: earlier).reverse

/-- The word of an option of a table. -/
def optionWord (known : String) : Parser Unit := do
  let t ← peek
  let _ ← name
  if !(Text.sameIgnoringCase t.raw known) then blame (.unknownOption t.raw)

/-- The options behind the columns of a table, which say how it is kept and not what it holds. -/
def tableOptions : Nat → Parser Unit
  | 0 => fail
  | fuel + 1 => do
    if ← keyword? "WITHOUT" then optionWord "rowid" else optionWord "strict"
    if ← symbol? "," then tableOptions fuel

/-- The fault of a name for a new table. -/
def tableFault? (taken : String → Bool) (ifAbsent : Bool) (n raw : String) (place : Place) :
    Option SqlError :=
  if (Text.asciiLower n).startsWith "sqlite_" then some (.reservedName n)
  else if taken n && !ifAbsent then some (.tableExists raw place)
  else none

/-- A definition behind its first word. `taken` tells which tables are there. -/
def createTable (taken : String → Bool) : Parser Statement := do
  keyword "TABLE"
  let ifAbsent ← keyword? "IF"
  if ifAbsent then
    keyword "NOT"
    keyword "EXISTS"
  let t ← peek
  let n ← name
  blameIf (tableFault? taken ifAbsent n t.raw ((← get).place t.start))
  let defining := if taken n then none else some n
  let columns ← bracketed (do columnSpecs defining (← get).bound [])
  if (← peek).name?.isSome then tableOptions (← get).bound
  return .createTable n ifAbsent columns

end Parser
end GuestHost.Store
