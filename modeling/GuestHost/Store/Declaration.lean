import GuestHost.Json.Shape
/-!
Tables as guest programs declare them: batches of definitions, written as JSON. A definition is an
object or the list of its fields in order.
-/
namespace GuestHost.Store

open Json (Fault Reader Failure Next)

structure ColumnDef where
  name : String
  type : String
  constraints : String
  deriving DecidableEq, Repr

structure TableDef where
  name : String
  columns : List ColumnDef
  deriving DecidableEq, Repr

namespace Declaration

def readText : Reader String := fun cs =>
  match Json.skipSpace cs with
  | '"' :: rest => Json.readString rest
  | r => .error (Json.unfitHere "a string" r)

/-- Refuses a field that has been read before. -/
def once {α : Type} (name : String) (seen : Option α) (cs : List Char) : Except Fault Unit :=
  match seen with
  | some _ => .error (.unfit (.repeatedField name) (Json.skipCloser '}' cs))
  | none => .ok ()

def required {α : Type} (name : String) (field : Option α) (rest : List Char) : Except Fault α :=
  match field with
  | some a => .ok a
  | none => .error (.unfit (.missingField name) rest)

/-- The end of a list of which nothing more is wanted. -/
def readListEnd (cs : List Char) : Except Fault (List Char) :=
  match Json.skipSpace cs with
  | [] => .error (.on .endInList [])
  | c :: r =>
    if c = ']' then .ok r
    else if c = ',' then
      match Json.skipSpace r with
      | ']' :: s => .error (.on .trailingComma (']' :: s))
      | s => .error (.on .trailingText s)
    else .error (.on .trailingText (c :: r))

/-- The next item of a list form that has to have it. -/
def readItem {α : Type} (read : Reader α) (index : Nat) (wanted : String) : Reader α := fun cs => do
  match ← Json.nextItem (index == 0) cs with
  | .closed rest => throw (.unfit (.wrongLength index wanted) rest)
  | .more rest => read rest

structure ColumnFields where
  name : Option String := none
  type : Option String := none
  constraints : Option String := none

def readColumnMember (f : ColumnFields) (key : String) : Reader ColumnFields := fun cs => do
  if key = "name" then
    once key f.name cs
    let (s, rest) ← readText (← Json.readColon cs)
    return ({ f with name := some s }, rest)
  else if key = "type" then
    once key f.type cs
    let (s, rest) ← readText (← Json.readColon cs)
    return ({ f with type := some s }, rest)
  else if key = "constraints" then
    once key f.constraints cs
    let (s, rest) ← readText (← Json.readColon cs)
    return ({ f with constraints := some s }, rest)
  else
    return (f, ← Json.skipValue (← Json.readColon cs))

def readColumn : Reader ColumnDef := fun cs =>
  match Json.skipSpace cs with
  | '{' :: r => do
    let (f, rest) ← Json.foldMembers readColumnMember {} r
    let name ← required "name" f.name rest
    let type ← required "type" f.type rest
    return (⟨name, type, f.constraints.getD ""⟩, rest)
  | '[' :: r => do
    let wanted := "struct ColumnDef with 3 elements"
    let (name, r) ← readItem readText 0 wanted r
    let (type, r) ← readItem readText 1 wanted r
    match ← Json.nextItem false r with
    | .closed rest => return (⟨name, type, ""⟩, rest)
    | .more r =>
      let (constraints, r) ← readText r
      return (⟨name, type, constraints⟩, ← readListEnd r)
  | r => .error (Json.unfitHere "struct ColumnDef" r)

/-- A list of any length of one kind of thing. -/
def readList {α : Type} (read : Reader α) : Reader (List α) := fun cs =>
  match Json.skipSpace cs with
  | '[' :: r => do
    let (items, rest) ← Json.foldItems (fun acc cs => do
      let (a, rest) ← read cs
      return (a :: acc, rest)) [] r
    return (items.reverse, rest)
  | r => .error (Json.unfitHere "a sequence" r)

structure TableFields where
  name : Option String := none
  columns : Option (List ColumnDef) := none

def readTableMember (f : TableFields) (key : String) : Reader TableFields := fun cs => do
  if key = "name" then
    once key f.name cs
    let (s, rest) ← readText (← Json.readColon cs)
    return ({ f with name := some s }, rest)
  else if key = "columns" then
    once key f.columns cs
    let (columns, rest) ← readList readColumn (← Json.readColon cs)
    return ({ f with columns := some columns }, rest)
  else
    return (f, ← Json.skipValue (← Json.readColon cs))

def readTable : Reader TableDef := fun cs =>
  match Json.skipSpace cs with
  | '{' :: r => do
    let (f, rest) ← Json.foldMembers readTableMember {} r
    let name ← required "name" f.name rest
    let columns ← required "columns" f.columns rest
    return (⟨name, columns⟩, rest)
  | '[' :: r => do
    let wanted := "struct TableDef with 2 elements"
    let (name, r) ← readItem readText 0 wanted r
    let (columns, r) ← readItem (readList readColumn) 1 wanted r
    return (⟨name, columns⟩, ← readListEnd r)
  | r => .error (Json.unfitHere "struct TableDef" r)

/-- The definitions of a batch, in order. -/
def parseBatch (text : String) : Except Failure (List TableDef) :=
  Json.readWhole (readList readTable) text

end Declaration
end GuestHost.Store
