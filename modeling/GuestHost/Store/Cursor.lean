import GuestHost.Store.Error
/-!
Reading statements from their tokens. The reader never looks back: what it reports is the first token that
no statement could have in that place.

What a part of a statement means may be a fault, found when the part is complete. A fault waits until the
next token is taken: if that token cannot follow, it is reported in the place of the fault.
-/
namespace GuestHost.Store

/-- The tokens still to read, and what is known from those that have been read. -/
structure Cursor where
  sql : String
  tokens : List Token
  /-- How many parameters there are, and the numbers of those that have names. -/
  params : Nat := 0
  named : List (String × Nat) := []
  fault : Option SqlError := none

namespace Cursor

/-- The tokens of a text, semicolons before the first statement passed over. -/
def ofText (sql : String) : Cursor where
  sql := sql
  tokens := (Token.ofText sql).dropWhile fun t => t.isSymbol ";"

def token (c : Cursor) : Token := c.tokens.head?.getD ⟨.finish, "", 0, 0⟩

def following (c : Cursor) : Token := c.tokens.tail.head?.getD ⟨.finish, "", 0, 0⟩

def place (c : Cursor) (offset : Nat) : Place := ⟨c.sql, offset⟩

/-- The error that the next token is. -/
def unexpected (c : Cursor) : SqlError :=
  let t := c.token
  match t.kind with
  | .finish => .incomplete
  | .illegal => .unrecognized t.raw (some (c.place t.start))
  | _ => .syntaxNear t.raw (c.place t.start)

/-- A bound for anything that the tokens are the parts of. -/
def bound (c : Cursor) : Nat := c.sql.utf8ByteSize + 2

end Cursor

abbrev Parser (α : Type) := StateT Cursor (Except SqlError) α

namespace Parser

def peek : Parser Token := return (← get).token

def fail {α : Type} : Parser α := do throw (← get).unexpected

/-- Lets a fault wait for the next token, in the place of an earlier one. -/
def blame (e : SqlError) : Parser Unit := modify fun c => { c with fault := some e }

def blameIf (e : Option SqlError) : Parser Unit := e.forM blame

/-- Takes the next token, unless a fault waits for it. -/
def take : Parser Unit := do
  let c ← get
  match c.fault with
  | some e => throw e
  | none => set { c with tokens := c.tokens.tail }

def atKeyword (word : String) : Parser Bool := return (← get).token.isKeyword word

def atSymbol (s : String) : Parser Bool := return (← get).token.isSymbol s

/-- Passes over a word that may be missing, and says whether it was there. -/
def keyword? (word : String) : Parser Bool := do
  let here ← atKeyword word
  if here then take
  return here

def symbol? (s : String) : Parser Bool := do
  let here ← atSymbol s
  if here then take
  return here

def keyword (word : String) : Parser Unit := do
  if !(← keyword? word) then fail

def symbol (s : String) : Parser Unit := do
  if !(← symbol? s) then fail

def name : Parser String := do
  match (← peek).name? with
  | some n => take; return n
  | none => fail

/-- A name that may follow with or without a word that announces it. -/
def label? : Parser (Option String) := do
  if ← keyword? "AS" then return some (← name)
  else
    match (← peek).freeName? with
    | some n => take; return some n
    | none => return none

/-- Items of one kind with commas between them. -/
def commaList {α : Type} (item : Parser α) : Parser (List α) := do
  let rec more : Nat → Parser (List α)
    | 0 => fail
    | fuel + 1 => do
      let a ← item
      if ← symbol? "," then return a :: (← more fuel)
      else return [a]
  more (← get).bound

/-- What a reader reads between brackets. -/
def bracketed {α : Type} (item : Parser α) : Parser α := do
  symbol "("
  let a ← item
  symbol ")"
  return a

end Parser
end GuestHost.Store
