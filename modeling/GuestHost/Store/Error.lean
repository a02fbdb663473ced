import GuestHost.Store.Token
/-!
What can go wrong between a statement and the tables it is about. Errors that point into the statement
show it whole.
-/
namespace GuestHost.Store

/-- A place in the text of a statement. -/
structure Place where
  sql : String
  offset : Nat
  deriving DecidableEq, Repr

inductive SqlError where
  | syntaxNear (token : String) (place : Place)
  /-- A token that is none, or a number that its own marks spoil, which has no place. -/
  | unrecognized (token : String) (place : Option Place)
  | incomplete
  | noTable (name : String)
  | noSource
  | noColumn (name : String) (place : Option Place)
  | noInsertColumn (table column : String)
  | tableExists (token : String) (place : Place)
  | reservedName (name : String)
  | duplicateColumn (name : String)
  | tooManyColumns (table : String)
  | tooManyResults
  | tooManySets
  | tooManyKeys
  | variableDefault (column : String)
  | unknownOption (option : String)
  | severalPrimaryKeys (table : String)
  | autoincrement
  | valueCount (values columns : Nat)
  | tableValueCount (table : String) (columns values : Nat)
  | unevenValues
  | unique (table column : String)
  | notNull (table column : String)
  | datatypeMismatch
  | paramNumber (place : Place)
  | tooManyParams (place : Place)
  | tooDeep
  | oversized (number : String) (place : Place)
  /-- A count where no rows are summed up, found while names are looked up, or later. -/
  | misplacedCount (word : String) (early : Bool) (place : Place)
  /-- A sort key, counted from one, that gives no position of a result column. -/
  | keyPosition (key columns : Nat) (place : Option Place)
  | paramCount (got needed : Nat)
  | returnedRows
  | nothing
  | commitOutside
  | rollbackOutside
  | beginInside
  | cannotOpen (path : String)
  | nullCharacter (offset : Nat)
  /-- No number is left for a new row. -/
  | full
  /-- Trouble in storage, in its own words. -/
  | storage (report : String)
  deriving DecidableEq, Repr

namespace SqlError

def pointing (message : String) (p : Place) : String :=
  message ++ " in " ++ p.sql ++ " at offset " ++ toString p.offset

def perhapsPointing (message : String) (p : Option Place) : String :=
  match p with
  | some p => pointing message p
  | none => message

/-- The greatest number a parameter may have. -/
def maxParam : Nat := 32766

/-- A number that counts: 1st, 2nd, 3rd, 4th, and 11th to 13th. -/
def ordinal (n : Nat) : String :=
  let ending :=
    if n / 10 % 10 = 1 then "th"
    else if n % 10 = 1 then "st"
    else if n % 10 = 2 then "nd"
    else if n % 10 = 3 then "rd"
    else "th"
  toString n ++ ending

def message : SqlError → String
  | syntaxNear token p => pointing ("near \"" ++ token ++ "\": syntax error") p
  | unrecognized token p => perhapsPointing ("unrecognized token: \"" ++ token ++ "\"") p
  | incomplete => "incomplete input"
  | noTable name => "no such table: " ++ name
  | noSource => "no tables specified"
  | noColumn name p => perhapsPointing ("no such column: " ++ name) p
  | noInsertColumn table column => "table " ++ table ++ " has no column named " ++ column
  | tableExists token p => pointing ("table " ++ token ++ " already exists") p
  | reservedName name => "object name reserved for internal use: " ++ name
  | duplicateColumn name => "duplicate column name: " ++ name
  | tooManyColumns table => "too many columns on " ++ table
  | tooManyResults => "too many columns in result set"
  | tooManySets => "too many columns in set list"
  | tooManyKeys => "too many terms in ORDER BY clause"
  | variableDefault column => "default value of column [" ++ column ++ "] is not constant"
  | unknownOption option => "unknown table option: " ++ option
  | severalPrimaryKeys table => "table \"" ++ table ++ "\" has more than one primary key"
  | autoincrement => "AUTOINCREMENT is only allowed on an INTEGER PRIMARY KEY"
  | valueCount values columns => toString values ++ " values for " ++ toString columns ++ " columns"
  | tableValueCount table columns values =>
    "table " ++ table ++ " has " ++ toString columns ++ " columns but " ++ toString values ++
      " values were supplied"
  | unevenValues => "all VALUES must have the same number of terms"
  | unique table column => "UNIQUE constraint failed: " ++ table ++ "." ++ column
  | notNull table column => "NOT NULL constraint failed: " ++ table ++ "." ++ column
  | datatypeMismatch => "datatype mismatch"
  | paramNumber p =>
    pointing ("variable number must be between ?1 and ?" ++ toString maxParam) p
  | tooManyParams p => pointing "too many SQL variables" p
  | tooDeep => "Expression tree is too large (maximum depth 1000)"
  | oversized number p => pointing ("hex literal too big: " ++ number) p
  | misplacedCount word true p => pointing ("misuse of aggregate function " ++ word ++ "()") p
  | misplacedCount word false p => pointing ("misuse of aggregate: " ++ word ++ "()") p
  | keyPosition key columns p =>
    perhapsPointing (ordinal key ++ " ORDER BY term out of range - should be between 1 and " ++
      toString columns) p
  | paramCount got needed =>
    "Wrong number of parameters passed to query. Got " ++ toString got ++ ", needed " ++
      toString needed
  | returnedRows => "Execute returned results - did you mean to call query?"
  | nothing => "not an error"
  | commitOutside => "cannot commit - no transaction is active"
  | rollbackOutside => "cannot rollback - no transaction is active"
  | beginInside => "cannot start a transaction within a transaction"
  | cannotOpen path => "unable to open database file: " ++ path
  | nullCharacter offset =>
    "nul byte found in provided data at position: " ++ toString offset
  | full => "database or disk is full"
  | storage report => report

end SqlError

/-- How a statement fails. Mostly it is undone by itself and the open transaction goes on. After some
errors the store gives up the whole transaction instead, and nothing but the error says so. -/
structure Failure where
  error : SqlError
  /-- Whether the open transaction is lost. -/
  lost : Bool := false
  deriving DecidableEq, Repr

instance : Coe SqlError Failure := ⟨fun e => { error := e }⟩

end GuestHost.Store
