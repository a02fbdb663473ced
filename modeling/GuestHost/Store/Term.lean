import GuestHost.Store.Cursor
import GuestHost.Store.Syntax
/-!
How terms are read: numbers, texts, parameters and columns, with signs, brackets and equalities.
-/
namespace GuestHost.Store.Parser

/-- Terms may not be nested deeper. -/
def maxHeight : Nat := 1000

/-- What the words for the present time stand for: one moment that does not pass. -/
def clockText (word : String) : Option String :=
  match Text.asciiUpper word with
  | "CURRENT_DATE" => some "2000-01-01"
  | "CURRENT_TIME" => some "00:00:00"
  | "CURRENT_TIMESTAMP" => some "2000-01-01 00:00:00"
  | _ => none

/-- A parameter of a given number, counted from one. -/
def numberedParam (digits : List Char) (offset : Nat) : Parser Expr := do
  let significant := digits.dropWhile (· == '0')
  let n := if significant.length ≤ 5 then digitsValue significant else 0
  if n < 1 ∨ SqlError.maxParam < n then
    blame (.paramNumber ((← get).place offset))
    return .literal .null
  else
    modify fun c => { c with params := max c.params n }
    return .param (n - 1)

/-- The next parameter that has no number; one with a name is the same wherever the name is. -/
def freshParam (name : Option String) (offset : Nat) : Parser Expr := do
  let c ← get
  match name.bind fun n => c.named.find? fun p => p.1 == n with
  | some (_, i) => return .param i
  | none =>
    let i := c.params
    let named := match name with
      | some n => (n, i) :: c.named
      | none => c.named
    set { c with params := i + 1, named }
    if SqlError.maxParam ≤ i then blame (.tooManyParams (c.place offset))
    return .param i

/-- A parameter, which its token has been taken for. A hash mark before a digit is none. -/
def param (t : Token) : Parser Expr := do
  match t.raw.toList with
  | ['?'] => freshParam none t.start
  | '?' :: digits => numberedParam digits t.start
  | '#' :: d :: _ =>
    if isDigit d then
      blame (.syntaxNear t.raw ((← get).place t.start))
      return .literal .null
    else freshParam (some t.raw) t.start
  | _ => freshParam (some t.raw) t.start

def literal (d : Datum) : Parser Expr := do
  take
  return .literal d

/-- A number whose separators may be at fault. -/
def groupedNumber (digits : List Char) (offset : Nat) : Parser Expr := do
  take
  match Number.ofGrouped digits with
  | .ok n => return .number n offset
  | .error shown =>
    blame (.unrecognized shown none)
    return .literal .null

/-- A column, perhaps behind the name of its table. -/
def column (first : String) (quote : Quote) (offset : Nat) : Parser Expr := do
  take
  if ← symbol? "." then return .column (some first) (← name) .other offset
  else return .column none first quote offset

/-- A number of rows, the only function there is; the star in its brackets may be left out. -/
def count (word : String) (offset : Nat) : Parser Expr := do
  take
  if Text.sameIgnoringCase word "count" then
    bracketed (do let _ ← symbol? "*")
    return .count word offset
  else fail

/-- A name at the start of a term. -/
def named (first : String) (quote : Quote) (t : Token) : Parser Expr := do
  if (← get).following.isSymbol "(" then count first t.start else column first quote t.start

/-- A term without signs and brackets. -/
def leaf : Parser Expr := do
  let t ← peek
  match t.kind with
  | .number n => take; return .number n t.start
  | .grouped digits => groupedNumber digits t.start
  | .blob bytes => literal (.blob bytes)
  | .param => take; param t
  | .string s =>
    if (← get).following.isSymbol "." then column s .other t.start else literal (.text s)
  | .quoted q quote => named q quote t
  | .word w =>
    if t.isKeyword "NULL" then literal .null
    else if t.isKeyword "CAST" ∨ t.isKeyword "RAISE" then
      take
      symbol "("
      fail
    else
      match clockText w, t.identifier? with
      | some s, _ => literal (.text s)
      | none, some n => named n .bare t
      | none, none => fail
  | _ => fail

/-- A term with its height, which is at fault if it is too great. -/
def measured (e : Expr) (height : Nat) : Parser (Expr × Nat) := do
  if maxHeight < height then blame .tooDeep
  return (e, height)

/-- A leaf, or a term in brackets, with the signs in front of it. -/
def operand (inner : Parser (Expr × Nat)) : Nat → Parser (Expr × Nat)
  | 0 => fail
  | fuel + 1 => do
    let sign (minus : Bool) : Parser (Expr × Nat) := do
      let (e, height) ← operand inner fuel
      match e with
      | .plus _ => measured (e.signed minus) height
      | _ => measured (e.signed minus) (height + 1)
    if ← symbol? "-" then sign true
    else if ← symbol? "+" then sign false
    else if ← atSymbol "(" then bracketed inner
    else return (← leaf, 1)

/-- The equalities that follow a term, the first ones innermost. -/
def equalities (next : Parser (Expr × Nat)) : Nat → Expr × Nat → Parser (Expr × Nat)
  | 0, _ => fail
  | fuel + 1, (l, height) => do
    if (← atSymbol "=") || (← atSymbol "==") then
      take
      let (r, height') ← next
      equalities next fuel (← measured (.equal l r) (max height height' + 1))
    else return (l, height)

/-- A term with brackets inside one another as deep as the fuel allows. -/
def equation : Nat → Parser (Expr × Nat)
  | 0 => fail
  | fuel + 1 => do
    let next := operand (equation fuel) (← get).bound
    equalities next (← get).bound (← next)

def term : Parser Expr := do
  return (← equation (← get).bound).1

end GuestHost.Store.Parser
