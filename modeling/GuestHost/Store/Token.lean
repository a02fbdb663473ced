import GuestHost.Store.Datum
/-!
The tokens of SQL text, with the place of each in the text.
-/
namespace GuestHost.Store

/-- What a name is written in. -/
inductive Quote where
  | bare
  /-- Double quotes, which may also hold a text where no column has the name. -/
  | double
  | other
  deriving DecidableEq, Repr

inductive TokenKind where
  /-- A bare word: a keyword or a name. -/
  | word (name : String)
  | quoted (name : String) (quote : Quote)
  | string (text : String)
  | number (n : Number)
  /-- A number with underscores between its digits. -/
  | grouped (digits : List Char)
  | blob (bytes : List UInt8)
  | param
  | symbol
  | illegal
  | finish

/-- `start` and `stop` are offsets in bytes. -/
structure Token where
  kind : TokenKind
  raw : String
  start : Nat
  stop : Nat

namespace Token

def isWordStart (c : Char) : Bool := c.isAlpha || c == '_' || 0x80 ≤ c.toNat

def isWordChar (c : Char) : Bool := c.isAlphanum || c == '_' || c == '$' || 0x80 ≤ c.toNat

/-- The byte order mark is a blank where a token could start. -/
def isMark (c : Char) : Bool := c.toNat == 0xFEFF

/-- Blanks a token cannot start with; the vertical tab is one only behind another blank. -/
def isBlankStart (c : Char) : Bool := isSqlSpace c && c != '\x0b'

/-- The characters up to the closing quote, a doubled quote standing for one, and the rest behind it. -/
def scanQuoted (quote : Char) : List Char → Option (List Char × List Char)
  | [] => none
  | c :: cs =>
    if c = quote then
      match cs with
      | d :: rest =>
        if d = quote then (scanQuoted quote rest).map fun (name, r) => (quote :: name, r)
        else some ([], d :: rest)
      | [] => some ([], [])
    else (scanQuoted quote cs).map fun (name, r) => (c :: name, r)

/-- How many characters a quoted name takes with its quotes. -/
def quotedSize (quote : Char) (name : List Char) : Nat := name.length + name.count quote + 2

/-- How far a comment reaches behind its opening; one that is not closed reaches to the end. -/
def blockSize : List Char → Nat
  | '*' :: '/' :: _ => 2
  | _ :: cs => blockSize cs + 1
  | [] => 0

/-- How many characters of blank or comment a text starts with. -/
def blankSize (cs : List Char) : Nat :=
  match cs with
  | [] => 0
  | c :: rest =>
    if isMark c then 1
    else if isBlankStart c then (rest.takeWhile isSqlSpace).length + 1
    else
      match c, rest with
      | '-', '-' :: r => (r.takeWhile (· != '\n')).length + 2
      | '/', '*' :: d :: r => blockSize (d :: r) + 2
      | _, _ => 0

/-- The digits at the start of some characters, underscores among them. -/
def digitRun (isPart : Char → Bool) (cs : List Char) : List Char :=
  cs.takeWhile fun c => isPart c || c == '_'

/-- The exponent at the start of some characters: a digit has to follow its mark or its sign. -/
def exponentRun (cs : List Char) : List Char :=
  let starts (r : List Char) : Bool := (r.head?.map isDigit).getD false
  match cs with
  | e :: r =>
    if e = 'e' ∨ e = 'E' then
      match r with
      | '+' :: s => if starts s then e :: '+' :: digitRun isDigit s else []
      | '-' :: s => if starts s then e :: '-' :: digitRun isDigit s else []
      | s => if starts s then e :: digitRun isDigit s else []
    else []
  | [] => []

/-- The characters of a number at the start of a text. -/
def numberRun (cs : List Char) : List Char :=
  let decimal : List Char :=
    let whole := digitRun isDigit cs
    let rest := cs.drop whole.length
    let fraction := match rest with
      | '.' :: r => '.' :: digitRun isDigit r
      | _ => []
    whole ++ fraction ++ exponentRun (rest.drop fraction.length)
  match cs with
  | '0' :: x :: d :: r =>
    if (x = 'x' ∨ x = 'X') ∧ isHexDigit d then '0' :: x :: digitRun isHexDigit (d :: r) else decimal
  | _ => decimal

def pairBytes : List Char → Option (List UInt8)
  | [] => some []
  | [_] => none
  | a :: b :: rest => do
    let x ← Text.hexValue? a
    let y ← Text.hexValue? b
    let bs ← pairBytes rest
    return (16 * x + y).toUInt8 :: bs

/-- How far a variable's name reaches, and whether it is one: it has a character of a word in it. A pair of
colons may stand in it, and brackets behind it, without blanks. -/
def variableRun (named : Bool) : List Char → Nat × Bool
  | [] => (0, named)
  | c :: cs =>
    if isWordChar c then
      let (n, ok) := variableRun true cs
      (n + 1, ok)
    else if c = '(' ∧ named then
      let inner := cs.takeWhile fun d => !isSqlSpace d && d != ')'
      match cs.drop inner.length with
      | ')' :: _ => (inner.length + 2, true)
      | _ => (inner.length + 1, false)
    else if c = ':' then
      match cs with
      | ':' :: rest =>
        let (n, ok) := variableRun named rest
        (n + 2, ok)
      | _ => (0, named)
    else (0, named)

def symbols : List String :=
  ["->>", "->", "==", "<>", "!=", "<=", ">=", "||", "<<", ">>", "(", ")", ",", ";", "*", "=", "<", ">",
    "+", "-", "/", "%", ".", "&", "|", "~"]

/-- The kind of the first token of a text that starts with no blank, and how many characters it takes. -/
def scanOne : List Char → TokenKind × Nat
  | [] => (.finish, 0)
  | c :: cs =>
    if (c == 'x' || c == 'X') && cs.head? == some '\'' then
      let body := (cs.drop 1).takeWhile fun d => d != '\''
      match pairBytes body, cs.drop (body.length + 1) with
      | some bs, _ :: _ => (.blob bs, body.length + 3)
      | _, [] => (.illegal, body.length + 2)
      | _, _ => (.illegal, body.length + 3)
    else if isWordStart c then
      let w := (c :: cs).takeWhile isWordChar
      (.word (String.ofList w), w.length)
    else if isDigit c || (c == '.' && (cs.head?.map isDigit).getD false) then
      let n := numberRun (c :: cs)
      let tail := ((c :: cs).drop n.length).takeWhile isWordChar
      if !tail.isEmpty then (.illegal, n.length + tail.length)
      else if n.contains '_' then (.grouped n, n.length)
      else (.number (.ofChars n), n.length)
    else if c = '\'' then
      match scanQuoted '\'' cs with
      | some (t, _) => (.string (String.ofList t), quotedSize c t)
      | none => (.illegal, cs.length + 1)
    else if c = '"' ∨ c.toNat = 0x60 then
      match scanQuoted c cs with
      | some (t, _) => (.quoted (String.ofList t) (if c = '"' then .double else .other), quotedSize c t)
      | none => (.illegal, cs.length + 1)
    else if c = '[' then
      let body := cs.takeWhile (· != ']')
      match cs.drop body.length with
      | _ :: _ => (.quoted (String.ofList body) .other, body.length + 2)
      | [] => (.illegal, body.length + 1)
    else if c = '?' then (.param, (cs.takeWhile isDigit).length + 1)
    else if c = '$' ∨ c = '@' ∨ c = ':' ∨ c = '#' then
      let (n, ok) := variableRun false cs
      (if ok then .param else .illegal, n + 1)
    else
      match symbols.find? fun s => s.toList.isPrefixOf (c :: cs) with
      | some s => (.symbol, s.length)
      | none => (.illegal, 1)

def bytesOf (cs : List Char) : Nat := cs.foldl (fun n c => n + c.utf8Size) 0

/-- The tokens of a text that is no longer than the fuel. -/
def scan : Nat → Nat → List Char → List Token
  | 0, at_, _ => [⟨.finish, "", at_, at_⟩]
  | fuel + 1, at_, cs =>
    match cs with
    | [] => [⟨.finish, "", at_, at_⟩]
    | _ :: _ =>
      let blank := blankSize cs
      if 0 < blank then scan fuel (at_ + bytesOf (cs.take blank)) (cs.drop blank)
      else
        let (kind, n) := scanOne cs
        let piece := cs.take n
        let stop := at_ + bytesOf piece
        ⟨kind, String.ofList piece, at_, stop⟩ :: scan fuel stop (cs.drop n)

/-- The tokens of a text, which a null character ends. -/
def ofText (sql : String) : List Token :=
  let cs := sql.toList.takeWhile (· != '\x00')
  scan (cs.length + 1) 0 cs

/-- Words that are never names. -/
def reserved : List String :=
  ["ADD", "ALL", "ALTER", "AND", "AS", "AUTOINCREMENT", "BETWEEN", "CASE", "CHECK", "COLLATE",
    "COMMIT", "CONSTRAINT", "CREATE", "DEFAULT", "DEFERRABLE", "DELETE", "DISTINCT", "DROP", "ELSE",
    "ESCAPE", "EXCEPT", "EXISTS", "FOREIGN", "FROM", "GROUP", "HAVING", "IN", "INDEX", "INSERT",
    "INTERSECT", "INTO", "IS", "ISNULL", "JOIN", "LIMIT", "NOT", "NOTHING", "NOTNULL", "NULL", "ON",
    "OR", "ORDER", "PRIMARY", "REFERENCES", "RETURNING", "SELECT", "SET", "TABLE", "THEN", "TO",
    "TRANSACTION", "UNION", "UNIQUE", "UPDATE", "USING", "VALUES", "WHEN", "WHERE"]

/-- Words of joins, which are names only where a name has to stand. -/
def joinWords : List String :=
  ["CROSS", "FULL", "INNER", "LEFT", "NATURAL", "OUTER", "RIGHT"]

def isKeyword (t : Token) (word : String) : Bool :=
  match t.kind with
  | .word w => Text.asciiUpper w == word
  | _ => false

def isSymbol (t : Token) (s : String) : Bool :=
  match t.kind with
  | .symbol => t.raw == s
  | _ => false

/-- The name that a token is where a name has to stand. -/
def identifier? (t : Token) : Option String :=
  match t.kind with
  | .word w => if reserved.contains (Text.asciiUpper w) then none else some w
  | .quoted name _ => some name
  | _ => none

/-- A name, or a text in single quotes in its stead. -/
def name? (t : Token) : Option String :=
  match t.kind with
  | .string s => some s
  | _ => t.identifier?

/-- A name where something else could follow as well: no word of joins or indexes, which would be that. -/
def freeName? (t : Token) : Option String :=
  match t.kind with
  | .word w =>
    if ("INDEXED" :: joinWords).contains (Text.asciiUpper w) then none else t.name?
  | _ => t.name?

end Token

/-- A name in double quotes, in which quotes are doubled. -/
def quoteName (name : String) : String :=
  "\"" ++ String.ofList (name.toList.flatMap fun c => if c = '"' then ['"', '"'] else [c]) ++ "\""

end GuestHost.Store
