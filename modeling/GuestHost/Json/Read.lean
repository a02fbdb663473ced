import GuestHost.Json.Number
/-!
Reading documents from text. The next item of a list and the next key of an object are found by one
function each, so that everything that reads lists and objects agrees on commas and brackets.
-/
namespace GuestHost.Json

def isSpace (c : Char) : Bool := c == ' ' || c == '\t' || c == '\n' || c == '\r'

def skipSpace (cs : List Char) : List Char := cs.dropWhile isSpace

/-- The rest of a text that starts with the given word. -/
def readWord : List Char → List Char → Except Fault (List Char)
  | [], cs => .ok cs
  | _ :: _, [] => .error (.before .endInValue [])
  | w :: ws, c :: cs => if c = w then readWord ws cs else .error (.on .badWord (c :: cs))

/-- Four hexadecimal digits. -/
def readHex (cs : List Char) : Except Fault (Nat × List Char) :=
  let bad := if byteCount (cs.take 4) < 4 then Fault.before .endInString []
    else ⟨.flaw .badEscape, cs, 4⟩
  match cs with
  | a :: b :: c :: d :: rest =>
    match Text.hexValue? a, Text.hexValue? b, Text.hexValue? c, Text.hexValue? d with
    | some a, some b, some c, some d => .ok (((a * 16 + b) * 16 + c) * 16 + d, rest)
    | _, _, _, _ => .error bad
  | _ => .error bad

/-- The second half of a surrogate pair whose first half is `high`. -/
def readLowHalf (high : Nat) : Reader Char
  | [] => .error (.before .endInString [])
  | '\\' :: [] => .error (.before .endInString [])
  | '\\' :: 'u' :: cs => do
    let (low, rest) ← readHex cs
    if 0xDC00 ≤ low ∧ low ≤ 0xDFFF then
      return (Char.ofNat (0x10000 + (high - 0xD800) * 0x400 + (low - 0xDC00)), rest)
    else throw (.before .loneSurrogate rest)
  | '\\' :: c :: cs => .error (.on .cutSurrogatePair (c :: cs))
  | c :: cs => .error (.on .cutSurrogatePair (c :: cs))

/-- What follows a backslash in a string. -/
def readEscape : Reader Char
  | [] => .error (.before .endInString [])
  | c :: cs =>
    match c with
    | '"' => .ok ('"', cs)
    | '\\' => .ok ('\\', cs)
    | '/' => .ok ('/', cs)
    | 'b' => .ok ('\x08', cs)
    | 'f' => .ok ('\x0c', cs)
    | 'n' => .ok ('\n', cs)
    | 'r' => .ok ('\r', cs)
    | 't' => .ok ('\t', cs)
    | 'u' => do
      let (n, rest) ← readHex cs
      if 0xDC00 ≤ n ∧ n ≤ 0xDFFF then throw (.before .loneSurrogate rest)
      else if 0xD800 ≤ n ∧ n ≤ 0xDBFF then readLowHalf n rest
      else return (Char.ofNat n, rest)
    | _ => .error (.on .badEscape (c :: cs))

/-- The characters up to the closing quote, behind those already read in reverse. Each step takes a
character at least, so a text longer than the one to be read bounds the steps. -/
def readChars : List Char → List Char → Reader (List Char)
  | [], _, cs => .error (.before .endInString cs)
  | _ :: bound, acc, cs =>
    match cs with
    | [] => .error (.before .endInString [])
    | c :: rest =>
      if c = '"' then .ok (acc.reverse, rest)
      else if c = '\\' then do
        let (d, r) ← readEscape rest
        readChars bound (d :: acc) r
      else if c.toNat < 0x20 then .error (.on .controlCharacter (c :: rest))
      else readChars bound (c :: acc) rest

/-- A string after its opening quote. -/
def readString : Reader String := fun cs => do
  let (s, rest) ← readChars ('"' :: cs) [] cs
  return (String.ofList s, rest)

/-- Where the reader of a list or an object goes on. -/
inductive Next where
  /-- Behind the closing bracket. -/
  | closed (rest : List Char)
  /-- At the next item, or behind the opening quote of the next key. -/
  | more (rest : List Char)

/-- Looks for the next item of a list, or its end. -/
def nextItem (first : Bool) (cs : List Char) : Except Fault Next :=
  match skipSpace cs with
  | [] => .error (.on .endInList [])
  | c :: r =>
    if c = ']' then .ok (.closed r)
    else if first then .ok (.more (c :: r))
    else if c = ',' then
      match skipSpace r with
      | [] => .error (.on .endInValue [])
      | d :: s => if d = ']' then .error (.on .trailingComma (d :: s)) else .ok (.more (d :: s))
    else .error (.on .noCommaInList (c :: r))

/-- Looks for the next key of an object, or its end. -/
def nextKey (first : Bool) (cs : List Char) : Except Fault Next :=
  match skipSpace cs with
  | [] => .error (.on .endInObject [])
  | c :: r =>
    if c = '}' then .ok (.closed r)
    else if first then
      if c = '"' then .ok (.more r) else .error (.on .keyNotString (c :: r))
    else if c = ',' then
      match skipSpace r with
      | [] => .error (.on .endInValue [])
      | d :: s =>
        if d = '"' then .ok (.more s)
        else if d = '}' then .error (.on .trailingComma (d :: s))
        else .error (.on .keyNotString (d :: s))
    else .error (.on .noCommaInObject (c :: r))

/-- The colon between a key and its value. -/
def readColon (cs : List Char) : Except Fault (List Char) :=
  match skipSpace cs with
  | [] => .error (.on .endInObject [])
  | c :: r => if c = ':' then .ok r else .error (.on .noColon (c :: r))

/-- Folds the items of a list from some item on. Every item takes at least one character, so a text
longer than the one to be read bounds the steps. -/
def foldItemsFrom {σ : Type} (item : σ → Reader σ) : List Char → Bool → σ → Reader σ
  | [], _, _, cs => .error (.before .endInList cs)
  | _ :: bound, first, acc, cs => do
    match ← nextItem first cs with
    | .closed rest => return (acc, rest)
    | .more rest =>
      let (next, r) ← item acc rest
      foldItemsFrom item bound false next r

/-- Folds the items of a list after its opening bracket. -/
def foldItems {σ : Type} (item : σ → Reader σ) (start : σ) : Reader σ := fun cs =>
  foldItemsFrom item ('[' :: cs) true start cs

/-- Folds the members of an object from some member on; `member` reads on behind the key. -/
def foldMembersFrom {σ : Type} (member : σ → String → Reader σ) :
    List Char → Bool → σ → Reader σ
  | [], _, _, cs => .error (.before .endInObject cs)
  | _ :: bound, first, acc, cs => do
    match ← nextKey first cs with
    | .closed rest => return (acc, rest)
    | .more rest =>
      let (key, r) ← readString rest
      let (next, r) ← member acc key r
      foldMembersFrom member bound false next r

/-- Folds the members of an object after its opening brace. -/
def foldMembers {σ : Type} (member : σ → String → Reader σ) (start : σ) : Reader σ := fun cs =>
  foldMembersFrom member ('{' :: cs) true start cs

/-- How many containers may be open at once. -/
def nestingLimit : Nat := 127

/-- One value, with blanks allowed before it, of at most `depth` open containers. -/
def readDocument (depth : Nat) : Reader Document := fun cs =>
  match skipSpace cs with
  | [] => .error (.on .endInValue [])
  | c :: rest =>
    if c = 'n' then do return (.null, ← readWord ['u', 'l', 'l'] rest)
    else if c = 't' then do return (.boolean true, ← readWord ['r', 'u', 'e'] rest)
    else if c = 'f' then do return (.boolean false, ← readWord ['a', 'l', 's', 'e'] rest)
    else if c = '-' ∨ (Text.digitValue? c).isSome then do
      let (n, r) ← readNumber (c :: rest)
      return (.number n, r)
    else if c = '"' then do
      let (s, r) ← readString rest
      return (.string s, r)
    else if c = '[' ∨ c = '{' then
      match depth with
      | 0 => .error (.on .tooDeep (c :: rest))
      | depth + 1 =>
        if c = '[' then do
          let (items, r) ← foldItems (fun acc cs => do
            let (d, r) ← readDocument depth cs
            return (d :: acc, r)) [] rest
          return (.array items.reverse, r)
        else do
          let (members, r) ← foldMembers (fun acc key cs => do
            let cs ← readColon cs
            let (d, r) ← readDocument depth cs
            return ((key, d) :: acc, r)) [] rest
          return (.object members.reverse, r)
    else .error (.on .noValue (c :: rest))

/-- Nothing but blanks may follow a document. -/
def readEnd (cs : List Char) : Except Fault Unit :=
  match skipSpace cs with
  | [] => .ok ()
  | r => .error (.on .trailingText r)

/-- Reads a whole text with the given reader. -/
def readWhole {α : Type} (read : Reader α) (text : String) : Except Failure α :=
  let cs := text.toList
  let result : Except Fault α := do
    let (a, rest) ← read cs
    readEnd rest
    return a
  result.mapError (Failure.locate cs)

def parseDocument (text : String) : Except Failure Document :=
  readWhole (readDocument nestingLimit) text

/-- The value of a text that is one JSON document. -/
def parse (text : String) : Except Failure Value := (parseDocument text).map Document.toValue

end GuestHost.Json
