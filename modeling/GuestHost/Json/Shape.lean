import GuestHost.Json.Read
/-!
Reading a text for one particular shape without making a document first: what is of another shape is
refused where it stands, and what is of no interest is skipped.
-/
namespace GuestHost.Json

/-- The fault of a value that is not of the wanted shape. A scalar is read to its end; a container is
refused at its bracket. -/
def unfitHere (wanted : String) (cs : List Char) : Fault :=
  let refuse (found : Found) (rest : List Char) : Fault := .unfit (.wrongType found wanted) rest
  let word (letters : List Char) (found : Found) (r : List Char) : Fault :=
    match readWord letters r with
    | .ok rest => refuse found rest
    | .error f => f
  match cs with
  | [] => .on .endInValue []
  | c :: r =>
    if c = 'n' then word ['u', 'l', 'l'] .null r
    else if c = 't' then word ['r', 'u', 'e'] (.boolean true) r
    else if c = 'f' then word ['a', 'l', 's', 'e'] (.boolean false) r
    else if c = '-' ∨ (Text.digitValue? c).isSome then
      match readNumber (c :: r) with
      | .ok (n, rest) => refuse (Found.ofNumber n) rest
      | .error f => f
    else if c = '"' then
      match readString r with
      | .ok (s, rest) => refuse (.string s) rest
      | .error f => f
    else if c = '[' then refuse .sequence (c :: r)
    else if c = '{' then refuse .map (c :: r)
    else .on .noValue (c :: r)

/-- The text behind blanks and a closing bracket, if that is what comes next. -/
def skipCloser (closer : Char) (cs : List Char) : List Char :=
  match skipSpace cs with
  | c :: r => if c = closer then r else c :: r
  | [] => []

/-! Skipping. Nothing is kept, so nesting is not limited, numbers may be of any size and surrogates
need not come in pairs. -/

def skipEscape (cs : List Char) : Except Fault (List Char) :=
  match cs with
  | [] => .error (.before .endInString [])
  | c :: rest =>
    if c ∈ ['"', '\\', '/', 'b', 'f', 'n', 'r', 't'] then .ok rest
    else if c = 'u' then (readHex rest).map Prod.snd
    else .error (.on .badEscape (c :: rest))

/-- Skips the characters up to the closing quote, within a bound as for `readChars`. -/
def skipChars : List Char → List Char → Except Fault (List Char)
  | [], cs => .error (.before .endInString cs)
  | _ :: bound, cs =>
    match cs with
    | [] => .error (.before .endInString [])
    | c :: rest =>
      if c = '"' then .ok rest
      else if c = '\\' then do skipChars bound (← skipEscape rest)
      else if c.toNat < 0x20 then .error (.before .controlCharacter (c :: rest))
      else skipChars bound rest

/-- Skips a string behind its opening quote. -/
def skipString (cs : List Char) : Except Fault (List Char) := skipChars ('"' :: cs) cs

def badNumberAt : List Char → Fault
  | [] => .before .badNumber []
  | cs => .on .badNumber cs

def skipExponent (cs : List Char) : Except Fault (List Char) :=
  let digits := match cs with
    | '+' :: r => r
    | '-' :: r => r
    | r => r
  if startsWithDigit digits then .ok (skipDigits digits) else .error (badNumberAt digits)

def skipNumberTail (cs : List Char) : Except Fault (List Char) :=
  match cs with
  | 'e' :: r => skipExponent r
  | 'E' :: r => skipExponent r
  | r => .ok r

def skipMagnitude (cs : List Char) : Except Fault (List Char) :=
  let tail (r : List Char) : Except Fault (List Char) :=
    match r with
    | '.' :: s =>
      if startsWithDigit s then skipNumberTail (skipDigits s) else .error (.on .badNumber s)
    | s => skipNumberTail s
  match cs with
  | '0' :: r => if startsWithDigit r then .error (.on .badNumber r) else tail r
  | r => if startsWithDigit r then tail (skipDigits r) else .error (badNumberAt r)

/-- Skips to the first value in a container behind its opening bracket, or to its end. -/
def skipOpened (inList : Bool) (cs : List Char) : Except Fault Next := do
  if inList then nextItem true cs
  else
    match ← nextKey true cs with
    | .closed rest => return .closed rest
    | .more rest => return .more (← readColon (← skipString rest))

/-- Skips to the next value in a container behind another one, or to its end. Behind a comma a value has
to come. -/
def skipComma (inList : Bool) (cs : List Char) : Except Fault Next :=
  match skipSpace cs with
  | [] => .error (.on (if inList then .endInList else .endInObject) [])
  | c :: r =>
    if c = ',' then
      if inList then .ok (.more r)
      else
        match skipSpace r with
        | [] => .error (.on .endInObject [])
        | '"' :: s => do return .more (← readColon (← skipString s))
        | d :: s => .error (.on .keyNotString (d :: s))
    else if c = (if inList then ']' else '}') then .ok (.closed r)
    else .error (.on (if inList then .noCommaInList else .noCommaInObject) (c :: r))

/-- A value without parts. -/
def skipScalar (c : Char) (r : List Char) : Except Fault (List Char) :=
  if c = 'n' then readWord ['u', 'l', 'l'] r
  else if c = 't' then readWord ['r', 'u', 'e'] r
  else if c = 'f' then readWord ['a', 'l', 's', 'e'] r
  else if c = '-' then skipMagnitude r
  else if (Text.digitValue? c).isSome then skipMagnitude (c :: r)
  else if c = '"' then skipString r
  else .error (.on .noValue (c :: r))

/-- What a skipping reader is at: a value, or the end of one. -/
inductive SkipState where
  | value | ended

/-- Skips values until no container is open; `inLists` tells for every open one whether it is a list, the
innermost first. Each step but the last takes a character, which bounds the steps as for `readChars`. -/
def skipFrom : List Char → SkipState → List Bool → List Char → Except Fault (List Char)
  | [], _, _, cs => .error (.before .endInValue cs)
  | _, .ended, [], cs => .ok cs
  | _ :: bound, .ended, inList :: outer, cs => do
    match ← skipComma inList cs with
    | .closed rest => skipFrom bound .ended outer rest
    | .more rest => skipFrom bound .value (inList :: outer) rest
  | _ :: bound, .value, inLists, cs =>
    match skipSpace cs with
    | [] => .error (.on .endInValue [])
    | c :: r =>
      if c = '[' ∨ c = '{' then do
        match ← skipOpened (c = '[') r with
        | .closed rest => skipFrom bound .ended inLists rest
        | .more rest => skipFrom bound .value ((c = '[') :: inLists) rest
      else do skipFrom bound .ended inLists (← skipScalar c r)

def skipValue (cs : List Char) : Except Fault (List Char) := skipFrom (' ' :: cs) .value [] cs

end GuestHost.Json
