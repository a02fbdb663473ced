import GuestHost.Json.Document
/-!
Compact JSON text: no blanks, and in strings only what must be escaped is.
-/
namespace GuestHost.Json

def hexDigit (n : Nat) : Char := if n < 10 then Char.ofNat (48 + n) else Char.ofNat (87 + n)

/-- A character inside a string. -/
def escaped (c : Char) : List Char :=
  if c = '"' then ['\\', '"']
  else if c = '\\' then ['\\', '\\']
  else if c.toNat = 0x8 then ['\\', 'b']
  else if c.toNat = 0xC then ['\\', 'f']
  else if c = '\n' then ['\\', 'n']
  else if c = '\r' then ['\\', 'r']
  else if c = '\t' then ['\\', 't']
  else if c.toNat < 0x20 then
    ['\\', 'u', '0', '0', hexDigit (c.toNat / 16), hexDigit (c.toNat % 16)]
  else [c]

def stringText (s : String) : List Char := '"' :: (s.toList.flatMap escaped ++ ['"'])

def integerText (n : Int) : List Char :=
  if n < 0 then '-' :: Nat.toDigits 10 n.natAbs else Nat.toDigits 10 n.natAbs

def Number.text : Number → List Char
  | .integer n => integerText n
  | .real x => (Decimal.floatText? x).getD "null".toList

def booleanText (b : Bool) : List Char := if b then "true".toList else "false".toList

/-- A comma before all but the first of several things. -/
def separated (first : Bool) (cs : List Char) : List Char := if first then cs else ',' :: cs

namespace Document

mutual

/-- The text of a document, with more text behind it. -/
def textBefore : Document → List Char → List Char
  | null, after => "null".toList ++ after
  | boolean b, after => booleanText b ++ after
  | number n, after => n.text ++ after
  | string s, after => stringText s ++ after
  | array items, after => '[' :: itemsBefore true items (']' :: after)
  | object members, after => '{' :: membersBefore true members ('}' :: after)

def itemsBefore (first : Bool) : List Document → List Char → List Char
  | [], after => after
  | d :: rest, after => separated first (d.textBefore (itemsBefore false rest after))

def membersBefore (first : Bool) : List (String × Document) → List Char → List Char
  | [], after => after
  | (k, d) :: rest, after =>
    separated first (stringText k ++ ':' :: d.textBefore (membersBefore false rest after))

end

def text (d : Document) : List Char := d.textBefore []

end Document

/-- The one way to write a value as JSON; fails on the first float that has no digits. -/
def write (v : Value) : Except Float String :=
  (Document.ofValue v).map fun d => String.ofList d.text

end GuestHost.Json
