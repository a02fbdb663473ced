import GuestHost.Store.Token
/-!
The types of columns: the text that a declaration leaves behind, and what it says about the cells.
-/
namespace GuestHost.Store

/-- The text of a type, and the affinity and width that go with it. A width of one is that of a small
integer. -/
structure ColumnType where
  text : String
  affinity : Affinity
  width : Nat
  /-- Whether the type is one of the usual six, whose names are kept in capitals. -/
  usual : Bool
  deriving DecidableEq, Repr

namespace ColumnType

/-- A column without a type. -/
def none : ColumnType := ⟨"", .blob, 1, false⟩

def usualTypes : List ColumnType :=
  [⟨"ANY", .numeric, 1, true⟩, ⟨"BLOB", .blob, 5, true⟩, ⟨"INT", .integer, 1, true⟩,
    ⟨"INTEGER", .integer, 1, true⟩, ⟨"REAL", .real, 1, true⟩, ⟨"TEXT", .text, 5, true⟩]

def isQuote (c : Char) : Bool := c == '"' || c == '\'' || c == '[' || c.toNat == 0x60

/-- Takes off the quotes around a text that holds no other ones. -/
def unwrap (cs : List Char) : List Char :=
  match cs with
  | q :: rest =>
    if isQuote q ∧ 1 ≤ rest.length ∧ !(rest.dropLast.any isQuote) then rest.dropLast else cs
  | [] => []

/-- What a text in quotes holds up to the closing one; the rest is dropped. A text without quotes stays. -/
def unquote (cs : List Char) : List Char :=
  match cs with
  | q :: rest =>
    if isQuote q then ((Token.scanQuoted (if q = '[' then ']' else q) rest).map Prod.fst).getD rest else cs
  | [] => []

/-- Drops a word at the end, letter case aside, and the blanks in front of it. -/
def dropWord (word : String) (cs : List Char) : Option (List Char) :=
  let n := cs.length - word.length
  if Text.asciiLower (String.ofList (cs.drop n)) = word then
    some ((cs.take n).reverse.dropWhile isSqlSpace).reverse
  else .none

/-- The words of a generated column are no part of its type. -/
def dropGenerated (cs : List Char) : List Char :=
  if cs.length < 16 then cs
  else
    match dropWord "always" cs with
    | some r => (dropWord "generated" r).getD r
    | .none => cs

/-- The affinity that the words in a type give, and the part of it that may hold a length. An integer type is
one whatever else it says; of the others text comes first. `cs` is in capitals. -/
def scan : List Char → Affinity × Option (List Char) → Affinity × Option (List Char)
  | [], found => found
  | c :: cs, (a, size) =>
    let starts (word : String) : Bool := word.toList.isPrefixOf (c :: cs)
    let behind := cs.drop 3
    if starts "INT" then (.integer, .none)
    else if starts "CHAR" then scan cs (.text, some behind)
    else if starts "CLOB" || starts "TEXT" then scan cs (.text, size)
    else if starts "BLOB" && (a == .numeric || a == .real) then
      scan cs (.blob, if behind.head? = some '(' then some behind else size)
    else if (starts "REAL" || starts "FLOA" || starts "DOUB") && a == .numeric then scan cs (.real, size)
    else scan cs (a, size)

/-- The first number in a text, zero if it is none that a width can be. -/
def length (cs : List Char) : Nat :=
  let digits := ((cs.dropWhile fun c => !isDigit c).takeWhile isDigit).dropWhile (· == '0')
  let n := if digits.length ≤ 10 then digitsValue digits else 0
  if n ≤ 0x7FFFFFFF then n else 0

/-- How wide the cells of a type are taken to be: text and blobs as long as it says, or sixteen bytes. -/
def widthOf (a : Affinity) (size : Option (List Char)) : Nat :=
  if a.isNumeric then 1
  else min 255 ((match size with | some cs => length cs | .none => 16) / 4 + 1)

/-- The type that a text of a declaration gives. The usual types lose their quotes and are compared without
regard to case; any other text keeps its case, and only a text in quotes loses what follows them. -/
def ofWritten (written : String) : ColumnType :=
  let cs := dropGenerated written.toList
  let bare := if cs.length < 3 then cs else unwrap cs
  match usualTypes.find? fun t => Text.sameIgnoringCase t.text (String.ofList bare) with
  | some t => t
  | .none =>
    if bare.isEmpty then .none
    else
      let text := unquote bare
      let (a, size) := scan (text.map Char.toUpper) (.numeric, .none)
      ⟨String.ofList text, a, widthOf a size, false⟩

end ColumnType
end GuestHost.Store
