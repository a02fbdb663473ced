import GuestHost.Schema.Description
import GuestHost.Schema.Decode
/-!
The functions on values that guest programs call. An operation refuses what it cannot use under the
name it was called by; text that is no JSON is not refused but becomes an error value.
-/
namespace GuestHost.Builtin

inductive Error where
  | typeMismatch (op wanted : String) (found : Kind)
  | indexOutOfRange (op : String) (index : Int64) (length : Nat)
  | negativeLength (op : String) (length : Int64)
  | tooLarge (op : String) (length : Nat)
  | json (op : String) (x : Float)
  | schema (op : String) (failure : Json.Failure)

/-- The longest array that can be made in one call. -/
def maxArrayLength : Nat := 0x1000000

def nonFiniteMessage (x : Float) : String :=
  "cannot serialize non-finite float " ++ String.ofList (Decimal.plainText x)

def parseMessage (f : Json.Failure) : String := "JSON parse error: " ++ f.message

def schemaMessage (f : Json.Failure) : String := "invalid schema description: " ++ f.message

def Error.message : Error → String
  | typeMismatch op wanted found => op ++ ": expected " ++ wanted ++ ", got " ++ found.name
  | indexOutOfRange op index length =>
    op ++ ": index " ++ toString index.toInt ++ " out of range for length " ++ toString length
  | negativeLength op length => op ++ ": negative length " ++ toString length.toInt
  | tooLarge op length =>
    op ++ ": length " ++ toString length ++ " exceeds the " ++ toString maxArrayLength ++
      " element limit"
  | json op x => op ++ ": " ++ nonFiniteMessage x
  | schema op f => op ++ ": " ++ schemaMessage f

def mismatch {α : Type} (op wanted : String) (v : Value) : Except Error α :=
  .error (.typeMismatch op wanted v.kind)

/-- An integer, or a float cut to one. -/
def toInt64 (op : String) : Value → Except Error Int64
  | .integer n => .ok n
  | .float x => .ok (Decimal.truncToInt64 x)
  | v => mismatch op "number" v

def toFloat (op : String) : Value → Except Error Float
  | .integer n => .ok (Decimal.ofInt64 n)
  | .float x => .ok x
  | v => mismatch op "number" v

def toBool (op : String) : Value → Except Error Bool
  | .boolean b => .ok b
  | v => mismatch op "boolean" v

def toText (op : String) : Value → Except Error String
  | .string s => .ok s
  | v => mismatch op "string" v

/-- The displayed texts of both operands, joined. -/
def concat (a b : Value) : Value := .string (a.display ++ b.display)

def textEq (a b : Value) : Except Error Bool := do
  let s ← toText "str_eq" a
  let t ← toText "str_eq" b
  return s == t

/-- How many characters a text has. -/
def textLength (v : Value) : Except Error Int64 := do
  let s ← toText "str_len" v
  return Int64.ofInt s.length

/-- The place of an index in an array, unless it is out of range. -/
def slot? (length : Nat) (index : Int64) : Option Nat :=
  let i := index.toInt
  if 0 ≤ i ∧ i < length then some i.toNat else none

/-- The place to write to; there has to be one. -/
def slot (op : String) (length : Nat) (index : Int64) : Except Error Nat :=
  match slot? length index with
  | some i => .ok i
  | none => .error (.indexOutOfRange op index length)

def join (items separator : Value) : Except Error Value :=
  match items with
  | .array vs => do
    let sep ← toText "arr_join" separator
    return .string (sep.intercalate (vs.map Value.display))
  | v => mismatch "arr_join" "array" v

/-- A length asked for by a guest program. -/
def arrayLength (op : String) (length : Int64) : Except Error Nat :=
  if length.toInt < 0 then .error (.negativeLength op length)
  else if maxArrayLength < length.toInt.toNat then .error (.tooLarge op length.toInt.toNat)
  else .ok length.toInt.toNat

/-- The integers from `first` up to, but not including, `last`. A distance beyond every signed word is
reported as the greatest unsigned one. -/
def range (first last : Int64) : Except Error Value :=
  if last.toInt ≤ first.toInt then .ok (.array [])
  else
    let span := last.toInt - first.toInt
    if Int64.maxValue.toInt < span then .error (.tooLarge "arr_range" (UInt64.size - 1))
    else do
      let n ← arrayLength "arr_range" (Int64.ofInt span)
      return .array ((List.range n).map fun (i : Nat) => .integer (Int64.ofInt (first.toInt + i)))

def keysValue (keys : List String) : Value := .array (keys.map .string)

def toJson (v : Value) : Except Error Value :=
  match Json.write v with
  | .ok s => .ok (.string s)
  | .error x => .error (.json "json_stringify" x)

def fromJson (text : Value) : Except Error Value := do
  let s ← toText "json_parse" text
  match Json.parse s with
  | .ok v => return v
  | .error f => return .error (parseMessage f) none

/-- Decodes a text under a described schema. A description that cannot be read is refused. -/
def decodeJson (text description : Value) : Except Error Value := do
  let s ← toText "json_decode" text
  let d ← toText "json_decode" description
  match Schema.parse d with
  | .ok schema => return schema.decode s
  | .error f => throw (.schema "json_decode" f)

end GuestHost.Builtin
