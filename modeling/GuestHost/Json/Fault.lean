import GuestHost.Json.Text
import GuestHost.Text.Quoted
import GuestHost.Text.Utf8
/-!
What can be wrong with a text that should be a JSON document, and where: a flaw in the spelling, or a
well-spelled part that does not fit what is to be read from it.
-/
namespace GuestHost.Json

/-- A flaw in the spelling of a document. -/
inductive Flaw where
  | endInList | endInObject | endInString | endInValue
  | noColon | noCommaInList | noCommaInObject | badWord | noValue
  | badEscape | badNumber | numberTooLarge | controlCharacter | keyNotString
  | loneSurrogate | cutSurrogatePair | trailingComma | trailingText | tooDeep
  deriving DecidableEq, Repr

namespace Flaw

def message : Flaw → String
  | endInList => "EOF while parsing a list"
  | endInObject => "EOF while parsing an object"
  | endInString => "EOF while parsing a string"
  | endInValue => "EOF while parsing a value"
  | noColon => "expected `:`"
  | noCommaInList => "expected `,` or `]`"
  | noCommaInObject => "expected `,` or `\x7d`"
  | badWord => "expected ident"
  | noValue => "expected value"
  | badEscape => "invalid escape"
  | badNumber => "invalid number"
  | numberTooLarge => "number out of range"
  | controlCharacter => "control character (\\u0000-\\u001F) found while parsing a string"
  | keyNotString => "key must be a string"
  | loneSurrogate => "lone leading surrogate in hex escape"
  | cutSurrogatePair => "unexpected end of hex escape"
  | trailingComma => "trailing comma"
  | trailingText => "trailing characters"
  | tooDeep => "recursion limit exceeded"

end Flaw

/-- What stands where something else was wanted. -/
inductive Found where
  | null
  | integer (n : Int)
  | real (x : Float)
  | boolean (b : Bool)
  | string (s : String)
  | map
  | sequence

namespace Found

def ofNumber : Number → Found
  | .integer n => integer n
  | .real x => real x

def ofDocument : Document → Found
  | .null => null
  | .boolean b => boolean b
  | .number n => ofNumber n
  | .string s => string s
  | .array _ => sequence
  | .object _ => map

def text : Found → String
  | null => "null"
  | integer n => "integer `" ++ String.ofList (integerText n) ++ "`"
  | real x => "floating point `" ++ String.ofList ((Decimal.floatText? x).getD []) ++ "`"
  | boolean b => "boolean `" ++ String.ofList (booleanText b) ++ "`"
  | string s => "string " ++ Text.quoted s
  | map => "map"
  | sequence => "sequence"

end Found

/-- A part that is well spelled but does not fit. -/
inductive Misfit where
  | wrongType (found : Found) (wanted : String)
  | wrongValue (found : Found) (wanted : String)
  | missingField (name : String)
  | repeatedField (name : String)
  | unknownVariant (name : String) (known : List String)
  | wrongLength (length : Nat) (wanted : String)

def Misfit.message : Misfit → String
  | wrongType found wanted => "invalid type: " ++ found.text ++ ", expected " ++ wanted
  | wrongValue found wanted => "invalid value: " ++ found.text ++ ", expected " ++ wanted
  | missingField name => "missing field `" ++ name ++ "`"
  | repeatedField name => "duplicate field `" ++ name ++ "`"
  | unknownVariant name known =>
    "unknown variant `" ++ name ++ "`, expected one of " ++
      ", ".intercalate (known.map fun k => "`" ++ k ++ "`")
  | wrongLength length wanted =>
    "invalid length " ++ toString length ++ ", expected " ++ wanted

inductive Cause where
  | flaw (f : Flaw)
  | misfit (m : Misfit)

def Cause.message : Cause → String
  | flaw f => f.message
  | misfit m => m.message

/-- A cause together with the text still unread when it showed, and how many bytes of that text the
reader had already looked at. -/
structure Fault where
  cause : Cause
  rest : List Char
  seen : Nat

namespace Fault

/-- A flaw found before the next character. -/
def before (f : Flaw) (rest : List Char) : Fault := ⟨.flaw f, rest, 0⟩

/-- A flaw that the next character shows. -/
def on (f : Flaw) (rest : List Char) : Fault := ⟨.flaw f, rest, 1⟩

/-- A part that ended before `rest` and does not fit. -/
def unfit (m : Misfit) (rest : List Char) : Fault := ⟨.misfit m, rest, 0⟩

end Fault

/-- Lines count from one, columns in bytes from the last line break. -/
structure Position where
  line : Nat
  column : Nat
  deriving DecidableEq, Repr

namespace Position

def advance (p : Position) (b : UInt8) : Position :=
  if b = 10 then ⟨p.line + 1, 0⟩ else ⟨p.line, p.column + 1⟩

def ofBytes (bytes : List UInt8) : Position := bytes.foldl advance ⟨1, 0⟩

end Position

def byteCount (cs : List Char) : Nat := cs.foldl (fun n c => n + c.utf8Size) 0

/-- Why a text could not be read. Parts that were read after the text had been taken in as a whole
carry no position. -/
structure Failure where
  cause : Cause
  position : Option Position

namespace Failure

def ofMisfit (m : Misfit) : Failure := ⟨.misfit m, none⟩

/-- Finds the fault's place in the whole text. -/
def locate (whole : List Char) (f : Fault) : Failure :=
  let consumed := byteCount whole - byteCount f.rest
  ⟨f.cause, some (Position.ofBytes ((Text.encode (String.ofList whole)).take (consumed + f.seen)))⟩

def message (f : Failure) : String :=
  match f.position with
  | none => f.cause.message
  | some p => f.cause.message ++ " at line " ++ toString p.line ++ " column " ++ toString p.column

end Failure
end GuestHost.Json
