import GuestHost.Decimal.Layout
import GuestHost.Value.Basic
/-!
JSON documents as data: what a reader finds in a text and a writer puts into one. Numbers are told apart
by how they are written, and members stand as they came, repeated names included.
-/
namespace GuestHost.Json

inductive Number where
  | integer (n : Int)
  | real (x : Float)

inductive Document where
  | null
  | boolean (b : Bool)
  | number (n : Number)
  | string (s : String)
  | array (items : List Document)
  | object (members : List (String × Document))
  deriving Inhabited

namespace Document

/-- The value that a number stands for: an integer if it is one and fits a signed word. -/
def valueOfNumber : Number → Value
  | .integer n =>
    if Int64.minValue.toInt ≤ n ∧ n ≤ Int64.maxValue.toInt then .integer (Int64.ofInt n)
    else .float (Decimal.ofNat64 n.toNat)
  | .real x => .float x

mutual

/-- Of repeated names the last counts; the members of every object are sorted by name. -/
def toValue : Document → Value
  | null => .null
  | boolean b => .boolean b
  | number n => valueOfNumber n
  | string s => .string s
  | array items => .array (toValues items)
  | object members => .object (Members.sorted (Members.ofPairs (toMembers members)))

def toValues : List Document → List Value
  | [] => []
  | d :: rest => d.toValue :: toValues rest

def toMembers : List (String × Document) → List (String × Value)
  | [] => []
  | (k, d) :: rest => (k, d.toValue) :: toMembers rest

end

mutual

/-- A document for the value, or the first float in it that JSON has no number for. Undefined is
`null`, except that a member holding it is left out. -/
def ofValue : Value → Except Float Document
  | .undefined => .ok null
  | .null => .ok null
  | .boolean b => .ok (boolean b)
  | .integer n => .ok (number (.integer n.toInt))
  | .float x => if x.isFinite then .ok (number (.real x)) else .error x
  | .string s => .ok (string s)
  | .array items => (ofValues items).map array
  | .object members => (ofMembers members).map object

def ofValues : List Value → Except Float (List Document)
  | [] => .ok []
  | v :: rest => do
    let d ← ofValue v
    let ds ← ofValues rest
    return d :: ds

def ofMembers : List (String × Value) → Except Float (List (String × Document))
  | [] => .ok []
  | (k, v) :: rest =>
    if v.isUndefined then ofMembers rest
    else do
      let d ← ofValue v
      let ds ← ofMembers rest
      return (k, d) :: ds

end

end Document
end GuestHost.Json
