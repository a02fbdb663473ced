import GuestHost.Value.Members
/-!
The values that guest programs and their host exchange: eight kinds, of which the first two carry
nothing. Objects remember the order in which their members were first set.
-/
namespace GuestHost

inductive Kind where
  | undefined | null | boolean | integer | float | string | array | object
  deriving DecidableEq, Repr

namespace Kind

/-- The number by which guest programs know a kind. -/
def code : Kind → Nat
  | undefined => 0
  | null => 1
  | boolean => 2
  | integer => 3
  | float => 4
  | string => 5
  | array => 6
  | object => 7

def ofCode? : Int → Option Kind
  | 0 => some undefined
  | 1 => some null
  | 2 => some boolean
  | 3 => some integer
  | 4 => some float
  | 5 => some string
  | 6 => some array
  | 7 => some object
  | _ => none

/-- The name used in diagnostics. -/
def name : Kind → String
  | undefined => "undefined"
  | null => "null"
  | boolean => "boolean"
  | integer => "integer"
  | float => "number"
  | string => "string"
  | array => "array"
  | object => "object"

theorem ofCode?_code (k : Kind) : ofCode? k.code = some k := by cases k <;> rfl

end Kind

inductive Value where
  | undefined
  | null
  | boolean (b : Bool)
  | integer (n : Int64)
  | float (x : Float)
  | string (s : String)
  | array (items : List Value)
  | object (members : List (String × Value))
  deriving Inhabited

namespace Value

def kind : Value → Kind
  | undefined => .undefined
  | null => .null
  | boolean _ => .boolean
  | integer _ => .integer
  | float _ => .float
  | string _ => .string
  | array _ => .array
  | object _ => .object

def isUndefined : Value → Bool
  | undefined => true
  | _ => false

/-- An object from its members in order, the last of those with one name counting. -/
def ofMembers (pairs : List (String × Value)) : Value := object (Members.ofPairs pairs)

/-- The value that stands for a failure a guest program can inspect. -/
def error (message : String) (path : Option String) : Value :=
  object <| [("type", string "error"), ("message", string message)] ++
    match path with
    | some p => [("path", string p)]
    | none => []

/-- Objects of the shape that `error` builds. -/
def isError : Value → Bool
  | object members =>
    match Members.get? "type" members with
    | some (string "error") => true
    | _ => false
  | _ => false

@[simp] theorem isError_error (message : String) (path : Option String) :
    (error message path).isError = true := by
  simp [error, isError, Members.get?]

mutual

/-- How many containers lie inside one another, the value itself included. -/
def depth : Value → Nat
  | array items => depthOfItems items + 1
  | object members => depthOfMembers members + 1
  | _ => 0

def depthOfItems : List Value → Nat
  | [] => 0
  | v :: rest => max v.depth (depthOfItems rest)

def depthOfMembers : List (String × Value) → Nat
  | [] => 0
  | (_, v) :: rest => max v.depth (depthOfMembers rest)

end

mutual

/-- No object anywhere in the value has two members of one name. -/
def WellFormed : Value → Prop
  | array items => WellFormedItems items
  | object members => (Members.keys members).Nodup ∧ WellFormedMembers members
  | _ => True

def WellFormedItems : List Value → Prop
  | [] => True
  | v :: rest => v.WellFormed ∧ WellFormedItems rest

def WellFormedMembers : List (String × Value) → Prop
  | [] => True
  | (_, v) :: rest => v.WellFormed ∧ WellFormedMembers rest

end

mutual

/-- Structural equality: the order of array items counts, that of object members does not, and
numbers of different kinds differ. -/
def equal : Value → Value → Bool
  | undefined, undefined => true
  | null, null => true
  | boolean a, boolean b => a == b
  | integer a, integer b => a == b
  | float a, float b => a == b
  | string a, string b => a == b
  | array xs, array ys => equalItems xs ys
  | object xs, object ys => xs.length == ys.length && equalMembers xs ys
  | _, _ => false

def equalItems : List Value → List Value → Bool
  | [], [] => true
  | x :: xs, y :: ys => equal x y && equalItems xs ys
  | _, _ => false

/-- Every member on the left has an equal one of the same name on the right. -/
def equalMembers : List (String × Value) → List (String × Value) → Bool
  | [], _ => true
  | (k, x) :: xs, ys =>
    (match Members.get? k ys with
      | some y => equal x y
      | none => false) && equalMembers xs ys

end

end Value
end GuestHost
