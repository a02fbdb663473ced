import GuestHost.Value.Basic
/-!
How values cross between a guest program and its host. Containers have identity on the guest's side: a
change through one reference shows through all others. What crosses as a host value is a deep copy, and
no copy goes deeper than `maxDepth`, since guests can build cycles.
-/
namespace GuestHost

/-- How many containers a copied part may lie in. -/
def maxDepth : Nat := 512

inductive BridgeError where
  | badHandle (handle : Int)
  | wrongKind (expected found : Kind)
  | indexOutOfRange (index length : Nat)
  | tooDeep
  | exhausted
  | foreignReference
  deriving DecidableEq, Repr

def BridgeError.message : BridgeError → String
  | badHandle h => "handle " ++ toString h ++ " does not resolve"
  | wrongKind expected found => "expected " ++ expected.name ++ ", got " ++ found.name
  | indexOutOfRange index length =>
    "index " ++ toString index ++ " out of range for length " ++ toString length
  | tooDeep => "value nesting exceeds " ++ toString maxDepth ++ " levels"
  | exhausted => "value table is full"
  | foreignReference => "reference does not carry a host value"

/-- What a program's references are: numbers of a table, or references of the engine. -/
inductive Encoding where
  | handle | reference
  deriving DecidableEq, Repr

def Encoding.name : Encoding → String
  | handle => "handle"
  | reference => "reference"

/-- The state `β` of one encoding, with references `γ`. Operations that can make something new even
when they fail return their state in any case. -/
class Bridge (β : Type) (γ : outParam Type) where
  encoding : Encoding
  start : β
  /-- Copies a host value to the guest's side. -/
  toGuest (b : β) (v : Value) : Except BridgeError γ × β
  /-- Copies what a reference leads to to the host's side. -/
  toHost (b : β) (g : γ) : Except BridgeError Value
  kind (b : β) (g : γ) : Except BridgeError Kind
  /-- An array of undefined items. -/
  newArray (b : β) (length : Nat) : Except BridgeError γ × β
  arrayLength (b : β) (g : γ) : Except BridgeError Nat
  arrayGet (b : β) (g : γ) (index : Nat) : Except BridgeError γ
  arraySet (b : β) (g : γ) (index : Nat) (item : γ) : Except BridgeError β
  newObject (b : β) : Except BridgeError γ × β
  objectGet (b : β) (g : γ) (key : String) : Except BridgeError (Option γ)
  objectSet (b : β) (g : γ) (key : String) (item : γ) : Except BridgeError β
  objectKeys (b : β) (g : γ) : Except BridgeError (List String)
  /-- The text of a literal, made once for each place in memory that it is read from. -/
  intern (b : β) (pointer length : Nat) (text : String) : Except BridgeError γ × β
  undefined : γ
  /-- The null reference, where there is one. -/
  nullReference? : Option γ
  /-- A plain number as a reference, where references are numbers. -/
  ofNumber? (n : Int) : Option γ
  /-- The number that a reference is, where references are numbers. -/
  number? (g : γ) : Option Int

end GuestHost
