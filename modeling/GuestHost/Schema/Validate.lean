import GuestHost.Json.Text
import GuestHost.Schema.Basic
import GuestHost.Value.Display
/-!
Fitting a value to a schema. Fitting may change the value: numbers take the kind that the schema asks
for, and members without a field are dropped unless there is an index. A failure says why and where.
-/
namespace GuestHost.Schema

/-- A step from a container to one of its parts. -/
inductive Accessor where
  | field (name : String)
  | item (index : Nat)
  deriving DecidableEq, Repr

def Accessor.text : Accessor → String
  | field name => "." ++ name
  | item index => "[" ++ toString index ++ "]"

/-- Why a value does not fit. -/
inductive Reason where
  | mismatch (wanted : String) (got : Kind)
  | stringLiteral (wanted : String)
  | otherLiteral (wanted : String)
  | tupleLength (wanted got : Nat)
  | missingField
  | noVariants
  deriving DecidableEq, Repr

def Reason.message : Reason → String
  | mismatch wanted got => "expected " ++ wanted ++ ", got " ++ got.name
  | stringLiteral wanted => "expected literal \"" ++ wanted ++ "\""
  | otherLiteral wanted => "expected literal " ++ wanted
  | tupleLength wanted got =>
    "expected tuple of length " ++ toString wanted ++ ", got length " ++ toString got
  | missingField => "missing required field"
  | noVariants => "union has no variants"

/-- A failure at the end of a path from the value as a whole. -/
structure Rejection where
  reason : Reason
  path : List Accessor
  deriving DecidableEq, Repr

namespace Rejection

def pathText (path : List Accessor) : String := path.foldl (fun acc a => acc ++ a.text) "$"

def toValue (r : Rejection) : Value := .error r.reason.message (some (pathText r.path))

/-- The same failure seen from the container around. -/
def under (a : Accessor) (r : Rejection) : Rejection := { r with path := a :: r.path }

end Rejection

def reject {α : Type} (reason : Reason) : Except Rejection α := .error ⟨reason, []⟩

def mismatch {α : Type} (s : Schema) (v : Value) : Except Rejection α :=
  reject (.mismatch s.name v.kind)

/-- Doubles from here on no longer tell all integers apart. -/
def integralBound : Nat := 0x20000000000000

/-- The integer that a value is, floats without fraction included. -/
def integerOf? : Value → Option Int64
  | .integer n => some n
  | .float x =>
    match Decimal.Binary64.ofFloat x with
    | .finite d =>
      if d.isIntegral ∧ d.floorAbs < integralBound then some (Int64.ofInt d.trunc) else none
    | _ => none
  | _ => none

/-- The float that a number is. -/
def floatOf? : Value → Option Float
  | .integer n => some (Decimal.ofInt64 n)
  | .float x => some x
  | _ => none

/-- Fits every item with one function, from the given index on. -/
def fitItems (fit : Value → Except Rejection Value) (index : Nat) :
    List Value → Except Rejection (List Value)
  | [] => .ok []
  | v :: rest => do
    let w ← (fit v).mapError (Rejection.under (.item index))
    let ws ← fitItems fit (index + 1) rest
    return w :: ws

/-- Fits the members that no field names and adds them behind the fields. -/
def fitOthers (fit : Value → Except Rejection Value) (declared : List String) (done : Members Value) :
    List (String × Value) → Except Rejection (Members Value)
  | [] => .ok done
  | (k, v) :: rest =>
    if k ∈ declared then fitOthers fit declared done rest
    else do
      let w ← (fit v).mapError (Rejection.under (.field k))
      fitOthers fit declared (Members.set k w done) rest

mutual

/-- The value in the form that the schema asks for. -/
def fit : Schema → Value → Except Rejection Value
  | json, v => if v.isUndefined then mismatch json v else .ok v
  | undefined, v => if v.isUndefined then .ok .undefined else mismatch undefined v
  | null, v =>
    match v with
    | .null => .ok .null
    | _ => mismatch null v
  | string literal, v =>
    match v with
    | .string s =>
      match literal with
      | some l => if l = s then .ok v else reject (.stringLiteral l)
      | none => .ok v
    | _ => mismatch (string literal) v
  | boolean literal, v =>
    match v with
    | .boolean b =>
      match literal with
      | some l => if l = b then .ok v else reject (.otherLiteral (if l then "true" else "false"))
      | none => .ok v
    | _ => mismatch (boolean literal) v
  | integer literal, v =>
    match integerOf? v with
    | none => mismatch (integer literal) v
    | some n =>
      match literal with
      | some l =>
        if l = n then .ok (.integer n)
        else reject (.otherLiteral (String.ofList (Json.integerText l.toInt)))
      | none => .ok (.integer n)
  | number literal, v =>
    match floatOf? v with
    | none => mismatch (number literal) v
    | some x =>
      match literal with
      | some l =>
        if l == x then .ok (.float x)
        else reject (.otherLiteral (String.ofList (Decimal.plainText l)))
      | none => .ok (.float x)
  | array items, v =>
    match v with
    | .array vs => (fitItems (fit items) 0 vs).map .array
    | _ => mismatch (array items) v
  | tuple items, v =>
    match v with
    | .array vs =>
      if vs.length = items.length then (fitTuple items 0 vs).map .array
      else reject (.tupleLength items.length vs.length)
    | _ => mismatch (tuple items) v
  | object fields index, v =>
    match v with
    | .object members => do
      let done ← fitFields fields members []
      match index with
      | none => return .object done
      | some s => return .object (← fitOthers (fit s) (fields.map Prod.fst) done members)
    | _ => mismatch (object fields index) v
  | union variants, v => fitUnion variants none v

def fitTuple : List Schema → Nat → List Value → Except Rejection (List Value)
  | s :: ss, index, v :: vs => do
    let w ← (fit s v).mapError (Rejection.under (.item index))
    let ws ← fitTuple ss (index + 1) vs
    return w :: ws
  | _, _, _ => .ok []

/-- Fits the declared fields in order of declaration. -/
def fitFields : List (String × Schema) → List (String × Value) → Members Value →
    Except Rejection (Members Value)
  | [], _, done => .ok done
  | (name, s) :: rest, members, done =>
    match Members.get? name members with
    | some v => do
      let w ← (fit s v).mapError (Rejection.under (.field name))
      fitFields rest members (Members.set name w done)
    | none =>
      if s.acceptsUndefined then fitFields rest members done
      else .error ⟨.missingField, [.field name]⟩

/-- The first variant that fits, or the failure of the last one. -/
def fitUnion : List Schema → Option Rejection → Value → Except Rejection Value
  | [], last, _ => .error (last.getD ⟨.noVariants, []⟩)
  | s :: rest, _, v =>
    match fit s v with
    | .ok w => .ok w
    | .error r => fitUnion rest (some r) v

end

end GuestHost.Schema
