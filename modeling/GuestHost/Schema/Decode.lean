import GuestHost.Json.Read
import GuestHost.Schema.Validate
import GuestHost.Text.Utf8
/-!
Decoding a text. While a value is fitted, one buffer holds the text of the path to the part in hand. What a
part adds to the buffer is cut off again when the part is done, whether or not it fits.
-/
namespace GuestHost.Schema

/-- A failure with the text of the path to it. -/
structure Report where
  reason : Reason
  path : String
  deriving DecidableEq, Repr

def Report.toValue (e : Report) : Value := .error e.reason.message (some e.path)

/-- A step of a visit to a value, with the buffer that holds the path. -/
abbrev Visit (α : Type) := ExceptT Report (StateM String) α

namespace Visit

variable {α : Type}

/-- Fails where the visit is. -/
def fail (reason : Reason) : Visit α := do
  throw ⟨reason, ← get⟩

/-- Takes over what a value by itself has come to. -/
def here (r : Except Rejection α) : Visit α :=
  match r with
  | .ok a => pure a
  | .error r => fail r.reason

/-- Visits a part: its accessor goes on the buffer, which is then cut back to its old length. -/
def within (a : Accessor) (x : Visit α) : Visit α := fun path =>
  let (r, longer) := x (path ++ a.text)
  (r, Text.utf8Prefix longer path.utf8ByteSize)

/-- Visits every item with one function, from the given index on. -/
def items (visit : Value → Visit Value) (index : Nat) : List Value → Visit (List Value)
  | [] => return []
  | v :: rest => do
    let w ← within (.item index) (visit v)
    let ws ← items visit (index + 1) rest
    return w :: ws

/-- Visits the members that no field names and adds them behind the fields. -/
def others (visit : Value → Visit Value) (declared : List String) (done : Members Value) :
    List (String × Value) → Visit (Members Value)
  | [] => return done
  | (k, v) :: rest =>
    if k ∈ declared then others visit declared done rest
    else do
      let w ← within (.field k) (visit v)
      others visit declared (Members.set k w done) rest

end Visit

open Visit

mutual

/-- Fits a value and its parts, with the path in the buffer. -/
def visit : Schema → Value → Visit Value
  | array s, v =>
    match v with
    | .array vs => .array <$> items (visit s) 0 vs
    | _ => here (mismatch (array s) v)
  | tuple ss, v =>
    match v with
    | .array vs =>
      if vs.length = ss.length then .array <$> visitTuple ss 0 vs
      else fail (.tupleLength ss.length vs.length)
    | _ => here (mismatch (tuple ss) v)
  | object fields index, v =>
    match v with
    | .object members => do
      let done ← visitFields fields members []
      match index with
      | none => return .object done
      | some s => return .object (← others (visit s) (fields.map Prod.fst) done members)
    | _ => here (mismatch (object fields index) v)
  | union variants, v => visitUnion variants none v
  | s, v => here (s.fit v)

def visitTuple : List Schema → Nat → List Value → Visit (List Value)
  | s :: ss, index, v :: vs => do
    let w ← within (.item index) (visit s v)
    let ws ← visitTuple ss (index + 1) vs
    return w :: ws
  | _, _, _ => return []

/-- Visits the declared fields in order of declaration. -/
def visitFields : List (String × Schema) → List (String × Value) → Members Value → Visit (Members Value)
  | [], _, done => return done
  | (name, s) :: rest, members, done =>
    match Members.get? name members with
    | some v => do
      let w ← within (.field name) (visit s v)
      visitFields rest members (Members.set name w done)
    | none =>
      if s.acceptsUndefined then visitFields rest members done
      else within (.field name) (fail .missingField)

/-- The first variant that fits, or the failure of the last one. -/
def visitUnion : List Schema → Option Report → Value → Visit Value
  | [], some e, _ => throw e
  | [], none, _ => fail .noVariants
  | s :: rest, _, v => tryCatch (visit s v) fun e => visitUnion rest (some e) v

end

/-- Reads a text as JSON and fits it to the schema; every failure is an error value. -/
def decode (s : Schema) (text : String) : Value :=
  match Json.parse text with
  | .error e => .error ("JSON parse error: " ++ e.message) (some "$")
  | .ok v =>
    match (s.visit v).run "$" with
    | (.ok w, _) => w
    | (.error e, _) => e.toValue

end GuestHost.Schema
