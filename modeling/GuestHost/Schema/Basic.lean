import GuestHost.Value.Basic
/-!
Shapes that decoded data can be required to have.
-/
namespace GuestHost

inductive Schema where
  /-- Anything JSON can express. -/
  | json
  | undefined
  | null
  | string (literal : Option String)
  | boolean (literal : Option Bool)
  | integer (literal : Option Int64)
  | number (literal : Option Float)
  | array (items : Schema)
  | tuple (items : List Schema)
  /-- Named fields in order, and a shape for all other members if they are to be kept. -/
  | object (fields : List (String × Schema)) (index : Option Schema)
  /-- The first variant that fits. -/
  | union (variants : List Schema)
  deriving Inhabited

namespace Schema

/-- The name used in diagnostics. -/
def name : Schema → String
  | json => "json"
  | undefined => "undefined"
  | null => "null"
  | string _ => "string"
  | boolean _ => "boolean"
  | integer _ => "integer"
  | number _ => "number"
  | array _ => "array"
  | tuple _ => "tuple"
  | object _ _ => "object"
  | union _ => "union"

mutual

/-- Whether an object field of this shape may be missing. -/
def acceptsUndefined : Schema → Bool
  | undefined => true
  | union variants => someAcceptsUndefined variants
  | _ => false

def someAcceptsUndefined : List Schema → Bool
  | [] => false
  | s :: rest => s.acceptsUndefined || someAcceptsUndefined rest

end

end Schema
end GuestHost
