import GuestHost.Bridge.Basic
/-!
The encoding by references of the engine: a reference carries a node, and the containers that nodes
stand for live in a heap of cells. Scalars need no cell, since nothing can change them.
-/
namespace GuestHost

inductive Node where
  | undefined
  | null
  | boolean (b : Bool)
  | integer (n : Int64)
  | float (x : Float)
  | string (s : String)
  | array (cell : Nat)
  | object (cell : Nat)

def Node.kind : Node → Kind
  | undefined => .undefined
  | null => .null
  | boolean _ => .boolean
  | integer _ => .integer
  | float _ => .float
  | string _ => .string
  | array _ => .array
  | object _ => .object

/-- What a guest program holds. The null reference reads as null. -/
inductive Reference where
  | null
  | node (n : Node)
  /-- A reference that some other host has made. -/
  | foreign

structure NodeHeap where
  arrays : Array (Array Node) := #[]
  objects : Array (Members Node) := #[]
  /-- The texts of literals by the place and length of their text. -/
  interned : List ((Nat × Nat) × String) := []

namespace NodeHeap

def node : Reference → Except BridgeError Node
  | .null => .ok .null
  | .node n => .ok n
  | .foreign => .error .foreignReference

def itemsOf (b : NodeHeap) (cell : Nat) : Array Node := b.arrays[cell]?.getD #[]

def membersOf (b : NodeHeap) (cell : Nat) : Members Node := b.objects[cell]?.getD []

def addArray (b : NodeHeap) (items : Array Node) : Node × NodeHeap :=
  (.array b.arrays.size, { b with arrays := b.arrays.push items })

def addObject (b : NodeHeap) (members : Members Node) : Node × NodeHeap :=
  (.object b.objects.size, { b with objects := b.objects.push members })

mutual

/-- Builds the nodes of a value. A failure leaves no trace. -/
def buildAt : Nat → Value → NodeHeap → Except BridgeError (Node × NodeHeap)
  | 0, _, _ => .error .tooDeep
  | _ + 1, .undefined, b => .ok (.undefined, b)
  | _ + 1, .null, b => .ok (.null, b)
  | _ + 1, .boolean x, b => .ok (.boolean x, b)
  | _ + 1, .integer n, b => .ok (.integer n, b)
  | _ + 1, .float x, b => .ok (.float x, b)
  | _ + 1, .string s, b => .ok (.string s, b)
  | room + 1, .array items, b => do
    let (ns, b) ← buildItems room items b
    return b.addArray ns.toArray
  | room + 1, .object members, b => do
    let (ms, b) ← buildMembers room members b
    return b.addObject ms

def buildItems (room : Nat) : List Value → NodeHeap → Except BridgeError (List Node × NodeHeap)
  | [], b => .ok ([], b)
  | v :: rest, b => do
    let (n, b) ← buildAt room v b
    let (ns, b) ← buildItems room rest b
    return (n :: ns, b)

def buildMembers (room : Nat) :
    List (String × Value) → NodeHeap → Except BridgeError (Members Node × NodeHeap)
  | [], b => .ok ([], b)
  | (k, v) :: rest, b => do
    let (n, b) ← buildAt room v b
    let (ms, b) ← buildMembers room rest b
    return ((k, n) :: ms, b)

end

def toGuest (b : NodeHeap) (v : Value) : Except BridgeError Reference × NodeHeap :=
  match buildAt (maxDepth + 1) v b with
  | .ok (n, b) => (.ok (.node n), b)
  | .error e => (.error e, b)

/-- Copies the value of a node, with room for so many levels of containers less one. -/
def readAt (b : NodeHeap) : Nat → Node → Except BridgeError Value
  | 0, _ => .error .tooDeep
  | room + 1, n =>
    match n with
    | .undefined => .ok .undefined
    | .null => .ok .null
    | .boolean x => .ok (.boolean x)
    | .integer i => .ok (.integer i)
    | .float x => .ok (.float x)
    | .string s => .ok (.string s)
    | .array cell => do
      return .array (← (b.itemsOf cell).toList.mapM fun i => readAt b room i)
    | .object cell => do
      return .object (← (b.membersOf cell).mapM fun m => do return (m.1, ← readAt b room m.2))

def read (b : NodeHeap) (r : Reference) : Except BridgeError Value := do
  b.readAt (maxDepth + 1) (← node r)

/-- The cell of an array. -/
def arrayCell (r : Reference) : Except BridgeError Nat := do
  match ← node r with
  | .array cell => return cell
  | n => throw (.wrongKind .array n.kind)

/-- The cell of an object. -/
def objectCell (r : Reference) : Except BridgeError Nat := do
  match ← node r with
  | .object cell => return cell
  | n => throw (.wrongKind .object n.kind)

def arrayLength (b : NodeHeap) (r : Reference) : Except BridgeError Nat := do
  return (b.itemsOf (← arrayCell r)).size

def arrayGet (b : NodeHeap) (r : Reference) (index : Nat) : Except BridgeError Reference := do
  let items := b.itemsOf (← arrayCell r)
  match items[index]? with
  | some n => return .node n
  | none => throw (.indexOutOfRange index items.size)

/-- The item has to carry a node, whatever the array is. -/
def arraySet (b : NodeHeap) (r : Reference) (index : Nat) (item : Reference) :
    Except BridgeError NodeHeap := do
  let n ← node item
  let cell ← arrayCell r
  let items := b.itemsOf cell
  if index < items.size then
    return { b with arrays := b.arrays.setIfInBounds cell (items.setIfInBounds index n) }
  else throw (.indexOutOfRange index items.size)

def objectGet (b : NodeHeap) (r : Reference) (key : String) :
    Except BridgeError (Option Reference) := do
  return (Members.get? key (b.membersOf (← objectCell r))).map .node

def objectSet (b : NodeHeap) (r : Reference) (key : String) (item : Reference) :
    Except BridgeError NodeHeap := do
  let n ← node item
  let cell ← objectCell r
  let members := Members.set key n (b.membersOf cell)
  return { b with objects := b.objects.setIfInBounds cell members }

def objectKeys (b : NodeHeap) (r : Reference) : Except BridgeError (List String) := do
  return Members.keys (b.membersOf (← objectCell r))

def newArray (b : NodeHeap) (length : Nat) : Except BridgeError Reference × NodeHeap :=
  let (n, b) := b.addArray (Array.replicate length .undefined)
  (.ok (.node n), b)

def newObject (b : NodeHeap) : Except BridgeError Reference × NodeHeap :=
  let (n, b) := b.addObject []
  (.ok (.node n), b)

def interned? (b : NodeHeap) (pointer length : Nat) : Option String :=
  b.interned.lookup (pointer, length)

def intern (b : NodeHeap) (pointer length : Nat) (text : String) :
    Except BridgeError Reference × NodeHeap :=
  match b.interned? pointer length with
  | some s => (.ok (.node (.string s)), b)
  | none =>
    (.ok (.node (.string text)), { b with interned := ((pointer, length), text) :: b.interned })

instance : Bridge NodeHeap Reference where
  encoding := .reference
  start := {}
  toGuest := toGuest
  toHost := read
  kind _ r := (node r).map Node.kind
  newArray := newArray
  arrayLength := arrayLength
  arrayGet := arrayGet
  arraySet := arraySet
  newObject := newObject
  objectGet := objectGet
  objectSet := objectSet
  objectKeys := objectKeys
  intern := intern
  undefined := .node .undefined
  nullReference? := some .null
  ofNumber? _ := none
  number? _ := none

end NodeHeap
end GuestHost
