import GuestHost.Bridge.Basic
/-!
The encoding by numbers: a handle is the place of a slot in a table that only grows. Undefined and null
have the first two slots for good.
-/
namespace GuestHost

abbrev Handle := Int

inductive Slot where
  | undefined
  | null
  | boolean (b : Bool)
  | integer (n : Int64)
  | float (x : Float)
  | string (s : String)
  | array (items : Array Handle)
  | object (members : Members Handle)

def Slot.kind : Slot → Kind
  | undefined => .undefined
  | null => .null
  | boolean _ => .boolean
  | integer _ => .integer
  | float _ => .float
  | string _ => .string
  | array _ => .array
  | object _ => .object

structure HandleTable where
  slots : Array Slot := #[.undefined, .null]
  /-- The handles of literals by the place and length of their text. -/
  interned : List ((Nat × Nat) × Handle) := []

namespace HandleTable

def undefined : Handle := 0

def null : Handle := 1

/-- Handles are words of 32 bits with a sign. -/
def capacity : Nat := 0x80000000

/-- The number of slots in use. -/
def size (t : HandleTable) : Nat := t.slots.size

def slot? (t : HandleTable) (h : Handle) : Option Slot :=
  if 0 ≤ h then t.slots[h.toNat]? else none

def slot (t : HandleTable) (h : Handle) : Except BridgeError Slot :=
  match t.slot? h with
  | some s => .ok s
  | none => .error (.badHandle h)

def push (t : HandleTable) (s : Slot) : Except BridgeError Handle × HandleTable :=
  if t.slots.size < capacity then (.ok t.slots.size, { t with slots := t.slots.push s })
  else (.error .exhausted, t)

/-- Puts another slot in the place of the one of a valid handle. -/
def put (t : HandleTable) (h : Handle) (s : Slot) : HandleTable :=
  { t with slots := t.slots.setIfInBounds h.toNat s }

def kindOf (t : HandleTable) (h : Handle) : Except BridgeError Kind := (t.slot h).map Slot.kind

mutual

/-- Copies a value into the table, the members of a container before the container. A failure leaves
the slots that were made before it. -/
def allocAt : Nat → Value → HandleTable → Except BridgeError Handle × HandleTable
  | 0, _, t => (.error .tooDeep, t)
  | _ + 1, .undefined, t => (.ok undefined, t)
  | _ + 1, .null, t => (.ok null, t)
  | _ + 1, .boolean b, t => t.push (.boolean b)
  | _ + 1, .integer n, t => t.push (.integer n)
  | _ + 1, .float x, t => t.push (.float x)
  | _ + 1, .string s, t => t.push (.string s)
  | room + 1, .array items, t =>
    match allocItems room items t with
    | (.ok hs, t) => t.push (.array hs.toArray)
    | (.error e, t) => (.error e, t)
  | room + 1, .object members, t =>
    match allocMembers room members t with
    | (.ok ms, t) => t.push (.object ms)
    | (.error e, t) => (.error e, t)

def allocItems (room : Nat) : List Value → HandleTable → Except BridgeError (List Handle) × HandleTable
  | [], t => (.ok [], t)
  | v :: rest, t =>
    match allocAt room v t with
    | (.error e, t) => (.error e, t)
    | (.ok h, t) =>
      match allocItems room rest t with
      | (.error e, t) => (.error e, t)
      | (.ok hs, t) => (.ok (h :: hs), t)

def allocMembers (room : Nat) :
    List (String × Value) → HandleTable → Except BridgeError (Members Handle) × HandleTable
  | [], t => (.ok [], t)
  | (k, v) :: rest, t =>
    match allocAt room v t with
    | (.error e, t) => (.error e, t)
    | (.ok h, t) =>
      match allocMembers room rest t with
      | (.error e, t) => (.error e, t)
      | (.ok ms, t) => (.ok ((k, h) :: ms), t)

end

def alloc (t : HandleTable) (v : Value) : Except BridgeError Handle × HandleTable :=
  allocAt (maxDepth + 1) v t

/-- Copies the value of a handle, with room for so many levels of containers less one. -/
def readAt (t : HandleTable) : Nat → Handle → Except BridgeError Value
  | 0, _ => .error .tooDeep
  | room + 1, h => do
    match ← t.slot h with
    | .undefined => return .undefined
    | .null => return .null
    | .boolean b => return .boolean b
    | .integer n => return .integer n
    | .float x => return .float x
    | .string s => return .string s
    | .array items => return .array (← items.toList.mapM fun i => readAt t room i)
    | .object members =>
      return .object (← members.mapM fun m => do return (m.1, ← readAt t room m.2))

def read (t : HandleTable) (h : Handle) : Except BridgeError Value := t.readAt (maxDepth + 1) h

def array (t : HandleTable) (h : Handle) : Except BridgeError (Array Handle) := do
  match ← t.slot h with
  | .array items => return items
  | s => throw (.wrongKind .array s.kind)

def object (t : HandleTable) (h : Handle) : Except BridgeError (Members Handle) := do
  match ← t.slot h with
  | .object members => return members
  | s => throw (.wrongKind .object s.kind)

def newArray (t : HandleTable) (length : Nat) : Except BridgeError Handle × HandleTable :=
  t.push (.array (Array.replicate length undefined))

def newObject (t : HandleTable) : Except BridgeError Handle × HandleTable := t.push (.object [])

def arrayGet (t : HandleTable) (h : Handle) (index : Nat) : Except BridgeError Handle := do
  let items ← t.array h
  match items[index]? with
  | some i => return i
  | none => throw (.indexOutOfRange index items.size)

/-- The item has to be a valid handle, whatever the array is. -/
def arraySet (t : HandleTable) (h : Handle) (index : Nat) (item : Handle) :
    Except BridgeError HandleTable := do
  let _ ← t.slot item
  let items ← t.array h
  if index < items.size then return t.put h (.array (items.setIfInBounds index item))
  else throw (.indexOutOfRange index items.size)

def objectSet (t : HandleTable) (h : Handle) (key : String) (item : Handle) :
    Except BridgeError HandleTable := do
  let _ ← t.slot item
  let members ← t.object h
  return t.put h (.object (Members.set key item members))

def interned? (t : HandleTable) (pointer length : Nat) : Option Handle :=
  t.interned.lookup (pointer, length)

def intern (t : HandleTable) (pointer length : Nat) (text : String) :
    Except BridgeError Handle × HandleTable :=
  match t.interned? pointer length with
  | some h => (.ok h, t)
  | none =>
    match t.push (.string text) with
    | (.ok h, t) => (.ok h, { t with interned := ((pointer, length), h) :: t.interned })
    | (.error e, t) => (.error e, t)

instance : Bridge HandleTable Handle where
  encoding := .handle
  start := {}
  toGuest := alloc
  toHost := read
  kind := kindOf
  newArray := newArray
  arrayLength t h := (t.array h).map Array.size
  arrayGet := arrayGet
  arraySet := arraySet
  newObject := newObject
  objectGet t h key := (t.object h).map (Members.get? key)
  objectSet := objectSet
  objectKeys t h := (t.object h).map Members.keys
  intern := intern
  undefined := undefined
  nullReference? := none
  ofNumber? := some
  number? := some

end HandleTable
end GuestHost
