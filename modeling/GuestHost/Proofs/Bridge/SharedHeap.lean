import GuestHost.Bridge.NodeHeap
import GuestHost.Proofs.Outcome
import GuestHost.Proofs.Value.Listing
/-!
The heap that both encodings stand for. Arrays and objects are cells that any number of references can
share; an object keeps all that was ever set in it, and shows the listing of that.
-/
namespace GuestHost

namespace Value

mutual

/-- In how many containers the innermost part of a value lies. -/
def height : Value → Nat
  | array items => heightOfItems items
  | object members => heightOfMembers members
  | _ => 0

def heightOfItems : List Value → Nat
  | [] => 0
  | v :: rest => max (v.height + 1) (heightOfItems rest)

def heightOfMembers : List (String × Value) → Nat
  | [] => 0
  | (_, v) :: rest => max (v.height + 1) (heightOfMembers rest)

end

@[simp] theorem height_undefined : undefined.height = 0 := rfl

@[simp] theorem height_null : null.height = 0 := rfl

@[simp] theorem height_boolean (b : Bool) : (boolean b).height = 0 := rfl

@[simp] theorem height_integer (n : Int64) : (integer n).height = 0 := rfl

@[simp] theorem height_float (x : Float) : (float x).height = 0 := rfl

@[simp] theorem height_string (s : String) : (string s).height = 0 := rfl

end Value

structure SharedHeap where
  arrays : List (List Node) := []
  /-- What was set in each object, the latest last. -/
  objects : List (List (String × Node)) := []
  /-- The texts of literals by the place and length of their text. -/
  literals : List ((Nat × Nat) × String) := []

namespace SharedHeap

def items (h : SharedHeap) (cell : Nat) : List Node := h.arrays[cell]?.getD []

def sets (h : SharedHeap) (cell : Nat) : List (String × Node) := h.objects[cell]?.getD []

/-- The members of an object: every name once, where it was set first, as it was set last. -/
def members (h : SharedHeap) (cell : Nat) : Members Node := Members.listing (h.sets cell)

def addArray (h : SharedHeap) (items : List Node) : Node × SharedHeap :=
  (.array h.arrays.length, { h with arrays := h.arrays ++ [items] })

def addObject (h : SharedHeap) (sets : List (String × Node)) : Node × SharedHeap :=
  (.object h.objects.length, { h with objects := h.objects ++ [sets] })

mutual

/-- Puts a value on the heap, the parts of a container before the container. -/
def place : Value → SharedHeap → Node × SharedHeap
  | .undefined, h => (.undefined, h)
  | .null, h => (.null, h)
  | .boolean b, h => (.boolean b, h)
  | .integer n, h => (.integer n, h)
  | .float x, h => (.float x, h)
  | .string s, h => (.string s, h)
  | .array items, h => (placeItems items h).2.addArray (placeItems items h).1
  | .object members, h => (placeMembers members h).2.addObject (placeMembers members h).1

def placeItems : List Value → SharedHeap → List Node × SharedHeap
  | [], h => ([], h)
  | v :: rest, h =>
    ((place v h).1 :: (placeItems rest (place v h).2).1, (placeItems rest (place v h).2).2)

def placeMembers : List (String × Value) → SharedHeap → List (String × Node) × SharedHeap
  | [], h => ([], h)
  | (k, v) :: rest, h =>
    ((k, (place v h).1) :: (placeMembers rest (place v h).2).1,
      (placeMembers rest (place v h).2).2)

end

/-- Copies the value of a node, with room for so many levels of containers less one. -/
def readAt (h : SharedHeap) : Nat → Node → Except BridgeError Value
  | 0, _ => .error .tooDeep
  | room + 1, n =>
    match n with
    | .undefined => .ok .undefined
    | .null => .ok .null
    | .boolean b => .ok (.boolean b)
    | .integer i => .ok (.integer i)
    | .float x => .ok (.float x)
    | .string s => .ok (.string s)
    | .array cell => do
      return .array (← (h.items cell).mapM fun i => readAt h room i)
    | .object cell => do
      return .object (← (h.members cell).mapM fun m => do return (m.1, ← readAt h room m.2))

def arrayCell : Node → Except BridgeError Nat
  | .array cell => .ok cell
  | n => .error (.wrongKind .array n.kind)

def objectCell : Node → Except BridgeError Nat
  | .object cell => .ok cell
  | n => .error (.wrongKind .object n.kind)

def toGuest (h : SharedHeap) (v : Value) : Except BridgeError Node × SharedHeap :=
  if v.height ≤ maxDepth then (.ok (h.place v).1, (h.place v).2) else (.error .tooDeep, h)

def arrayGet (h : SharedHeap) (a : Node) (index : Nat) : Except BridgeError Node := do
  let cell ← arrayCell a
  match (h.items cell)[index]? with
  | some n => return n
  | none => throw (.indexOutOfRange index (h.items cell).length)

def arraySet (h : SharedHeap) (a : Node) (index : Nat) (item : Node) :
    Except BridgeError SharedHeap := do
  let cell ← arrayCell a
  if index < (h.items cell).length then
    return { h with arrays := h.arrays.set cell ((h.items cell).set index item) }
  else throw (.indexOutOfRange index (h.items cell).length)

def objectSet (h : SharedHeap) (o : Node) (key : String) (item : Node) :
    Except BridgeError SharedHeap := do
  let cell ← objectCell o
  return { h with objects := h.objects.set cell (h.sets cell ++ [(key, item)]) }

/-- A literal keeps the text that it was first read with. -/
def intern (h : SharedHeap) (pointer length : Nat) (text : String) :
    Except BridgeError Node × SharedHeap :=
  match h.literals.lookup (pointer, length) with
  | some s => (.ok (.string s), h)
  | none => (.ok (.string text), { h with literals := ((pointer, length), text) :: h.literals })

instance : Bridge SharedHeap Node where
  encoding := .reference
  start := {}
  toGuest := toGuest
  toHost h n := h.readAt (maxDepth + 1) n
  kind _ n := .ok n.kind
  newArray h length :=
    (.ok (h.addArray (List.replicate length .undefined)).1,
      (h.addArray (List.replicate length .undefined)).2)
  arrayLength h a := (arrayCell a).map fun cell => (h.items cell).length
  arrayGet := arrayGet
  arraySet := arraySet
  newObject h := (.ok (h.addObject []).1, (h.addObject []).2)
  objectGet h o key := (objectCell o).map fun cell => Members.get? key (h.members cell)
  objectSet := objectSet
  objectKeys h o := (objectCell o).map fun cell => Members.keys (h.members cell)
  intern := intern
  undefined := .undefined
  nullReference? := none
  ofNumber? _ := none
  number? _ := none

theorem keys_placeMembers (ms : List (String × Value)) (h : SharedHeap) :
    Members.keys (placeMembers ms h).1 = Members.keys ms := by
  induction ms generalizing h with
  | nil => rfl
  | cons m rest ih =>
    obtain ⟨k, v⟩ := m
    exact congrArg (k :: ·) (ih _)

/-- Reading a node goes wrong in one way only. -/
theorem readAt_error {h : SharedHeap} {room : Nat} {n : Node} {e : BridgeError}
    (he : h.readAt room n = .error e) : e = .tooDeep := by
  induction room generalizing n with
  | zero =>
    cases he
    rfl
  | succ room ih =>
    cases n with
    | array cell =>
      simp only [readAt, Except.bind_eq_error_iff] at he
      rcases he with he | ⟨vs, -, he⟩
      · obtain ⟨m, -, hm⟩ := Except.exists_of_mapM_eq_error he
        exact ih hm
      · cases he
    | object cell =>
      simp only [readAt, Except.bind_eq_error_iff] at he
      rcases he with he | ⟨ms, -, he⟩
      · obtain ⟨m, -, hm⟩ := Except.exists_of_mapM_eq_error he
        rw [Except.bind_eq_error_iff] at hm
        rcases hm with hm | ⟨v, -, hm⟩
        · exact ih hm
        · cases hm
      · cases he
    | _ => cases he

end SharedHeap
end GuestHost
