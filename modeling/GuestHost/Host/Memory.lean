/-!
A guest program's linear memory. Addresses are words of 32 bits, read without sign.
-/
namespace GuestHost.Host

structure Memory where
  bytes : Array UInt8
  deriving DecidableEq

/-- The unsigned number that the bits of a word spell. -/
def unsigned (word : Int) : Nat := (word % UInt32.size).toNat

/-- The signed word of the same bits as a number. -/
def signed (n : Nat) : Int :=
  let m : Nat := n % UInt32.size
  if m < 0x80000000 then m else (m : Int) - UInt32.size

namespace Memory

def zeroed (size : Nat) : Memory := ⟨Array.replicate size 0⟩

def size (m : Memory) : Nat := m.bytes.size

/-- The bytes of a range, all of which have to lie in the memory. -/
def read? (m : Memory) (start length : Nat) : Option (List UInt8) :=
  if start + length ≤ m.size then some (m.bytes.extract start (start + length)).toList else none

def place (bytes : Array UInt8) (start : Nat) : List UInt8 → Array UInt8
  | [] => bytes
  | b :: rest => place (bytes.setIfInBounds start b) (start + 1) rest

/-- Overwrites a range, all of which has to lie in the memory. -/
def write? (m : Memory) (start : Nat) (bytes : List UInt8) : Option Memory :=
  if start + bytes.length ≤ m.size then some ⟨place m.bytes start bytes⟩ else none

/-- A number of 32 bits as bytes, the lowest first. -/
def wordBytes (n : Nat) : List UInt8 :=
  [n.toUInt8, (n >>> 8).toUInt8, (n >>> 16).toUInt8, (n >>> 24).toUInt8]

/-- The number that bytes spell, the lowest first. -/
def number : List UInt8 → Nat
  | [] => 0
  | b :: rest => b.toNat + 256 * number rest

/-- The bytes of `count` buffers, each described by its address and length; the descriptions follow one
another from `start` on. -/
def gather (m : Memory) : Nat → Nat → Option (List UInt8)
  | 0, _ => some []
  | count + 1, start => do
    let description ← m.read? start 8
    let buffer ← m.read? (number (description.take 4)) (number (description.drop 4))
    let rest ← gather m count (start + 8)
    return buffer ++ rest

end Memory
end GuestHost.Host
