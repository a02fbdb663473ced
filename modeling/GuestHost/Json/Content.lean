import GuestHost.Json.Fault
/-!
Documents as the one kind of thing that is wanted of them.
-/
namespace GuestHost.Json

def wrongType {α : Type} (d : Document) (wanted : String) : Except Misfit α :=
  .error (.wrongType (Found.ofDocument d) wanted)

def readText : Document → Except Misfit String
  | .string s => .ok s
  | d => wrongType d "a string"

def readBoolean : Document → Except Misfit Bool
  | .boolean b => .ok b
  | d => wrongType d "a boolean"

def readInteger : Document → Except Misfit Int64
  | .number (.integer n) =>
    if n ≤ Int64.maxValue.toInt then .ok (Int64.ofInt n) else .error (.wrongValue (.integer n) "i64")
  | d => wrongType d "i64"

def readFloat : Document → Except Misfit Float
  | .number (.integer n) =>
    .ok (if n < 0 then Decimal.ofInt64 (Int64.ofInt n) else Decimal.ofNat64 n.toNat)
  | .number (.real x) => .ok x
  | d => wrongType d "f64"

/-- Absent may also be written `null`. -/
def readOptional {α : Type} (read : Document → Except Misfit α) : Document → Except Misfit (Option α)
  | .null => .ok none
  | d => (read d).map some

/-- A non-negative number of up to 64 bits. -/
def readNatural : Document → Except Misfit Nat
  | .number (.integer n) =>
    if 0 ≤ n then .ok n.toNat else .error (.wrongValue (.integer n) "u64")
  | d => wrongType d "u64"

def readTexts : Document → Except Misfit (List String)
  | .array items => items.mapM readText
  | d => wrongType d "a sequence"

end GuestHost.Json
