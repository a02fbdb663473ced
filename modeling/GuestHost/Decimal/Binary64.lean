/-!
The exact value of a double: a sign and `mantissa * 2 ^ exponent`, or one of the special values.
Everything that must not round (shortest decimal text, truncation to an integer) starts here.
-/
namespace GuestHost.Decimal

/-- `2 ^ k`, and one where `k` is negative. -/
def twos (k : Int) : Nat := Nat.pow 2 k.toNat

/-- `10 ^ k`, and one where `k` is negative. -/
def tens (k : Int) : Nat := Nat.pow 10 k.toNat

/-- A finite double is `± mantissa * 2 ^ exponent`, exactly. -/
structure Dyadic where
  negative : Bool
  mantissa : Nat
  exponent : Int
  deriving DecidableEq, Repr

inductive Binary64 where
  | nan
  | infinite (negative : Bool)
  | finite (d : Dyadic)
  deriving DecidableEq, Repr

namespace Binary64

/-- The bit before the point of a normal number, which is not stored. -/
def leadingBit : Nat := 0x10000000000000

/-- The fields of the interchange format: one sign bit, eleven of exponent, fifty-two of fraction. -/
def ofBits (bits : UInt64) : Binary64 :=
  let b : Nat := bits.toNat
  let negative := b / 0x8000000000000000 == 1
  let biased : Nat := b / leadingBit % 0x800
  let fraction : Nat := b % leadingBit
  if biased = 2047 then
    if fraction = 0 then .infinite negative else .nan
  else if biased = 0 then
    .finite ⟨negative, fraction, -1074⟩
  else
    .finite ⟨negative, fraction + leadingBit, (biased : Int) - 1075⟩

def ofFloat (x : Float) : Binary64 := ofBits x.toBits

end Binary64

namespace Dyadic

/-- The magnitude with its fraction cut off. -/
def floorAbs (d : Dyadic) : Nat :=
  d.mantissa * twos d.exponent / twos (-d.exponent)

/-- Rounds toward zero. -/
def trunc (d : Dyadic) : Int :=
  if d.negative then -(d.floorAbs : Int) else d.floorAbs

/-- No fraction is lost by `trunc`. -/
def isIntegral (d : Dyadic) : Bool :=
  d.mantissa % twos (-d.exponent) == 0

end Dyadic

/-- The nearest integer between the bounds of a signed 64-bit word. -/
def clampInt64 (n : Int) : Int64 :=
  if n < Int64.minValue.toInt then Int64.minValue
  else if Int64.maxValue.toInt < n then Int64.maxValue
  else Int64.ofInt n

/-- Truncation of any double: NaN goes to zero, what is out of range to the nearer bound. -/
def truncToInt64 (x : Float) : Int64 :=
  match Binary64.ofFloat x with
  | .nan => 0
  | .infinite true => Int64.minValue
  | .infinite false => Int64.maxValue
  | .finite d => clampInt64 d.trunc

/-- The double nearest to a word, ties to even. -/
def ofInt64 (n : Int64) : Float :=
  if n < 0 then -(n.toInt.natAbs.toUInt64.toFloat) else n.toInt.toNat.toUInt64.toFloat

/-- The double nearest to a natural number below `2 ^ 64`. -/
def ofNat64 (n : Nat) : Float := n.toUInt64.toFloat

end GuestHost.Decimal
