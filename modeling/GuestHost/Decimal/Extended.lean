import GuestHost.Decimal.Binary64
/-!
Numbers of sixty-four significant bits. A decimal numeral is scaled by powers of ten in this precision,
each product rounded, and only the last result is rounded to a double; printing scales the other way.
-/
namespace GuestHost.Decimal

/-- The number `mantissa * 2 ^ exponent`. -/
structure Extended where
  mantissa : Nat
  exponent : Int
  deriving DecidableEq, Repr

/-- How many bits a number takes. -/
def bitLength (n : Nat) : Nat := if n = 0 then 0 else n.log2 + 1

/-- The integer nearest to `n / 2 ^ k`, ties to even. -/
def shiftEven (n : Nat) (k : Int) : Nat :=
  let unit := twos k
  let q := n / unit
  let r := n % unit
  if unit < 2 * r ∨ (unit = 2 * r ∧ q % 2 = 1) then q + 1 else q

namespace Extended

/-- The nearest number of sixty-four bits, ties to even. -/
def round (x : Extended) : Extended :=
  let extra := bitLength x.mantissa - 64
  ⟨shiftEven x.mantissa extra, x.exponent + extra⟩

def times (x y : Extended) : Extended :=
  round ⟨x.mantissa * y.mantissa, x.exponent + y.exponent⟩

/-- The number nearest to `10 ^ k`. A quotient keeps two bits more than are needed, and one that says
whether anything was cut off. -/
def tenTo (k : Int) : Extended :=
  if 0 ≤ k then round ⟨tens k, 0⟩
  else
    let den := tens (-k)
    let shift := bitLength den + 66
    let num := twos shift
    round ⟨2 * (num / den) + (if num % den = 0 then 0 else 1), -(shift + 1 : Nat)⟩

def atLeast (x y : Extended) : Bool :=
  y.mantissa * twos (y.exponent - x.exponent) ≤ x.mantissa * twos (x.exponent - y.exponent)

/-- The number with its fraction cut off. -/
def floor (x : Extended) : Nat := x.mantissa * twos x.exponent / twos (-x.exponent)

/-- Multiplies by `10 ^ e`, first by hundreds of powers, then by tens, then one by one. -/
def scale (x : Extended) (e : Int) : Extended :=
  let n := e.natAbs
  let step (k : Nat) : Extended := tenTo (if e < 0 then -(k : Int) else k)
  let x := Nat.repeat (times · (step 100)) (n / 100) x
  let x := Nat.repeat (times · (step 10)) (n % 100 / 10) x
  Nat.repeat (times · (step 1)) (n % 10) x

/-- The greatest finite double. -/
def greatest : Extended := ⟨0x1FFFFFFFFFFFFF, 971⟩

/-- The nearest double, ties to even; beyond the greatest one it is infinite. The unit in the last place
is never less than `2 ^ -1074`. -/
def toFloat (x : Extended) : Float :=
  if !greatest.atLeast x then Float.ofBits 0x7FF0000000000000
  else
    let top := x.exponent + bitLength x.mantissa
    let unit := max (top - 53) (-1074)
    let n := shiftEven (x.mantissa * twos (x.exponent - unit)) (unit - x.exponent)
    Float.ofBits (((unit + 1074).toNat * Binary64.leadingBit + n).toUInt64)

/-- Divides by `10 ^ k` as long as the number is not below `limit`, and counts the powers of ten. -/
def lower (limit : Extended) (k : Nat) : Nat → Extended × Int → Extended × Int
  | 0, p => p
  | fuel + 1, (x, e) =>
    if x.atLeast limit then lower limit k fuel (x.times (tenTo (-k)), e + k) else (x, e)

/-- Multiplies by `10 ^ k` as long as the number is below `limit`, and counts the powers of ten. -/
def raise (limit : Extended) (k : Nat) : Nat → Extended × Int → Extended × Int
  | 0, p => p
  | fuel + 1, (x, e) =>
    if x.atLeast limit then (x, e) else raise limit k fuel (x.times (tenTo k), e - k)

/-- Brings a positive number between `10 ^ 17` and `10 ^ 19`, with the power of ten that this takes out. No
double needs more than eleven steps of a size. -/
def normalize (x : Extended) : Extended × Int :=
  if x.atLeast (tenTo 19) then
    lower (tenTo 19) 1 12 (lower (tenTo 29) 10 12 (lower (tenTo 119) 100 12 (x, 0)))
  else
    raise (tenTo 17) 1 12 (raise (tenTo 7) 10 12 (raise (tenTo (-97)) 100 12 (x, 0)))

end Extended
end GuestHost.Decimal
