import GuestHost.Decimal.Binary64
/-!
The shortest decimal that reads back as a given positive dyadic number.

A number has an interval of reals that round to it, closed exactly when its mantissa is even. On the
grid of multiples of `10 ^ k` the interval holds a point iff it holds one of the two neighbours of
the number itself, so the search runs over ever finer grids and looks at these two only.
-/
namespace GuestHost.Decimal

/-- `digits * 10 ^ exponent`. -/
structure Digits where
  digits : Nat
  exponent : Int
  deriving DecidableEq, Repr

/-- Which neighbour wins when both are equally near. -/
inductive Tie where
  | even
  | away
  deriving DecidableEq, Repr

/-- The rounding interval of a number, each bound as a numerator over one denominator. -/
structure Interval where
  low : Nat
  mid : Nat
  high : Nat
  den : Nat
  closed : Bool
  deriving DecidableEq, Repr

namespace Interval

/-- The gap below a power of two is half the gap above it, unless the exponent is the least. -/
def ofDyadic (d : Dyadic) : Interval :=
  let below := if d.mantissa = Binary64.leadingBit ∧ -1074 < d.exponent then 1 else 2
  let scale := twos d.exponent
  { low := (4 * d.mantissa - below) * scale
    mid := 4 * d.mantissa * scale
    high := (4 * d.mantissa + 2) * scale
    den := 4 * twos (-d.exponent)
    closed := d.mantissa % 2 == 0 }

/-- Whether `n * 10 ^ k` lies in the interval. -/
def holds (i : Interval) (n : Nat) (k : Int) : Bool :=
  let point := n * tens k * i.den
  if i.closed then i.low * tens (-k) ≤ point && point ≤ i.high * tens (-k)
  else i.low * tens (-k) < point && point < i.high * tens (-k)

/-- The largest multiple of `10 ^ k` that is not above the number, in units of `10 ^ k`. -/
def floorAt (i : Interval) (k : Int) : Nat :=
  i.mid * tens (-k) / (i.den * tens k)

/-- Compares the distances of `n * 10 ^ k` and `(n + 1) * 10 ^ k` from the number. -/
def nearer (i : Interval) (n : Nat) (k : Int) : Ordering :=
  compare (2 * (i.mid * tens (-k))) ((2 * n + 1) * (i.den * tens k))

/-- The point of the grid that reads back and is nearest to the number, if the grid has one. -/
def pointAt (i : Interval) (tie : Tie) (k : Int) : Option Nat :=
  let n := i.floorAt k
  match i.holds n k, i.holds (n + 1) k with
  | false, false => none
  | true, false => some n
  | false, true => some (n + 1)
  | true, true =>
    match i.nearer n k, tie with
    | .lt, _ => some n
    | .gt, _ => some (n + 1)
    | .eq, .even => some (if n % 2 = 0 then n else n + 1)
    | .eq, .away => some (n + 1)

/-- Tries the grid `10 ^ k` and `fuel` finer ones. -/
def search (i : Interval) (tie : Tie) : Nat → Int → Option Digits
  | 0, _ => none
  | fuel + 1, k =>
    match i.pointAt tie k with
    | some n => some ⟨n, k⟩
    | none => i.search tie fuel (k - 1)

/-- The least `k` with the number below `10 ^ k`, sought upward from a bound that is too small. -/
def magnitude (i : Interval) : Nat → Int → Int
  | 0, k => k
  | fuel + 1, k =>
    if i.mid * tens (-k) < i.den * tens k then k else i.magnitude fuel (k + 1)

end Interval

/-- A lower estimate of the decimal magnitude, from the binary one. -/
def magnitudeBound (d : Dyadic) : Int :=
  ((d.mantissa.log2 : Int) + d.exponent) * 30103 / 100000 - 1

/-- The shortest digits of a positive number; seventeen always suffice for a double. -/
def shortest (tie : Tie) (d : Dyadic) : Digits :=
  let i := Interval.ofDyadic d
  let k := i.magnitude 8 (magnitudeBound d)
  (i.search tie 20 k).getD ⟨d.floorAbs, 0⟩

end GuestHost.Decimal
