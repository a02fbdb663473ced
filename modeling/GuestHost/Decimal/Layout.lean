import GuestHost.Decimal.Shortest
/-!
Decimal text of a double from its shortest digits. A layout record holds every choice that the
digits leave open; the two layouts in use are values of it.
-/
namespace GuestHost.Decimal

structure Layout where
  tie : Tie
  /-- Whether a number is written without an exponent, given the position of its decimal point:
  the number is `0.d₁d₂… * 10 ^ point`. -/
  positional : Int → Bool
  /-- Whether an integral number written without an exponent ends in `.0`. -/
  pointZero : Bool

namespace Layout

/-- Shortest digits, positional from `1e-5` up to `1e16`, otherwise one digit before the point and a
signed exponent. -/
def scientific : Layout := ⟨.even, fun p => -4 ≤ p && p ≤ 16, true⟩

/-- Shortest digits, never an exponent. -/
def plain : Layout := ⟨.away, fun _ => true, false⟩

def positionalText (l : Layout) (ds : List Char) (point : Int) : List Char :=
  if point ≤ 0 then
    '0' :: '.' :: (List.replicate (-point).toNat '0' ++ ds)
  else
    let n := point.toNat
    if ds.length ≤ n then
      ds ++ List.replicate (n - ds.length) '0' ++ (if l.pointZero then ['.', '0'] else [])
    else
      ds.take n ++ '.' :: ds.drop n

def exponentText (ds : List Char) (point : Int) : List Char :=
  let e := point - 1
  let sign := if e < 0 then '-' else '+'
  let head := match ds with
    | [] => []
    | [d] => [d]
    | d :: rest => d :: '.' :: rest
  head ++ 'e' :: sign :: Nat.toDigits 10 e.natAbs

def magnitudeText (l : Layout) (d : Dyadic) : List Char :=
  if d.mantissa = 0 then
    if l.pointZero then ['0', '.', '0'] else ['0']
  else
    let s := shortest l.tie d
    let ds := Nat.toDigits 10 s.digits
    let point := (ds.length : Int) + s.exponent
    if l.positional point then l.positionalText ds point else exponentText ds point

def finiteText (l : Layout) (d : Dyadic) : List Char :=
  if d.negative then '-' :: l.magnitudeText d else l.magnitudeText d

end Layout

/-- The shortest text that reads back as the number; `none` for NaN and the infinities. -/
def floatText? (x : Float) : Option (List Char) :=
  match Binary64.ofFloat x with
  | .finite d => some (Layout.scientific.finiteText d)
  | _ => none

/-- The names of the values that have no digits. -/
def nonFiniteText (x : Float) : List Char :=
  match Binary64.ofFloat x with
  | .nan => "NaN".toList
  | .infinite true => "-Infinity".toList
  | .infinite false => "Infinity".toList
  | .finite _ => []

/-- Digits without an exponent, with short names for the special values. -/
def plainText (x : Float) : List Char :=
  match Binary64.ofFloat x with
  | .nan => "NaN".toList
  | .infinite true => "-inf".toList
  | .infinite false => "inf".toList
  | .finite d => Layout.plain.finiteText d

end GuestHost.Decimal
