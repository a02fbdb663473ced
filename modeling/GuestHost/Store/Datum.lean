import GuestHost.Store.Numeral
import GuestHost.Value.Display
/-!
The cells of a store: five classes of data, the affinities by which a column prefers one of them, and
their order.
-/
namespace GuestHost.Store

inductive Datum where
  | null
  | integer (n : Int)
  | real (x : Float)
  | text (s : String)
  | blob (bytes : List UInt8)
  deriving DecidableEq

/-- What a column turns data into, where that loses nothing. -/
inductive Affinity where
  | blob | text | numeric | integer | real
  deriving DecidableEq, Repr

namespace Affinity

def isNumeric : Affinity → Bool
  | .numeric => true
  | .integer => true
  | .real => true
  | _ => false

end Affinity

namespace Datum

/-- The first fifteen digits of a positive number, rounded half up, and its decimal magnitude. The number
is first brought to eighteen or nineteen digits, whose fraction is cut off. -/
def fifteenDigits (d : Decimal.Dyadic) : Nat × Int :=
  let (x, e) := (⟨d.mantissa, d.exponent⟩ : Decimal.Extended).normalize
  let ds := Nat.toDigits 10 x.floor
  let n := digitsValue (ds.take 15) + (if ((ds[15]?.bind Text.digitValue?).getD 0) < 5 then 0 else 1)
  if n = Decimal.tens 15 then (Decimal.tens 14, ds.length + e + 1) else (n, ds.length + e)

def dropTrailingZeros (cs : List Char) : List Char := (cs.reverse.dropWhile (· == '0')).reverse

def twoDigits (n : Nat) : List Char :=
  if n < 10 then '0' :: Nat.toDigits 10 n else Nat.toDigits 10 n

/-- A real as text: fifteen digits at most, always with a point, and an exponent of at least two digits
from `1e15` on and below `1e-4`. -/
def realText (x : Float) : List Char :=
  match Decimal.Binary64.ofFloat x with
  | .nan => []
  | .infinite negative => if negative then "-Inf".toList else "Inf".toList
  | .finite d =>
    if d.mantissa = 0 then "0.0".toList
    else
      let (n, magnitude) := fifteenDigits d
      let ds := dropTrailingZeros (Nat.toDigits 10 n)
      let e := magnitude - 1
      let body :=
        if e < -4 ∨ 14 < e then
          let fraction := if ds.length ≤ 1 then ['0'] else ds.drop 1
          ds.take 1 ++ '.' :: (fraction ++ 'e' :: (if e < 0 then '-' else '+') :: twoDigits e.natAbs)
        else if e < 0 then '0' :: '.' :: (List.replicate (-magnitude).toNat '0' ++ ds)
        else
          let whole := magnitude.toNat
          let fraction := if ds.length ≤ whole then ['0'] else ds.drop whole
          ds.take whole ++ List.replicate (whole - ds.length) '0' ++ '.' :: fraction
      if d.negative then '-' :: body else body

/-- A real that is an integer within a word, the extremes excluded, as that integer. -/
def wholeReal? (x : Float) : Option Int :=
  match Decimal.Binary64.ofFloat x with
  | .finite d =>
    let n := d.trunc
    if d.isIntegral ∧ minInteger < n ∧ n < maxInteger then some n else none
  | _ => none

/-- The integer or real that a numeral stands for. -/
def ofNumeral (n : Numeral) : Datum :=
  match n.integer? with
  | some k => integer k
  | none => real n.real

/-- The number in a statement, or nothing if it is in base sixteen and no word. -/
def ofNumber? (negative : Bool) (n : Number) : Option Datum :=
  match n.integer? negative, n with
  | some k, _ => some (integer k)
  | none, .decimal m => some (real { m with negative }.real)
  | none, .hex _ _ => none

/-- Text that spells a number becomes that number, preferably an integer. -/
def toNumber : Datum → Datum
  | text s =>
    match Numeral.ofText? s with
    | none => text s
    | some n =>
      match ofNumeral n with
      | real x => ((wholeReal? x).map integer).getD (real x)
      | d => d
  | d => d

/-- The number that a datum counts as in arithmetic: text and blobs count as the numeral they start with. -/
def arithmetic : Datum → Datum
  | text s => ofNumeral (Numeral.ofPrefix s.toList).1
  | blob bytes => ofNumeral (Numeral.ofPrefix (bytes.map fun b => Char.ofNat b.toNat)).1
  | d => d

/-- A real without fraction becomes an integer. -/
def toWhole : Datum → Datum
  | real x =>
    match wholeReal? x with
    | some n => integer n
    | none => real x
  | d => d

def floatOfInteger (n : Int) : Float := Decimal.ofInt64 (Int64.ofInt n)

/-- Zero less the datum. -/
def negated (d : Datum) : Datum :=
  match d.arithmetic with
  | integer n => if n = minInteger then real (-(floatOfInteger n)) else integer (-n)
  | real x => if x.isNaN then null else real (0.0 - x)
  | _ => null

/-- Whether a condition with this value holds. -/
def isTrue (d : Datum) : Bool :=
  match d.arithmetic with
  | integer n => n != 0
  | real x => x < 0.0 || 0.0 < x
  | _ => false

/-- Adapts a datum to a column. -/
def adapt : Affinity → Datum → Datum
  | .blob, d => d
  | .text, d =>
    match d with
    | integer n => text (String.ofList (Json.integerText n))
    | real x => text (String.ofList (realText x))
    | d => d
  | .numeric, d => d.toNumber.toWhole
  | .integer, d => d.toNumber.toWhole
  | .real, d =>
    match d.toNumber.toWhole with
    | integer n => real (floatOfInteger n)
    | d => d

/-- How classes follow one another: null, numbers, text, blobs. -/
def rank : Datum → Nat
  | null => 0
  | integer _ => 1
  | real _ => 1
  | text _ => 2
  | blob _ => 3

/-- Compares an integer with a real exactly. -/
def compareMixed (n : Int) (x : Float) : Ordering :=
  match Decimal.Binary64.ofFloat x with
  | .nan => .gt
  | .infinite negative => if negative then .gt else .lt
  | .finite d =>
    let m : Int := if d.negative then -(d.mantissa : Int) else d.mantissa
    compare (n * Decimal.twos (-d.exponent)) (m * Decimal.twos d.exponent)

def compareBytes : List UInt8 → List UInt8 → Ordering
  | [], [] => .eq
  | [], _ => .lt
  | _, [] => .gt
  | a :: as, b :: bs => if a < b then .lt else if b < a then .gt else compareBytes as bs

def compare : Datum → Datum → Ordering
  | integer m, integer n => Ord.compare m n
  | integer m, real y => compareMixed m y
  | real x, integer n => (compareMixed n x).swap
  | real x, real y => if x < y then .lt else if y < x then .gt else .eq
  | text s, text t => if s < t then .lt else if t < s then .gt else .eq
  | blob s, blob t => compareBytes s t
  | a, b => Ord.compare a.rank b.rank

/-- Null equals nothing, not even itself. -/
def same (a b : Datum) : Bool :=
  match a, b with
  | null, _ => false
  | _, null => false
  | a, b => a.compare b == .eq

/-- A query parameter. Containers are stored as the text they show. -/
def ofValue : Value → Datum
  | .undefined => null
  | .null => null
  | .boolean b => integer (if b then 1 else 0)
  | .integer n => integer n.toInt
  | .float x => if x.isNaN then null else real x
  | .string s => text s
  | v => text v.display

/-- A cell of a result: text, unless it is null. -/
def toValue : Datum → Value
  | null => .null
  | integer n => .string (String.ofList (Json.integerText n))
  | real x => .string (Value.float x).display
  | text s => .string s
  | blob bytes => .string (Text.textLossy bytes)

end Datum
end GuestHost.Store
