import GuestHost.Json.Fault
import GuestHost.Text.Blank
/-!
Reading numbers. The digits are gathered into a significand of one machine word and a decimal exponent;
digits beyond the word only move the exponent. Without point or exponent the significand itself is
the number, otherwise it is scaled in steps that each round.
-/
namespace GuestHost.Json

abbrev Reader (α : Type) := List Char → Except Fault (α × List Char)

/-- The significand stays below this bound. -/
def significandBound : Nat := UInt64.size

/-- Exponents from here on are out of reach. -/
def exponentBound : Nat := 0x80000000

/-- Appends digits to the significand while they fit; counts those that no longer do. -/
def integerDigits (significand dropped : Nat) : List Char → Nat × Nat × List Char
  | [] => (significand, dropped, [])
  | c :: rest =>
    match Text.digitValue? c with
    | none => (significand, dropped, c :: rest)
    | some d =>
      if dropped = 0 ∧ 10 * significand + d < significandBound then
        integerDigits (10 * significand + d) 0 rest
      else integerDigits significand (dropped + 1) rest

/-- Appends digits to the significand while they fit and counts them; skips the others. -/
def fractionDigits (full : Bool) (significand used : Nat) : List Char → Nat × Nat × List Char
  | [] => (significand, used, [])
  | c :: rest =>
    match Text.digitValue? c with
    | none => (significand, used, c :: rest)
    | some d =>
      if !full ∧ 10 * significand + d < significandBound then
        fractionDigits false (10 * significand + d) (used + 1) rest
      else fractionDigits true significand used rest

/-- The value of a run of exponent digits, or `none` and the rest after the digit that makes it too
large. -/
def exponentDigits (value : Nat) : List Char → Option Nat × List Char
  | [] => (some value, [])
  | c :: rest =>
    match Text.digitValue? c with
    | none => (some value, c :: rest)
    | some d =>
      if 10 * value + d < exponentBound then exponentDigits (10 * value + d) rest
      else (none, rest)

def startsWithDigit : List Char → Bool
  | c :: _ => (Text.digitValue? c).isSome
  | [] => false

def skipDigits (cs : List Char) : List Char := cs.dropWhile fun c => (Text.digitValue? c).isSome

/-- The double nearest to a power of ten. -/
def powerOfTen (k : Nat) : Float := Float.ofScientific 1 false k

/-- `f * 10 ^ e`, rounding after every multiplication or division by a power of ten that is itself a
double; `none` if that is too large. -/
def scaleByTen (f : Float) (e : Int) : Option Float :=
  if e.natAbs ≤ 308 then
    if 0 ≤ e then
      let g := f * powerOfTen e.natAbs
      if g.isInf then none else some g
    else some (f / powerOfTen e.natAbs)
  else if f == 0 then some f
  else if 0 ≤ e then none
  else scaleByTen (f / powerOfTen 308) (e + 308)
termination_by (-e).toNat
decreasing_by omega

def signed (negative : Bool) (x : Float) : Float := if negative then -x else x

def realNumber (negative : Bool) (significand : Nat) (e : Int) : Reader Number := fun rest =>
  match scaleByTen (Decimal.ofNat64 significand) e with
  | some x => .ok (.real (signed negative x), rest)
  | none => .error (.before .numberTooLarge rest)

/-- What follows `e` or `E`. -/
def readExponent (negative : Bool) (significand : Nat) (e : Int) : Reader Number := fun cs =>
  let (down, digits) := match cs with
    | '+' :: r => (false, r)
    | '-' :: r => (true, r)
    | r => (false, r)
  match digits with
  | [] => .error (.before .endInValue [])
  | c :: rest =>
    match Text.digitValue? c with
    | none => .error (.on .badNumber (c :: rest))
    | some d =>
      match exponentDigits d rest with
      | (some k, r) => realNumber negative significand (if down then e - k else e + k) r
      | (none, r) =>
        if significand ≠ 0 ∧ !down then .error (.before .numberTooLarge r)
        else .ok (.real (signed negative 0), skipDigits r)

/-- What follows the point. -/
def readFraction (negative : Bool) (significand : Nat) (e : Int) : Reader Number := fun cs =>
  if startsWithDigit cs then
    let (s, used, rest) := fractionDigits false significand 0 cs
    match rest with
    | 'e' :: r => readExponent negative s (e - used) r
    | 'E' :: r => readExponent negative s (e - used) r
    | r => realNumber negative s (e - used) r
  else
    match cs with
    | [] => .error (.on .endInValue [])
    | r => .error (.on .badNumber r)

/-- A number without point and exponent. A negative zero, and what is below every signed word, is a
float. -/
def wholeNumber (negative : Bool) (significand : Nat) : Number :=
  if negative then
    if significand = 0 ∨ 0x8000000000000000 < significand then .real (-(Decimal.ofNat64 significand))
    else .integer (-significand)
  else .integer significand

/-- What follows the integer digits. -/
def readTail (negative : Bool) (significand dropped : Nat) : Reader Number := fun cs =>
  match cs with
  | '.' :: r => readFraction negative significand dropped r
  | 'e' :: r => readExponent negative significand dropped r
  | 'E' :: r => readExponent negative significand dropped r
  | r =>
    if dropped = 0 then .ok (wholeNumber negative significand, r)
    else realNumber negative significand dropped r

/-- A number after its sign. -/
def readMagnitude (negative : Bool) : Reader Number
  | [] => .error (.before .endInValue [])
  | c :: rest =>
    if c = '0' then
      if startsWithDigit rest then .error (.on .badNumber rest)
      else readTail negative 0 0 rest
    else
      match Text.digitValue? c with
      | none => .error (.on .badNumber (c :: rest))
      | some d =>
        let (s, dropped, r) := integerDigits d 0 rest
        readTail negative s dropped r

def readNumber : Reader Number
  | '-' :: rest => readMagnitude true rest
  | cs => readMagnitude false cs

end GuestHost.Json
