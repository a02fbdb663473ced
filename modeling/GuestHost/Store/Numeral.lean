import GuestHost.Decimal.Extended
import GuestHost.Text.Blank
import GuestHost.Text.Utf8
/-!
Numbers as they are written, in text and in statements, and the numbers they stand for.

A decimal numeral is read into a significand of at most twenty digits and a power of ten, which are
multiplied in sixty-four bits. So its double is close to the written number, and not always the nearest
one.
-/
namespace GuestHost.Store

def isSqlSpace (c : Char) : Bool :=
  c == ' ' || c == '\t' || c == '\n' || c == '\r' || c == '\x0c' || c == '\x0b'

def isDigit (c : Char) : Bool := (Text.digitValue? c).isSome

def isHexDigit (c : Char) : Bool := (Text.hexValue? c).isSome

def trimSpace (cs : List Char) : List Char :=
  ((cs.dropWhile isSqlSpace).reverse.dropWhile isSqlSpace).reverse

def minInteger : Int := -0x8000000000000000

def maxInteger : Int := 0x7FFFFFFFFFFFFFFF

def fitsWord (n : Int) : Bool := minInteger ≤ n && n ≤ maxInteger

def digitsValue (cs : List Char) : Nat :=
  cs.foldl (fun n c => 10 * n + (Text.digitValue? c).getD 0) 0

/-- A decimal number as it is written. -/
structure Numeral where
  negative : Bool
  whole : List Char
  fraction : List Char
  exponent : Int
  /-- Neither point nor exponent. -/
  integral : Bool
  deriving DecidableEq, Repr

namespace Numeral

def zero : Numeral := ⟨false, [], [], 0, true⟩

/-- The integer that an integral numeral spells, if it fits a word. -/
def integer? (n : Numeral) : Option Int :=
  let digits := n.whole.dropWhile (· == '0')
  if n.integral && digits.length ≤ 19 then
    let value : Int := if n.negative then -(digitsValue digits : Int) else digitsValue digits
    if fitsWord value then some value else none
  else none

/-- From here on a significand takes no more digits. -/
def significandLimit : Nat := 1844674407370955160

/-- Below this a significand can still be multiplied by ten. -/
def raiseLimit : Nat := 1844674407370954956

/-- The leading digits of a numeral and the power of ten that belongs to them. -/
def significand (n : Numeral) : Nat × Int :=
  let value (c : Char) : Nat := (Text.digitValue? c).getD 0
  let start := n.whole.foldl (fun (s, d) c =>
    if s < significandLimit then (10 * s + value c, d) else (s, d + 1)) ((0, 0) : Nat × Int)
  n.fraction.foldl (fun (s, d) c =>
    if s < significandLimit then (10 * s + value c, d - 1) else (s, d)) start

/-- Moves a positive power of ten into the significand as far as it fits. -/
def raise : Nat → Nat × Int → Nat × Int
  | 0, p => p
  | fuel + 1, (s, e) => if 0 < e ∧ s < raiseLimit then raise fuel (10 * s, e - 1) else (s, e)

/-- Takes zeros off the significand as long as the power of ten is negative. -/
def lower : Nat → Nat × Int → Nat × Int
  | 0, p => p
  | fuel + 1, (s, e) => if e < 0 ∧ s % 10 = 0 then lower fuel (s / 10, e + 1) else (s, e)

/-- The real that a numeral is read as. -/
def real (n : Numeral) : Float :=
  let (s, d) := n.significand
  let size :=
    if s = 0 then (0.0 : Float)
    else
      let (s, e) := lower 20 (raise 20 (s, n.exponent + d))
      ((⟨s, 0⟩ : Decimal.Extended).scale e).toFloat
  if n.negative then -size else size

/-- An exponent stops growing past ten thousand, where every numeral is out of range or zero. -/
def exponentValue (digits : List Char) : Nat :=
  digits.foldl (fun e c => if e < 10000 then 10 * e + (Text.digitValue? c).getD 0 else 10000) 0

/-- The sign, digits and rest of an exponent. -/
def exponent? (cs : List Char) : Option (Int × List Char) :=
  let digits (negative : Bool) (r : List Char) : Option (Int × List Char) :=
    let ds := r.takeWhile isDigit
    if ds.isEmpty then none
    else some (if negative then -(exponentValue ds : Int) else exponentValue ds, r.dropWhile isDigit)
  match cs with
  | e :: r =>
    if e = 'e' ∨ e = 'E' then
      match r with
      | '-' :: s => digits true s
      | '+' :: s => digits false s
      | s => digits false s
    else none
  | [] => none

/-- The numeral at the start of some characters, which may have no digits, and the rest. -/
def unsigned (negative : Bool) (cs : List Char) : Numeral × List Char :=
  let whole := cs.takeWhile isDigit
  let rest := cs.dropWhile isDigit
  let (fraction, rest, pointed) := match rest with
    | '.' :: r => (r.takeWhile isDigit, r.dropWhile isDigit, true)
    | r => ([], r, false)
  if whole.isEmpty && fraction.isEmpty then (zero, cs)
  else
    match exponent? rest with
    | some (e, r) => (⟨negative, whole, fraction, e, false⟩, r)
    | none => (⟨negative, whole, fraction, 0, !pointed⟩, rest)

/-- The numeral at the start of a text behind blanks, zero if there is none, and what follows it. -/
def ofPrefix (cs : List Char) : Numeral × List Char :=
  match cs.dropWhile isSqlSpace with
  | '-' :: r => unsigned true r
  | '+' :: r => unsigned false r
  | r => unsigned false r

/-- The numeral that a whole text is, blanks at its ends aside. -/
def ofText? (s : String) : Option Numeral :=
  let (n, rest) := ofPrefix s.toList
  if n = zero ∨ !(rest.all isSqlSpace) then none else some n

end Numeral

/-- A number in a statement. -/
inductive Number where
  | decimal (n : Numeral)
  /-- The digits of a word in base sixteen, and the text that shows them. -/
  | hex (digits : List Char) (raw : String)
  deriving DecidableEq, Repr

namespace Number

def hexValue (digits : List Char) : Nat :=
  digits.foldl (fun n c => 16 * n + (Text.hexValue? c).getD 0) 0

/-- The number that the characters of a number token spell. -/
def ofChars (cs : List Char) : Number :=
  match cs with
  | '0' :: x :: digits =>
    if x = 'x' ∨ x = 'X' then .hex digits (String.ofList cs) else .decimal (Numeral.unsigned false cs).1
  | _ => .decimal (Numeral.unsigned false cs).1

/-- Takes the separators out of a number's digits. One that does not stand between two digits is a fault,
which shows the text as far as it has been closed up, and the rest as it was; the last such fault counts.
`before` is the character in front, and `kept` the digits so far in reverse. -/
def closeUp (isPart : Char → Bool) (all : List Char) (before : Char) (kept : List Char)
    (fault : Option String) : List Char → List Char × Option String
  | [] => (kept.reverse, fault)
  | '_' :: rest =>
    let between := isPart before && (rest.head?.map isPart).getD false
    let shown := kept.reverse ++ all.drop kept.length
    let fault := if between then fault else some (String.ofList shown)
    closeUp isPart all '_' kept fault rest
  | c :: rest => closeUp isPart all c (c :: kept) fault rest

/-- The number that a token with separators spells, or the text that is at fault. -/
def ofGrouped (cs : List Char) : Except String Number :=
  let isHex := match cs with
    | '0' :: x :: _ => x == 'x' || x == 'X'
    | _ => false
  match closeUp (if isHex then isHexDigit else isDigit) cs ' ' [] none cs with
  | (_, some shown) => .error shown
  | (digits, none) => .ok (ofChars digits)

/-- The integer of a number, if it is one that fits a word. Sixteen digits in base sixteen give every word;
the least one has no negative. -/
def integer? (negative : Bool) : Number → Option Int
  | decimal n => { n with negative }.integer?
  | hex digits _ =>
    let digits := digits.dropWhile (· == '0')
    if 16 < digits.length then none
    else
      let n := hexValue digits
      let word : Int := if n < 0x8000000000000000 then n else (n : Int) - 0x10000000000000000
      if negative then (if word = minInteger then none else some (-word)) else some word

end Number
end GuestHost.Store
