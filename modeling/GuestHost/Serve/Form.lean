import GuestHost.Text.Blank
import GuestHost.Text.Utf8
/-!
Form data as browsers encode it: pairs between ampersands, `+` for a space, and percent signs before the
two hexadecimal digits of any other byte.
-/
namespace GuestHost.Serve.Form

def splitBytes (sep : UInt8) : List UInt8 → List (List UInt8)
  | [] => [[]]
  | b :: bs =>
    if b = sep then [] :: splitBytes sep bs
    else
      match splitBytes sep bs with
      | [] => [[b]]
      | s :: ss => (b :: s) :: ss

def hexByte? (b : UInt8) : Option Nat := Text.hexValue? (Char.ofNat b.toNat)

/-- Undoes the escapes; a percent sign without two digits stands for itself. -/
def unescape : List UInt8 → List UInt8
  | [] => []
  | 37 :: a :: b :: rest =>
    match hexByte? a, hexByte? b with
    | some x, some y => (16 * x + y).toUInt8 :: unescape rest
    | _, _ => 37 :: unescape (a :: b :: rest)
  | 43 :: rest => 32 :: unescape rest
  | c :: rest => c :: unescape rest
termination_by bs => bs.length

def decodeText (bs : List UInt8) : String := Text.textLossy (unescape bs)

/-- The name and the value of a piece; without `=` the value is empty. -/
def decodePair (piece : List UInt8) : String × String :=
  (decodeText (piece.takeWhile (· ≠ 61)), decodeText ((piece.dropWhile (· ≠ 61)).drop 1))

/-- The pairs in order; empty pieces are no pairs. -/
def decode (bs : List UInt8) : List (String × String) :=
  ((splitBytes 38 bs).filter (· ≠ [])).map decodePair

end GuestHost.Serve.Form
