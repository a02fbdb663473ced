/-!
Texts as bytes: reading bytes that may not be well formed, and cutting a text to a number of bytes
without splitting a character.
-/
namespace GuestHost.Text

/-- Stands for a run of bytes that is no character. -/
def replacement : Char := '\uFFFD'

def isContinuation (b : UInt8) : Bool := 0x80 ≤ b && b ≤ 0xBF

def inRange (lo hi b : UInt8) : Bool := lo ≤ b && b ≤ hi

/-- The bytes allowed second after a given first byte of a three-byte character. -/
def secondOfThree (first second : UInt8) : Bool :=
  if first == 0xE0 then inRange 0xA0 0xBF second
  else if first == 0xED then inRange 0x80 0x9F second
  else isContinuation second

/-- The bytes allowed second after a given first byte of a four-byte character. -/
def secondOfFour (first second : UInt8) : Bool :=
  if first == 0xF0 then inRange 0x90 0xBF second
  else if first == 0xF4 then inRange 0x80 0x8F second
  else isContinuation second

def payload (b : UInt8) : Nat := b.toNat % 64

/-- Decodes every well-formed character; the longest beginning of one that breaks off becomes a single
replacement character. -/
def decodeLossy : List UInt8 → List Char
  | [] => []
  | a :: r =>
    if a < 0x80 then Char.ofNat a.toNat :: decodeLossy r
    else if inRange 0xC2 0xDF a then
      match r with
      | [] => [replacement]
      | b :: s =>
        if isContinuation b then Char.ofNat (a.toNat % 32 * 64 + payload b) :: decodeLossy s
        else replacement :: decodeLossy (b :: s)
    else if inRange 0xE0 0xEF a then
      match r with
      | [] => [replacement]
      | [b] => if secondOfThree a b then [replacement] else replacement :: decodeLossy [b]
      | b :: c :: t =>
        if secondOfThree a b then
          if isContinuation c then
            Char.ofNat (a.toNat % 16 * 4096 + payload b * 64 + payload c) :: decodeLossy t
          else replacement :: decodeLossy (c :: t)
        else replacement :: decodeLossy (b :: c :: t)
    else if inRange 0xF0 0xF4 a then
      match r with
      | [] => [replacement]
      | [b] => if secondOfFour a b then [replacement] else replacement :: decodeLossy [b]
      | [b, c] =>
        if secondOfFour a b then
          if isContinuation c then [replacement] else replacement :: decodeLossy [c]
        else replacement :: decodeLossy [b, c]
      | b :: c :: d :: u =>
        if secondOfFour a b then
          if isContinuation c then
            if isContinuation d then
              Char.ofNat (a.toNat % 8 * 262144 + payload b * 4096 + payload c * 64 + payload d)
                :: decodeLossy u
            else replacement :: decodeLossy (d :: u)
          else replacement :: decodeLossy (c :: d :: u)
        else replacement :: decodeLossy (b :: c :: d :: u)
    else replacement :: decodeLossy r
termination_by l => l.length
decreasing_by all_goals (simp_wf <;> omega)

def textLossy (bytes : List UInt8) : String := String.ofList (decodeLossy bytes)

/-- The bytes of a text. -/
def encode (s : String) : List UInt8 := s.toByteArray.data.toList

/-- The text that the bytes spell, if they are well formed throughout. -/
def decode? (bytes : List UInt8) : Option String := String.fromUTF8? ⟨bytes.toArray⟩

/-- The last boundary between characters up to byte `i`, looked for from there backwards. -/
def boundaryUpTo (s : String) : Nat → s.Pos
  | 0 => s.startPos
  | i + 1 => if h : String.Pos.Raw.IsValid s ⟨i + 1⟩ then s.pos ⟨i + 1⟩ h else boundaryUpTo s i

/-- The longest beginning of `s` in whole characters that fits into `room` bytes; negative room is none. -/
def utf8Prefix (s : String) (room : Int) : String :=
  if s.utf8ByteSize ≤ room.toNat then s else (s.sliceTo (boundaryUpTo s room.toNat)).copy

end GuestHost.Text
