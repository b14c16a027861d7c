/-!
# UTF-8

The bytes of a text, and a decoder that accepts any bytes. The decoder is a machine that takes one
byte at a time: between characters it is `none`, inside a character it knows the bits read so far,
how many bytes are still owed, and the range of the next one. A byte that cannot continue the
character ends it with U+FFFD and is then read as the start of the next one, so each maximal
stretch that begins like a character and is not one becomes a single U+FFFD.
-/

namespace BoundSql.Text

/-- The bytes of a text in UTF-8. -/
def utf8 (s : List Char) : List UInt8 :=
  s.flatMap String.utf8EncodeChar

/-- The number of bytes of a text in UTF-8. -/
def utf8Size (s : List Char) : Nat :=
  (utf8 s).length

/-- A character of which some bytes have been read. -/
structure Unfinished where
  /-- The bits of the code point read so far. -/
  bits : Nat
  /-- The number of bytes that follow. -/
  owed : Nat
  /-- The least value of the next byte. -/
  low : UInt8
  /-- The greatest value of the next byte. -/
  high : UInt8
  deriving DecidableEq, Repr

/-- The character that stands for bytes that are not UTF-8. -/
def replacement : Char := '\uFFFD'

/-- Reads the first byte of a character: the characters it completes and what it leaves open. -/
def firstByte (b : UInt8) : List Char × Option Unfinished :=
  if b < 0x80 then ([Char.ofNat b.toNat], none)
  else if 0xC2 ≤ b && b ≤ 0xDF then ([], some ⟨b.toNat % 32, 1, 0x80, 0xBF⟩)
  else if b == 0xE0 then ([], some ⟨0, 2, 0xA0, 0xBF⟩)
  else if b == 0xED then ([], some ⟨13, 2, 0x80, 0x9F⟩)
  else if 0xE1 ≤ b && b ≤ 0xEF then ([], some ⟨b.toNat % 16, 2, 0x80, 0xBF⟩)
  else if b == 0xF0 then ([], some ⟨0, 3, 0x90, 0xBF⟩)
  else if 0xF1 ≤ b && b ≤ 0xF3 then ([], some ⟨b.toNat % 8, 3, 0x80, 0xBF⟩)
  else if b == 0xF4 then ([], some ⟨4, 3, 0x80, 0x8F⟩)
  else ([replacement], none)

/-- Reads one byte in any state. -/
def nextByte (state : Option Unfinished) (b : UInt8) : List Char × Option Unfinished :=
  match state with
  | none => firstByte b
  | some u =>
    if u.low ≤ b && b ≤ u.high then
      let bits := 64 * u.bits + b.toNat % 64
      if u.owed = 1 then ([Char.ofNat bits], none)
      else ([], some ⟨bits, u.owed - 1, 0x80, 0xBF⟩)
    else
      let (text, after) := firstByte b
      (replacement :: text, after)

/-- Decodes bytes from a state of the machine. -/
def decodeFrom : Option Unfinished → List UInt8 → List Char
  | none, [] => []
  | some _, [] => [replacement]
  | state, b :: rest =>
    let (text, after) := nextByte state b
    text ++ decodeFrom after rest

/-- The text that bytes write in UTF-8, with U+FFFD for what is not UTF-8. -/
def decodeLossy (bytes : List UInt8) : List Char :=
  decodeFrom none bytes

end BoundSql.Text
