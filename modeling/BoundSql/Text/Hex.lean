/-!
# Hexadecimal digits

Bytes as pairs of hexadecimal digits, in either case, and the value of a digit.
-/

namespace BoundSql.Text

/-- The case in which the digits above nine are written. -/
inductive HexCase where
  | lower
  | upper
  deriving DecidableEq, Repr

/-- The hexadecimal digit of a number below sixteen. -/
def hexDigit (style : HexCase) (n : Nat) : Char :=
  if n < 10 then Char.ofNat ('0'.toNat + n)
  else
    match style with
    | .lower => Char.ofNat ('a'.toNat + n - 10)
    | .upper => Char.ofNat ('A'.toNat + n - 10)

/-- The value of a hexadecimal digit in either case. -/
def hexValue? (c : Char) : Option Nat :=
  if c.isDigit then some (c.toNat - '0'.toNat)
  else if 'a' ≤ c && c ≤ 'f' then some (c.toNat - 'a'.toNat + 10)
  else if 'A' ≤ c && c ≤ 'F' then some (c.toNat - 'A'.toNat + 10)
  else none

/-- The two digits of a byte. -/
def hexByte (style : HexCase) (b : UInt8) : List Char :=
  [hexDigit style (b.toNat / 16), hexDigit style (b.toNat % 16)]

/-- The digits of a list of bytes, two for each. -/
def hexBytes (style : HexCase) (bytes : List UInt8) : List Char :=
  bytes.flatMap (hexByte style)

/-- The bytes that pairs of hexadecimal digits write. -/
def readHexBytes? : List Char → Option (List UInt8)
  | [] => some []
  | [_] => none
  | a :: b :: rest => do
    let high ← hexValue? a
    let low ← hexValue? b
    let bytes ← readHexBytes? rest
    return UInt8.ofNat (16 * high + low) :: bytes

/-- The number that hexadecimal digits write, most significant first. -/
def readHexNat? (s : List Char) : Option Nat :=
  s.foldlM (fun n c => (hexValue? c).map (16 * n + ·)) 0

/-- The last `width` hexadecimal digits of a number, in lower case. -/
def hexNat : Nat → Nat → List Char
  | 0, _ => []
  | width + 1, n => hexNat width (n / 16) ++ [hexDigit .lower (n % 16)]

end BoundSql.Text
