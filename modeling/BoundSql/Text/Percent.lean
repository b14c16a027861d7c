import BoundSql.Text.Hex
import BoundSql.Text.Utf8

/-!
# Percent encoding

A component of a URL is written with every byte outside `A-Z a-z 0-9 - . _ ~` as `%` and two
upper-case hexadecimal digits. Decoding replaces each such triple, in either case, by its byte and
keeps every other byte.
-/

namespace BoundSql.Text

/-- The characters that stand for themselves in a component. -/
def isUnreserved (c : Char) : Bool :=
  c.isAlphanum || c == '-' || c == '.' || c == '_' || c == '~'

/-- One character of a component. -/
def percentChar (c : Char) : List Char :=
  if isUnreserved c then [c]
  else (String.utf8EncodeChar c).flatMap fun b => '%' :: hexByte .upper b

/-- A text as a component of a URL. -/
def percentEncode (s : List Char) : List Char :=
  s.flatMap percentChar

/-- The byte that two hexadecimal digits, given as bytes, write. -/
def hexPair? (a b : UInt8) : Option UInt8 := do
  let high ← hexValue? (Char.ofNat a.toNat)
  let low ← hexValue? (Char.ofNat b.toNat)
  return UInt8.ofNat (16 * high + low)

/-- The bytes of a component, with each `%` and two digits read as one byte. -/
def percentDecode : List UInt8 → List UInt8
  | [] => []
  | [a] => [a]
  | [a, b] => [a, b]
  | a :: b :: c :: rest =>
    if a == 0x25 then
      match hexPair? b c with
      | some byte => byte :: percentDecode rest
      | none => a :: percentDecode (b :: c :: rest)
    else a :: percentDecode (b :: c :: rest)

end BoundSql.Text
