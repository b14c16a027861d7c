import BoundSql.Number.Shortest
import BoundSql.Text.Letter
import BoundSql.Text.Numeral

/-!
# Reading floating-point numerals

The grammar of a numeral: an optional sign; then `inf`, `infinity` or `nan` in any case, or digits
with at most one point and at least one digit, and an optional exponent of `e` or `E`, an optional
sign and at least one digit. The number is the one nearest to the decimal written.
-/

namespace BoundSql.Number

open BoundSql.Text

/-- An unsigned numeral. -/
inductive Numeral where
  | infinity
  | nan
  | decimal (value : Decimal)

/-- The digits at the start of a text and what follows them. -/
def spanDigits (s : List Char) : List Char × List Char :=
  s.span Char.isDigit

/-- The exponent after the digits of a numeral: none, or `e` and an integer, to the end. -/
def readExponent? : List Char → Option Int
  | [] => some 0
  | c :: rest => if c.toLower = 'e' then readInt? rest else none

/-- A numeral of digits, with a point or an exponent or both. -/
def readDecimal? (s : List Char) : Option Decimal := do
  let (whole, rest) := spanDigits s
  let (fraction, rest) :=
    match rest with
    | '.' :: rest => spanDigits rest
    | _ => ([], rest)
  let digits := whole ++ fraction
  if digits.isEmpty then none
  else
    let exponent ← readExponent? rest
    return ⟨numeralValue digits, exponent - fraction.length⟩

/-- An unsigned numeral. -/
def readUnsigned? (s : List Char) : Option Numeral :=
  let word := lowerCase s
  if word = "inf".toList || word = "infinity".toList then some .infinity
  else if word = "nan".toList then some .nan
  else (readDecimal? s).map .decimal

/-- The sign at the start of a text, and what follows it. -/
def readSign : List Char → Bool × List Char
  | '-' :: rest => (true, rest)
  | '+' :: rest => (false, rest)
  | rest => (false, rest)

/-- The double with a sign that a numeral names. -/
def Numeral.toDouble (negative : Bool) : Numeral → Double
  | .infinity => .infinity negative
  | .nan => if negative then ⟨Double.nan.bits + 0x8000000000000000⟩ else .nan
  | .decimal d => .ofDecimal negative d.digits d.exponent

/-- The double that a text names, if it is a numeral. -/
def readDouble? (s : List Char) : Option Double :=
  let (negative, rest) := readSign s
  (readUnsigned? rest).map (·.toDouble negative)

/-- A decimal rounded first to the format of 32 bits and then widened. -/
def singleOfDecimal (negative : Bool) (digits : Nat) (exponent : Int) : Double :=
  let code :=
    if digits = 0 || exponent + (Nat.toDigits 10 digits).length < -330 then 0
    else if 310 < exponent then Format.binary32.infinity
    else if 0 ≤ exponent then Format.binary32.encode (digits * 10 ^ exponent.toNat) 1
    else Format.binary32.encode digits (10 ^ (-exponent).toNat)
  if Format.binary32.infinity ≤ code then .infinity negative
  else
    let (m, q) := Format.binary32.decode code
    if 0 ≤ q then .ofQuotient negative (m * 2 ^ q.toNat) 1
    else .ofQuotient negative m (2 ^ (-q).toNat)

/-- The double that widens the number of 32 bits that a text names, if it is a numeral. -/
def readSingle? (s : List Char) : Option Double :=
  let (negative, rest) := readSign s
  (readUnsigned? rest).map fun
    | .decimal d => singleOfDecimal negative d.digits d.exponent
    | other => other.toDouble negative

end BoundSql.Number
