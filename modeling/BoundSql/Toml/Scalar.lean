import BoundSql.Number.Reading
import BoundSql.Text.Hex
import BoundSql.Toml

/-!
# Numbers, moments and truth values of TOML

Every such value is one stretch of characters (a date and a time may have one space between them),
and `Toml.ofScalar?` tells from the stretch which value it is. Digits may have single underscores
between them, and after a sign one before them; a decimal integer has no leading zero, and must fit
in 64 bits, with or without sign.
-/

namespace BoundSql.Toml

open BoundSql.Text

/-- Whether a character may stand in a number, a date or a truth value. -/
def isScalarChar (c : Char) : Bool :=
  c.isAlphanum || c == '+' || c == '-' || c == '_' || c == '.' || c == ':'

/-- The digits of a decimal integer after its sign, if it has one: no leading zero, unless a sign
and an underscore stand before it. -/
def decimalDigits? (signed : Bool) : List Char → Option (List Char)
  | '_' :: rest => if signed then digitsWithUnderscores? Char.isDigit rest else none
  | s =>
    match digitsWithUnderscores? Char.isDigit s with
    | some ('0' :: _ :: _) => none
    | other => other

/-- The number that digits of a base write. -/
def valueInBase (base : Nat) (digits : List Char) : Nat :=
  digits.foldl (fun n c => base * n + (hexValue? c).getD 0) 0

/-- The integer that a stretch writes. -/
def integer? (s : List Char) : Option Int :=
  let based (base : Nat) (rest : List Char) : Option Int :=
    (digitsWithUnderscores? (fun c => (hexValue? c).any (· < base)) rest).map fun digits =>
      (valueInBase base digits : Int)
  match s with
  | '0' :: 'x' :: rest => based 16 rest
  | '0' :: 'o' :: rest => based 8 rest
  | '0' :: 'b' :: rest => based 2 rest
  | '-' :: rest => (decimalDigits? true rest).map fun digits => -(numeralValue digits : Int)
  | '+' :: rest => (decimalDigits? true rest).map fun digits => (numeralValue digits : Int)
  | rest => (decimalDigits? false rest).map fun digits => (numeralValue digits : Int)

/-- Whether a stretch is an exponent: `e` or `E`, an optional sign, and digits. -/
def isExponent : List Char → Bool
  | [] => false
  | c :: rest =>
    let digits :=
      match rest with
      | '+' :: digits => digits
      | '-' :: digits => digits
      | digits => digits
    c.toLower = 'e' && (digitsWithUnderscores? Char.isDigit digits).isSome

/-- Whether a stretch after its sign, if it has one, is a floating-point number. -/
def isUnsignedFloat (signed : Bool) (s : List Char) : Bool :=
  let inDigits (c : Char) : Bool := c.isDigit || c == '_'
  (decimalDigits? signed (s.takeWhile inDigits)).isSome &&
    match s.dropWhile inDigits with
    | '.' :: rest =>
      (digitsWithUnderscores? Char.isDigit (rest.takeWhile inDigits)).isSome &&
        ((rest.dropWhile inDigits).isEmpty || isExponent (rest.dropWhile inDigits))
    | rest => isExponent rest

/-- Whether a stretch is a floating-point number within range. -/
def isFloat (s : List Char) : Bool :=
  let signed := s.head?.any fun c => c == '+' || c == '-'
  let rest := if signed then s.drop 1 else s
  if rest = "inf".toList || rest = "nan".toList then true
  else
    isUnsignedFloat signed rest &&
      (Number.readDouble? (s.filter (· != '_'))).any Double.isFinite

/-- The value that a stretch of characters writes. -/
def ofScalar? (s : List Char) : Option Toml :=
  if s = "true".toList then some (.boolean true)
  else if s = "false".toList then some (.boolean false)
  else
    match integer? s with
    | some i => if -(2 ^ 63 : Int) ≤ i && i < (2 ^ 64 : Int) then some (.integer i) else none
    | none =>
      if isFloat s then some (.float (String.ofList s))
      else (Moment.read? s).map .moment

/-- The stretch at the start of a text, and the rest. A date goes on after one space if a digit
follows. -/
def takeScalar (s : List Char) : List Char × List Char :=
  let (stretch, rest) := s.span isScalarChar
  match rest with
  | ' ' :: c :: others =>
    if (takeDate? stretch).any (·.2.isEmpty) && c.isDigit then
      let (more, rest) := (c :: others).span isScalarChar
      (stretch ++ ' ' :: more, rest)
    else (stretch, rest)
  | rest => (stretch, rest)

end BoundSql.Toml
