import BoundSql.Number.Rounding

/-!
# Numbers of 64 bits

A `Double` is the 64 bits of a binary floating-point number: the sign, then the code of its
magnitude in `Format.binary64`. Two doubles are equal when their bits are, so the two zeros differ
and a NaN equals itself. Everything here is exact arithmetic on natural numbers.
-/

namespace BoundSql

open Number

/-- A floating-point number of 64 bits. -/
structure Double where
  /-- The sign bit, the exponent field and the significand, from the most significant bit. -/
  bits : UInt64
  deriving DecidableEq, Repr, Inhabited

namespace Double

/-- The number with a sign and the code of a magnitude. -/
def ofCode (negative : Bool) (code : Nat) : Double :=
  ⟨UInt64.ofNat (if negative then 2 ^ 63 + code else code)⟩

/-- The double nearest to `num / den`, with a sign. -/
def ofQuotient (negative : Bool) (num den : Nat) : Double :=
  ofCode negative (if num = 0 then 0 else Format.binary64.encode num den)

/-- The double nearest to an integer. -/
def ofInt (i : Int) : Double :=
  ofQuotient (i < 0) i.natAbs 1

/-- Infinity with a sign. -/
def infinity (negative : Bool) : Double :=
  ofCode negative Format.binary64.infinity

/-- The NaN whose significand has its leading bit alone. -/
def nan : Double :=
  ofCode false (Format.binary64.infinity + 2 ^ 51)

/-- The double nearest to `digits · 10 ^ exponent`, with a sign. Magnitudes of at least
`10 ^ 310` are infinite and those below `10 ^ -330` are zero, whatever their exponent. -/
def ofDecimal (negative : Bool) (digits : Nat) (exponent : Int) : Double :=
  if digits = 0 then ofCode negative 0
  else if 310 < exponent then infinity negative
  else if exponent + (Nat.toDigits 10 digits).length < -330 then ofCode negative 0
  else if 0 ≤ exponent then ofQuotient negative (digits * 10 ^ exponent.toNat) 1
  else ofQuotient negative digits (10 ^ (-exponent).toNat)

variable (x : Double)

/-- Whether the sign bit is set. -/
def isNegative : Bool :=
  2 ^ 63 ≤ x.bits.toNat

/-- The code of the magnitude. -/
def code : Nat :=
  x.bits.toNat % 2 ^ 63

/-- Whether the number is neither infinite nor a NaN. -/
def isFinite : Bool :=
  x.code < Format.binary64.infinity

/-- Whether the number is infinite, of either sign. -/
def isInfinite : Bool :=
  x.code = Format.binary64.infinity

/-- Whether the bits stand for no number. -/
def isNaN : Bool :=
  Format.binary64.infinity < x.code

/-- The magnitude as `m · 2 ^ q`. -/
def magnitude : Nat × Int :=
  Format.binary64.decode x.code

/-- The integer next to the magnitude in the direction of zero. -/
def wholePart : Nat :=
  let (m, q) := x.magnitude
  if 0 ≤ q then m * 2 ^ q.toNat else m / 2 ^ (-q).toNat

/-- Whether a finite number is an integer. -/
def isIntegral : Bool :=
  let (m, q) := x.magnitude
  0 ≤ q || m % 2 ^ (-q).toNat == 0

/-- The integer that a finite number becomes without its fraction. -/
def truncate : Int :=
  if x.isNegative then -(x.wholePart : Int) else x.wholePart

/-- The integer nearest to `i` among those of 64 bits, two's complement. -/
def clampInt64 (i : Int) : Int64 :=
  Int64.ofInt (max (-(2 ^ 63)) (min i (2 ^ 63 - 1)))

/-- The integer that a finite integral number is, brought into the range of 64 bits. -/
def toInt64? : Option Int64 :=
  if x.isFinite && x.isIntegral then some (clampInt64 x.truncate) else none

end Double

end BoundSql
