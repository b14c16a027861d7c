import BoundSql.Text.Numeral

/-!
# Rounding to a binary format

A finite number of a binary floating-point format is `m · 2 ^ q`, with `m` below `2 ^ precision`
and `q` at least the exponent of the least subnormal. Its code is the exponent field and the
significand read as one natural number, so the codes of a format count its non-negative numbers in
order and a carry out of the significand needs no case of its own. `Format.encode` rounds an exact
quotient to the nearest code, a half to the even one; `Format.decode` gives `m` and `q` back.
-/

namespace BoundSql.Number

/-- `n / d` rounded to the nearest natural number, a half to the even one. -/
def roundHalfEven (n d : Nat) : Nat :=
  let k := n / d
  let r := n % d
  if 2 * r < d then k else if d < 2 * r then k + 1 else k + k % 2

/-- A binary floating-point format with gradual underflow. -/
structure Format where
  /-- The number of bits of the significand, the leading one included. -/
  precision : Nat
  /-- The number of bits of the exponent field. -/
  exponentBits : Nat
  deriving DecidableEq, Repr

namespace Format

/-- The format of 64 bits. -/
def binary64 : Format := ⟨53, 11⟩

/-- The format of 32 bits. -/
def binary32 : Format := ⟨24, 8⟩

variable (f : Format)

/-- The exponent of the least positive number, which is also the least unit of all numbers. -/
def leastExponent : Int :=
  3 - 2 ^ (f.exponentBits - 1) - f.precision

/-- The code that follows the greatest finite number. -/
def infinity : Nat :=
  (2 ^ f.exponentBits - 1) * 2 ^ (f.precision - 1)

/-- The numerator and denominator of `(num / den) / 2 ^ q`. -/
def scale (num den : Nat) (q : Int) : Nat × Nat :=
  if 0 ≤ q then (num, den * 2 ^ q.toNat) else (num * 2 ^ (-q).toNat, den)

/-- The exponent of the unit in which `num / den` is rounded: the quotient in this unit is below
`2 ^ precision`, and the unit is the least one for which it is, or the least of the format. -/
def unitExponent (num den : Nat) : Int :=
  let guess := max ((num.log2 : Int) - den.log2 - f.precision) f.leastExponent
  let (n, d) := scale num den guess
  if n / d < 2 ^ f.precision then guess else guess + 1

/-- The code of the number nearest to `num / den`, for `den` above zero. -/
def encode (num den : Nat) : Nat :=
  let q := f.unitExponent num den
  let (n, d) := scale num den q
  min ((q - f.leastExponent).toNat * 2 ^ (f.precision - 1) + roundHalfEven n d) f.infinity

/-- The significand and exponent of a code below infinity. -/
def decode (code : Nat) : Nat × Int :=
  let field := code / 2 ^ (f.precision - 1)
  let low := code % 2 ^ (f.precision - 1)
  if field = 0 then (low, f.leastExponent)
  else (low + 2 ^ (f.precision - 1), f.leastExponent + field - 1)

end Format

end BoundSql.Number
