import BoundSql.Number.Double

/-!
# Shortest decimal digits

The decimal numbers that round to a given double fill an interval around it, whose ends belong to
it when the significand is even. `shortest` walks down the decimal grids `10 ^ k`. The first grid
that has a point in the interval gives the fewest digits, and one of the double's two neighbours
on that grid is such a point; of two, the nearer is taken, and a parameter says which of two
equally near ones.
-/

namespace BoundSql.Number

/-- Which of two equally near candidates is taken. -/
inductive Tie where
  /-- The greater one. -/
  | up
  /-- The even one. -/
  | even
  deriving DecidableEq, Repr

/-- Decimal digits and the power of ten that multiplies them. -/
structure Decimal where
  digits : Nat
  exponent : Int
  deriving DecidableEq, Repr

/-- The reals that round to one double, in multiples of `2 ^ unit`. -/
structure Interval where
  /-- The lower end. -/
  low : Nat
  /-- The double itself. -/
  mid : Nat
  /-- The upper end. -/
  high : Nat
  /-- The exponent of the unit. -/
  unit : Int
  /-- Whether the ends round to the double too. -/
  closed : Bool
  deriving DecidableEq, Repr

/-- The reals that round to `m · 2 ^ q`. The gap below the least significand of a binade is half
the gap above it. -/
def roundingInterval (m : Nat) (q : Int) : Interval :=
  let binade := 2 ^ (Format.binary64.precision - 1)
  let below := if m = binade && Format.binary64.leastExponent < q then 1 else 2
  ⟨4 * m - below, 4 * m, 4 * m + 2, q - 2, m % 2 == 0⟩

/-- A common scale for the units of an interval and of a decimal grid: what to multiply the
interval's numbers by, and what a grid step is in the same measure. -/
def commonScale (unit k : Int) : Nat × Nat :=
  let binary := (2 ^ unit.toNat, 2 ^ (-unit).toNat)
  let decimal := (10 ^ k.toNat, 10 ^ (-k).toNat)
  (binary.1 * decimal.2, decimal.1 * binary.2)

/-- The multiple of `10 ^ k` in the interval that is nearest to its middle, if there is one. -/
def nearestOnGrid (tie : Tie) (i : Interval) (k : Int) : Option Nat :=
  let (factor, step) := commonScale i.unit k
  let inside (n : Nat) : Bool :=
    if i.closed then i.low * factor ≤ n * step && n * step ≤ i.high * factor
    else i.low * factor < n * step && n * step < i.high * factor
  let mid := i.mid * factor
  let n := mid / step
  let below := mid % step
  match inside n, inside (n + 1) with
  | false, false => none
  | true, false => some n
  | false, true => some (n + 1)
  | true, true =>
    if 2 * below < step then some n
    else if step < 2 * below then some (n + 1)
    else
      match tie with
      | .up => some (n + 1)
      | .even => some (n + n % 2)

/-- The first of the grids `10 ^ k`, `10 ^ (k - 1)`, … with a point in the interval. -/
def searchGrids (tie : Tie) (i : Interval) : Nat → Int → Decimal
  | 0, k => ⟨0, k⟩
  | fuel + 1, k =>
    match nearestOnGrid tie i k with
    | some n => ⟨n, k⟩
    | none => searchGrids tie i fuel (k - 1)

/-- A power of ten above every number of the interval's size, and not far above it. -/
def firstGrid (i : Interval) : Int :=
  ((i.mid.log2 : Int) + i.unit) * 30103 / 100000 + 2

/-- The shortest decimal that reads back as the magnitude of a finite double that is not zero. -/
def shortest (tie : Tie) (x : Double) : Decimal :=
  let (m, q) := x.magnitude
  let i := roundingInterval m q
  searchGrids tie i 22 (firstGrid i)

end BoundSql.Number
