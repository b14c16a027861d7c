import BoundSql.Number.Shortest

/-!
# Writing doubles

A style says how the shortest digits of a finite double are laid out: which powers of ten are
written with a point in place, whether an integer keeps `.0`, and which of two equally near
shortest candidates is taken. `displayStyle` is the style of a value's plain text, `jsonStyle` that
of JSON text.
-/

namespace BoundSql.Number

/-- How the digits of a finite double are laid out. -/
structure DecimalStyle where
  /-- The powers of ten of the leading digit that are written in place; without bounds, all. -/
  inPlace : Option (Int × Int)
  /-- Whether an integer written in place ends in `.0`. -/
  pointZero : Bool
  /-- Which of two equally near shortest candidates is taken. -/
  tie : Tie
  deriving DecidableEq, Repr

/-- Plain text: digits in place at any size, no point in an integer, ties up. -/
def displayStyle : DecimalStyle := ⟨none, false, .up⟩

/-- JSON text: digits in place from `10 ^ -5` up to below `10 ^ 16`, with `.0` on integers, ties
to even. -/
def jsonStyle : DecimalStyle := ⟨some (-5, 15), true, .even⟩

/-- Digits `ds` times `10 ^ k` with a point in place. -/
def writeInPlace (pointZero : Bool) (ds : List Char) (k : Int) : List Char :=
  let whole := ds.length + k
  if 0 ≤ k then
    ds ++ List.replicate k.toNat '0' ++ if pointZero then ['.', '0'] else []
  else if 0 < whole then ds.take whole.toNat ++ '.' :: ds.drop whole.toNat
  else '0' :: '.' :: List.replicate (-whole).toNat '0' ++ ds

/-- Digits `ds` times `10 ^ k` with one digit before the point and a signed exponent. -/
def writeScientific (ds : List Char) (k : Int) : List Char :=
  let lead := k + ds.length - 1
  let fraction := ds.drop 1
  ds.take 1 ++ (if fraction.isEmpty then [] else '.' :: fraction) ++ 'e' ::
    (if lead < 0 then '-' else '+') :: Nat.toDigits 10 lead.natAbs

namespace DecimalStyle

/-- The text of the magnitude of a finite double. -/
def writeMagnitude (style : DecimalStyle) (x : Double) : List Char :=
  if x.code = 0 then writeInPlace style.pointZero ['0'] 0
  else
    let d := shortest style.tie x
    let ds := Nat.toDigits 10 d.digits
    let lead := d.exponent + ds.length - 1
    match style.inPlace with
    | none => writeInPlace style.pointZero ds d.exponent
    | some (least, greatest) =>
      if least ≤ lead && lead ≤ greatest then writeInPlace style.pointZero ds d.exponent
      else writeScientific ds d.exponent

/-- The text of a finite double, with its sign. -/
def write (style : DecimalStyle) (x : Double) : List Char :=
  if x.isNegative then '-' :: style.writeMagnitude x else style.writeMagnitude x

end DecimalStyle

end BoundSql.Number

namespace BoundSql.Double

open BoundSql.Number

/-- The plain text of a double: `NaN`, `inf`, `-inf`, or its digits in place. -/
def display (x : Double) : List Char :=
  if x.isNaN then ['N', 'a', 'N']
  else if x.isInfinite then if x.isNegative then ['-', 'i', 'n', 'f'] else ['i', 'n', 'f']
  else displayStyle.write x

end BoundSql.Double
