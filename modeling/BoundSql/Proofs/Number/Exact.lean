import BoundSql.Number.Double
import Mathlib.Algebra.Order.Field.Rat
import Mathlib.Data.Nat.Cast.Field
import Mathlib.Tactic.NormNum
import Mathlib.Tactic.Ring

/-!
# The number that a double is

`Double.value?` reads the sign, the exponent field and the fraction field of the 64 bits as IEEE 754
does: a finite double is an exact rational number, infinities and NaNs are none. The arithmetic on
integer significands agrees with it: a double counts as integral exactly when its number is an
integer, and nothing is lost then when its fraction is cut off.

* `Double.value?_eq`: the number is the significand in its unit, with the sign;
* `Double.isIntegral_iff`, `Double.wholePart_eq`: the doubles that are integers;
* `Double.toInt64?_eq_some_iff`: what becomes of a double as an integer of 64 bits;
* `Double.toInt_clampInt64`: integers of 64 bits are in range, all others go to the nearer end.
-/

namespace BoundSql.Double

/-- The eleven bits of the exponent. -/
def exponentField (x : Double) : Nat :=
  x.bits.toNat / 2 ^ 52 % 2 ^ 11

/-- The fifty-two bits of the fraction. -/
def fractionField (x : Double) : Nat :=
  x.bits.toNat % 2 ^ 52

/-- The sign, from the leading bit. -/
def signFactor (x : Double) : ℚ :=
  if x.bits.toNat / 2 ^ 63 = 1 then -1 else 1

/-- The exact number: with the least exponent field there is no leading bit, and the greatest one
stands for no number. -/
def value? (x : Double) : Option ℚ :=
  if x.exponentField = 2047 then none
  else if x.exponentField = 0 then
    some (x.signFactor * (x.fractionField / 2 ^ 52) * 2 ^ (-1022 : ℤ))
  else
    some (x.signFactor * (1 + x.fractionField / 2 ^ 52) * 2 ^ ((x.exponentField : ℤ) - 1023))

/-! ## Significand and unit -/

theorem isFinite_iff (x : Double) : x.isFinite = true ↔ x.exponentField ≠ 2047 := by
  have hinfinity : Number.Format.binary64.infinity = 2047 * 2 ^ 52 := rfl
  rw [isFinite, decide_eq_true_eq, hinfinity, code, exponentField]
  omega

theorem isNegative_iff (x : Double) : x.isNegative = true ↔ x.bits.toNat / 2 ^ 63 = 1 := by
  have hlt := x.bits.toNat_lt
  rw [isNegative, decide_eq_true_eq]
  omega

theorem magnitude_eq (x : Double) :
    x.magnitude =
      if x.exponentField = 0 then (x.fractionField, -1074)
      else (x.fractionField + 2 ^ 52, (x.exponentField : ℤ) - 1075) := by
  have hexponent : x.code / 2 ^ 52 = x.exponentField := by
    rw [code, exponentField]
    omega
  have hfraction : x.code % 2 ^ 52 = x.fractionField := by
    rw [code, fractionField]
    omega
  have hleast : Number.Format.binary64.leastExponent = -1074 := rfl
  have hprecision : Number.Format.binary64.precision - 1 = 52 := rfl
  rw [magnitude, Number.Format.decode, hprecision, hexponent, hfraction, hleast]
  split
  · rfl
  · rw [Prod.mk.injEq]
    exact ⟨rfl, by ring⟩

/-- The number of a finite double is its significand in its unit, with its sign. -/
theorem value?_eq (x : Double) :
    x.value? =
      if x.isFinite then some (x.signFactor * (x.magnitude.1 * 2 ^ x.magnitude.2)) else none := by
  rw [value?, magnitude_eq]
  by_cases hfinite : x.exponentField = 2047
  · rw [if_pos hfinite, if_neg (mt (isFinite_iff x).1 (not_not.2 hfinite))]
  rw [if_neg hfinite, if_pos ((isFinite_iff x).2 hfinite)]
  have hfraction : (2 : ℚ) ^ (-52 : ℤ) = 1 / 2 ^ 52 := by norm_num
  split
  · have hunit : (2 : ℚ) ^ (-1074 : ℤ) = 2 ^ (-1022 : ℤ) * 2 ^ (-52 : ℤ) := by
      rw [← zpow_add₀ two_ne_zero]
      norm_num
    rw [hunit, hfraction]
    congr 1
    ring
  · have hunit : (2 : ℚ) ^ ((x.exponentField : ℤ) - 1075) =
        2 ^ ((x.exponentField : ℤ) - 1023) * 2 ^ (-52 : ℤ) := by
      rw [← zpow_add₀ two_ne_zero]
      congr 1
      ring
    rw [hunit, hfraction]
    push_cast
    congr 1
    ring

/-! ## Integral doubles -/

/-- A unit of at least one is a whole number, a smaller one divides one. -/
theorem magnitude_cast (x : Double) :
    (x.magnitude.1 * 2 ^ x.magnitude.2 : ℚ) =
      if 0 ≤ x.magnitude.2 then ((x.magnitude.1 * 2 ^ x.magnitude.2.toNat : ℕ) : ℚ)
      else x.magnitude.1 / ((2 ^ (-x.magnitude.2).toNat : ℕ) : ℚ) := by
  split
  · rename_i hunit
    have hpower : (2 : ℚ) ^ x.magnitude.2 = 2 ^ x.magnitude.2.toNat := by
      rw [← zpow_natCast, Int.toNat_of_nonneg hunit]
    rw [hpower]
    push_cast
    rfl
  · rename_i hunit
    have hpower : (2 : ℚ) ^ x.magnitude.2 = (2 ^ (-x.magnitude.2).toNat)⁻¹ := by
      rw [← zpow_natCast, Int.toNat_of_nonneg (by omega), ← zpow_neg, neg_neg]
    rw [hpower]
    push_cast
    rfl

theorem isIntegral_iff_dvd (x : Double) :
    x.isIntegral = true ↔ 0 ≤ x.magnitude.2 ∨ 2 ^ (-x.magnitude.2).toNat ∣ x.magnitude.1 := by
  show (decide (0 ≤ x.magnitude.2) || x.magnitude.1 % 2 ^ (-x.magnitude.2).toNat == 0) = true ↔ _
  rw [Bool.or_eq_true, decide_eq_true_eq, beq_iff_eq, Nat.dvd_iff_mod_eq_zero]

/-- The doubles that count as integral are those whose magnitude is an integer. -/
theorem isIntegral_iff (x : Double) :
    x.isIntegral = true ↔ ∃ n : ℤ, (x.magnitude.1 * 2 ^ x.magnitude.2 : ℚ) = n := by
  rw [isIntegral_iff_dvd, magnitude_cast]
  split
  · rename_i hunit
    exact iff_of_true (.inl hunit) ⟨_, (Int.cast_natCast _).symm⟩
  · rename_i hunit
    have hpos : ((2 ^ (-x.magnitude.2).toNat : ℕ) : ℚ) ≠ 0 := by positivity
    rw [or_iff_right hunit]
    constructor
    · rintro ⟨k, hk⟩
      refine ⟨k, ?_⟩
      rw [hk, Nat.cast_mul, mul_div_cancel_left₀ _ hpos, Int.cast_natCast]
    · rintro ⟨n, hn⟩
      have hmul : (x.magnitude.1 : ℤ) = n * (2 ^ (-x.magnitude.2).toNat : ℕ) := by
        exact_mod_cast (div_eq_iff hpos).1 hn
      exact Int.natCast_dvd_natCast.1 ⟨n, by rw [hmul, mul_comm]⟩

/-- Nothing is cut off from an integral double. -/
theorem wholePart_eq {x : Double} (h : x.isIntegral = true) :
    (x.wholePart : ℚ) = x.magnitude.1 * 2 ^ x.magnitude.2 := by
  have hwhole : x.wholePart =
      if 0 ≤ x.magnitude.2 then x.magnitude.1 * 2 ^ x.magnitude.2.toNat
      else x.magnitude.1 / 2 ^ (-x.magnitude.2).toNat := rfl
  rw [magnitude_cast, hwhole]
  split
  · rfl
  · rename_i hunit
    exact Nat.cast_div (((isIntegral_iff_dvd x).1 h).resolve_left hunit) (by positivity)

/-- A double is an integer exactly when it is finite and integral, and it is the integer that it
becomes without its fraction. -/
theorem value?_eq_intCast_iff {x : Double} {n : ℤ} :
    x.value? = some (n : ℚ) ↔ x.isFinite = true ∧ x.isIntegral = true ∧ x.truncate = n := by
  have hsign : x.signFactor = if x.isNegative then -1 else 1 := by
    rw [signFactor]
    simp only [isNegative_iff]
  rw [value?_eq]
  by_cases hfinite : x.isFinite = true
  · rw [if_pos hfinite, Option.some.injEq, and_iff_right hfinite]
    have htruncate (h : x.isIntegral = true) :
        x.signFactor * (x.magnitude.1 * 2 ^ x.magnitude.2) = (x.truncate : ℚ) := by
      rw [← wholePart_eq h, hsign, truncate]
      split <;> push_cast <;> ring
    constructor
    · intro hvalue
      have hintegral : x.isIntegral = true := by
        rw [isIntegral_iff]
        rw [hsign] at hvalue
        split at hvalue
        · exact ⟨-n, by rw [Int.cast_neg, ← hvalue, neg_one_mul, neg_neg]⟩
        · exact ⟨n, by rw [← hvalue, one_mul]⟩
      refine ⟨hintegral, ?_⟩
      rw [htruncate hintegral] at hvalue
      exact_mod_cast hvalue
    · rintro ⟨hintegral, rfl⟩
      exact htruncate hintegral
  · rw [if_neg hfinite]
    exact iff_of_false nofun fun h => hfinite h.1

/-! ## Integers of 64 bits -/

theorem toInt_clampInt64 (n : ℤ) :
    (clampInt64 n).toInt = max (-2 ^ 63) (min n (2 ^ 63 - 1)) := by
  rw [clampInt64]
  exact Int64.toInt_ofInt_of_le (by omega) (by omega)

/-- A double becomes an integer when it is one, in the range of 64 bits. -/
theorem toInt64?_eq_some_iff {x : Double} {i : Int64} :
    x.toInt64? = some i ↔ ∃ n : ℤ, x.value? = some (n : ℚ) ∧ clampInt64 n = i := by
  simp only [value?_eq_intCast_iff]
  rw [toInt64?]
  constructor
  · intro h
    split at h
    · rename_i hboth
      obtain ⟨hfinite, hintegral⟩ := Bool.and_eq_true_iff.1 hboth
      exact ⟨x.truncate, ⟨hfinite, hintegral, rfl⟩, Option.some.inj h⟩
    · cases h
  · rintro ⟨n, ⟨hfinite, hintegral, rfl⟩, rfl⟩
    rw [hfinite, hintegral]
    rfl

end BoundSql.Double
