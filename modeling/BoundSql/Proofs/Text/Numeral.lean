import BoundSql.Text.Numeral
import Mathlib.Data.Nat.Digits.Defs

/-!
# Decimal numerals of integers

What it means that a text is a decimal numeral: digits, each worth its value times the power of ten
of its place, behind at most one sign (`IsNumeral`). `readInt?` reads a text exactly when it is a
numeral, and `readInt64?` those whose integers have 64 bits.

* `numeralValue_eq`: reading digits from the left gives every digit the worth of its place;
* `readInt?_eq_some_iff`, `readInt64?_eq_some_iff`: the texts that are read, and as what.
-/

namespace BoundSql.Text

/-- The number of some digits, the last of which counts ones. -/
def placeValue (digits : List Char) : Nat :=
  Nat.ofDigits 10 (digits.map digitValue).reverse

/-- The text is a decimal numeral of the integer. -/
inductive IsNumeral : List Char → ℤ → Prop
  | digits {s : List Char} (hne : s ≠ []) (h : ∀ c ∈ s, c.isDigit = true) :
      IsNumeral s (placeValue s)
  | plus {s : List Char} (hne : s ≠ []) (h : ∀ c ∈ s, c.isDigit = true) :
      IsNumeral ('+' :: s) (placeValue s)
  | minus {s : List Char} (hne : s ≠ []) (h : ∀ c ∈ s, c.isDigit = true) :
      IsNumeral ('-' :: s) (-placeValue s)

theorem numeralValue_eq (digits : List Char) : numeralValue digits = placeValue digits := by
  rw [placeValue, Nat.ofDigits_eq_foldr, List.foldr_reverse, List.foldl_map, numeralValue]
  congr 1
  funext n c
  rw [Nat.cast_id, Nat.add_comm]

theorem readNat?_eq_some_iff {s : List Char} {n : Nat} :
    readNat? s = some n ↔ s ≠ [] ∧ (∀ c ∈ s, c.isDigit = true) ∧ placeValue s = n := by
  rw [readNat?, numeralValue_eq]
  by_cases h : s ≠ [] ∧ ∀ c ∈ s, c.isDigit = true
  · obtain ⟨hne, hdigits⟩ := h
    rw [if_neg (by simpa [hne] using hdigits), Option.some.injEq, and_iff_right hne,
      and_iff_right hdigits]
  · rw [if_pos (by simpa [or_iff_not_imp_left] using h)]
    exact iff_of_false nofun fun hall => h ⟨hall.1, hall.2.1⟩

theorem readInt?_minus (digits : List Char) :
    readInt? ('-' :: digits) = (readNat? digits).map fun n : ℕ => -(n : ℤ) := by
  rw [readInt?]
  cases readNat? digits <;> rfl

/-- The integers that texts are read as. -/
theorem readInt?_eq_some_iff {s : List Char} {n : ℤ} : readInt? s = some n ↔ IsNumeral s n := by
  constructor
  · intro h
    unfold readInt? at h
    split at h
    · rename_i digits
      replace h : readInt? ('-' :: digits) = some n := h
      rw [readInt?_minus] at h
      obtain ⟨k, hk, rfl⟩ := Option.map_eq_some_iff.1 h
      obtain ⟨hne, hdigits, rfl⟩ := readNat?_eq_some_iff.1 hk
      exact .minus hne hdigits
    · obtain ⟨k, hk, rfl⟩ := Option.map_eq_some_iff.1 h
      obtain ⟨hne, hdigits, rfl⟩ := readNat?_eq_some_iff.1 hk
      exact .plus hne hdigits
    · obtain ⟨k, hk, rfl⟩ := Option.map_eq_some_iff.1 h
      obtain ⟨hne, hdigits, rfl⟩ := readNat?_eq_some_iff.1 hk
      exact .digits hne hdigits
  · intro h
    cases h with
    | digits hne hdigits =>
      have hread := readNat?_eq_some_iff.2 ⟨hne, hdigits, rfl⟩
      unfold readInt?
      split
      · exact absurd (hdigits '-' List.mem_cons_self) (by decide)
      · exact absurd (hdigits '+' List.mem_cons_self) (by decide)
      · rw [hread]
        rfl
    | plus hne hdigits =>
      rw [readInt?, readNat?_eq_some_iff.2 ⟨hne, hdigits, rfl⟩]
      rfl
    | minus hne hdigits =>
      rw [readInt?_minus, readNat?_eq_some_iff.2 ⟨hne, hdigits, rfl⟩]
      rfl

theorem fitsInt64_iff {n : ℤ} : fitsInt64 n = true ↔ -2 ^ 63 ≤ n ∧ n < 2 ^ 63 := by
  rw [fitsInt64, Bool.and_eq_true, decide_eq_true_eq, decide_eq_true_eq]

/-- A numeral is read as an integer of 64 bits when its integer is one. -/
theorem readInt64?_eq_some_iff {s : List Char} {i : Int64} :
    readInt64? s = some i ↔ IsNumeral s i.toInt := by
  rw [readInt64?, Option.bind_eq_some_iff, ← readInt?_eq_some_iff]
  constructor
  · rintro ⟨n, hn, hi⟩
    split at hi
    · rename_i hn'
      obtain ⟨hlow, hhigh⟩ := fitsInt64_iff.1 hn'
      rw [← Option.some.inj hi, Int64.toInt_ofInt_of_le hlow hhigh, hn]
    · cases hi
  · intro h
    refine ⟨_, h, ?_⟩
    rw [if_pos (fitsInt64_iff.2 ⟨i.le_toInt, i.toInt_lt⟩), Int64.ofInt_toInt]

end BoundSql.Text
