import BoundSql.Proofs.Number.Exact
import BoundSql.Proofs.Text.Numeral
import BoundSql.Row

/-!
# Values read as integers

The integer that a value is (`Value.Denotes`): an integer is itself, a truth value is one or zero, a
double is its exact number when that is an integer, and a text is the integer whose numeral stands
in it between blanks. `Value.toInt64?` gives the integer that a value is whenever it has 64 bits.

Integers beyond that range have no reading among texts, but among doubles they have: the end of the
range that is nearer (`Value.SaturatesAt`). So what is read is the integer that the value is, unless
the value is a double that is an integer out of range.

* `Value.toInt64?_eq_some_iff`: what is read from a value;
* `integers_read_iff`: for which values and columns that is the integer that stands there.
-/

namespace BoundSql

namespace Value

/-- The value is the integer. -/
inductive Denotes : Value → ℤ → Prop
  | int (i : Int64) : Denotes (.int i) i.toInt
  | yes : Denotes (.bool true) 1
  | no : Denotes (.bool false) 0
  | double {x : Double} {n : ℤ} (h : x.value? = some (n : ℚ)) : Denotes (.double x) n
  | text {s : String} {n : ℤ} (h : Text.IsNumeral (Text.trim s.toList) n) : Denotes (.text s) n

/-- The value is a double, and an integer that doesn't have 64 bits. -/
def Exceeds (v : Value) : Prop :=
  ∃ x, ∃ n : ℤ, v = .double x ∧ x.value? = some (n : ℚ) ∧ (n < -2 ^ 63 ∨ 2 ^ 63 ≤ n)

/-- The value is a double, and an integer beyond that end of the integers of 64 bits. -/
def SaturatesAt (v : Value) (i : Int64) : Prop :=
  ∃ x, ∃ n : ℤ, v = .double x ∧ x.value? = some (n : ℚ) ∧
    (n < -2 ^ 63 ∧ i = Int64.minValue ∨ 2 ^ 63 ≤ n ∧ i = Int64.maxValue)

variable {v : Value} {i : Int64} {n : ℤ}

theorem denotes_int_iff {j : Int64} : Denotes (.int j) n ↔ j.toInt = n :=
  ⟨fun h => by cases h; rfl, fun h => h ▸ .int j⟩

theorem denotes_bool_iff {b : Bool} : Denotes (.bool b) n ↔ (if b then 1 else 0) = n := by
  constructor
  · intro h
    cases h <;> rfl
  · rintro rfl
    cases b
    · exact .no
    · exact .yes

theorem denotes_double_iff {x : Double} : Denotes (.double x) n ↔ x.value? = some (n : ℚ) :=
  ⟨fun h => by cases h; assumption, .double⟩

theorem denotes_text_iff {s : String} :
    Denotes (.text s) n ↔ Text.IsNumeral (Text.trim s.toList) n :=
  ⟨fun h => by cases h; assumption, .text⟩

/-- What a double becomes is the integer that it is, or the end of the range that it is beyond. -/
theorem toInt64?_double_iff {x : Double} :
    x.toInt64? = some i ↔ Denotes (.double x) i.toInt ∨ SaturatesAt (.double x) i := by
  rw [Double.toInt64?_eq_some_iff]
  constructor
  · rintro ⟨n, hvalue, rfl⟩
    have hclamp := Double.toInt_clampInt64 n
    by_cases hlow : n < -2 ^ 63
    · refine .inr ⟨x, n, rfl, hvalue, .inl ⟨hlow, Int64.toInt_inj.1 ?_⟩⟩
      rw [hclamp, Int64.toInt_minValue]
      omega
    by_cases hhigh : 2 ^ 63 ≤ n
    · refine .inr ⟨x, n, rfl, hvalue, .inr ⟨hhigh, Int64.toInt_inj.1 ?_⟩⟩
      rw [hclamp, Int64.toInt_maxValue]
      omega
    · have hn : (Double.clampInt64 n).toInt = n := by omega
      exact .inl (denotes_double_iff.2 (hn.symm ▸ hvalue))
  · rintro (h | ⟨_, n, hx, hvalue, h⟩)
    · refine ⟨i.toInt, denotes_double_iff.1 h, Int64.toInt_inj.1 ?_⟩
      have hlow := i.le_toInt
      have hhigh := i.toInt_lt
      rw [Double.toInt_clampInt64]
      omega
    · cases hx
      refine ⟨n, hvalue, Int64.toInt_inj.1 ?_⟩
      rw [Double.toInt_clampInt64]
      obtain ⟨hlow, rfl⟩ | ⟨hhigh, rfl⟩ := h
      · rw [Int64.toInt_minValue]
        omega
      · rw [Int64.toInt_maxValue]
        omega

/-- What is read from a value is the integer that it is, or the end of the range that a double is
beyond. -/
theorem toInt64?_eq_some_iff : v.toInt64? = some i ↔ v.Denotes i.toInt ∨ v.SaturatesAt i := by
  have hother (hv : ∀ x, v ≠ .double x) : v.Denotes i.toInt ∨ v.SaturatesAt i ↔ v.Denotes i.toInt :=
    or_iff_left fun ⟨x, _, hx, _⟩ => hv x hx
  cases v with
  | double x => exact toInt64?_double_iff
  | null | bytes _ | list _ =>
    rw [hother nofun]
    exact iff_of_false nofun nofun
  | int j => rw [hother nofun, denotes_int_iff, Int64.toInt_inj, toInt64?, Option.some.injEq]
  | bool b =>
    rw [hother nofun, denotes_bool_iff, toInt64?, Option.some.injEq, ← Int64.toInt_inj]
    cases b <;> rfl
  | text s => rw [hother nofun, denotes_text_iff, toInt64?, Text.readInt64?_eq_some_iff]

theorem exceeds_iff : v.Exceeds ↔ ∃ i, v.SaturatesAt i := by
  constructor
  · rintro ⟨x, n, hx, hvalue, hlow | hhigh⟩
    · exact ⟨_, x, n, hx, hvalue, .inl ⟨hlow, rfl⟩⟩
    · exact ⟨_, x, n, hx, hvalue, .inr ⟨hhigh, rfl⟩⟩
  · rintro ⟨i, x, n, hx, hvalue, ⟨hlow, -⟩ | ⟨hhigh, -⟩⟩
    · exact ⟨x, n, hx, hvalue, .inl hlow⟩
    · exact ⟨x, n, hx, hvalue, .inr hhigh⟩

/-- A double is no more than one integer. -/
theorem Exceeds.not_denotes (h : v.Exceeds) (i : Int64) : ¬ v.Denotes i.toInt := by
  obtain ⟨x, n, rfl, hvalue, hrange⟩ := h
  intro hdenotes
  have hsame : (n : ℚ) = i.toInt :=
    Option.some.inj (hvalue.symm.trans (denotes_double_iff.1 hdenotes))
  have hn : n = i.toInt := by exact_mod_cast hsame
  have hlow := i.le_toInt
  have hhigh := i.toInt_lt
  omega

/-- Only the integer that a value is is read from it, unless the value is out of range. -/
theorem reads_denoted_iff : (∀ i, v.toInt64? = some i → v.Denotes i.toInt) ↔ ¬ v.Exceeds := by
  constructor
  · intro h hexceeds
    obtain ⟨i, hi⟩ := exceeds_iff.1 hexceeds
    exact hexceeds.not_denotes i (h i (toInt64?_eq_some_iff.2 (.inr hi)))
  · intro h i hread
    exact (toInt64?_eq_some_iff.1 hread).resolve_right fun hi => h (exceeds_iff.2 ⟨i, hi⟩)

end Value

theorem Row.getInt64?_eq_some_iff {row : Row} {column : String} {i : Int64} :
    row.getInt64? column = some i ↔ ∃ v, row.get? column = some v ∧ v.toInt64? = some i :=
  Option.bind_eq_some_iff

/-- What is read from a value and from a column as an integer of 64 bits: the integer that stands
there, or the end of the range that a double is beyond. So no other integer than the one that stands
there is read, and none where there is none of 64 bits, exactly unless the value is a double that is
an integer out of range. -/
theorem integers_read_iff (v : Value) (row : Row) (column : String) :
    (∀ i : Int64, v.toInt64? = some i ↔ v.Denotes i.toInt ∨ v.SaturatesAt i) ∧
    (((∀ i, v.toInt64? = some i → v.Denotes i.toInt) ∧ (v.Exceeds → v.toInt64? = none)) ↔
      ¬ v.Exceeds) ∧
    ((∀ i, row.getInt64? column = some i → ∃ w, row.get? column = some w ∧ w.Denotes i.toInt) ↔
      ∀ w, row.get? column = some w → ¬ w.Exceeds) := by
  refine ⟨fun i => Value.toInt64?_eq_some_iff, ?_, ?_⟩
  · rw [Value.reads_denoted_iff]
    exact ⟨And.left, fun h => ⟨h, fun hexceeds => absurd hexceeds h⟩⟩
  · constructor
    · intro h w hw
      refine Value.reads_denoted_iff.1 fun i hread => ?_
      obtain ⟨u, hu, hdenotes⟩ := h i (Row.getInt64?_eq_some_iff.2 ⟨w, hw, hread⟩)
      rw [hw] at hu
      exact Option.some.inj hu ▸ hdenotes
    · intro h i hread
      obtain ⟨w, hw, hread⟩ := Row.getInt64?_eq_some_iff.1 hread
      exact ⟨w, hw, Value.reads_denoted_iff.2 (h w hw) i hread⟩

/-- The double that is `2 ^ 63`, the first integer out of range. -/
theorem integer_read_beyond_range :
    (⟨0x43E0000000000000⟩ : Double).value? = some ((2 ^ 63 : ℤ) : ℚ) ∧
    (Value.double ⟨0x43E0000000000000⟩).toInt64? = some Int64.maxValue ∧
    ¬ (Value.double ⟨0x43E0000000000000⟩).Denotes Int64.maxValue.toInt := by
  have hvalue : (⟨0x43E0000000000000⟩ : Double).value? = some ((2 ^ 63 : ℤ) : ℚ) := by
    rw [Double.value?_eq_intCast_iff]
    decide
  refine ⟨hvalue, by decide, ?_⟩
  exact Value.Exceeds.not_denotes ⟨_, _, rfl, hvalue, .inr le_rfl⟩ _

end BoundSql
