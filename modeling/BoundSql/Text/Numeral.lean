/-!
# Decimal numerals

Reading natural numbers and integers from digits. `readInt?` takes one optional sign and then at
least one digit, and nothing else; `readInt64?` also asks that the number fits in 64 bits.
`digitsWithUnderscores?` is for numerals whose digits may be grouped.
-/

-- Powers are the core library's in every module, also where another library has its own.
attribute [instance (20000), default_instance (20000)] instPowNat

namespace BoundSql.Text

/-- The value of a decimal digit. -/
def digitValue (c : Char) : Nat :=
  c.toNat - '0'.toNat

/-- The number that a list of decimal digits writes. -/
def numeralValue (digits : List Char) : Nat :=
  digits.foldl (fun n c => 10 * n + digitValue c) 0

/-- The number that `s` writes, if `s` is one or more decimal digits. -/
def readNat? (s : List Char) : Option Nat :=
  if s.isEmpty || !s.all Char.isDigit then none else some (numeralValue s)

/-- The integer that `s` writes, if `s` is an optional sign followed by digits. -/
def readInt? : List Char → Option Int
  | '-' :: digits => (readNat? digits).map fun n => -(n : Int)
  | '+' :: digits => (readNat? digits).map Int.ofNat
  | digits => (readNat? digits).map Int.ofNat

/-- Whether an integer fits in 64 bits, two's complement. -/
def fitsInt64 (i : Int) : Bool :=
  -(2 ^ 63 : Int) ≤ i && i < (2 ^ 63 : Int)

/-- The integer that `s` writes, if it is a numeral and fits in 64 bits. -/
def readInt64? (s : List Char) : Option Int64 :=
  (readInt? s).bind fun i => if fitsInt64 i then some (Int64.ofInt i) else none

/-- The digits of a text in which single underscores may stand between two digits. -/
def digitsWithUnderscores? (isDigit : Char → Bool) : List Char → Option (List Char)
  | [] => none
  | [c] => if isDigit c then some [c] else none
  | c :: '_' :: rest =>
    if isDigit c then (digitsWithUnderscores? isDigit rest).map (c :: ·) else none
  | c :: rest =>
    if isDigit c then (digitsWithUnderscores? isDigit rest).map (c :: ·) else none

/-- The digits of a natural number. -/
def digitsOf (n : Nat) : List Char :=
  Nat.toDigits 10 n

theorem isDigit_of_mem_toString {c : Char} {n : Nat} (h : c ∈ (toString n).toList) :
    c.isDigit = true := by
  rw [Nat.toString_eq_repr, Nat.toList_repr] at h
  exact Nat.isDigit_of_mem_toDigits (by decide) (by decide) h

theorem eq_of_toString_eq {m n : Nat} (h : toString m = toString n) : m = n := by
  have digits : Nat.toDigits 10 m = Nat.toDigits 10 n := by
    rw [← Nat.toList_repr, ← Nat.toList_repr, ← Nat.toString_eq_repr, ← Nat.toString_eq_repr, h]
  have hm := @Nat.ofDigitChars_toDigits 10 m (by decide) (by decide)
  rw [digits, @Nat.ofDigitChars_toDigits 10 n (by decide) (by decide)] at hm
  exact hm.symm

end BoundSql.Text
