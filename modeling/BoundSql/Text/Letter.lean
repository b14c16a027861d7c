/-!
# Letters of SQL names and keywords

Keywords, operators and engine names are compared up to the case of ASCII letters only, and the
names of placeholders are made of ASCII letters, digits and the underscore.

* `toNat_toUpper`: the number of a letter in upper case.
-/

namespace BoundSql.Text

/-- A text with its ASCII letters in upper case. -/
def upperCase (s : List Char) : List Char :=
  s.map Char.toUpper

/-- A text with its ASCII letters in lower case. -/
def lowerCase (s : List Char) : List Char :=
  s.map Char.toLower

theorem toNat_toUpper (c : Char) :
    c.toUpper.toNat = if 97 ≤ c.toNat ∧ c.toNat ≤ 122 then c.toNat - 32 else c.toNat := by
  have hlower : 'a'.val ≤ c.val ∧ c.val ≤ 'z'.val ↔ 97 ≤ c.toNat ∧ c.toNat ≤ 122 := by
    rw [UInt32.le_iff_toNat_le, UInt32.le_iff_toNat_le]
    exact Iff.rfl
  unfold Char.toUpper
  split
  · rename_i h
    have hrange : 97 ≤ c.val.toNat ∧ c.val.toNat ≤ 122 := hlower.1 h
    have hshift : ('A'.val - 'a'.val).toNat = 2 ^ 32 - 32 := rfl
    rw [if_pos (hlower.1 h)]
    show (c.val + ('A'.val - 'a'.val)).toNat = c.val.toNat - 32
    rw [UInt32.toNat_add, hshift]
    omega
  · rename_i h
    rw [if_neg (mt hlower.2 h)]

theorem upperCase_append (s t : List Char) : upperCase (s ++ t) = upperCase s ++ upperCase t :=
  List.map_append

/-- The characters that a name may hold: ASCII letters, ASCII digits and `_`. -/
def isNameChar (c : Char) : Bool :=
  c.isAlphanum || c == '_'

/-- The characters that a name may begin with: ASCII letters and `_`. -/
def isNameStart (c : Char) : Bool :=
  c.isAlpha || c == '_'

theorem isNameChar_of_isNameStart {c : Char} (h : isNameStart c = true) : isNameChar c = true := by
  simp only [isNameStart, isNameChar, Char.isAlphanum, Bool.or_eq_true] at h ⊢
  rcases h with h | h
  · exact .inl (.inl h)
  · exact .inr h

/-- Whether `s` begins with `start`. -/
def startsWith (start s : List Char) : Bool :=
  start.isPrefixOf s

/-- Whether `part` occurs in `s`. -/
def contains (part : List Char) : List Char → Bool
  | [] => part.isEmpty
  | c :: rest => startsWith part (c :: rest) || contains part rest

end BoundSql.Text
