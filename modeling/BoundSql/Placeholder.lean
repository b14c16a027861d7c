import BoundSql.Error

/-!
# Placeholder names

A placeholder is named after the field it stands for: the stem of a field is what remains of it
when every character that a name may not hold is dropped, so `u.age` gives `uage`.

* `stem_eq_ok_iff`: a field has a stem exactly when some character remains;
* `bindingName_append`: only the start of a name says whether a colon is dropped.
-/

namespace BoundSql

/-- The characters of a field that a placeholder may hold. -/
def stemChars (field : String) : List Char :=
  field.toList.filter Text.isNameChar

/-- The stem of the placeholders for a field. -/
def stem (field : String) : Except Error String :=
  if (stemChars field).isEmpty then .error (.invalidArgument (.noStem field))
  else .ok (String.ofList (stemChars field))

/-- The name under which a value is bound: a colon before it does not count. -/
def bindingName (name : String) : String :=
  match name.toList with
  | ':' :: rest => String.ofList rest
  | _ => name

theorem stem_eq_ok_iff {field base : String} :
    stem field = .ok base ↔ stemChars field ≠ [] ∧ base = String.ofList (stemChars field) := by
  unfold stem
  cases h : stemChars field with
  | nil => simp
  | cons c rest => simp [eq_comm]

theorem bindingName_of_head {name : String} (h : name.toList.head? ≠ some ':') :
    bindingName name = name := by
  unfold bindingName
  split
  · rename_i hc
    rw [hc] at h
    exact absurd rfl h
  · rfl

theorem bindingName_append {name after : String} (h : after.toList.head? ≠ some ':') :
    bindingName (name ++ after) = bindingName name ++ after := by
  have happ : (name ++ after).toList = name.toList ++ after.toList := String.toList_append
  cases hn : name.toList with
  | nil =>
    have hname : bindingName name = name := bindingName_of_head (by rw [hn]; nofun)
    rw [hname, bindingName_of_head]
    rwa [happ, hn, List.nil_append]
  | cons c rest =>
    rw [hn] at happ
    by_cases hc : c = ':'
    · subst hc
      simp only [bindingName, happ, hn, List.cons_append, String.ofList_append,
        String.ofList_toList]
    · have hhead : name.toList.head? ≠ some ':' := by simpa [hn] using hc
      rw [bindingName_of_head hhead, bindingName_of_head]
      simpa [happ] using hc

end BoundSql
