import BoundSql.Config.Entry

/-!
# Components of a URL, read back

A component is written with unreserved characters, percent signs and hexadecimal digits, so no
separator of a URL stands in it. Each byte that is written is read back by itself, whatever stands
behind it, and the text is then read from its bytes as UTF-8.

* `not_mem_percentEncode`: no separator stands in a component;
* `percentDecode_percentEncode`: the bytes of a component, decoded;
* `percentDecode_eq_self_iff`: the bytes that decoding leaves as they are;
* `readComponent?_percentEncode`: a component, read back as a text.
-/

namespace BoundSql.Text

/-! ## Texts and their bytes -/

theorem utf8_append (s t : List Char) : utf8 (s ++ t) = utf8 s ++ utf8 t :=
  List.flatMap_append

/-- The bytes of a text are UTF-8, and write that text. -/
theorem fromUTF8?_utf8 (s : List Char) :
    String.fromUTF8? (utf8 s).toByteArray = some (String.ofList s) :=
  dif_pos (.intro s rfl)

theorem utf8EncodeChar_of_lt {c : Char} (h : c.toNat < 0x80) :
    String.utf8EncodeChar c = [UInt8.ofNat c.toNat] := by
  have hsize : c.utf8Size = 1 := by
    have hval : c.val ≤ 0x7F := UInt32.le_iff_toNat_le.2 (Nat.le_of_lt_succ h)
    exact if_pos hval
  rw [String.utf8EncodeChar_eq_singleton hsize]
  rfl

/-! ## The characters of a component -/

theorem lt_of_isAlphanum {c : Char} (h : c.isAlphanum) : c.toNat < 0x80 := by
  have hranges : decide (c.val ≥ 'A'.val ∧ c.val ≤ 'Z'.val) ||
      (decide (c.val ≥ 'a'.val) && decide (c.val ≤ 'z'.val)) ||
      (decide (c.val ≥ '0'.val) && decide (c.val ≤ '9'.val)) := h
  simp only [Bool.or_eq_true, Bool.and_eq_true, decide_eq_true_eq] at hranges
  obtain (hrange | hrange) | hrange := hranges
  · exact Nat.lt_of_le_of_lt (UInt32.le_iff_toNat_le.1 hrange.2) (by decide)
  · exact Nat.lt_of_le_of_lt (UInt32.le_iff_toNat_le.1 hrange.2) (by decide)
  · exact Nat.lt_of_le_of_lt (UInt32.le_iff_toNat_le.1 hrange.2) (by decide)

theorem lt_of_isUnreserved {c : Char} (h : isUnreserved c) : c.toNat < 0x80 := by
  simp only [isUnreserved, Bool.or_eq_true, beq_iff_eq] at h
  obtain (((h | rfl) | rfl) | rfl) | rfl := h
  · exact lt_of_isAlphanum h
  all_goals decide

theorem isUnreserved_hexDigit : ∀ n < 16, isUnreserved (hexDigit .upper n) = true := by
  decide

theorem isUnreserved_of_mem_hexByte {c : Char} {b : UInt8} (h : c ∈ hexByte .upper b) :
    isUnreserved c = true := by
  have hb := b.toNat_lt
  simp only [hexByte, List.mem_cons, List.not_mem_nil, or_false] at h
  obtain rfl | rfl := h
  · exact isUnreserved_hexDigit _ (by omega)
  · exact isUnreserved_hexDigit _ (by omega)

theorem mem_percentEncode {c : Char} {s : List Char} (h : c ∈ percentEncode s) :
    isUnreserved c = true ∨ c = '%' := by
  obtain ⟨d, -, hd⟩ := List.mem_flatMap.1 h
  rw [percentChar] at hd
  split at hd
  · rename_i hu
    cases List.mem_singleton.1 hd
    exact .inl hu
  · obtain ⟨b, -, hb⟩ := List.mem_flatMap.1 hd
    obtain rfl | hb := List.mem_cons.1 hb
    · exact .inr rfl
    · exact .inl (isUnreserved_of_mem_hexByte hb)

/-- A mark that is reserved and no percent sign does not stand in a component. -/
theorem not_mem_percentEncode {mark : Char} (h : isUnreserved mark = false) (hp : mark ≠ '%')
    (s : List Char) : mark ∉ percentEncode s := by
  intro hm
  obtain hu | hmark := mem_percentEncode hm
  · rw [h] at hu
    cases hu
  · exact hp hmark

/-! ## Decoding -/

theorem percentDecode_cons_of_ne {a : UInt8} (h : a ≠ 0x25) (rest : List UInt8) :
    percentDecode (a :: rest) = a :: percentDecode rest := by
  match rest with
  | [] => rfl
  | [_] => rfl
  | _ :: _ :: _ =>
    rw [percentDecode, if_neg]
    rwa [beq_iff_eq]

theorem percentDecode_escape {high low byte : UInt8} (h : hexPair? high low = some byte)
    (rest : List UInt8) :
    percentDecode (0x25 :: high :: low :: rest) = byte :: percentDecode rest := by
  rw [percentDecode, if_pos (beq_self_eq_true _), h]

theorem hexValue?_hexDigit :
    ∀ n < 16, hexValue? (Char.ofNat (UInt8.ofNat (hexDigit .upper n).toNat).toNat) = some n := by
  decide

theorem percentDecode_hexByte (b : UInt8) (rest : List UInt8) :
    percentDecode (utf8 ('%' :: hexByte .upper b) ++ rest) = b :: percentDecode rest := by
  have hb := b.toNat_lt
  have hdigit (n : Nat) (hn : n < 16) :=
    utf8EncodeChar_of_lt (lt_of_isUnreserved (isUnreserved_hexDigit n hn))
  have hhigh := hdigit (b.toNat / 16) (by omega)
  have hlow := hdigit (b.toNat % 16) (by omega)
  have hbytes : utf8 ('%' :: hexByte .upper b) ++ rest =
      0x25 :: UInt8.ofNat (hexDigit .upper (b.toNat / 16)).toNat ::
        UInt8.ofNat (hexDigit .upper (b.toNat % 16)).toNat :: rest := by
    rw [hexByte, utf8, List.flatMap_cons, List.flatMap_cons, List.flatMap_cons, hhigh, hlow]
    rfl
  rw [hbytes]
  refine percentDecode_escape ?_ rest
  rw [hexPair?, hexValue?_hexDigit _ (by omega), hexValue?_hexDigit _ (by omega)]
  exact congrArg some ((congrArg UInt8.ofNat (Nat.div_add_mod ..)).trans (UInt8.ofNat_toNat ..))

theorem percentDecode_hexBytes (bytes rest : List UInt8) :
    percentDecode (utf8 (bytes.flatMap fun b => '%' :: hexByte .upper b) ++ rest) =
      bytes ++ percentDecode rest := by
  induction bytes with
  | nil => rfl
  | cons b bytes ih =>
    rw [List.flatMap_cons, utf8_append, List.append_assoc, percentDecode_hexByte, ih,
      List.cons_append]

theorem percentDecode_percentChar (c : Char) (rest : List UInt8) :
    percentDecode (utf8 (percentChar c) ++ rest) =
      String.utf8EncodeChar c ++ percentDecode rest := by
  rw [percentChar]
  split
  · rename_i hu
    have hlt := lt_of_isUnreserved hu
    have hne : UInt8.ofNat c.toNat ≠ 0x25 := by
      intro h
      have hval : c.toNat = 0x25 := by
        rw [← UInt8.toNat_ofNat_of_lt' (Nat.lt_trans hlt (by decide)), h]
        rfl
      rw [← Char.ofNat_toNat c, hval] at hu
      revert hu
      decide
    have hbytes := utf8EncodeChar_of_lt hlt
    rw [utf8, List.flatMap_singleton, hbytes]
    exact percentDecode_cons_of_ne hne rest
  · exact percentDecode_hexBytes _ rest

/-- A component, decoded, is the bytes of the text. -/
theorem percentDecode_percentEncode (s : List Char) :
    percentDecode (utf8 (percentEncode s)) = utf8 s := by
  induction s with
  | nil => rfl
  | cons c s ih =>
    rw [percentEncode, List.flatMap_cons, utf8_append, percentDecode_percentChar]
    exact congrArg _ ih

/-- The text that a component writes, if its bytes are UTF-8 once they are decoded. -/
def readComponent? (s : List Char) : Option String :=
  String.fromUTF8? (percentDecode (utf8 s)).toByteArray

theorem readComponent?_percentEncode (s : List Char) :
    readComponent? (percentEncode s) = some (String.ofList s) := by
  rw [readComponent?, percentDecode_percentEncode, fromUTF8?_utf8]

/-! ## Bytes without an escape -/

/-- Some `%` among bytes has two hexadecimal digits behind it. -/
def Escapes (bytes : List UInt8) : Prop :=
  ∃ high low, hexPair? high low ≠ none ∧ [0x25, high, low] <:+: bytes

theorem escapes_cons_iff {a b c : UInt8} {rest : List UInt8} :
    Escapes (a :: b :: c :: rest) ↔
      a = 0x25 ∧ hexPair? b c ≠ none ∨ Escapes (b :: c :: rest) := by
  constructor
  · rintro ⟨high, low, hp, hi⟩
    obtain hfirst | hlater := List.infix_cons_iff.1 hi
    · simp only [List.cons_prefix_cons, List.nil_prefix, and_true] at hfirst
      obtain ⟨rfl, rfl, rfl⟩ := hfirst
      exact .inl ⟨rfl, hp⟩
    · exact .inr ⟨high, low, hp, hlater⟩
  · rintro (⟨rfl, hp⟩ | ⟨high, low, hp, hi⟩)
    · exact ⟨b, c, hp, [], rest, rfl⟩
    · exact ⟨high, low, hp, List.infix_cons_iff.2 (.inr hi)⟩

theorem not_escapes_of_length_lt {bytes : List UInt8} (h : bytes.length < 3) : ¬ Escapes bytes := by
  rintro ⟨high, low, -, hi⟩
  exact absurd hi.length_le (Nat.not_le.2 h)

theorem length_percentDecode_le (bytes : List UInt8) :
    (percentDecode bytes).length ≤ bytes.length := by
  fun_induction percentDecode bytes with
  | case1 | case2 | case3 => exact Nat.le_refl _
  | case4 a b c rest ha byte hp ih =>
    simp only [List.length_cons]
    omega
  | case5 a b c rest ha hp ih => exact Nat.succ_le_succ ih
  | case6 a b c rest ha ih => exact Nat.succ_le_succ ih

/-- Decoding leaves bytes as they are exactly when they hold no escape: an escape is longer than the
byte that it writes. -/
theorem percentDecode_eq_self_iff (bytes : List UInt8) :
    percentDecode bytes = bytes ↔ ¬ Escapes bytes := by
  fun_induction percentDecode bytes with
  | case1 | case2 | case3 => exact iff_of_true rfl (not_escapes_of_length_lt (by simp))
  | case4 a b c rest ha byte hp ih =>
    refine iff_of_false (fun h => ?_) (not_not_intro ?_)
    · have hlength := congrArg List.length h
      have hle := length_percentDecode_le rest
      simp only [List.length_cons] at hlength
      omega
    · exact escapes_cons_iff.2 (.inl ⟨eq_of_beq ha, by simp [hp]⟩)
  | case5 a b c rest ha hp ih => simp [escapes_cons_iff, hp, ih]
  | case6 a b c rest ha ih =>
    have hne : a ≠ 0x25 := fun h => ha (beq_iff_eq.2 h)
    simp [escapes_cons_iff, hne, ih]

theorem eq_utf8_of_fromUTF8? {bytes : List UInt8} {s : List Char}
    (h : String.fromUTF8? bytes.toByteArray = some (String.ofList s)) : bytes = utf8 s := by
  rw [String.fromUTF8?] at h
  split at h
  · have hbytes : bytes.toByteArray = (utf8 s).toByteArray :=
      congrArg String.toByteArray (Option.some.inj h)
    simpa using congrArg ByteArray.data hbytes
  · cases h

/-- A text, read as a component, is itself exactly when it holds no escape. -/
theorem readComponent?_eq_self_iff (s : List Char) :
    readComponent? s = some (String.ofList s) ↔ ¬ Escapes (utf8 s) := by
  rw [← percentDecode_eq_self_iff]
  constructor
  · exact eq_utf8_of_fromUTF8?
  · intro h
    rw [readComponent?, h, fromUTF8?_utf8]

end BoundSql.Text
