import BoundSql.Proofs.Statement.Binding
import BoundSql.Text.Run

/-!
# Comparisons never share a name

The name of a comparison is put together without separators: the stem of its field, its position in
the clause, and for the elements of a list and for bounds a tail that begins with a letter. Read
from the left, the digits of the position end where the tail begins, so two names agree only when
their stems do, unless one stem is the other one with a digit behind it (`DigitExtends`).

* `eq_of_numbered_eq`: a numbered name is put together in one way only;
* `nodup_introduced`: comparisons introduce distinct names when no stem extends another one;
* `compile_never_clashes`: a selection or a deletion over such comparisons always compiles.
-/

namespace BoundSql

/-! ## Numbered names -/

/-- A text is another one with a digit behind it, and perhaps more. -/
def DigitExtends (long short : List Char) : Prop :=
  ∃ digit rest, digit.isDigit = true ∧ long = short ++ digit :: rest

/-- Digits end where a text begins that does not begin with one. -/
theorem digits_append_inj {p q s t : List Char} (hp : ∀ c ∈ p, c.isDigit = true)
    (hq : ∀ c ∈ q, c.isDigit = true) (hs : Text.EndsRun Char.isDigit s)
    (ht : Text.EndsRun Char.isDigit t) (h : p ++ s = q ++ t) : p = q ∧ s = t := by
  have hpq : p = q := by
    rw [← Text.takeWhile_run hp hs, h, Text.takeWhile_run hq ht]
  subst hpq
  exact ⟨rfl, List.append_cancel_left h⟩

theorem exists_digit_toString (n : Nat) :
    ∃ digit rest, digit.isDigit = true ∧ (toString n).toList = digit :: rest := by
  have hne : (toString n).toList ≠ [] := by
    rw [Nat.toString_eq_repr, Nat.toList_repr]
    exact Nat.toDigits_ne_nil
  obtain ⟨digit, rest, hd⟩ := List.exists_cons_of_ne_nil hne
  refine ⟨digit, rest, Text.isDigit_of_mem_toString (n := n) ?_, hd⟩
  rw [hd]
  exact List.mem_cons_self

/-- Behind a stem that no digit extends to the other one, a number begins where the other one's
begins. -/
theorem eq_of_append_number {stem other s t : List Char} {n : Nat}
    (hext : ¬ DigitExtends other stem) (h : stem ++ ((toString n).toList ++ s) = other ++ t)
    (hle : stem.length ≤ other.length) : stem = other := by
  obtain ⟨between, hother, hbetween⟩ | ⟨between, hstem, -⟩ := List.append_eq_append_iff.1 h
  · cases between with
    | nil => rw [hother, List.append_nil]
    | cons c rest =>
      -- The number would begin with the first character that the longer stem has more.
      obtain ⟨digit, others, hdigit, hn⟩ := exists_digit_toString n
      rw [hn, List.cons_append, List.cons_append] at hbetween
      have hc : digit = c := (List.cons.inj hbetween).1
      exact absurd ⟨digit, rest, hdigit, hc ▸ hother⟩ hext
  · have hnil : between = [] := by
      have hlength := congrArg List.length hstem
      rw [List.length_append] at hlength
      exact List.length_eq_zero_iff.1 (by omega)
    rw [hstem, hnil, List.append_nil]

/-- A stem, a number and a tail can be told apart in a name. -/
theorem eq_of_numbered_eq {stem other s t : List Char} {i j : Nat}
    (hext : ¬ DigitExtends other stem) (hext' : ¬ DigitExtends stem other)
    (hs : Text.EndsRun Char.isDigit s) (ht : Text.EndsRun Char.isDigit t)
    (h : stem ++ ((toString i).toList ++ s) = other ++ ((toString j).toList ++ t)) :
    stem = other ∧ i = j ∧ s = t := by
  have hstem : stem = other := by
    rcases Nat.le_total stem.length other.length with hle | hle
    · exact eq_of_append_number hext h hle
    · exact (eq_of_append_number hext' h.symm hle).symm
  subst hstem
  obtain ⟨hnumber, htail⟩ := digits_append_inj (fun c hc => Text.isDigit_of_mem_toString hc)
    (fun c hc => Text.isDigit_of_mem_toString hc) hs ht (List.append_cancel_left h)
  exact ⟨rfl, Text.eq_of_toString_eq (String.toList_inj.1 hnumber), htail⟩

/-! ## The names of a test -/

theorem elementName_inj {base : String} {j k : Nat} (h : elementName base j = elementName base k) :
    j = k :=
  Text.eq_of_toString_eq ((String.append_right_inj _).1 h)

theorem map_fst_listPairs (base : String) (items : List Value) :
    (listPairs base (some (.list items))).map Prod.fst =
      (List.range items.length).map (elementName base) := by
  rw [listPairs, List.map_map, List.range_eq_range', ← List.zipIdx_map_snd 0 items, List.map_map]
  rfl

/-- An operand introduces names that begin with its base and go on with no digit. -/
theorem exists_tail_of_operandPairs {base : String} {op : Operator} {operand : Option Value} :
    ∀ name ∈ (operandPairs base op operand).map Prod.fst,
      ∃ tail : String, Text.EndsRun Char.isDigit tail.toList ∧ name = base ++ tail := by
  have letter {tail : String} {c : Char} {rest : List Char} (ht : tail.toList = c :: rest)
      (hc : c.isDigit = false) : Text.EndsRun Char.isDigit tail.toList := by
    rw [ht]
    exact Text.endsRun_cons.2 hc
  intro name hname
  unfold operandPairs at hname
  by_cases hu : op.isUnary
  · rw [if_pos hu] at hname
    cases hname
  rw [if_neg hu] at hname
  by_cases hl : op.isList
  · rw [if_pos hl] at hname
    fun_cases listPairs base operand with
    | case1 items =>
      rw [map_fst_listPairs] at hname
      obtain ⟨k, -, rfl⟩ := List.mem_map.1 hname
      refine ⟨"in" ++ toString k, letter (c := 'i') (by rw [String.toList_append]; rfl) rfl, ?_⟩
      rw [elementName, String.append_assoc]
    | case2 operand hne =>
      rw [listPairs.eq_2 _ _ hne] at hname
      cases hname
  rw [if_neg hl] at hname
  by_cases hr : op.isRange
  · rw [if_pos hr] at hname
    fun_cases rangePairs base operand with
    | case1 low high =>
      rcases List.mem_cons.1 hname with rfl | hname
      · exact ⟨"btw0", letter rfl rfl, rfl⟩
      · rw [List.mem_singleton.1 hname]
        exact ⟨"btw1", letter rfl rfl, rfl⟩
    | case2 operand hne =>
      rw [rangePairs.eq_2 _ _ hne] at hname
      cases hname
  · rw [if_neg hr] at hname
    refine ⟨"", Text.endsRun_nil _, ?_⟩
    rw [List.mem_singleton.1 hname, String.append_empty]

/-- An operand introduces no name twice. -/
theorem nodup_operandPairs (base : String) (op : Operator) (operand : Option Value) :
    ((operandPairs base op operand).map Prod.fst).Nodup := by
  have list : ((listPairs base operand).map Prod.fst).Nodup := by
    fun_cases listPairs base operand with
    | case1 items =>
      have h : ((List.range items.length).map (elementName base)).Nodup :=
        List.Pairwise.map _ (fun j k hjk he => hjk (elementName_inj he)) List.nodup_range
      rwa [← map_fst_listPairs] at h
    | case2 operand hne => exact List.nodup_nil
  have range : ((rangePairs base operand).map Prod.fst).Nodup := by
    fun_cases rangePairs base operand with
    | case1 low high =>
      have hne : base ++ "btw0" ≠ base ++ "btw1" := fun he =>
        absurd ((String.append_right_inj base).1 he) (by decide)
      simp [hne]
    | case2 operand hne => exact List.nodup_nil
  unfold operandPairs
  split
  · exact List.nodup_nil
  split
  · exact list
  split
  · exact range
  · simp

/-! ## The names of a clause -/

/-- The field that a test compares with an operand. -/
def Condition.comparedField? : Condition → Option String
  | .raw _ _ => none
  | .compare field op _ => if op.isUnary then none else some field

/-- The fields that a clause compares with operands. -/
def Clause.comparedFields (clause : Clause) : List String :=
  clause.conditions.filterMap Condition.comparedField?

/-- No compared field has the stem of another one with a digit behind it. -/
def Clause.StemsApart (clause : Clause) : Prop :=
  ∀ field ∈ clause.comparedFields, ∀ other ∈ clause.comparedFields,
    ¬ DigitExtends (stemChars field) (stemChars other)

/-- A comparison introduces names that say which one it is. -/
theorem exists_stem_of_pairs {test : Condition} {index : Nat} (hc : test.IsComparison) :
    ∀ name ∈ (test.pairs index).map Prod.fst,
      ∃ field tail, test.comparedField? = some field ∧ Text.EndsRun Char.isDigit tail ∧
        name.toList = stemChars field ++ ((toString index).toList ++ tail) := by
  intro name hname
  cases test with
  | raw sql values => exact hc.elim
  | compare field op operand =>
    obtain ⟨tail, ht, rfl⟩ := exists_tail_of_operandPairs name hname
    refine ⟨field, tail.toList, ?_, ht, ?_⟩
    · rw [Condition.comparedField?, if_neg]
      intro hu
      rw [Condition.pairs, operandPairs, if_pos hu] at hname
      cases hname
    · rw [String.toList_append, String.toList_append, stemText, String.toList_ofList,
        List.append_assoc]

/-- Comparisons introduce distinct names when no stem is another one with a digit behind it. -/
theorem nodup_introduced {intent : Intent} {clause : Clause} (hd : intent.data = [])
    (hc : ∀ test ∈ clause.conditions, test.IsComparison) (hs : clause.StemsApart) :
    ((introduced intent clause).map Prod.fst).Nodup := by
  rw [introduced, hd, List.map_nil, List.nil_append, List.map_flatMap, List.Nodup,
    List.pairwise_flatMap]
  constructor
  · rintro ⟨test, index⟩ -
    cases test with
    | raw sql values => exact values.nodup
    | compare field op operand => exact nodup_operandPairs _ _ _
  · -- Two tests differ in their positions, and a shared name would give both the same one.
    have positions : clause.conditions.zipIdx.Pairwise fun p q => p.2 ≠ q.2 := by
      have hn : (clause.conditions.zipIdx.map Prod.snd).Nodup := by
        rw [List.zipIdx_map_snd]
        exact List.nodup_range'
      exact List.pairwise_map.1 hn
    refine positions.imp_of_mem ?_
    rintro ⟨test, i⟩ ⟨test', j⟩ hp hq hij name hname other hname' rfl
    have ht := List.fst_mem_of_mem_zipIdx hp
    have ht' := List.fst_mem_of_mem_zipIdx hq
    obtain ⟨field, tail, hf, htail, hname⟩ := exists_stem_of_pairs (hc test ht) name hname
    obtain ⟨field', tail', hf', htail', hname'⟩ := exists_stem_of_pairs (hc test' ht') name hname'
    have hmem : field ∈ clause.comparedFields := List.mem_filterMap.2 ⟨test, ht, hf⟩
    have hmem' : field' ∈ clause.comparedFields := List.mem_filterMap.2 ⟨test', ht', hf'⟩
    obtain ⟨-, hindex, -⟩ := eq_of_numbered_eq (hs field' hmem' field hmem)
      (hs field hmem field' hmem') htail htail' (hname.symm.trans hname')
    exact hij hindex

/-- One field extends no other one. -/
theorem stemsApart_of_one {clause : Clause} {field : String}
    (h : ∀ other ∈ clause.comparedFields, other = field) : clause.StemsApart := by
  rintro a ha b hb ⟨digit, rest, -, he⟩
  rw [h a ha, h b hb] at he
  have hlength := congrArg List.length he
  rw [List.length_append, List.length_cons] at hlength
  omega

/-- Neither do fields whose stems hold no digit. -/
theorem stemsApart_of_no_digit {clause : Clause}
    (h : ∀ field ∈ clause.comparedFields, ∀ c ∈ stemChars field, c.isDigit = false) :
    clause.StemsApart := by
  rintro a ha b - ⟨digit, rest, hdigit, he⟩
  have hmem : digit ∈ stemChars a := by
    rw [he]
    simp
  rw [h a ha digit hmem] at hdigit
  cases hdigit

/-! ## Selections and deletions -/

/-- The statement compiles, with every value that it introduces under a name of its own. -/
def CompilesDistinct (table : String) (intent : Intent) (clauses : Clauses) : Prop :=
  ∃ compiled, compile table intent clauses = .ok compiled ∧
    compiled.values.entries = introduced intent clauses.conditions ∧
    ((introduced intent clauses.conditions).map Prod.fst).Nodup

theorem compilesDistinct_of_stemsApart {table : String} {intent : Intent} {clauses : Clauses}
    {steps : List Step} (h : Clause.empty.applyAll steps = .ok clauses.conditions)
    (hsteps : Step.areStructured steps = true)
    (hi : intent = .delete ∨ ∃ columns, intent = .select columns)
    (hn : ∀ field ∈ clauses.conditions.comparedFields, Nameable field)
    (hs : clauses.conditions.StemsApart) : CompilesDistinct table intent clauses := by
  have hd := Intent.data_eq_nil hi
  have hdata : intent.HasData := by
    rcases hi with rfl | ⟨columns, rfl⟩ <;> exact trivial
  have hcomparisons := isComparison_of_applyAll h hsteps
  have hdistinct := nodup_introduced hd hcomparisons hs
  have hnamed : ∀ test ∈ clauses.conditions.conditions, test.Named := by
    intro test ht
    cases test with
    | raw sql values => trivial
    | compare field op operand =>
      intro hu
      refine hn field (List.mem_filterMap.2 ⟨_, ht, ?_⟩)
      rw [Condition.comparedField?, hu, if_neg Bool.false_ne_true]
  have hcolumns : ∀ entry ∈ intent.data, Nameable entry.1 := by
    rw [hd]
    exact List.forall_mem_nil _
  have hready : Ready ∅ (layout table intent clauses) :=
    (ready_layout_iff (fits_of_applyAll h)).2 ⟨hdata, hcolumns, hnamed, hdistinct⟩
  have hcompile := compile_of_ready hready
  exact ⟨_, hcompile, entries_of_compile hcompile, hdistinct⟩

/-- A selection or a deletion over comparisons whose fields can be named always compiles, with
distinct names, as long as no stem is another one with a digit behind it. That is so for any
comparisons on one field, and for any comparisons on fields whose stems hold no digit. -/
theorem compile_never_clashes {table : String} {intent : Intent} {clauses : Clauses}
    {steps : List Step} (h : Clause.empty.applyAll steps = .ok clauses.conditions)
    (hsteps : Step.areStructured steps = true)
    (hi : intent = .delete ∨ ∃ columns, intent = .select columns)
    (hn : ∀ field ∈ clauses.conditions.comparedFields, Nameable field) :
    (clauses.conditions.StemsApart → CompilesDistinct table intent clauses) ∧
    ((∃ field, ∀ other ∈ clauses.conditions.comparedFields, other = field) →
      CompilesDistinct table intent clauses) ∧
    ((∀ field ∈ clauses.conditions.comparedFields, ∀ c ∈ stemChars field, c.isDigit = false) →
      CompilesDistinct table intent clauses) := by
  have apart : clauses.conditions.StemsApart → CompilesDistinct table intent clauses :=
    compilesDistinct_of_stemsApart h hsteps hi hn
  refine ⟨apart, ?_, fun hdigits => apart (stemsApart_of_no_digit hdigits)⟩
  rintro ⟨field, hone⟩
  exact apart (stemsApart_of_one hone)

/-- A list and a range on one column, the second inside a group. -/
theorem compile_never_clashes_range :
    ∃ steps conditions, steps = [.compare .and "u.age" .isIn (.list [.int 1, .int 2]),
        .group .or [.compare .and "u.age" .between (.list [.int 3, .int 4]),
          .equal .or "u.age" (.int 5)]] ∧
      Clause.empty.applyAll steps = .ok conditions ∧
      CompilesDistinct "t" (.select []) { conditions } ∧
      (introduced (.select []) conditions).map Prod.fst =
        ["uage0in0", "uage0in1", "uage1btw0", "uage1btw1", "uage2"] := by
  have h : Clause.empty.applyAll [.compare .and "u.age" .isIn (.list [.int 1, .int 2]),
      .group .or [.compare .and "u.age" .between (.list [.int 3, .int 4]),
        .equal .or "u.age" (.int 5)]] = .ok _ := rfl
  obtain ⟨-, one, -⟩ := @compile_never_clashes "t" (.select []) { conditions := _ } _ h rfl
    (.inr ⟨[], rfl⟩) (by decide)
  exact ⟨_, _, rfl, h, one ⟨"u.age", by decide⟩, rfl⟩

end BoundSql
