import BoundSql.Proofs.Statement.Binding
import BoundSql.Proofs.Statement.Legible

/-!
# Statements of plain texts

A statement whose texts are plain and whose stems begin like names has a legible layout
(`legible_layout`): between the texts that are given stand separators that neither begin nor end in
a dash, and every placeholder is followed by the end, a blank, a comma or a closing parenthesis.
-/

namespace BoundSql

/-! ## Separators -/

/-- A text that plain texts may stand before and after. -/
def Separator (s : List Char) : Prop :=
  (s.all isHarmless && !s.isEmpty) = true

instance (s : List Char) : Decidable (Separator s) :=
  inferInstanceAs (Decidable (_ = true))

theorem Separator.plain {s : List Char} (hs : Separator s) : Plain s :=
  plain_of_all (Bool.and_eq_true_iff.1 hs).1

theorem Separator.ne_nil {s : List Char} (hs : Separator s) : s ≠ [] := by
  rintro rfl
  cases hs

theorem Separator.not_mem_dash {s : List Char} (hs : Separator s) : '-' ∉ s :=
  not_mem_dash_of_all (Bool.and_eq_true_iff.1 hs).1

theorem Plain.behind {s t : List Char} (hs : Separator s) (ht : Plain t) : Plain (s ++ t) :=
  hs.plain.append ht (.inl fun hl => hs.not_mem_dash (List.mem_of_getLast? hl))

theorem Plain.before {s t : List Char} (hs : Plain s) (ht : Separator t) : Plain (s ++ t) :=
  hs.append ht.plain (.inr fun hd => ht.not_mem_dash (List.mem_of_head? hd))

theorem Plain.around {s t u : List Char} (hs : Plain s) (ht : Separator t) (hu : Plain u) :
    Plain (s ++ t ++ u) := by
  rw [List.append_assoc]
  refine hs.append (.behind ht hu) (.inr ?_)
  cases t with
  | nil => exact absurd rfl ht.ne_nil
  | cons c rest => exact fun hd => ht.not_mem_dash (List.mem_of_head? hd)

theorem Separator.apart {s t : List Char} (ht : Separator t) (after : List Char) :
    Apart (s ++ t) after := by
  refine .inl fun hl => ?_
  rw [List.getLast?_append] at hl
  cases hg : t.getLast? with
  | none => exact ht.ne_nil (List.getLast?_eq_none_iff.1 hg)
  | some c =>
    rw [hg] at hl
    exact ht.not_mem_dash (List.mem_of_getLast? (hg.trans hl))

/-- A plain text that may stand after anything. -/
structure Follows (s : List Char) : Prop where
  plain : Plain s
  calm : Calm s

theorem follows_nil : Follows [] :=
  ⟨plain_of_all rfl, calm_nil⟩

theorem Follows.append {s t : List Char} (hs : Follows s) (ht : Follows t) : Follows (s ++ t) :=
  ⟨hs.plain.append ht.plain (apart_of_calm ht.calm), hs.calm.append ht.calm⟩

theorem Separator.follows {s t : List Char} (hs : Separator s) (hc : Calm s) (ht : Plain t) :
    Follows (s ++ t) :=
  ⟨.behind hs ht, hc.of_ne_nil hs.ne_nil⟩

theorem plain_intercalate {items : List String} (h : ∀ item ∈ items, Plain item.toList) :
    Plain (", ".intercalate items).toList := by
  induction items with
  | nil => exact plain_of_all (by decide)
  | cons first rest ih =>
    rw [List.forall_mem_cons] at h
    cases rest with
    | nil => simpa using h.1
    | cons second rest =>
      rw [String.intercalate_cons_cons, String.toList_append, String.toList_append]
      exact Plain.around h.1 (by decide) (ih h.2)

theorem plain_operator (op : Operator) : Plain op.sql.toList :=
  plain_of_all (by cases op <;> decide)

/-! ## Names -/

/-- The placeholders of a field begin like names. -/
def StemStarts (field : String) : Prop :=
  (stemChars field).head?.any Text.isNameStart = true

instance (field : String) : Decidable (StemStarts field) :=
  inferInstanceAs (Decidable (_ = true))

theorem isName_stem {field : String} (h : StemStarts field) : IsName (stemText field).toList := by
  rw [stemText, String.toList_ofList]
  exact ⟨h, List.all_eq_true.2 fun c hc => (List.mem_filter.1 hc).2⟩

theorem IsName.append {s t : List Char} (hs : IsName s) (ht : t.all Text.isNameChar = true) :
    IsName (s ++ t) := by
  obtain ⟨hstart, hchars⟩ := hs
  refine ⟨?_, by rw [List.all_append, hchars, ht]; rfl⟩
  cases s with
  | nil => simp at hstart
  | cons c rest => simpa using hstart

theorem all_isNameChar_digits (n : Nat) : (toString n).toList.all Text.isNameChar = true := by
  refine List.all_eq_true.2 fun c hc => ?_
  simp [Text.isNameChar, Char.isAlphanum, Text.isDigit_of_mem_toString hc]

theorem isName_indexed {field : String} (h : StemStarts field) (index : Nat) :
    IsName (stemText field ++ toString index).toList := by
  rw [String.toList_append]
  exact (isName_stem h).append (all_isNameChar_digits index)

theorem isName_element {base : String} (h : IsName base.toList) (k : Nat) :
    IsName (elementName base k).toList := by
  rw [elementName, String.toList_append, String.toList_append]
  exact (h.append (by decide)).append (all_isNameChar_digits k)

/-! ## The layout -/

/-- The columns that a statement names. -/
def Intent.columns : Intent → List String
  | .select columns => columns
  | .insert data | .update data => data.keys
  | .delete => []

/-- A comparison of a plain field; its placeholders, if it has any, begin like names. -/
def Condition.IsPlain : Condition → Prop
  | .raw _ _ => False
  | .compare field op _ => Plain field.toList ∧ (op.isUnary = false → StemStarts field)

/-- The texts of a statement are plain, its stems begin like names, and no test is written as
given. -/
structure PlainStatement (table : String) (intent : Intent) (clauses : Clauses) : Prop where
  table : Plain table.toList
  columns : ∀ column ∈ intent.columns, Plain column.toList
  stems : ∀ entry ∈ intent.data, StemStarts entry.1
  joins : ∀ join ∈ clauses.joins, Plain join.fragment.toList
  tests : ∀ test ∈ clauses.conditions.conditions, test.IsPlain
  groupBy : ∀ expression ∈ clauses.groupBy, Plain expression.toList
  orderBy : ∀ expression ∈ clauses.orderBy, Plain expression.toList
  limit : ∀ text ∈ clauses.limit, Plain text.toList

theorem follows_join {join : Join} (h : Plain join.fragment.toList) : Follows join.sql.toList := by
  unfold Join.sql
  cases join.kind <;>
  · rw [String.toList_append]
    exact Separator.follows (by decide) (by decide) h

theorem follows_joins {joins : List Join} (h : ∀ join ∈ joins, Plain join.fragment.toList) :
    Follows (writeJoins joins).toList := by
  unfold writeJoins
  induction joins with
  | nil => exact follows_nil
  | cons join rest ih =>
    rw [List.forall_mem_cons] at h
    rw [List.map_cons, String.join_cons, String.toList_append]
    exact (follows_join h.1).append (ih h.2)

theorem follows_list {keyword : String} {items : List String} (hk : Separator keyword.toList)
    (hc : Calm keyword.toList) (h : ∀ item ∈ items, Plain item.toList) :
    Follows (writeList keyword items).toList := by
  unfold writeList
  split
  · exact follows_nil
  · rw [String.toList_append]
    exact hk.follows hc (plain_intercalate h)

theorem follows_limit {limit : Option String} (h : ∀ text ∈ limit, Plain text.toList) :
    Follows (writeLimit limit).toList := by
  fun_cases writeLimit limit with
  | case1 => exact follows_nil
  | case2 text ht => exact follows_nil
  | case3 text ht =>
    rw [String.toList_append]
    exact Separator.follows (by decide) (by decide) (h text rfl)

theorem plain_digits (n : Nat) : Plain (toString n).toList :=
  plain_of_all (List.all_eq_true.2 fun _ hc =>
    isHarmless_of_isDigit (Text.isDigit_of_mem_toString hc))

theorem follows_offset (offset : Option UInt64) : Follows (writeOffset offset).toList := by
  cases offset with
  | none => exact follows_nil
  | some n =>
    unfold writeOffset
    rw [String.toList_append]
    exact Separator.follows (by decide) (by decide) (plain_digits n.toNat)

theorem follows_tail {table : String} {intent : Intent} {clauses : Clauses}
    (h : PlainStatement table intent clauses) : Follows clauses.writeTail.toList := by
  unfold Clauses.writeTail
  rw [String.toList_append, String.toList_append, String.toList_append]
  refine Follows.append (.append (.append ?_ ?_) ?_) ?_
  · exact follows_list (by decide) (by decide) h.groupBy
  · exact follows_list (by decide) (by decide) h.orderBy
  · exact follows_limit h.limit
  · exact follows_offset clauses.offset

theorem follows_closing (n : Nat) : Follows (repeated ')' n).toList := by
  rw [repeated, String.toList_ofList]
  refine ⟨plain_of_all (List.all_eq_true.2 fun c hc => ?_), ?_⟩
  · rw [(List.mem_replicate.1 hc).2]
    decide
  · cases n with
    | zero => exact calm_nil
    | succ n =>
      rw [List.replicate_succ, calm_cons]
      decide

theorem legible_text {sql : String} (h : Plain sql.toList) : Legible [.text sql] :=
  .text h (.inr (by simp)) .nil

theorem legible_column {entry : String × Value} (h : StemStarts entry.1) :
    Legible (columnParts entry) :=
  .named (.slot (isName_stem h) (by simpa using calm_nil) .nil)

theorem legible_intent {table : String} {intent : Intent} {clauses : Clauses}
    (h : PlainStatement table intent clauses) (hd : intent.HasData) :
    Legible (intent.parts table) := by
  have hcolumns := plain_intercalate h.columns
  cases intent with
  | select columns =>
    refine legible_text ?_
    simp only [String.toList_append]
    refine .around (.behind (by decide) ?_) (by decide) h.table
    split
    · exact plain_of_all (by decide)
    · exact hcolumns
  | delete =>
    refine legible_text ?_
    rw [String.toList_append]
    exact .behind (by decide) h.table
  | insert data =>
    have hne : ¬ data.isEmpty := fun he => hd (List.isEmpty_iff.1 he)
    rw [Intent.parts, if_neg hne]
    have hgroups : Legible (separated (data.entries.map columnParts)) := by
      refine legible_separated (List.forall_mem_map.2 fun entry he => ?_)
      exact legible_column (h.stems entry he)
    refine .text ?_ ?_ (hgroups.append (legible_text (plain_of_all (by decide)))
      (calm_text (by decide) (by decide)))
    · simp only [String.toList_append]
      exact .before (.around (.behind (by decide) h.table)
        (by decide) hcolumns) (by decide)
    · rw [String.toList_append]
      exact Separator.apart (by decide) _
  | update data =>
    have hne : ¬ data.isEmpty := fun he => hd (List.isEmpty_iff.1 he)
    rw [Intent.parts, if_neg hne]
    refine .text ?_ ?_ (legible_separated (List.forall_mem_map.2 fun entry he => ?_))
    · simp only [String.toList_append]
      exact .before (.behind (by decide) h.table) (by decide)
    · rw [String.toList_append]
      exact Separator.apart (by decide) _
    · refine .text ?_ ?_ (legible_column (h.stems entry he))
      · rw [String.toList_append]
        exact .before (h.columns entry.1 (List.mem_map_of_mem he)) (by decide)
      · rw [String.toList_append]
        exact Separator.apart (by decide) _

theorem legible_elements {base : String} (h : IsName base.toList) (items : List Value) :
    Legible (separated (elementParts base 0 items)) := by
  refine legible_separated (List.forall_mem_map.2 fun element _ => ?_)
  exact .slot (isName_element h element.2) (by simpa using calm_nil) .nil

/-- A text that ends in a separator stands before anything. -/
theorem Legible.text_separator {s t : String} {rest : List Part} (hs : Plain s.toList)
    (ht : Separator t.toList) (h : Legible rest) : Legible (.text (s ++ t) :: rest) := by
  refine .text ?_ ?_ h
  · rw [String.toList_append]
    exact .before hs ht
  · rw [String.toList_append]
    exact ht.apart _

theorem legible_operand {head base field : String} {op : Operator} {operand : Option Value}
    (hu : ¬ op.isUnary) (ht : op.Takes operand) (hh : Plain head.toList) (hb : IsName base.toList) :
    Legible (operandParts head base field op operand) := by
  rcases operandParts_of_takes hu ht with
    ⟨items, -, -, h⟩ | ⟨low, high, -, -, -, h⟩ | ⟨value, -, -, -, h⟩
  · rw [h]
    exact .text_separator hh (by decide) ((legible_elements hb items).append
      (legible_text (plain_of_all (by decide))) (calm_text (by decide) (by decide)))
  · have hlow : IsName (base ++ "btw0").toList := by
      rw [String.toList_append]
      exact hb.append (by decide)
    have hhigh : IsName (base ++ "btw1").toList := by
      rw [String.toList_append]
      exact hb.append (by decide)
    rw [h]
    refine .text_separator hh (by decide) (.slot hlow ?_ ?_)
    · exact calm_text (by decide) (by decide)
    · exact .text (plain_of_all (by decide)) (apart_of_all (by decide))
        (.slot hhigh (by simpa using calm_nil) .nil)
  · rw [h]
    exact .text_separator hh (by decide) (.slot hb (by simpa using calm_nil) .nil)

theorem legible_compare {index : Nat} {field : String} {op : Operator} {operand : Option Value}
    (hp : (Condition.compare field op operand).IsPlain) (ht : op.Takes operand) :
    Legible (compareParts index field op operand) := by
  obtain ⟨hf, hs⟩ := hp
  have hhead : Plain (field ++ " " ++ op.sql).toList := by
    simp only [String.toList_append]
    exact .around hf (by decide) (plain_operator op)
  unfold compareParts
  by_cases hu : op.isUnary
  · rw [if_pos hu]
    exact legible_text hhead
  · rw [if_neg hu]
    exact .named (legible_operand hu ht hhead (isName_indexed (hs (by simpa using hu)) index))

/-- What stands before a test and the parentheses that open there. -/
theorem all_lead (index : Nat) (c : Conjunction) (test : Condition) (n : Nat) :
    (test.lead index c ++ repeated '(' n).toList.all isHarmless = true := by
  have hlead : (test.lead index c).toList.all isHarmless = true := by
    cases test with
    | raw sql values =>
      rw [Condition.lead]
      decide
    | compare field op operand =>
      rw [Condition.lead]
      split
      · decide
      · cases c <;> decide
  have hopen : (repeated '(' n).toList.all isHarmless = true := by
    rw [repeated, String.toList_ofList, List.all_eq_true]
    intro d hd
    rw [(List.mem_replicate.1 hd).2]
    decide
  rw [String.toList_append, List.all_append, hlead, hopen]
  rfl

theorem legible_predicate {index : Nat} {p : Predicate} (hp : p.condition.IsPlain)
    (hf : p.condition.Fits) : Legible (p.parts index) := by
  have htest : Legible (p.condition.parts index) := by
    cases hc : p.condition with
    | raw sql values =>
      rw [hc] at hp
      exact hp.elim
    | compare field op operand =>
      rw [hc] at hp hf
      exact legible_compare hp hf
  have hall := all_lead index p.conjunction p.condition p.opens
  have hclose := follows_closing p.closes
  refine .text (plain_of_all hall) (apart_of_all hall)
    (htest.append (legible_text hclose.plain) ?_)
  simpa [Part.sql] using hclose.calm

theorem calm_clause (index : Nat) (predicates : List Predicate) :
    Calm (sqlOf (clauseParts index predicates)).toList := by
  cases predicates with
  | nil => exact calm_nil
  | cons p rest =>
    rw [clauseParts_cons, Predicate.parts, List.cons_append, sqlOf_cons, String.toList_append,
      Part.sql, String.toList_append, List.append_assoc]
    cases p.condition with
    | raw sql values =>
      rw [Condition.lead]
      exact Calm.of_ne_nil (by decide) (by decide)
    | compare field op operand =>
      rw [Condition.lead, String.toList_append, String.toList_append, List.append_assoc,
        List.append_assoc]
      exact Calm.of_ne_nil (by decide) (by decide)

theorem legible_clause {index : Nat} {predicates : List Predicate}
    (hp : ∀ p ∈ predicates, p.condition.IsPlain) (hf : ∀ p ∈ predicates, p.condition.Fits) :
    Legible (clauseParts index predicates) := by
  induction predicates generalizing index with
  | nil => exact .nil
  | cons p rest ih =>
    rw [List.forall_mem_cons] at hp hf
    rw [clauseParts_cons]
    exact (legible_predicate hp.1 hf.1).append (ih hp.2 hf.2) (calm_clause (index + 1) rest)

/-- The layout of a plain statement is legible. -/
theorem legible_layout {table : String} {intent : Intent} {clauses : Clauses}
    (h : PlainStatement table intent clauses) (hd : intent.HasData)
    (hf : ∀ test ∈ clauses.conditions.conditions, test.Fits) :
    Legible (layout table intent clauses) := by
  have hjoins := follows_joins h.joins
  have htail := follows_tail h
  have htests := h.tests
  rw [Clause.conditions, List.forall_mem_map] at hf htests
  have hend : Legible (clauseParts 0 clauses.conditions.predicates ++
      [.text clauses.writeTail]) := by
    refine (legible_clause htests hf).append (legible_text htail.plain) ?_
    simpa [Part.sql] using htail.calm
  have hcalm : Calm (sqlOf (clauseParts 0 clauses.conditions.predicates ++
      [.text clauses.writeTail])).toList := by
    rw [sqlOf_append, String.toList_append]
    refine (calm_clause 0 _).append ?_
    simpa [Part.sql] using htail.calm
  refine (legible_intent h hd).append (.text hjoins.plain (apart_of_calm hcalm) hend) ?_
  rw [sqlOf_cons, String.toList_append]
  exact hjoins.calm.append hcalm

end BoundSql
