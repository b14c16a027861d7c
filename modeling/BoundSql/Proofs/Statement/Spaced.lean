import BoundSql.Proofs.Positional.Settled
import BoundSql.Proofs.Statement.Layout

/-!
# Where placeholders stand

Every placeholder of a statement stands behind a blank or an opening parenthesis and before a text
that goes on with no name (`Spaced`), whatever texts were given, and it is named after a field that
is checked (`Owned`). Both hold of parts in a row when they hold of each of them, so they are proved
along the layout.

* `spaced_layout`: where the placeholders of a statement stand;
* `owned_layout`: whose they are.
-/

namespace BoundSql

/-- The placeholders that a statement may name after a field: of a column that is written, of a
comparison, of an element of a list and of the two bounds of a range. -/
inductive Derived (field : String) : String → Prop where
  | column : Derived field (stemText field)
  | comparison (index : Nat) : Derived field (stemText field ++ toString index)
  | element (index k : Nat) : Derived field (elementName (stemText field ++ toString index) k)
  | low (index : Nat) : Derived field (stemText field ++ toString index ++ "btw0")
  | high (index : Nat) : Derived field (stemText field ++ toString index ++ "btw1")

/-- A text that ends in a blank or in an opening parenthesis. -/
def EndsApart (s : List Char) : Prop :=
  s.getLast? = some ' ' ∨ s.getLast? = some '('

/-- Every placeholder among the parts stands behind a text that ends apart and before a text that
goes on with no name, when `lead` stands before the parts. -/
def Spaced (lead : List Char) : List Part → Prop
  | [] => True
  | part :: rest =>
    (∀ name value, part = .slot name value →
      EndsApart lead ∧ Neutral (sqlOf rest).toList) ∧
    Spaced (lead ++ part.sql.toList) rest

/-- Every placeholder among the parts is one of a field of which some character remains. -/
def Owned (parts : List Part) : Prop :=
  ∀ name value, Part.slot name value ∈ parts →
    ∃ field, Derived field name ∧ Part.named field ∈ parts

/-! ## Spaced parts -/

theorem EndsApart.last {s : List Char} (h : EndsApart s) : s.getLast? ≠ some ':' := by
  rcases h with h | h <;>
  · rw [h]
    decide

/-- What follows a text that is not empty does not matter. -/
theorem neutral_text {sql : String} {rest : List Part} (h : Neutral sql.toList)
    (hne : sql.toList ≠ []) : Neutral (sqlOf (.text sql :: rest)).toList := by
  rw [sqlOf_cons, String.toList_append]
  exact h.of_ne_nil hne

theorem EndsApart.behind {s : List Char} (h : EndsApart s) (before : List Char) :
    EndsApart (before ++ s) := by
  have keeps {c : Char} (hc : s.getLast? = some c) : (before ++ s).getLast? = some c := by
    rw [List.getLast?_append, hc, Option.some_or]
  exact h.imp keeps keeps

/-- The end of a text decides, whatever stands before it. -/
theorem endsApart_text {after : String} (h : EndsApart after.toList) (lead : List Char)
    (before : String) : EndsApart (lead ++ (before ++ after).toList) := by
  rw [String.toList_append, ← List.append_assoc]
  exact h.behind _

section
variable {lead : List Char} {rest p q : List Part}

theorem spaced_text {sql : String} (h : Spaced (lead ++ sql.toList) rest) :
    Spaced lead (.text sql :: rest) :=
  ⟨nofun, h⟩

theorem spaced_named {field : String} (h : Spaced lead rest) :
    Spaced lead (.named field :: rest) := by
  refine ⟨nofun, ?_⟩
  rwa [Part.sql, String.toList_empty, List.append_nil]

theorem spaced_refused (fault : ArgumentFault) : Spaced lead [.refused fault] :=
  ⟨nofun, trivial⟩

theorem spaced_slot {name : String} {value : Value} (hl : EndsApart lead)
    (hn : Neutral (sqlOf rest).toList) (h : Spaced (lead ++ (":" ++ name).toList) rest) :
    Spaced lead (.slot name value :: rest) :=
  ⟨fun _ _ _ => ⟨hl, hn⟩, h⟩

theorem Spaced.append (hp : Spaced lead p) (hq : Spaced (lead ++ (sqlOf p).toList) q)
    (hn : Neutral (sqlOf q).toList) : Spaced lead (p ++ q) := by
  induction p generalizing lead with
  | nil => simpa using hq
  | cons part rest ih =>
    obtain ⟨hslot, hrest⟩ := hp
    rw [sqlOf_cons, String.toList_append, ← List.append_assoc] at hq
    rw [List.cons_append]
    refine ⟨fun name value he => ?_, ih hrest hq⟩
    obtain ⟨hl, hr⟩ := hslot name value he
    rw [sqlOf_append, String.toList_append]
    exact ⟨hl, hr.append hn⟩

/-- A placeholder that stands anywhere among spaced parts. -/
theorem Spaced.around {name : String} {value : Value}
    (h : Spaced lead (p ++ .slot name value :: q)) :
    EndsApart (lead ++ (sqlOf p).toList) ∧ Neutral (sqlOf q).toList := by
  induction p generalizing lead with
  | nil =>
    rw [sqlOf_nil, String.toList_empty, List.append_nil]
    exact h.1 name value rfl
  | cons part rest ih =>
    rw [sqlOf_cons, String.toList_append, ← List.append_assoc]
    exact ih h.2

/-- Groups that are spaced behind any text that ends apart are spaced with commas between them. -/
theorem spaced_separated {groups : List (List Part)} (hl : EndsApart lead)
    (h : ∀ group ∈ groups, ∀ lead, EndsApart lead → Spaced lead group) :
    Spaced lead (separated groups) := by
  have commas (rest : List (List Part))
      (h : ∀ group ∈ rest, ∀ lead, EndsApart lead → Spaced lead group) (lead : List Char) :
      Spaced lead (rest.flatMap (Part.text ", " :: ·)) ∧
        Neutral (sqlOf (rest.flatMap (Part.text ", " :: ·))).toList := by
    induction rest generalizing lead with
    | nil => exact ⟨trivial, neutral_nil⟩
    | cons group rest ih =>
      rw [List.forall_mem_cons] at h
      refine ⟨?_, neutral_text (by decide) (by decide)⟩
      rw [List.flatMap_cons, List.cons_append]
      refine spaced_text ((h.1 _ ?_).append (ih h.2 _).1 (ih h.2 []).2)
      exact EndsApart.behind (.inl rfl) lead
  cases groups with
  | nil => trivial
  | cons first rest =>
    rw [List.forall_mem_cons] at h
    exact (h.1 lead hl).append (commas rest h.2 _).1 (commas rest h.2 []).2

end

theorem spaced_column {entry : String × Value} {lead : List Char} (hl : EndsApart lead) :
    Spaced lead (columnParts entry) :=
  spaced_named (spaced_slot hl neutral_nil trivial)

theorem spaced_intent (table : String) (intent : Intent) : Spaced [] (intent.parts table) := by
  cases intent with
  | select columns => exact spaced_text trivial
  | delete => exact spaced_text trivial
  | insert data =>
    rw [Intent.parts]
    split
    · exact spaced_refused _
    · refine spaced_text (Spaced.append ?_ (spaced_text trivial)
        (neutral_text (by decide) (by decide)))
      refine spaced_separated ?_ (List.forall_mem_map.2 fun entry _ lead hl => spaced_column hl)
      exact endsApart_text (.inr rfl) _ _
  | update data =>
    rw [Intent.parts]
    split
    · exact spaced_refused _
    · refine spaced_text (spaced_separated ?_ (List.forall_mem_map.2 fun entry _ lead _ => ?_))
      · exact endsApart_text (.inl rfl) _ _
      · exact spaced_text (spaced_column (endsApart_text (.inl rfl) _ _))

theorem spaced_elements {base : String} {lead : List Char} (hl : EndsApart lead)
    (items : List Value) : Spaced lead (separated (elementParts base 0 items)) :=
  spaced_separated hl (List.forall_mem_map.2 fun _ _ _ h => spaced_slot h neutral_nil trivial)

theorem spaced_operand (head base field : String) (op : Operator) (operand : Option Value)
    (lead : List Char) : Spaced lead (operandParts head base field op operand) := by
  have blank : EndsApart (lead ++ (head ++ " ").toList) := endsApart_text (.inl rfl) lead head
  have list : Spaced lead (listParts head base field op operand) := by
    fun_cases listParts head base field op operand with
    | case1 items =>
      refine spaced_text ((spaced_elements ?_ items).append (spaced_text trivial)
        (neutral_text (by decide) (by decide)))
      exact endsApart_text (.inr rfl) _ _
    | case2 => exact spaced_refused _
  have range : Spaced lead (rangeParts head base field op operand) := by
    fun_cases rangeParts head base field op operand with
    | case1 low high =>
      refine spaced_text (spaced_slot blank (neutral_text (by decide) (by decide)) ?_)
      exact spaced_text (spaced_slot (EndsApart.behind (.inl rfl) _) neutral_nil trivial)
    | case2 | case3 => exact spaced_refused _
  rw [operandParts]
  split
  · exact list
  · split
    · exact range
    · exact spaced_text (spaced_slot blank neutral_nil trivial)

theorem spaced_compare (index : Nat) (field : String) (op : Operator) (operand : Option Value)
    (lead : List Char) : Spaced lead (compareParts index field op operand) := by
  rw [compareParts]
  split
  · exact spaced_text trivial
  · exact spaced_named (spaced_operand _ _ field op operand lead)

/-- The values of SQL that is written as given have no placeholders of their own. -/
theorem spaced_asides (entries : List (String × Value)) (lead : List Char) :
    Spaced lead (asideParts entries) := by
  induction entries generalizing lead with
  | nil => trivial
  | cons entry rest ih => exact ⟨nofun, ih _⟩

theorem spaced_predicate (index : Nat) (p : Predicate) (lead : List Char) :
    Spaced lead (p.parts index) := by
  have closing : Neutral (sqlOf [.text (repeated ')' p.closes)]).toList := by
    rw [sqlOf_cons, sqlOf_nil, String.append_empty, Part.sql, repeated, String.toList_ofList]
    cases p.closes with
    | zero => exact neutral_nil
    | succ n => exact neutral_cons.2 (by decide)
  refine spaced_text (Spaced.append ?_ (spaced_text trivial) closing)
  cases p.condition with
  | raw sql values => exact spaced_text (spaced_asides values.entries _)
  | compare field op operand => exact spaced_compare index field op operand _

theorem neutral_clause (index : Nat) (predicates : List Predicate) :
    Neutral (sqlOf (clauseParts index predicates)).toList := by
  cases predicates with
  | nil => exact neutral_nil
  | cons p rest =>
    -- Every predicate begins with a blank.
    rw [clauseParts_cons, Predicate.parts, List.cons_append, sqlOf_cons, String.toList_append,
      Part.sql, String.toList_append, List.append_assoc]
    cases p.condition with
    | raw sql values =>
      rw [Condition.lead]
      exact Neutral.of_ne_nil (by decide) (by decide)
    | compare field op operand =>
      rw [Condition.lead, String.toList_append, String.toList_append, List.append_assoc,
        List.append_assoc]
      exact Neutral.of_ne_nil (by decide) (by decide)

theorem spaced_clause (index : Nat) (predicates : List Predicate) (lead : List Char) :
    Spaced lead (clauseParts index predicates) := by
  induction predicates generalizing index lead with
  | nil => trivial
  | cons p rest ih =>
    exact (spaced_predicate index p lead).append (ih (index + 1) _)
      (neutral_clause (index + 1) rest)

theorem neutral_joins (joins : List Join) : Neutral (writeJoins joins).toList := by
  cases joins with
  | nil => exact neutral_nil
  | cons join rest =>
    rw [writeJoins, List.map_cons, String.join_cons, Join.sql]
    cases join.kind <;>
    · rw [String.append_assoc, String.toList_append]
      exact Neutral.of_ne_nil (by decide) (by decide)

theorem neutral_list {keyword : String} (items : List String) (hk : Neutral keyword.toList)
    (hne : keyword.toList ≠ []) : Neutral (writeList keyword items).toList := by
  rw [writeList]
  split
  · exact neutral_nil
  · rw [String.toList_append]
    exact hk.of_ne_nil hne

theorem neutral_tail (clauses : Clauses) : Neutral clauses.writeTail.toList := by
  have limit : Neutral (writeLimit clauses.limit).toList := by
    fun_cases writeLimit clauses.limit with
    | case1 => exact neutral_nil
    | case2 => exact neutral_nil
    | case3 text =>
      rw [String.toList_append]
      exact Neutral.of_ne_nil (by decide) (by decide)
  have offset : Neutral (writeOffset clauses.offset).toList := by
    fun_cases writeOffset clauses.offset with
    | case1 => exact neutral_nil
    | case2 n =>
      rw [String.toList_append]
      exact Neutral.of_ne_nil (by decide) (by decide)
  rw [Clauses.writeTail, String.toList_append, String.toList_append, String.toList_append]
  exact (((neutral_list _ (by decide) (by decide)).append
    (neutral_list _ (by decide) (by decide))).append limit).append offset

/-- Every placeholder of a statement stands apart, whatever texts were given. -/
theorem spaced_layout (table : String) (intent : Intent) (clauses : Clauses) :
    Spaced [] (layout table intent clauses) := by
  have htail : Neutral (sqlOf [.text clauses.writeTail]).toList := by
    rw [sqlOf_cons, sqlOf_nil, String.append_empty]
    exact neutral_tail clauses
  have hend : Neutral (sqlOf (clauseParts 0 clauses.conditions.predicates ++
      [.text clauses.writeTail])).toList := by
    rw [sqlOf_append, String.toList_append]
    exact (neutral_clause 0 _).append htail
  refine (spaced_intent table intent).append (spaced_text ?_) ?_
  · exact (spaced_clause 0 _ _).append (spaced_text trivial) htail
  · rw [sqlOf_cons, String.toList_append]
    exact (neutral_joins clauses.joins).append hend

/-! ## Whose placeholders they are -/

/-- Every placeholder among the parts is one of the field. -/
def NamedAfter (field : String) (parts : List Part) : Prop :=
  ∀ name value, Part.slot name value ∈ parts → Derived field name

/-- What holds of every text, and of parts in a row when it holds of each of them. -/
structure Compositional (P : List Part → Prop) : Prop where
  nil : P []
  text (sql : String) : P [.text sql]
  append {p q : List Part} (hp : P p) (hq : P q) : P (p ++ q)

/-- Commas between groups do not matter. -/
theorem Compositional.separated {P : List Part → Prop} (hP : Compositional P)
    {groups : List (List Part)} (h : ∀ group ∈ groups, P group) : P (separated groups) := by
  have commas (rest : List (List Part)) (h : ∀ group ∈ rest, P group) :
      P (rest.flatMap (Part.text ", " :: ·)) := by
    induction rest with
    | nil => exact hP.nil
    | cons group rest ih =>
      rw [List.forall_mem_cons] at h
      exact hP.append (hP.append (hP.text ", ") h.1) (ih h.2)
  cases groups with
  | nil => exact hP.nil
  | cons first rest =>
    rw [List.forall_mem_cons] at h
    exact hP.append h.1 (commas rest h.2)

section
variable {field : String}

theorem compositional_namedAfter : Compositional (NamedAfter field) where
  nil := by
    intro name value hm
    cases hm
  text sql := by
    intro name value hm
    cases List.mem_singleton.1 hm
  append hp hq name value hm := (List.mem_append.1 hm).elim (hp name value) (hq name value)

theorem compositional_owned : Compositional Owned where
  nil := by
    intro name value hm
    cases hm
  text sql := by
    intro name value hm
    cases List.mem_singleton.1 hm
  append {p q} hp hq := by
    intro name value hm
    rcases List.mem_append.1 hm with hm | hm
    · obtain ⟨field, hd, hn⟩ := hp name value hm
      exact ⟨field, hd, List.mem_append_left q hn⟩
    · obtain ⟨field, hd, hn⟩ := hq name value hm
      exact ⟨field, hd, List.mem_append_right p hn⟩

theorem namedAfter_slot {name : String} (h : Derived field name) (value : Value) :
    NamedAfter field [.slot name value] := by
  intro _ _ hm
  cases List.mem_singleton.1 hm
  exact h

theorem namedAfter_refused (fault : ArgumentFault) : NamedAfter field [.refused fault] := by
  intro name value hm
  cases List.mem_singleton.1 hm

/-- The placeholders of a field are owned behind the check of the field. -/
theorem NamedAfter.owned {parts : List Part} (h : NamedAfter field parts) :
    Owned (.named field :: parts) := by
  intro name value hm
  rcases List.mem_cons.1 hm with he | hm
  · cases he
  · exact ⟨field, h name value hm, List.mem_cons_self⟩

/-- The placeholders of an operand. -/
theorem namedAfter_operand (head : String) (op : Operator) (operand : Option Value) (index : Nat) :
    NamedAfter field (operandParts head (stemText field ++ toString index) field op operand) := by
  have row {p q : List Part} (hp : NamedAfter field p) (hq : NamedAfter field q) :
      NamedAfter field (p ++ q) := compositional_namedAfter.append hp hq
  have text (sql : String) : NamedAfter field [.text sql] := compositional_namedAfter.text sql
  have list : NamedAfter field
      (listParts head (stemText field ++ toString index) field op operand) := by
    fun_cases listParts head (stemText field ++ toString index) field op operand with
    | case1 items =>
      refine row (text _) (row (compositional_namedAfter.separated ?_) (text _))
      exact List.forall_mem_map.2 fun element _ => namedAfter_slot (.element index element.2) _
    | case2 => exact namedAfter_refused _
  have range : NamedAfter field
      (rangeParts head (stemText field ++ toString index) field op operand) := by
    fun_cases rangeParts head (stemText field ++ toString index) field op operand with
    | case1 low high =>
      exact row (text _) (row (namedAfter_slot (.low index) low)
        (row (text _) (namedAfter_slot (.high index) high)))
    | case2 | case3 => exact namedAfter_refused _
  rw [operandParts]
  split
  · exact list
  · split
    · exact range
    · exact row (text _) (namedAfter_slot (.comparison index) _)

end

theorem owned_column (entry : String × Value) : Owned (columnParts entry) :=
  (namedAfter_slot .column entry.2).owned

theorem owned_refused (fault : ArgumentFault) : Owned [.refused fault] := by
  intro name value hm
  cases List.mem_singleton.1 hm

theorem owned_intent (table : String) (intent : Intent) : Owned (intent.parts table) := by
  have text (sql : String) : Owned [.text sql] := compositional_owned.text sql
  cases intent with
  | select columns => exact text _
  | delete => exact text _
  | insert data =>
    rw [Intent.parts]
    split
    · exact owned_refused _
    · refine compositional_owned.append (text _) (compositional_owned.append ?_ (text _))
      exact compositional_owned.separated (List.forall_mem_map.2 fun entry _ => owned_column entry)
  | update data =>
    rw [Intent.parts]
    split
    · exact owned_refused _
    · refine compositional_owned.append (text _) (compositional_owned.separated ?_)
      exact List.forall_mem_map.2 fun entry _ =>
        compositional_owned.append (text _) (owned_column entry)

theorem owned_predicate (index : Nat) (p : Predicate) : Owned (p.parts index) := by
  have text (sql : String) : Owned [.text sql] := compositional_owned.text sql
  refine compositional_owned.append (text _) (compositional_owned.append ?_ (text _))
  cases p.condition with
  | raw sql values =>
    refine compositional_owned.append (text sql) fun name value hm => ?_
    obtain ⟨entry, -, he⟩ := List.mem_map.1 hm
    cases he
  | compare field op operand =>
    rw [Condition.parts, compareParts]
    split
    · exact text _
    · exact (namedAfter_operand _ op operand index).owned

/-- Every placeholder of a statement is one of a field that is checked. -/
theorem owned_layout (table : String) (intent : Intent) (clauses : Clauses) :
    Owned (layout table intent clauses) := by
  have clause (index : Nat) (predicates : List Predicate) :
      Owned (clauseParts index predicates) := by
    induction predicates generalizing index with
    | nil => exact compositional_owned.nil
    | cons p rest ih => exact compositional_owned.append (owned_predicate index p) (ih (index + 1))
  have text (sql : String) : Owned [.text sql] := compositional_owned.text sql
  refine compositional_owned.append (owned_intent table intent) ?_
  exact compositional_owned.append (text _) (compositional_owned.append (clause 0 _) (text _))

end BoundSql
