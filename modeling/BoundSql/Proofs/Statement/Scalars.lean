import BoundSql.Proofs.Clause.Calls
import BoundSql.Proofs.Query.Sending
import BoundSql.Proofs.Statement.Distinct

/-!
# Statements over scalars

A selection or a deletion over comparisons binds the operands of its tests: the values of its map
are scalars exactly when the operands are made of scalars, and a connection then stores every one of
them under the name of the placeholder that the text holds for it. After any calls on a clause that
is so unless a call gave bounds of which one is a list.

* `scalars_introduced_iff`: the introduced values are scalars when the operands are;
* `boundInPlace_of_scalars`: scalars are bound under their own placeholders;
* `clause_holds_scalars_iff`: the clause after any calls, and the statements over it.
-/

namespace BoundSql

/-! ## The values of operands -/

/-- An operand that is no pair of bounds introduces scalars only. -/
theorem scalars_operandPairs {base : String} {op : Operator} {operand : Option Value}
    (hr : ¬ op.isRange = true) (h : op.Takes operand) :
    ∀ entry ∈ operandPairs base op operand, entry.2.isList = false := by
  unfold Operator.Takes at h
  unfold operandPairs
  by_cases hu : op.isUnary = true
  · rw [if_pos hu]
    exact List.forall_mem_nil _
  rw [if_neg hu] at h ⊢
  by_cases hl : op.isList = true
  · rw [if_pos hl] at h ⊢
    obtain ⟨items, rfl, -, hscalars⟩ := h
    rintro entry he
    obtain ⟨⟨item, k⟩, hitem, rfl⟩ := List.mem_map.1 he
    exact hscalars item (List.fst_mem_of_mem_zipIdx hitem)
  · rw [if_neg hl, if_neg hr] at h ⊢
    obtain ⟨value, rfl, hscalar⟩ := h
    exact List.forall_mem_singleton.2 hscalar

theorem operandPairs_of_isRange {base : String} {op : Operator} {operand : Option Value}
    (hr : op.isRange = true) : operandPairs base op operand = rangePairs base operand := by
  cases op with
  | between | notBetween => rfl
  | _ => cases hr

/-- What an operand introduces are scalars if it is made of scalars. -/
theorem scalars_operandPairs_iff {base : String} {op : Operator} {operand : Option Value}
    (h : op.Takes operand) :
    (∀ entry ∈ operandPairs base op operand, entry.2.isList = false) ↔ op.TakesScalars operand := by
  rw [Operator.takesScalars_iff h]
  by_cases hr : op.isRange = true
  · obtain ⟨low, high, rfl⟩ := (Operator.takes_iff_of_isRange hr).1 h
    simp [operandPairs_of_isRange hr, rangePairs, Operator.nestsBounds, hr]
  · exact iff_of_true (scalars_operandPairs hr h) (Operator.nestsBounds_of_not_isRange hr operand)

/-- The values that comparisons introduce are scalars when their operands are. -/
theorem scalars_introduced_iff {intent : Intent} {clause : Clause} (hd : intent.data = [])
    (hc : ∀ test ∈ clause.conditions, test.IsComparison)
    (hf : ∀ test ∈ clause.conditions, test.Fits) :
    (∀ entry ∈ introduced intent clause, entry.2.isList = false) ↔
      ∀ test ∈ clause.conditions, test.FitsScalars := by
  have each (test : Condition) (ht : test ∈ clause.conditions) (index : Nat) :
      (∀ entry ∈ test.pairs index, entry.2.isList = false) ↔ test.FitsScalars := by
    cases test with
    | raw sql values => exact (hc _ ht).elim
    | compare field op operand => exact scalars_operandPairs_iff (hf _ ht)
  rw [introduced, hd, List.map_nil, List.nil_append, List.forall_mem_flatMap]
  constructor
  · intro h test ht
    rw [← List.zipIdx_map_fst 0 clause.conditions, List.mem_map] at ht
    obtain ⟨⟨test, index⟩, hp, rfl⟩ := ht
    exact (each test (List.fst_mem_of_mem_zipIdx hp) index).1 (h _ hp)
  · rintro h ⟨test, index⟩ hp
    have ht := List.fst_mem_of_mem_zipIdx hp
    exact (each test ht index).2 (h test ht)

/-- No name of a comparison begins with a colon. -/
theorem head_of_introduced {intent : Intent} {clause : Clause} (hd : intent.data = [])
    (hc : ∀ test ∈ clause.conditions, test.IsComparison) :
    ∀ entry ∈ introduced intent clause, entry.1.toList.head? ≠ some ':' := by
  rw [introduced, hd, List.map_nil, List.nil_append, List.forall_mem_flatMap]
  rintro ⟨test, index⟩ hp entry he hcolon
  have ht := List.fst_mem_of_mem_zipIdx hp
  obtain ⟨field, tail, -, -, hname⟩ :=
    exists_stem_of_pairs (hc test ht) entry.1 (List.mem_map_of_mem he)
  rw [hname] at hcolon
  cases hstem : stemChars field with
  | nil =>
    obtain ⟨digit, rest, hdigit, hn⟩ := exists_digit_toString index
    rw [hstem, hn] at hcolon
    cases Option.some.inj hcolon
    exact absurd hdigit (by decide)
  | cons c rest =>
    have hc : Text.isNameChar c = true := by
      refine (List.mem_filter.1 (?_ : c ∈ stemChars field)).2
      rw [hstem]
      exact List.mem_cons_self
    rw [hstem] at hcolon
    cases Option.some.inj hcolon
    exact absurd hc (by decide)

/-! ## Placeholders of values -/

/-- Parts that bind no value for SQL as given hold a placeholder for every value that they bind. -/
theorem slot_of_mem_pairsOf {parts : List Part} (h : ∀ name value, Part.aside name value ∉ parts)
    {entry : String × Value} (he : entry ∈ pairsOf parts) : Part.slot entry.1 entry.2 ∈ parts := by
  obtain ⟨part, hp, he⟩ := List.mem_flatMap.1 he
  cases part with
  | slot name value =>
    cases List.mem_singleton.1 he
    exact hp
  | aside name value => exact absurd hp (h name value)
  | text _ | named _ | refused _ => cases he

theorem aside_not_mem_operand {head base field name : String} {op : Operator} {value : Value}
    {operand : Option Value} : Part.aside name value ∉ operandParts head base field op operand := by
  have elements (items : List Value) :
      Part.aside name value ∉ separated (elementParts base 0 items) :=
    not_mem_separated_map (by simp) (by simp)
  have list : Part.aside name value ∉ listParts head base field op operand := by
    fun_cases listParts head base field op operand with
    | case1 items => simp [elements]
    | case2 operand h => simp
  have range : Part.aside name value ∉ rangeParts head base field op operand := by
    fun_cases rangeParts head base field op operand <;> simp
  unfold operandParts
  split
  · exact list
  split
  · exact range
  · simp

theorem aside_not_mem_compare {index : Nat} {field name : String} {op : Operator} {value : Value}
    {operand : Option Value} : Part.aside name value ∉ compareParts index field op operand := by
  unfold compareParts
  split
  · simp
  · simp [aside_not_mem_operand]

/-- A selection or a deletion over comparisons binds no value for SQL as given. -/
theorem aside_not_mem_layout {table name : String} {intent : Intent} {clauses : Clauses}
    {value : Value} (hi : intent = .delete ∨ ∃ columns, intent = .select columns)
    (hc : ∀ test ∈ clauses.conditions.conditions, test.IsComparison) :
    Part.aside name value ∉ layout table intent clauses := by
  have hintent : Part.aside name value ∉ intent.parts table := by
    rcases hi with rfl | ⟨columns, rfl⟩ <;> simp [Intent.parts]
  have hclause : Part.aside name value ∉ clauseParts 0 clauses.conditions.predicates := by
    intro hm
    obtain ⟨⟨p, index⟩, hp, hm⟩ := List.mem_flatMap.1 hm
    have ht := hc p.condition (List.mem_map_of_mem (List.fst_mem_of_mem_zipIdx hp))
    cases hcondition : p.condition with
    | raw sql values =>
      rw [hcondition] at ht
      exact ht
    | compare field op operand =>
      simp [Predicate.parts, hcondition, Condition.parts, aside_not_mem_compare] at hm
  simp [layout, hintent, hclause]

/-- The values of a compiled statement are bound under the placeholders that its text holds for
them: the statement on a connection has the map of values as its bindings. -/
structure BoundInPlace (table : String) (intent : Intent) (clauses : Clauses)
    (compiled : Compiled) : Prop where
  sql : compiled.sql = sqlOf (layout table intent clauses)
  slots : ∀ entry ∈ compiled.values.entries,
    Part.slot entry.1 entry.2 ∈ layout table intent clauses
  statement : compiled.statement = { sql := compiled.sql, bindings := compiled.values }
  sent : ∀ s : EmbeddedConnection, (send compiled).apply s = (.ok ⟨compiled.statement⟩, s)

theorem boundInPlace_of_scalars {table : String} {intent : Intent} {clauses : Clauses}
    {compiled : Compiled} (hcompile : compile table intent clauses = .ok compiled)
    (hi : intent = .delete ∨ ∃ columns, intent = .select columns)
    (hc : ∀ test ∈ clauses.conditions.conditions, test.IsComparison)
    (hs : ∀ entry ∈ compiled.values.entries, entry.2.isList = false) :
    BoundInPlace table intent clauses compiled := by
  have hd := Intent.data_eq_nil hi
  have hentries := entries_of_compile hcompile
  have hheads : ∀ entry ∈ compiled.values.entries, entry.1.toList.head? ≠ some ':' :=
    hentries ▸ head_of_introduced hd hc
  have hstatement : compiled.statement =
      Prepared.bindAll { sql := compiled.sql } compiled.values.entries := by
    rw [Compiled.statement, sent_of_scalars hs]
  refine ⟨congrArg Compiled.sql (compile_eq_ok_iff.1 hcompile).2, fun entry he => ?_,
    hstatement.trans (Prepared.bindAll_entries hheads), fun s => ?_⟩
  · rw [hentries, ← pairsOf_layout table intent clauses] at he
    exact slot_of_mem_pairsOf (fun name value => aside_not_mem_layout hi hc) he
  · rw [hstatement]
    exact bindValues_embedded ⟨{ sql := compiled.sql }⟩ hs s

/-! ## After any calls -/

/-- Calls on a clause succeed when the values that they are given can be brought into the shapes of
their operators, and fail otherwise with a fault that names an operator and its field, without a
change of the clause. The one exception are bounds: a call accepts two of them even when one is a
list. So after any calls all operands are made of scalars exactly when no call gave such bounds, and
exactly then the values of a selection or a deletion over the clause, without SQL as given, are
scalars, which are bound under their own placeholders. -/
theorem clause_holds_scalars_iff (calls : List Clause.Call) :
    (∀ (clause : Clause) (call : Clause.Call),
      ((clause.perform call).1 = .ok () ↔
        ∀ test ∈ call.asked, test.shaped.FitsScalars ∨ test.nestsBounds = true) ∧
      ((clause.perform call).1 ≠ .ok () → ∃ fault,
        clause.perform call = (.error (.invalidArgument fault), clause) ∧
          ∃ test ∈ call.asked, test.Faulted fault)) ∧
    ((∀ test ∈ (Clause.empty.performAll calls).conditions, test.FitsScalars) ↔
      ∀ test ∈ Clause.Call.keptAll calls, test.nestsBounds = false) ∧
    ∀ (table : String) (intent : Intent) (clauses : Clauses) (compiled : Compiled),
      clauses.conditions = Clause.empty.performAll calls →
      (intent = .delete ∨ ∃ columns, intent = .select columns) →
      (∀ test ∈ clauses.conditions.conditions, test.IsComparison) →
      compile table intent clauses = .ok compiled →
      ((∀ entry ∈ compiled.values.entries, entry.2.isList = false) ↔
        ∀ test ∈ Clause.Call.keptAll calls, test.nestsBounds = false) ∧
      ((∀ test ∈ Clause.Call.keptAll calls, test.nestsBounds = false) →
        BoundInPlace table intent clauses compiled) := by
  refine ⟨fun clause call => ?_, fitsScalars_iff calls, ?_⟩
  · rw [← forall₂_congr fun test _ => Condition.fits_shaped_iff]
    rcases clause.perform_cases call with ⟨next, hp, -, -, hfits⟩ | ⟨fault, hp, -, hfault, hfits⟩
    · rw [hp]
      exact ⟨iff_of_true rfl hfits, fun hne => (hne rfl).elim⟩
    · rw [hp]
      exact ⟨iff_of_false nofun hfits, fun _ => ⟨fault, rfl, hfault⟩⟩
  · intro table intent clauses compiled hclause hi hc hcompile
    have hd := Intent.data_eq_nil hi
    have hfits : ∀ test ∈ clauses.conditions.conditions, test.Fits :=
      hclause ▸ fits_of_performAll
    have hscalars : (∀ entry ∈ compiled.values.entries, entry.2.isList = false) ↔
        ∀ test ∈ Clause.Call.keptAll calls, test.nestsBounds = false := by
      rw [entries_of_compile hcompile, scalars_introduced_iff hd hc hfits, hclause,
        fitsScalars_iff]
    exact ⟨hscalars, fun hn => boundInPlace_of_scalars hcompile hi hc (hscalars.2 hn)⟩

/-- A list, a refused comparison and a group with a range and a missing value. -/
theorem clause_holds_scalars_iff_group :
    ∃ calls conditions compiled, calls = [
        .step (.equal .and "age" (.list [.int 1, .text "x"])),
        .compare .and "id" .notIn (some (.list [.list []])),
        .group .or [.compare .and "id" .between (some (.list [.int 3, .null])),
          .compare .or "k" .eq none]] ∧
      Clause.empty.performAll calls = conditions ∧
      (∀ test ∈ conditions.conditions, test.FitsScalars) ∧
      compile "t" .delete { conditions } = .ok compiled ∧
      compiled.sql = "DELETE FROM t WHERE age IN (:age0in0, :age0in1)" ++
        " OR (id BETWEEN :id1btw0 AND :id1btw1 OR k = :k2)" ∧
      compiled.values.entries = [("age0in0", .int 1), ("age0in1", .text "x"),
        ("id1btw0", .int 3), ("id1btw1", .null), ("k2", .null)] ∧
      (∀ entry ∈ compiled.values.entries, entry.2.isList = false) ∧
      BoundInPlace "t" .delete { conditions } compiled := by
  obtain ⟨-, hfits, hcompile⟩ := clause_holds_scalars_iff [
      .step (.equal .and "age" (.list [.int 1, .text "x"])),
      .compare .and "id" .notIn (some (.list [.list []])),
      .group .or [.compare .and "id" .between (some (.list [.int 3, .null])),
        .compare .or "k" .eq none]]
  obtain ⟨hscalars, hbound⟩ := hcompile "t" .delete { conditions := _ } _ rfl (.inl rfl)
    (by decide) rfl
  exact ⟨_, _, _, rfl, rfl, hfits.2 (by decide), rfl, rfl, rfl, hscalars.2 (by decide),
    hbound (by decide)⟩

/-- Two bounds are accepted though the first one is a list, which no operator of a list accepts. The
map of the statement then holds the list, and the connection stores its elements under names of
their own: the placeholder of the bound has no value. -/
theorem between_accepts_list :
    ∃ conditions compiled,
      Clause.empty.perform
          (.step (.compare .and "a" .between (.list [.list [.int 1, .int 2], .int 3]))) =
        (.ok (), conditions) ∧
      (Clause.empty.perform
          (.step (.compare .and "a" .isIn (.list [.list [.int 1, .int 2], .int 3])))).1 =
        .error (.invalidArgument (.nestedOperand .isIn "a")) ∧
      ¬ (∀ test ∈ conditions.conditions, test.FitsScalars) ∧
      compile "t" .delete { conditions } = .ok compiled ∧
      compiled.sql = "DELETE FROM t WHERE a BETWEEN :a0btw0 AND :a0btw1" ∧
      compiled.values.entries =
        [("a0btw0", .list [.int 1, .int 2]), ("a0btw1", .int 3)] ∧
      compiled.statement.bindings.entries =
        [("a0btw00", .int 1), ("a0btw01", .int 2), ("a0btw1", .int 3)] := by
  refine ⟨_, _, rfl, rfl, fun h => ?_, rfl, rfl, rfl, rfl⟩
  have hflat := (h _ List.mem_cons_self).2 _ rfl
  exact absurd hflat (by decide)

end BoundSql
