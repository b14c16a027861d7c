import BoundSql.Proofs.Clause.Operand
import BoundSql.Proofs.Statement.Compile

/-!
# The values of a statement

The values of a compiled statement are those that its data and its predicates introduce, in the
order of the text and under the names of their placeholders (`introduced`). A statement over a
clause that steps build compiles exactly when it has the data it writes, its fields can be named
and the introduced names are distinct.

* `pairsOf_layout`: a layout binds what the statement introduces;
* `sound_layout_iff`: when the checks of a layout succeed;
* `compile_succeeds_iff`: when a statement compiles, and with which values.
-/

namespace BoundSql

/-- The data that a statement writes. -/
def Intent.data : Intent → List (String × Value)
  | .insert data | .update data => data.entries
  | .select _ | .delete => []

/-- A statement that writes data has some. -/
def Intent.HasData : Intent → Prop
  | .insert data | .update data => data.entries ≠ []
  | .select _ | .delete => True

/-- A selection and a deletion write no data. -/
theorem Intent.data_eq_nil {intent : Intent}
    (hi : intent = .delete ∨ ∃ columns, intent = .select columns) : intent.data = [] := by
  rcases hi with rfl | ⟨columns, rfl⟩ <;> rfl

/-- The values that the operand of a list operator introduces, numbered under `base`. -/
def listPairs (base : String) : Option Value → List (String × Value)
  | some (.list items) => items.zipIdx.map fun (item, k) => (elementName base k, item)
  | _ => []

/-- The values that two bounds introduce under `base`. -/
def rangePairs (base : String) : Option Value → List (String × Value)
  | some (.list [low, high]) => [(base ++ "btw0", low), (base ++ "btw1", high)]
  | _ => []

/-- The values that an operand introduces, under names that begin with `base`. -/
def operandPairs (base : String) (op : Operator) (operand : Option Value) :
    List (String × Value) :=
  if op.isUnary then []
  else if op.isList then listPairs base operand
  else if op.isRange then rangePairs base operand
  else [(base, operand.getD .null)]

/-- The values that a test at a position of the clause introduces. -/
def Condition.pairs (index : Nat) : Condition → List (String × Value)
  | .raw _ values => values.entries
  | .compare field op operand => operandPairs (stemText field ++ toString index) op operand

/-- The values that a statement introduces, in the order of its text: those of its data under the
stems of their columns, then those of its tests. -/
def introduced (intent : Intent) (clause : Clause) : List (String × Value) :=
  intent.data.map (fun entry => (stemText entry.1, entry.2)) ++
    clause.conditions.zipIdx.flatMap fun (test, index) => test.pairs index

/-! ## What a layout binds -/

theorem pairsOf_intent (table : String) (intent : Intent) :
    pairsOf (intent.parts table) = intent.data.map fun entry => (stemText entry.1, entry.2) := by
  have columns (entries : List (String × Value)) :
      entries.flatMap (fun entry => pairsOf (columnParts entry)) =
        entries.map fun entry => (stemText entry.1, entry.2) := by
    simp [columnParts, Part.pairs, List.map_eq_flatMap]
  cases intent with
  | select columns => rfl
  | delete => rfl
  | insert data =>
    by_cases h : data.isEmpty
    · have he : data.entries = [] := List.isEmpty_iff.1 h
      simp [Intent.parts, Intent.data, h, he, Part.pairs]
    · simp [Intent.parts, Intent.data, h, pairsOf_separated, List.flatMap_map, columns,
        Part.pairs]
  | update data =>
    by_cases h : data.isEmpty
    · have he : data.entries = [] := List.isEmpty_iff.1 h
      simp [Intent.parts, Intent.data, h, he, Part.pairs]
    · simp [Intent.parts, Intent.data, h, pairsOf_separated, List.flatMap_map, columns,
        Part.pairs]

theorem pairsOf_elements (base : String) (items : List Value) :
    (elementParts base 0 items).flatMap pairsOf =
      items.zipIdx.map fun (item, k) => (elementName base k, item) := by
  rw [elementParts, List.flatMap_map, List.map_eq_flatMap]
  rfl

theorem pairsOf_list (head base field : String) (op : Operator) (operand : Option Value) :
    pairsOf (listParts head base field op operand) = listPairs base operand := by
  fun_cases listParts head base field op operand with
  | case1 items => simp [listPairs, Part.pairs, pairsOf_separated, pairsOf_elements]
  | case2 operand h =>
    rw [listPairs.eq_2 _ _ h]
    rfl

theorem pairsOf_range (head base field : String) (op : Operator) (operand : Option Value) :
    pairsOf (rangeParts head base field op operand) = rangePairs base operand := by
  fun_cases rangeParts head base field op operand with
  | case1 low high => rfl
  | case2 items h =>
    rw [rangePairs.eq_2 _ _ (by simpa using h)]
    rfl
  | case3 operand h h' =>
    rw [rangePairs.eq_2 _ _ h]
    rfl

theorem pairsOf_compare (index : Nat) (field : String) (op : Operator)
    (operand : Option Value) :
    pairsOf (compareParts index field op operand) =
      operandPairs (stemText field ++ toString index) op operand := by
  unfold compareParts operandPairs operandParts
  by_cases hu : op.isUnary
  · simp [hu, Part.pairs]
  by_cases hl : op.isList
  · simp [hu, hl, Part.pairs, pairsOf_list]
  by_cases hr : op.isRange
  · simp [hu, hl, hr, Part.pairs, pairsOf_range]
  · simp [hu, hl, hr, Part.pairs]

theorem pairsOf_predicate (index : Nat) (p : Predicate) :
    pairsOf (p.parts index) = p.condition.pairs index := by
  unfold Predicate.parts Condition.pairs
  cases p.condition with
  | raw sql values =>
    simp [Condition.parts, asideParts, Part.pairs, pairsOf, List.flatMap_map]
  | compare field op operand => simp [Condition.parts, Part.pairs, pairsOf_compare]

theorem pairsOf_clause (index : Nat) (predicates : List Predicate) :
    pairsOf (clauseParts index predicates) =
      ((predicates.map Predicate.condition).zipIdx index).flatMap
        fun (test, index) => test.pairs index := by
  induction predicates generalizing index with
  | nil => rfl
  | cons p rest ih =>
    rw [clauseParts_cons, pairsOf_append, pairsOf_predicate, ih]
    rfl

/-- A layout binds what the statement introduces. -/
theorem pairsOf_layout (table : String) (intent : Intent) (clauses : Clauses) :
    pairsOf (layout table intent clauses) = introduced intent clauses.conditions := by
  simp [layout, introduced, pairsOf_intent, pairsOf_clause, Part.pairs, Clause.conditions]

/-! ## When the checks of a layout succeed -/

theorem sound_intent_iff (table : String) (intent : Intent) :
    AllSound (intent.parts table) ↔
      intent.HasData ∧ ∀ entry ∈ intent.data, Nameable entry.1 := by
  have empty {data : OrderedMap Value} : data.isEmpty = true ↔ data.entries = [] :=
    List.isEmpty_iff
  cases intent with
  | select columns => simp [Intent.parts, Intent.HasData, Intent.data, Part.Sound]
  | delete => simp [Intent.parts, Intent.HasData, Intent.data, Part.Sound]
  | insert data =>
    by_cases h : data.entries = []
    · simp [Intent.parts, Intent.HasData, empty, h, Part.Sound]
    · simp [Intent.parts, Intent.HasData, Intent.data, empty, h, Part.Sound, columnParts,
        allSound_separated_map]
  | update data =>
    by_cases h : data.entries = []
    · simp [Intent.parts, Intent.HasData, empty, h, Part.Sound]
    · simp [Intent.parts, Intent.HasData, Intent.data, empty, h, Part.Sound, columnParts,
        allSound_separated_map]

/-- The parts of an operand that its operator takes: a list in parentheses, two bounds, or a single
value. -/
theorem operandParts_of_takes {head base field : String} {op : Operator} {operand : Option Value}
    (hu : ¬ op.isUnary) (ht : op.Takes operand) :
    (∃ items, op.isList ∧ operand = some (.list items) ∧
      operandParts head base field op operand =
        .text (head ++ " (") :: (separated (elementParts base 0 items) ++ [.text ")"])) ∨
    (∃ low high, ¬ op.isList ∧ op.isRange ∧ operand = some (.list [low, high]) ∧
      operandParts head base field op operand =
        [.text (head ++ " "), .slot (base ++ "btw0") low, .text " AND ",
          .slot (base ++ "btw1") high]) ∨
    (∃ value, ¬ op.isList ∧ ¬ op.isRange ∧ operand = some value ∧
      operandParts head base field op operand = [.text (head ++ " "), .slot base value]) := by
  unfold Operator.Takes at ht
  rw [if_neg hu] at ht
  by_cases hl : op.isList
  · rw [if_pos hl] at ht
    obtain ⟨items, rfl, -, -⟩ := ht
    refine .inl ⟨items, hl, rfl, ?_⟩
    rw [operandParts, if_pos hl, listParts]
  rw [if_neg hl] at ht
  by_cases hr : op.isRange
  · rw [if_pos hr] at ht
    obtain ⟨low, high, rfl⟩ := ht
    refine .inr (.inl ⟨low, high, hl, hr, rfl, ?_⟩)
    rw [operandParts, if_neg hl, if_pos hr, rangeParts]
  · rw [if_neg hr] at ht
    obtain ⟨value, rfl, -⟩ := ht
    refine .inr (.inr ⟨value, hl, hr, rfl, ?_⟩)
    rw [operandParts, if_neg hl, if_neg hr, Option.getD_some]

/-- The operand of an operator that takes it is never refused. -/
theorem sound_operand {head base field : String} {op : Operator} {operand : Option Value}
    (hu : ¬ op.isUnary) (ht : op.Takes operand) :
    AllSound (operandParts head base field op operand) := by
  rcases operandParts_of_takes hu ht with
    ⟨items, -, -, h⟩ | ⟨low, high, -, -, -, h⟩ | ⟨value, -, -, -, h⟩
  · rw [h]
    simp [Part.Sound, elementParts, allSound_separated_map]
  · rw [h]
    simp [Part.Sound]
  · rw [h]
    simp [Part.Sound]

theorem sound_compare_iff {index : Nat} {field : String} {op : Operator}
    {operand : Option Value} (ht : op.Takes operand) :
    AllSound (compareParts index field op operand) ↔
      (op.isUnary = false → Nameable field) := by
  unfold compareParts
  by_cases hu : op.isUnary
  · simp [hu, Part.Sound]
  · simp [hu, Part.Sound, sound_operand hu ht]

/-- A comparison with an operand is on a field that placeholders can be named after. -/
def Condition.Named : Condition → Prop
  | .raw _ _ => True
  | .compare field op _ => op.isUnary = false → Nameable field

theorem sound_predicate_iff {index : Nat} {p : Predicate} (h : p.condition.Fits) :
    AllSound (p.parts index) ↔ p.condition.Named := by
  unfold Predicate.parts
  cases hp : p.condition with
  | raw sql values =>
    have asides : AllSound (asideParts values.entries) := by
      intro part hp
      obtain ⟨entry, -, rfl⟩ := List.mem_map.1 hp
      trivial
    simp [Condition.parts, Condition.Named, Part.Sound, asides]
  | compare field op operand =>
    rw [hp] at h
    simp [Condition.parts, sound_compare_iff h, Condition.Named, Part.Sound]

theorem sound_clause_iff {index : Nat} {predicates : List Predicate}
    (h : ∀ p ∈ predicates, p.condition.Fits) :
    AllSound (clauseParts index predicates) ↔ ∀ p ∈ predicates, p.condition.Named := by
  induction predicates generalizing index with
  | nil => simp [clauseParts]
  | cons p rest ih =>
    rw [List.forall_mem_cons] at h
    rw [clauseParts_cons, allSound_append, sound_predicate_iff h.1, ih h.2, List.forall_mem_cons]

/-- The checks of a layout succeed when the statement has the data it writes and its fields can be
named. -/
theorem sound_layout_iff {table : String} {intent : Intent} {clauses : Clauses}
    (h : ∀ test ∈ clauses.conditions.conditions, test.Fits) :
    AllSound (layout table intent clauses) ↔
      intent.HasData ∧ (∀ entry ∈ intent.data, Nameable entry.1) ∧
        ∀ test ∈ clauses.conditions.conditions, test.Named := by
  rw [Clause.conditions, List.forall_mem_map] at h ⊢
  simp [layout, sound_intent_iff, sound_clause_iff h, Part.Sound, and_assoc]

/-! ## What a layout may fail with -/

/-- The faults that compiling a statement over a built clause can end in. -/
inductive CompileFault (table : String) : ArgumentFault → Prop where
  | nothingToInsert : CompileFault table (.nothingToInsert table)
  | nothingToUpdate : CompileFault table (.nothingToUpdate table)
  | noStem (field : String) : CompileFault table (.noStem field)
  | boundTwice (name : String) : CompileFault table (.boundTwice name)

/-- A part that refuses nothing raises only faults of names. -/
theorem compileFault_of_raises {table : String} {fault : ArgumentFault} {part : Part}
    (hr : part.Raises fault) (hp : ∀ other, part = .refused other → CompileFault table other) :
    CompileFault table fault := by
  cases part with
  | text sql => exact hr.elim
  | slot name value => exact hr ▸ .boundTwice name
  | aside name value => exact hr ▸ .boundTwice name
  | named field => exact hr ▸ .noStem field
  | refused other => exact hr ▸ hp other rfl

/-- Separated groups hold no parts but their own and commas. -/
theorem not_mem_separated_map {α : Type} {xs : List α} {group : α → List Part} {part : Part}
    (hp : ∀ sql, part ≠ .text sql) (h : ∀ x, part ∉ group x) : part ∉ separated (xs.map group) := by
  cases xs with
  | nil => simp [separated]
  | cons x rest =>
    simp [separated, hp, h]

theorem compileFault_of_intent {table : String} {intent : Intent} {other : ArgumentFault}
    (h : .refused other ∈ intent.parts table) : CompileFault table other := by
  have columns (entry : String × Value) : .refused other ∉ columnParts entry := by
    simp [columnParts]
  cases intent with
  | select columns => simp [Intent.parts] at h
  | delete => simp [Intent.parts] at h
  | insert data =>
    by_cases he : data.isEmpty
    · simp only [Intent.parts, he, if_true, List.mem_singleton, Part.refused.injEq] at h
      exact h ▸ .nothingToInsert
    · simp [Intent.parts, he, not_mem_separated_map (by simp) columns] at h
  | update data =>
    by_cases he : data.isEmpty
    · simp only [Intent.parts, he, if_true, List.mem_singleton, Part.refused.injEq] at h
      exact h ▸ .nothingToUpdate
    · have groups (entry : String × Value) :
          .refused other ∉ Part.text (entry.1 ++ " = ") :: columnParts entry := by
        simp [columns]
      simp [Intent.parts, he, not_mem_separated_map (by simp) groups] at h

theorem not_refused_of_fits {index : Nat} {p : Predicate} {other : ArgumentFault}
    (h : p.condition.Fits) : .refused other ∉ p.parts index := by
  unfold Predicate.parts
  cases hp : p.condition with
  | raw sql values => simp [Condition.parts, asideParts]
  | compare field op operand =>
    rw [hp] at h
    by_cases hu : op.isUnary
    · simp [Condition.parts, compareParts, hu]
    · have ho : ∀ head base, .refused other ∉ operandParts head base field op operand :=
        fun head base hm => sound_operand hu h _ hm
      simp [Condition.parts, compareParts, hu, ho]

theorem compileFault_of_layout {table : String} {intent : Intent} {clauses : Clauses}
    (h : ∀ test ∈ clauses.conditions.conditions, test.Fits) {other : ArgumentFault}
    (hm : .refused other ∈ layout table intent clauses) : CompileFault table other := by
  simp only [layout, List.mem_append, List.mem_cons, reduceCtorEq, List.not_mem_nil, or_false,
    false_or] at hm
  rcases hm with hm | hm
  · exact compileFault_of_intent hm
  · obtain ⟨⟨p, index⟩, hz, hp⟩ := List.mem_flatMap.1 hm
    rw [Clause.conditions, List.forall_mem_map] at h
    exact absurd hp (not_refused_of_fits (h p (List.fst_mem_of_mem_zipIdx hz)))

/-! ## The statement compiles -/

/-- The statement has the data it writes, its columns and its compared fields can be named, and it
introduces no name twice. -/
structure Compilable (intent : Intent) (clause : Clause) : Prop where
  data : intent.HasData
  columns : ∀ entry ∈ intent.data, Nameable entry.1
  fields : ∀ test ∈ clause.conditions, test.Named
  distinct : ((introduced intent clause).map Prod.fst).Nodup

theorem ready_layout_iff {table : String} {intent : Intent} {clauses : Clauses}
    (h : ∀ test ∈ clauses.conditions.conditions, test.Fits) :
    Ready ∅ (layout table intent clauses) ↔ Compilable intent clauses.conditions := by
  have fresh : (∅ : OrderedMap Value).keys ++ namesOf (layout table intent clauses) =
      (introduced intent clauses.conditions).map Prod.fst := by
    rw [namesOf, pairsOf_layout]
    rfl
  constructor
  · rintro ⟨hs, hf⟩
    obtain ⟨hd, hn, ht⟩ := (sound_layout_iff h).1 hs
    exact ⟨hd, hn, ht, fresh ▸ hf⟩
  · rintro ⟨hd, hn, ht, hf⟩
    exact ⟨(sound_layout_iff h).2 ⟨hd, hn, ht⟩, fresh ▸ hf⟩

/-- The values of a compiled statement are those it introduces, in order. -/
theorem entries_of_compile {table : String} {intent : Intent} {clauses : Clauses}
    {compiled : Compiled} (hc : compile table intent clauses = .ok compiled) :
    compiled.values.entries = introduced intent clauses.conditions := by
  obtain ⟨hr, rfl⟩ := compile_eq_ok_iff.1 hc
  rw [← pairsOf_layout table intent clauses]
  exact OrderedMap.entries_ofList_of_nodup hr.fresh

/-- A statement over a clause that steps build compiles exactly when it has the data it writes, its
fields can be named and no name is introduced twice. Its values are then those it introduces, in
order; otherwise an argument is at fault, never for the shape of an operand. -/
theorem compile_succeeds_iff {table : String} {intent : Intent} {clauses : Clauses}
    {steps : List Step} (h : Clause.empty.applyAll steps = .ok clauses.conditions) :
    ((∃ compiled, compile table intent clauses = .ok compiled) ↔
      Compilable intent clauses.conditions) ∧
    (∀ compiled, compile table intent clauses = .ok compiled →
      compiled.values.entries = introduced intent clauses.conditions) ∧
    (∀ e, compile table intent clauses = .error e →
      ∃ fault, e = .invalidArgument fault ∧ CompileFault table fault) := by
  have hfits := fits_of_applyAll h
  refine ⟨?_, fun compiled hc => entries_of_compile hc, ?_⟩
  · rw [← ready_layout_iff hfits]
    constructor
    · rintro ⟨compiled, hc⟩
      exact (compile_eq_ok_iff.1 hc).1
    · intro hr
      exact ⟨_, compile_of_ready hr⟩
  · intro e he
    -- Of the faults that parts raise, those of operands are ruled out by their shapes.
    have hr : ¬ Ready ∅ (layout table intent clauses) := fun hr => by
      rw [compile_of_ready hr] at he
      cases he
    obtain ⟨fault, hf, part, hp, hraise⟩ := compile_of_not_ready hr
    rw [hf] at he
    cases he
    refine ⟨fault, rfl, compileFault_of_raises hraise ?_⟩
    rintro other rfl
    exact compileFault_of_layout hfits hp

/-- An update with a range inside a group and a value of SQL as given. -/
theorem compile_succeeds_iff_update :
    ∃ steps conditions compiled, Clause.empty.applyAll steps = .ok conditions ∧
      compile "t" (.update (.ofList [("name", .text "x")])) { conditions } = .ok compiled ∧
      compiled.sql = "UPDATE t SET name = :name WHERE (u.age >= :uage0" ++
        " OR id BETWEEN :id1btw0 AND :id1btw1) AND k = :k" ∧
      compiled.values.entries = [("name", .text "x"), ("uage0", .int 18), ("id1btw0", .int 1),
        ("id1btw1", .int 2), ("k", .null)] := by
  have h : Clause.empty.applyAll [
      .group .and [.compare .and "u.age" .gte (.int 18),
        .compare .or "id" .between (.list [.int 1, .int 2])],
      .raw "AND k = :k" (.ofList [("k", .null)])] = .ok _ := rfl
  obtain ⟨-, values, -⟩ := @compile_succeeds_iff "t" (.update (.ofList [("name", .text "x")]))
    { conditions := _ } _ h
  exact ⟨_, _, _, h, rfl, rfl, (values _ rfl).trans rfl⟩

end BoundSql
