import BoundSql.Proofs.Clause.Tree
import BoundSql.Proofs.Statement.Binding

/-!
# The text of nested groups

Predicates are written in one pass over the flat clause. The text is that of the tree that the
steps describe, written recursively: every test behind its keyword, every group in one pair of
parentheses behind the keyword of the group, and the tests numbered through the whole tree.

* `flatText_flattenAll`: a tree laid flat is written like the tree;
* `compile_writes_tree`: so the predicates of a compiled statement are the text of the tree.
-/

namespace BoundSql

/-! ## The text of a test -/

/-- The text of an operand whose placeholders are named under `base`, with the space before it. -/
def operandText (base : String) (op : Operator) (operand : Option Value) : String :=
  if op.isUnary then ""
  else if op.isList then
    " (" ++ ", ".intercalate ((listPairs base operand).map fun entry => ":" ++ entry.1) ++ ")"
  else if op.isRange then " :" ++ base ++ "btw0 AND :" ++ base ++ "btw1"
  else " :" ++ base

/-- The text of a test at a position of the clause, without what stands before it. -/
def Condition.text (index : Nat) : Condition → String
  | .raw sql _ => sql
  | .compare field op operand =>
    field ++ " " ++ op.sql ++ operandText (stemText field ++ toString index) op operand

theorem sqlOf_elements (base : String) (items : List Value) :
    (elementParts base 0 items).map sqlOf =
      (listPairs base (some (.list items))).map fun entry => ":" ++ entry.1 := by
  simp [elementParts, listPairs, Part.sql]

/-- The parts of an operand that its operator takes are its text. -/
theorem sqlOf_operand {head base field : String} {op : Operator} {operand : Option Value}
    (hu : ¬ op.isUnary) (ht : op.Takes operand) :
    sqlOf (operandParts head base field op operand) = head ++ operandText base op operand := by
  have colon : (" :" : String) = " " ++ ":" := rfl
  rcases operandParts_of_takes hu ht with
    ⟨items, hl, rfl, h⟩ | ⟨low, high, hl, hr, rfl, h⟩ | ⟨value, hl, hr, rfl, h⟩
  · rw [h, operandText, if_neg hu, if_pos hl, sqlOf_cons, sqlOf_append, sqlOf_separated,
      sqlOf_elements]
    simp [Part.sql, String.append_assoc]
  · have andColon : ("btw0 AND :" : String) = "btw0" ++ (" AND " ++ ":") := rfl
    rw [h, operandText, if_neg hu, if_neg hl, if_pos hr]
    simp only [sqlOf_cons, sqlOf_nil, Part.sql, colon, andColon, String.append_assoc,
      String.append_empty]
  · rw [h, operandText, if_neg hu, if_neg hl, if_neg hr]
    simp only [sqlOf_cons, sqlOf_nil, Part.sql, colon, String.append_assoc, String.append_empty]

theorem sqlOf_condition {index : Nat} {test : Condition} (h : test.Fits) :
    sqlOf (test.parts index) = test.text index := by
  cases test with
  | raw sql values => simp [Condition.parts, Condition.text, Part.sql, sqlOf_asides]
  | compare field op operand =>
    unfold Condition.parts Condition.text compareParts
    by_cases hu : op.isUnary
    · simp [hu, operandText, Part.sql]
    · simp [hu, sqlOf_operand hu h, Part.sql, String.append_assoc]

/-! ## The flat text -/

/-- The text of a predicate, without what stands before its parentheses. -/
def Predicate.core (index : Nat) (p : Predicate) : String :=
  repeated '(' p.opens ++ p.condition.text index ++ repeated ')' p.closes

/-- The text of predicates from a position on, each behind its keyword. -/
def flatText (index : Nat) : List Predicate → String
  | [] => ""
  | p :: rest => p.condition.lead index p.conjunction ++ p.core index ++ flatText (index + 1) rest

/-- The same without what stands before the first. -/
def flatCore (index : Nat) : List Predicate → String
  | [] => ""
  | p :: rest => p.core index ++ flatText (index + 1) rest

theorem sqlOf_clauseParts {index : Nat} {predicates : List Predicate}
    (h : ∀ p ∈ predicates, p.condition.Fits) :
    sqlOf (clauseParts index predicates) = flatText index predicates := by
  induction predicates generalizing index with
  | nil => rfl
  | cons p rest ih =>
    rw [List.forall_mem_cons] at h
    rw [clauseParts_cons, sqlOf_append, ih h.2, flatText, Predicate.parts, Predicate.core]
    simp [Part.sql, sqlOf_condition h.1, String.append_assoc]

theorem flatText_append (index : Nat) (ps qs : List Predicate) :
    flatText index (ps ++ qs) = flatText index ps ++ flatText (index + ps.length) qs := by
  induction ps generalizing index with
  | nil => simp [flatText]
  | cons p rest ih =>
    rw [List.cons_append, flatText, ih, flatText, List.length_cons, Nat.add_right_comm,
      Nat.add_assoc]
    simp [String.append_assoc]

theorem flatCore_append {index : Nat} {ps qs : List Predicate} (h : ps ≠ []) :
    flatCore index (ps ++ qs) = flatCore index ps ++ flatText (index + ps.length) qs := by
  cases ps with
  | nil => exact absurd rfl h
  | cons p rest =>
    rw [List.cons_append, flatCore, flatText_append, flatCore, List.length_cons,
      Nat.add_right_comm, Nat.add_assoc]
    simp [String.append_assoc]

theorem repeated_succ (c : Char) (n : Nat) :
    repeated c (n + 1) = String.singleton c ++ repeated c n := by
  rw [repeated, List.replicate_succ, String.ofList_cons, repeated]

theorem repeated_succ_right (c : Char) (n : Nat) :
    repeated c (n + 1) = repeated c n ++ String.singleton c := by
  rw [repeated, List.replicate_succ', String.ofList_append, String.ofList_cons,
    String.ofList_nil, String.append_empty, repeated]

/-- One more group closing at a predicate closes behind its text. -/
theorem core_close (index : Nat) (p : Predicate) :
    Predicate.core index { p with closes := p.closes + 1 } = p.core index ++ ")" := by
  have close : (")" : String) = String.singleton ')' := rfl
  simp only [Predicate.core, repeated_succ_right, close, String.append_assoc]

/-- One more group opening at a predicate opens before its text. -/
theorem core_open (index : Nat) (c : Conjunction) (p : Predicate) :
    Predicate.core index { p with conjunction := c, opens := p.opens + 1 } =
      "(" ++ p.core index := by
  have opening : ("(" : String) = String.singleton '(' := rfl
  simp only [Predicate.core, repeated_succ, opening, String.append_assoc]

theorem flatText_closeLast {index : Nat} {ps : List Predicate} (h : ps ≠ []) :
    flatText index (closeLast ps) = flatText index ps ++ ")" := by
  fun_induction closeLast ps generalizing index with
  | case1 => exact absurd rfl h
  | case2 p => simp only [flatText, core_close, String.append_assoc, String.append_empty]
  | case3 p q rest ih =>
    rw [flatText, ih (by simp), flatText.eq_2 index p]
    simp only [String.append_assoc]

theorem flatCore_closeLast {index : Nat} {ps : List Predicate} (h : ps ≠ []) :
    flatCore index (closeLast ps) = flatCore index ps ++ ")" := by
  fun_cases closeLast ps with
  | case1 => exact absurd rfl h
  | case2 p => simp only [flatCore, flatText, core_close, String.append_empty]
  | case3 p q rest =>
    rw [flatCore, flatText_closeLast (by simp), flatCore, String.append_assoc]

theorem flatCore_openFirst {index : Nat} (c : Conjunction) {ps : List Predicate} (h : ps ≠ []) :
    flatCore index (openFirst c ps) = "(" ++ flatCore index ps := by
  cases ps with
  | nil => exact absurd rfl h
  | cons p rest => rw [openFirst, flatCore, core_open, flatCore, String.append_assoc]

/-! ## The text of a tree -/

namespace Tree

/-- What stands before a tree at a position of the clause: what stands before its first test when
that is joined like the tree. -/
def lead (index : Nat) (tree : Tree) : String :=
  tree.head.lead index tree.conjunction

mutual

/-- The text of a tree at a position of the clause, behind its keyword. -/
def text (index : Nat) : Tree → String
  | test _ condition => condition.text index
  | group _ first rest =>
    "(" ++ first.text index ++ textAll (index + first.size) rest ++ ")"

/-- The text of trees from a position on, each behind its keyword. -/
def textAll (index : Nat) : List Tree → String
  | [] => ""
  | tree :: rest => tree.lead index ++ tree.text index ++ textAll (index + tree.size) rest

end

/-- A tree laid flat has what stands before it in front of its text. -/
theorem flatText_eq_lead (index : Nat) (tree : Tree) :
    flatText index tree.flatten = tree.lead index ++ flatCore index tree.flatten := by
  obtain ⟨p, rest, h, hc, hj⟩ := flatten_eq_cons tree
  rw [h, flatText, flatCore, lead, ← hc, ← hj, String.append_assoc]

mutual

/-- A tree laid flat is written like the tree. -/
theorem flatCore_flatten (index : Nat) (tree : Tree) :
    flatCore index tree.flatten = tree.text index := by
  cases tree with
  | test c condition =>
    simp [flatten, flatCore, flatText, Predicate.core, repeated, text]
  | group c first rest =>
    -- A group has a first and a last predicate to count its parentheses at.
    have hf := flatten_ne_nil first
    have hne : first.flatten ++ flattenAll rest ≠ [] := by simp [hf]
    have ho : openFirst c (first.flatten ++ flattenAll rest) ≠ [] := by
      rw [← List.length_pos_iff, Clause.length_openFirst]
      exact List.length_pos_iff.2 hne
    rw [flatten, flatCore_closeLast ho, flatCore_openFirst c hne, flatCore_append hf,
      length_flatten, flatCore_flatten index first, flatText_flattenAll, text]
    simp only [String.append_assoc]

/-- So are trees. -/
theorem flatText_flattenAll (index : Nat) (trees : List Tree) :
    flatText index (flattenAll trees) = textAll index trees := by
  cases trees with
  | nil => rfl
  | cons tree rest =>
    rw [flattenAll, flatText_append, flatText_eq_lead, flatCore_flatten index tree,
      length_flatten, flatText_flattenAll (index + tree.size) rest, textAll]

end

end Tree

/-! ## The text of a statement -/

/-- The predicates of a compiled statement are the text of the tree that the steps describe, between
the joins and the rest. -/
theorem compile_writes_tree {table : String} {intent : Intent} {clauses : Clauses}
    {steps : List Step} {compiled : Compiled}
    (h : Clause.empty.applyAll steps = .ok clauses.conditions)
    (hc : compile table intent clauses = .ok compiled) :
    ∃ trees first, Step.treesAll steps = .ok trees ∧ compileIntent table intent = .ok first ∧
      (writePredicates 0 clauses.conditions.predicates).run first.values =
        .ok (Tree.textAll 0 trees, compiled.values) ∧
      compiled.sql =
        first.sql ++ writeJoins clauses.joins ++ Tree.textAll 0 trees ++ clauses.writeTail := by
  obtain ⟨trees, ht, hp⟩ := predicates_of_applyAll h
  obtain ⟨hr, rfl⟩ := compile_eq_ok_iff.1 hc
  have hfits := fits_of_applyAll h
  rw [Clause.conditions, List.forall_mem_map] at hfits
  have text : sqlOf (clauseParts 0 clauses.conditions.predicates) = Tree.textAll 0 trees := by
    rw [sqlOf_clauseParts hfits, hp, Tree.flatText_flattenAll]
  -- A layout that is ready is ready up to the end of its clause, which can so be run alone.
  obtain ⟨hi, hr⟩ := ready_append.1 hr
  obtain ⟨-, -, hr⟩ := ready_cons.1 hr
  obtain ⟨hw, -⟩ := ready_append.1 hr
  refine ⟨trees, ⟨sqlOf (intent.parts table), OrderedMap.ofList (pairsOf (intent.parts table))⟩,
    ht, ?_, ?_, ?_⟩
  · rw [compileIntent, intent.write_eq, Binder.compiled, run_writeParts_of_ready hi]
    rfl
  · rw [writePredicates_eq]
    have values : pairsOf (layout table intent clauses) =
        pairsOf (intent.parts table) ++
          pairsOf (clauseParts 0 clauses.conditions.predicates) := by
      simp [layout, Part.pairs]
    refine (run_writeParts_of_ready hw).trans ?_
    rw [text, values, OrderedMap.ofList, OrderedMap.insertAll_append]
    rfl
  · simp [layout, text, Part.sql, String.append_assoc]

/-- A group that begins with an empty group and ends with another group, SQL as given after it, and
a list numbered across both. -/
theorem compile_writes_tree_nested :
    ∃ steps conditions compiled,
      steps = [.group .and [.group .or [], .compare .and "a" .gt (.int 1),
          .group .or [.equal .and "b" (.text "x"), .nullTest .or "c" false]],
        .raw "AND d = :d" (.ofList [("d", .int 2)]),
        .compare .or "e" .isIn (.list [.int 3, .int 4])] ∧
      Clause.empty.applyAll steps = .ok conditions ∧
      compile "t" .delete { conditions } = .ok compiled ∧
      compiled.sql = "DELETE FROM t WHERE (a > :a0 OR (b = :b1 OR c IS NULL)) AND d = :d" ++
        " OR e IN (:e4in0, :e4in1)" ∧
      ∃ trees first, Step.treesAll steps = .ok trees ∧ compileIntent "t" .delete = .ok first ∧
        (writePredicates 0 conditions.predicates).run first.values =
          .ok (Tree.textAll 0 trees, compiled.values) ∧
        compiled.sql = first.sql ++ writeJoins [] ++ Tree.textAll 0 trees ++
          Clauses.writeTail { conditions } :=
  ⟨_, _, _, rfl, rfl, rfl, rfl, @compile_writes_tree "t" .delete { conditions := _ } _ _ rfl rfl⟩

end BoundSql
