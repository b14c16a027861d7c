import BoundSql.Proofs.Clause.Scope
import BoundSql.Proofs.Statement.Nesting

/-!
# How groups are joined

A group is joined by its own conjunction, which its first predicate carries. What stands between a
group and what comes before it is therefore written, or not, by the kind of that predicate: a
comparison has a keyword, SQL that is written as given has none, and then the group has none either.

* `flatCore_wrapped`: the text of predicates inside groups;
* `flatText_eq_of_stands`: the text of a clause around a piece of it;
* `group_joined_iff`: a group keeps its conjunction exactly when it does not begin with SQL written
  as given, at every place of a program.
-/

namespace BoundSql

/-! ## The text of predicates inside groups -/

theorem flatCore_openings (index : Nat) (groups : List Conjunction) {ps : List Predicate}
    (h : ps ≠ []) :
    flatCore index (openings groups ps) = repeated '(' groups.length ++ flatCore index ps := by
  have opening : ("(" : String) = String.singleton '(' := rfl
  induction groups with
  | nil => exact String.empty_append.symm
  | cons c rest ih =>
    rw [openings, List.foldr_cons, ← openings, flatCore_openFirst c (openings_ne_nil rest h), ih,
      List.length_cons, repeated_succ, opening, String.append_assoc]

theorem flatCore_closings (index n : Nat) {ps : List Predicate} (h : ps ≠ []) :
    flatCore index (closings n ps) = flatCore index ps ++ repeated ')' n := by
  have closing : (")" : String) = String.singleton ')' := rfl
  induction n generalizing ps with
  | zero => exact String.append_empty.symm
  | succ n ih =>
    have hc : closeLast ps ≠ [] := by
      rw [← List.length_pos_iff, Clause.length_closeLast]
      exact List.length_pos_iff.2 h
    rw [closings, ih hc, flatCore_closeLast h, repeated_succ, closing, String.append_assoc]

/-- Predicates inside groups are written inside as many parentheses. -/
theorem flatCore_wrapped (index n : Nat) (groups : List Conjunction) {ps : List Predicate}
    (h : ps ≠ []) :
    flatCore index (closings n (openings groups ps)) =
      repeated '(' groups.length ++ flatCore index ps ++ repeated ')' n := by
  rw [flatCore_closings index n (openings_ne_nil groups h), flatCore_openings index groups h]

/-- A group is written in a pair of parentheses. -/
theorem flatCore_group (index : Nat) (c : Conjunction) {ps : List Predicate} (h : ps ≠ []) :
    flatCore index (closeLast (openFirst c ps)) = "(" ++ flatCore index ps ++ ")" :=
  flatCore_wrapped index 1 [c] h

/-- Before predicates inside groups stands what their first one says of how it is joined, which is
how the outermost group is. -/
theorem flatText_wrapped (index n : Nat) (groups : List Conjunction) (p : Predicate)
    (rest : List Predicate) :
    flatText index (closings n (openings groups (p :: rest))) =
      p.condition.lead index (groups.head?.getD p.conjunction) ++
        (repeated '(' groups.length ++ flatCore index (p :: rest) ++ repeated ')' n) := by
  obtain ⟨q, others, hq, hc, hj⟩ := closings_openings_eq_cons n groups p rest
  have split : flatText index (q :: others) =
      q.condition.lead index q.conjunction ++ flatCore index (q :: others) := by
    rw [flatText, flatCore, String.append_assoc]
  rw [hq, split, hc, hj, ← hq, flatCore_wrapped index n groups (List.cons_ne_nil p rest)]

/-- The text of a clause around a piece of it. -/
theorem flatText_eq_of_stands {clause rest : List Predicate} {n : Nat} {groups : List Conjunction}
    {p : Predicate} (h : Stands clause n groups (p :: rest)) :
    ∃ right, flatText 0 clause = flatText 0 (clause.take n) ++
      p.condition.lead n (groups.head?.getD p.conjunction) ++
      repeated '(' groups.length ++ flatCore n (p :: rest) ++ right := by
  obtain ⟨left, closed, after, rfl, rfl⟩ := h
  refine ⟨repeated ')' closed ++ flatText (left.length +
    (closings closed (openings groups (p :: rest))).length) after, ?_⟩
  rw [List.take_left' rfl, flatText_append, flatText_append, Nat.zero_add, flatText_wrapped]
  simp only [String.append_assoc]

/-! ## The conjunction of a group -/

/-- What stands before a test is a keyword between spaces exactly when the test is no SQL written as
given. -/
theorem lead_eq_iff (p : Predicate) (index : Nat) (c : Conjunction) :
    p.condition.lead index c = " " ++ (if index = 0 then "WHERE" else c.sql) ++ " " ↔
      p.isRaw = false := by
  unfold Predicate.isRaw Condition.lead
  cases p.condition with
  | compare field op operand => exact ⟨fun _ => rfl, fun _ => rfl⟩
  | raw sql values =>
    refine ⟨fun h => ?_, nofun⟩
    have length := congrArg String.length h
    simp only [String.length_append] at length
    have space : (" " : String).length = 1 := rfl
    omega

theorem lead_of_isRaw {p : Predicate} (h : p.isRaw = true) (index : Nat) (c : Conjunction) :
    p.condition.lead index c = " " := by
  unfold Predicate.isRaw at h
  unfold Condition.lead
  cases hp : p.condition with
  | raw sql values => rfl
  | compare field op operand =>
    rw [hp] at h
    cases h

/-- The text of a statement over steps that build its clause. -/
theorem sql_of_compile {table : String} {intent : Intent} {clauses : Clauses} {steps : List Step}
    {compiled : Compiled} (h : Clause.empty.applyAll steps = .ok clauses.conditions)
    (hc : compile table intent clauses = .ok compiled) :
    compiled.sql = sqlOf (intent.parts table) ++ writeJoins clauses.joins ++
      flatText 0 clauses.conditions.predicates ++ clauses.writeTail := by
  obtain ⟨-, rfl⟩ := compile_eq_ok_iff.1 hc
  have hfits := fits_of_applyAll h
  rw [Clause.conditions, List.forall_mem_map] at hfits
  simp [layout, sqlOf_clauseParts hfits, Part.sql, String.append_assoc]

/-- A group at any place of a program that compiles, behind the predicates that the program has
before it. When some of these stand in the same scope, the conjunction of the group is written
between them and its parenthesis exactly when the group does not begin with SQL written as given,
and so is `WHERE` when nothing stands before the group at all. Otherwise the group has no keyword,
and its conjunction is lost. -/
theorem group_joined_iff {table : String} {intent : Intent} {clauses : Clauses}
    {steps : List Step} {compiled : Compiled}
    (h : Clause.empty.applyAll steps = .ok clauses.conditions)
    (hc : compile table intent clauses = .ok compiled) {n : Nat} {before inner after : List Step}
    {c : Conjunction} (hs : Step.Scope steps n (before ++ .group c inner :: after)) :
    ∃ first group, Clause.empty.applyAll before = .ok first ∧
      Clause.empty.applyAll inner = .ok group ∧
      ∀ p rest, group.predicates = p :: rest →
        ∃ gap around right,
          compiled.sql = sqlOf (intent.parts table) ++ writeJoins clauses.joins ++
            (flatText 0 (clauses.conditions.predicates.take (n + first.predicates.length)) ++ gap ++
              repeated '(' around ++
              ("(" ++ flatCore (n + first.predicates.length) group.predicates ++ ")") ++ right) ++
            clauses.writeTail ∧
          (first.predicates ≠ [] →
            around = 0 ∧ (gap = " " ++ c.sql ++ " " ↔ p.isRaw = false)) ∧
          (n + first.predicates.length = 0 → (gap = " WHERE " ↔ p.isRaw = false)) ∧
          (p.isRaw = true → gap = " ") := by
  obtain ⟨scope, ho, stands⟩ := hs.stands h
  obtain ⟨first, group, others, hf, hg, hscope⟩ := predicates_of_group ho
  refine ⟨first, group, hf, hg, fun p rest hp => ?_⟩
  have hne : group.predicates ≠ [] := hp ▸ List.cons_ne_nil p rest
  obtain ⟨q, tail, hq, hcond, hconj⟩ :
      ∃ q tail, closeLast (openFirst c group.predicates) = q :: tail ∧
        q.condition = p.condition ∧ q.conjunction = c :=
    hp ▸ closings_openings_eq_cons 1 [c] p rest
  have hcore := flatCore_group (n + first.predicates.length) c hne
  obtain ⟨groups, stands⟩ := stands (by simp [hscope, hq])
  rw [hscope] at stands
  obtain ⟨around, alone, stands⟩ := stands.group hne
  rw [hq] at hcore stands
  obtain ⟨right, htext⟩ := flatText_eq_of_stands stands
  rw [hcond, hconj, hcore] at htext
  refine ⟨p.condition.lead (n + first.predicates.length) (around.head?.getD c), around.length,
    right, ?_, fun hb => ?_, fun hz => ?_, fun hraw => lead_of_isRaw hraw _ _⟩
  · rw [← htext, sql_of_compile h hc]
  · obtain rfl := alone hb
    have hpos : n + first.predicates.length ≠ 0 :=
      Nat.ne_of_gt (Nat.add_pos_right n (List.length_pos_iff.2 hb))
    have iff := lead_eq_iff p (n + first.predicates.length) c
    rw [if_neg hpos] at iff
    exact ⟨rfl, iff⟩
  · rw [hz]
    exact lead_eq_iff p 0 _

/-- A group of alternatives behind a test, both in a group that opens the clause. -/
theorem group_joined_iff_nested :
    ∃ conditions compiled right,
      Clause.empty.applyAll [.group .and [.equal .and "a" (.int 1),
        .group .or [.equal .and "b" (.int 2), .nullTest .or "c" false]]] = .ok conditions ∧
      compile "t" .delete { conditions } = .ok compiled ∧
      flatText 0 (conditions.predicates.take 1) = " WHERE (a = :a0" ∧
      compiled.sql = "DELETE FROM t" ++ writeJoins [] ++
        (flatText 0 (conditions.predicates.take 1) ++ " OR " ++ repeated '(' 0 ++
          ("(" ++ "b = :b1 OR c IS NULL" ++ ")") ++ right) ++ Clauses.writeTail { conditions } := by
  have scope : Step.Scope [.group .and [.equal .and "a" (.int 1),
      .group .or [.equal .and "b" (.int 2), .nullTest .or "c" false]]] 0
      ([.equal .and "a" (.int 1)] ++
        .group .or [.equal .and "b" (.int 2), .nullTest .or "c" false] :: []) :=
    .inside .whole (rfl : Clause.empty.applyAll [] = _)
  obtain ⟨first, group, hf, hg, joined⟩ :=
    @group_joined_iff "t" .delete { conditions := _ } _ _ rfl rfl _ _ _ _ _ scope
  cases hf
  cases hg
  obtain ⟨gap, around, right, hsql, keyword, -⟩ := joined _ _ rfl
  obtain ⟨rfl, written⟩ := keyword (List.cons_ne_nil _ _)
  obtain rfl := written.2 rfl
  exact ⟨_, _, right, rfl, rfl, by decide +kernel, hsql⟩

/-- A group that begins with SQL written as given loses its conjunction. -/
theorem raw_group_loses_conjunction :
    ∃ conditions compiled,
      Clause.empty.applyAll [.equal .and "a" (.int 1), .group .or [.raw "b IS NULL" ∅]] =
        .ok conditions ∧
      compile "t" (.select []) { conditions } = .ok compiled ∧
      compiled.sql = "SELECT * FROM t WHERE a = :a0" ++ " " ++ "(b IS NULL)" ∧
      compiled.sql ≠ "SELECT * FROM t WHERE a = :a0" ++ " OR " ++ "(b IS NULL)" :=
  ⟨_, _, rfl, rfl, by decide +kernel, by decide +kernel⟩

end BoundSql
