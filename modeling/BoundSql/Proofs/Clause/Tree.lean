import BoundSql.Clause.Step

/-!
# The tree of a clause

Steps describe a tree: tests, and groups of tests and groups. A group that stays empty is no part of
it, so a group of a tree always holds something. The clause that steps build is the tree laid flat
(`flattenAll`), with the parentheses of a group counted at its first and its last test.

* `apply_eq`, `applyAll_eq`: what steps add to a clause is their trees laid flat;
* `predicates_of_applyAll`: so the clause that steps build is;
* `length_flatten`: a tree has as many tests as predicates;
* `flatten_eq_cons`: the first predicate of a tree has the tree's conjunction.
-/

namespace BoundSql

/-- A test, or a group that holds at least one test or group. -/
inductive Tree where
  | test (conjunction : Conjunction) (condition : Condition)
  | group (conjunction : Conjunction) (first : Tree) (rest : List Tree)

namespace Tree

/-- How the tree is joined to the one before it. -/
def conjunction : Tree → Conjunction
  | test c _ => c
  | group c _ _ => c

/-- The first test of a tree. -/
def head : Tree → Condition
  | test _ condition => condition
  | group _ first _ => first.head

/-- Trees as one group, unless there are none. -/
def groupOf (c : Conjunction) : List Tree → List Tree
  | [] => []
  | first :: rest => [group c first rest]

mutual

/-- The number of tests of a tree. -/
def size : Tree → Nat
  | test _ _ => 1
  | group _ first rest => first.size + sizeAll rest

/-- The number of tests of trees. -/
def sizeAll : List Tree → Nat
  | [] => 0
  | tree :: rest => tree.size + sizeAll rest

end

mutual

/-- The predicates of a tree. -/
def flatten : Tree → List Predicate
  | test c condition => [{ conjunction := c, condition }]
  | group c first rest => closeLast (openFirst c (first.flatten ++ flattenAll rest))

/-- The predicates of trees, in order. -/
def flattenAll : List Tree → List Predicate
  | [] => []
  | tree :: rest => tree.flatten ++ flattenAll rest

end

theorem flattenAll_append (ts us : List Tree) :
    flattenAll (ts ++ us) = flattenAll ts ++ flattenAll us := by
  induction ts with
  | nil => rfl
  | cons tree rest ih => rw [List.cons_append, flattenAll, flattenAll, ih, List.append_assoc]

theorem flattenAll_groupOf (c : Conjunction) (trees : List Tree) :
    flattenAll (groupOf c trees) = closeLast (openFirst c (flattenAll trees)) := by
  cases trees with
  | nil => rfl
  | cons first rest => rw [groupOf, flattenAll, flattenAll, flatten, List.append_nil, flattenAll]

mutual

theorem length_flatten : ∀ tree : Tree, tree.flatten.length = tree.size
  | test _ _ => rfl
  | group c first rest => by
    rw [flatten, Clause.length_closeLast, Clause.length_openFirst, List.length_append,
      length_flatten first, length_flattenAll rest, size]

theorem length_flattenAll : ∀ trees : List Tree, (flattenAll trees).length = sizeAll trees
  | [] => rfl
  | tree :: rest => by
    rw [flattenAll, List.length_append, length_flatten tree, length_flattenAll rest, sizeAll]

end

theorem closeLast_eq_cons (p : Predicate) (rest : List Predicate) :
    ∃ q others, closeLast (p :: rest) = q :: others ∧ q.condition = p.condition ∧
      q.conjunction = p.conjunction := by
  cases rest with
  | nil => exact ⟨_, _, rfl, rfl, rfl⟩
  | cons q rest => exact ⟨_, _, rfl, rfl, rfl⟩

/-- A tree begins with its first test, under the conjunction of the tree. -/
theorem flatten_eq_cons : ∀ tree : Tree, ∃ p rest, tree.flatten = p :: rest ∧
    p.condition = tree.head ∧ p.conjunction = tree.conjunction
  | test c condition => ⟨_, _, rfl, rfl, rfl⟩
  | group c first rest => by
    obtain ⟨p, others, hf, hp, -⟩ := flatten_eq_cons first
    obtain ⟨q, tail, hq, hc, hj⟩ := closeLast_eq_cons
      { p with conjunction := c, opens := p.opens + 1 } (others ++ flattenAll rest)
    refine ⟨q, tail, ?_, hc.trans hp, hj⟩
    rw [flatten, hf, ← hq]
    rfl

theorem flatten_ne_nil (tree : Tree) : tree.flatten ≠ [] := by
  obtain ⟨p, rest, h, -, -⟩ := flatten_eq_cons tree
  rw [h]
  exact List.cons_ne_nil p rest

end Tree

namespace Step

/-- The comparison of a field that a given value makes. -/
def comparison (field : String) (op : Operator) (given : Value) : Except Error Condition := do
  return .compare field op (← op.operandOf field (some given))

mutual

/-- The trees of a step: a test, a group, or nothing when the group stays empty. -/
def trees : Step → Except Error (List Tree)
  | .equal c field value => do
    let condition ← comparison field (Clause.equality value).1 (Clause.equality value).2
    return [.test c condition]
  | .compare c field op value => do
    let condition ← comparison field op value
    return [.test c condition]
  | .token c field word value => do
    let (op, operand) := Clause.tokenComparison word value
    let condition ← comparison field op operand
    return [.test c condition]
  | .nullTest c field negated =>
    return [.test c (.compare field (if negated then .isNotNull else .isNull) none)]
  | .group c steps => do
    let trees ← treesAll steps
    return Tree.groupOf c trees
  | .raw sql values => return [.test .and (.raw sql values)]

/-- The trees of steps, in order. -/
def treesAll : List Step → Except Error (List Tree)
  | [] => return []
  | step :: rest => do
    let first ← step.trees
    let others ← treesAll rest
    return first ++ others

end

end Step

namespace Clause

theorem pushCompare_eq (clause : Clause) (c : Conjunction) (field : String) (op : Operator)
    (given : Value) :
    clause.pushCompare c field op (some given) =
      (do
        let condition ← Step.comparison field op given
        return clause.push { conjunction := c, condition }) := by
  unfold pushCompare Step.comparison
  cases op.operandOf field (some given) <;> rfl

/-- The clause with trees laid flat at the end. -/
def plant (clause : Clause) (trees : List Tree) : Clause :=
  ⟨clause.predicates ++ Tree.flattenAll trees⟩

theorem plant_append (clause : Clause) (ts us : List Tree) :
    clause.plant (ts ++ us) = (clause.plant ts).plant us := by
  simp [plant, Tree.flattenAll_append]

theorem plant_groupOf (clause : Clause) (c : Conjunction) (trees : List Tree) :
    clause.plant (Tree.groupOf c trees) = clause.pushGroup c (empty.plant trees) := by
  simp [plant, Tree.flattenAll_groupOf, pushGroup, empty]

theorem pushCompare_eq_plant (clause : Clause) (c : Conjunction) (field : String) (op : Operator)
    (given : Value) :
    clause.pushCompare c field op (some given) =
      clause.plant <$> (do
        let condition ← Step.comparison field op given
        return [.test c condition]) := by
  rw [pushCompare_eq]
  cases Step.comparison field op given <;> rfl

mutual

/-- What a step adds to a clause is its trees laid flat. -/
theorem apply_eq (clause : Clause) (step : Step) :
    clause.apply step = clause.plant <$> step.trees := by
  cases step with
  | equal c field value => rw [apply, pushEqual, pushCompare_eq_plant, Step.trees]
  | compare c field op value => rw [apply, pushCompare_eq_plant, Step.trees]
  | token c field token value => rw [apply, pushToken, pushCompare_eq_plant, Step.trees]
  | nullTest c field negated => rfl
  | group c steps =>
    rw [apply, applyAll_eq empty steps, Step.trees]
    cases Step.treesAll steps with
    | error e => rfl
    | ok trees => exact congrArg Except.ok (plant_groupOf clause c trees).symm
  | raw sql values => rfl

/-- So is what steps add. -/
theorem applyAll_eq (clause : Clause) (steps : List Step) :
    clause.applyAll steps = clause.plant <$> Step.treesAll steps := by
  cases steps with
  | nil => simp [applyAll, Step.treesAll, plant, Tree.flattenAll]; rfl
  | cons step rest =>
    rw [applyAll, apply_eq clause step, Step.treesAll]
    cases step.trees with
    | error e => rfl
    | ok first =>
      show (clause.plant first).applyAll rest = _
      rw [applyAll_eq (clause.plant first) rest]
      cases Step.treesAll rest with
      | error e => rfl
      | ok others => exact congrArg Except.ok (plant_append clause first others).symm

end

end Clause

/-- The trees of steps that build a clause are the clause. -/
theorem predicates_of_applyAll {clause : Clause} {steps : List Step}
    (h : Clause.empty.applyAll steps = .ok clause) :
    ∃ trees, Step.treesAll steps = .ok trees ∧ clause.predicates = Tree.flattenAll trees := by
  rw [Clause.applyAll_eq] at h
  cases ht : Step.treesAll steps with
  | error e =>
    rw [ht] at h
    cases h
  | ok trees =>
    rw [ht] at h
    cases h
    exact ⟨trees, rfl, List.nil_append _⟩

end BoundSql
