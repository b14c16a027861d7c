import BoundSql.Clause.Step
import Mathlib.Data.List.Basic

/-!
# Operands of built clauses

What a step asks for are tests with operands as they are given (`Step.asked`). A given value is
brought into the form of an operand (`Operator.shaped`): a single value becomes a list of one for a
list operator, and no value becomes null for an operator of a single value. It must then have the
shape that the operator takes (`Operator.Takes`): no operand for a test for null, scalars for a
list, two bounds for a range, one scalar otherwise.

* `operandOf_cases`: the operand of a test is the shaped one, if it fits, and a fault that names the
  operator and the field otherwise;
* `conditions_applyAll`: what steps add are the tests that they ask for, checked in order, since
  groups keep the tests that they are given (`conditions_pushGroup`);
* `fits_of_applyAll`: so every operand of a clause that steps build fits.
-/

namespace BoundSql

/-! ## Operands -/

namespace Operator

/-- The operand has the shape that the operator takes. -/
def Takes (op : Operator) (operand : Option Value) : Prop :=
  if op.isUnary then operand = none
  else if op.isList then
    ∃ items, operand = some (.list items) ∧ items ≠ [] ∧ ∀ item ∈ items, item.isList = false
  else if op.isRange then ∃ low high, operand = some (.list [low, high])
  else ∃ value, operand = some value ∧ value.isList = false

/-- The elements of a list; of a single value, itself. -/
def itemsOf : Option Value → List Value
  | some (.list items) => items
  | some value => [value]
  | none => []

/-- A given value in the form of an operand. -/
def shaped (op : Operator) (given : Option Value) : Option Value :=
  if op.isUnary then none
  else if op.isList then some (.list (itemsOf given))
  else if op.isRange then given
  else some (given.getD .null)

/-- A fault of an operand, which names its operator and its field. -/
inductive OperandFault (op : Operator) (field : String) : ArgumentFault → Prop where
  | emptyList : OperandFault op field (.emptyList op field)
  | nestedOperand : OperandFault op field (.nestedOperand op field)
  | boundCount (count : Nat) : OperandFault op field (.boundCount op field count)
  | noBounds : OperandFault op field (.noBounds op field)
  | listOperand : OperandFault op field (.listOperand op field)

/-- An operand is the given value in its form if the operator takes that, and at fault otherwise. -/
theorem operandOf_cases (op : Operator) (field : String) (given : Option Value) :
    (op.Takes (op.shaped given) ∧ op.operandOf field given = .ok (op.shaped given)) ∨
    (¬ op.Takes (op.shaped given) ∧ ∃ fault, op.OperandFault field fault ∧
      op.operandOf field given = .error (.invalidArgument fault)) := by
  fun_cases operandOf op field given with
  | case1 _ hu => simp [shaped, Takes, hu]
  | case2 _ hu hl items hn =>
    have hi : itemsOf given = items := rfl
    refine .inr ⟨?_, _, .emptyList, rfl⟩
    simp [shaped, Takes, hu, hl, hi, List.isEmpty_iff.1 hn]
  | case3 _ hu hl items hn hs =>
    have hi : itemsOf given = items := rfl
    refine .inr ⟨?_, _, .nestedOperand, rfl⟩
    simpa [shaped, Takes, hu, hl, hi] using fun _ => List.any_eq_true.1 hs
  | case4 _ hu hl items hn hs =>
    have hi : itemsOf given = items := rfl
    have hne : items ≠ [] := by simpa using hn
    have hscalars : ∀ item ∈ items, item.isList = false := by simpa using hs
    simpa [shaped, Takes, hu, hl, hi] using ⟨hne, hscalars⟩
  | case5 hu hl hr items h2 =>
    simpa [shaped, Takes, hu, hl, hr] using List.length_eq_two.1 h2
  | case6 hu hl hr items h2 =>
    refine .inr ⟨?_, _, .boundCount _, rfl⟩
    simpa [shaped, Takes, hu, hl, hr] using mt List.length_eq_two.2 h2
  | case7 _ hu hl hr h =>
    refine .inr ⟨?_, _, .noBounds, rfl⟩
    simpa [shaped, Takes, hu, hl, hr] using fun low high => h [low, high]
  | case8 hu hl hr items =>
    refine .inr ⟨?_, _, .listOperand, rfl⟩
    simp [shaped, Takes, hu, hl, hr, Value.isList]
  | case9 hu hl hr value h =>
    have hv : value.isList = false := by
      cases value with
      | list items => exact (h items rfl).elim
      | _ => rfl
    simpa [shaped, Takes, hu, hl, hr] using hv
  | case10 hu hl hr => simp [shaped, Takes, hu, hl, hr, Value.isList]

end Operator

/-! ## Tests -/

namespace Condition

/-- The operand of a comparison fits its operator. -/
def Fits : Condition → Prop
  | .raw _ _ => True
  | .compare _ op operand => op.Takes operand

/-- The test is no SQL written as given. -/
def IsComparison : Condition → Prop
  | .raw _ _ => False
  | .compare _ _ _ => True

instance : DecidablePred IsComparison
  | .raw _ _ => isFalse id
  | .compare _ _ _ => isTrue trivial

/-- A test with its operand in form. -/
def shaped : Condition → Condition
  | .compare field op given => .compare field op (op.shaped given)
  | .raw sql values => .raw sql values

/-- A test with its operand checked. -/
def checked : Condition → Except Error Condition
  | .compare field op given => do return .compare field op (← op.operandOf field given)
  | .raw sql values => .ok (.raw sql values)

/-- The fault is that of the operand of the test. -/
def Faulted (fault : ArgumentFault) : Condition → Prop
  | .raw _ _ => False
  | .compare field op _ => op.OperandFault field fault

theorem checked_cases (asked : Condition) :
    (asked.shaped.Fits ∧ asked.checked = .ok asked.shaped) ∨
    (¬ asked.shaped.Fits ∧ ∃ fault, asked.Faulted fault ∧
      asked.checked = .error (.invalidArgument fault)) := by
  cases asked with
  | raw sql values => exact .inl ⟨trivial, rfl⟩
  | compare field op given =>
    refine (op.operandOf_cases field given).imp ?_ ?_
    · rintro ⟨ht, ho⟩
      exact ⟨ht, by rw [checked, ho]; rfl⟩
    · rintro ⟨ht, fault, hf, ho⟩
      exact ⟨ht, fault, hf, by rw [checked, ho]; rfl⟩

/-- Tests are checked in order. -/
theorem mapM_checked_cases (asked : List Condition) :
    ((∀ test ∈ asked, test.shaped.Fits) ∧ asked.mapM checked = .ok (asked.map shaped)) ∨
    (¬ (∀ test ∈ asked, test.shaped.Fits) ∧ ∃ fault, (∃ test ∈ asked, test.Faulted fault) ∧
      asked.mapM checked = .error (.invalidArgument fault)) := by
  induction asked with
  | nil => exact .inl ⟨nofun, rfl⟩
  | cons test rest ih =>
    rw [List.forall_mem_cons, List.mapM_cons]
    -- The first test that does not fit decides the fault.
    rcases test.checked_cases with ⟨hfits, hc⟩ | ⟨hfits, fault, hfault, hc⟩
    · rw [hc]
      rcases ih with ⟨hrest, hm⟩ | ⟨hrest, fault, ⟨other, hmem, hfault⟩, hm⟩
      · rw [hm]
        exact .inl ⟨⟨hfits, hrest⟩, rfl⟩
      · rw [hm]
        exact .inr ⟨fun h => hrest h.2, fault, ⟨other, .tail _ hmem, hfault⟩, rfl⟩
    · rw [hc]
      exact .inr ⟨fun h => hfits h.1, fault, ⟨test, List.mem_cons_self, hfault⟩, rfl⟩

end Condition

/-! ## Tests that steps ask for -/

mutual

/-- The tests that a step asks for, with operands as they are given. -/
def Step.asked : Step → List Condition
  | .equal _ field value =>
    [.compare field (Clause.equality value).1 (some (Clause.equality value).2)]
  | .compare _ field op value => [.compare field op (some value)]
  | .token _ field word value =>
    [.compare field (Clause.tokenComparison word value).1
      (some (Clause.tokenComparison word value).2)]
  | .nullTest _ field negated => [.compare field (if negated then .isNotNull else .isNull) none]
  | .group _ steps => askedAll steps
  | .raw sql values => [.raw sql values]

/-- The tests that steps ask for, in order. -/
def Step.askedAll : List Step → List Condition
  | [] => []
  | step :: rest => step.asked ++ askedAll rest

end

mutual

/-- The step adds no SQL written as given, in groups neither. -/
def Step.isStructured : Step → Bool
  | .raw _ _ => false
  | .group _ steps => areStructured steps
  | .equal _ _ _ | .compare _ _ _ _ | .token _ _ _ _ | .nullTest _ _ _ => true

/-- No step adds SQL written as given. -/
def Step.areStructured : List Step → Bool
  | [] => true
  | step :: rest => step.isStructured && areStructured rest

end

mutual

theorem Step.isComparison_of_isStructured :
    ∀ step : Step, step.isStructured = true → ∀ test ∈ step.asked, test.IsComparison
  | .equal _ _ _, _ | .compare _ _ _ _, _ | .token _ _ _ _, _ | .nullTest _ _ _, _ =>
    List.forall_mem_singleton.2 trivial
  | .group _ steps, h => isComparison_of_areStructured steps h
  | .raw _ _, h => by cases h

theorem Step.isComparison_of_areStructured :
    ∀ steps : List Step, areStructured steps = true → ∀ test ∈ askedAll steps, test.IsComparison
  | [], _ => List.forall_mem_nil _
  | step :: rest, h => by
    obtain ⟨hstep, hrest⟩ := Bool.and_eq_true_iff.1 h
    rw [askedAll, List.forall_mem_append]
    exact ⟨step.isComparison_of_isStructured hstep, isComparison_of_areStructured rest hrest⟩

end

/-! ## Tests of clauses -/

namespace Clause

/-- The tests of a clause in order. -/
def conditions (clause : Clause) : List Condition :=
  clause.predicates.map Predicate.condition

theorem map_condition_closeLast (ps : List Predicate) :
    (closeLast ps).map Predicate.condition = ps.map Predicate.condition := by
  fun_induction closeLast ps with
  | case1 => rfl
  | case2 => rfl
  | case3 p q rest ih => simpa using ih

theorem map_condition_openFirst (c : Conjunction) (ps : List Predicate) :
    (openFirst c ps).map Predicate.condition = ps.map Predicate.condition := by
  cases ps <;> rfl

theorem conditions_pushGroup (clause : Clause) (c : Conjunction) (group : Clause) :
    (clause.pushGroup c group).conditions = clause.conditions ++ group.conditions := by
  simp [conditions, pushGroup, map_condition_closeLast, map_condition_openFirst]

theorem conditions_pushNullTest (clause : Clause) (c : Conjunction) (field : String)
    (negated : Bool) :
    (clause.pushNullTest c field negated).conditions =
      clause.conditions ++ [.compare field (if negated then .isNotNull else .isNull) none] := by
  simp [conditions, pushNullTest, push]

theorem conditions_pushRaw (clause : Clause) (sql : String) (values : OrderedMap Value) :
    (clause.pushRaw sql values).conditions = clause.conditions ++ [.raw sql values] := by
  simp [conditions, pushRaw, push]

theorem conditions_empty : empty.conditions = [] := rfl

/-- A comparison is added once its operand is checked. -/
theorem conditions_map_pushCompare (clause : Clause) (c : Conjunction) (field : String)
    (op : Operator) (given : Option Value) :
    conditions <$> clause.pushCompare c field op given =
      (clause.conditions ++ ·) <$> [Condition.compare field op given].mapM Condition.checked := by
  rw [List.mapM_cons, List.mapM_nil, pushCompare, Condition.checked]
  cases op.operandOf field given with
  | error e => rfl
  | ok operand => exact congrArg Except.ok (by simp [conditions, push])

mutual

/-- What a step adds are the tests that it asks for, checked in order. -/
theorem conditions_apply (clause : Clause) (step : Step) :
    conditions <$> clause.apply step =
      (clause.conditions ++ ·) <$> step.asked.mapM Condition.checked := by
  cases step with
  | equal c field value | compare c field op value | token c field word value =>
    rw [apply, Step.asked]
    exact conditions_map_pushCompare clause c field _ _
  | nullTest c field negated =>
    have hc : (Condition.compare field (if negated then .isNotNull else .isNull) none).checked =
        .ok (.compare field (if negated then .isNotNull else .isNull) none) := by
      cases negated <;> rfl
    rw [apply, Step.asked, List.mapM_cons, hc]
    exact congrArg Except.ok (conditions_pushNullTest clause c field negated)
  | group c steps =>
    have hgroup : conditions <$> empty.applyAll steps =
        (Step.askedAll steps).mapM Condition.checked := by
      rw [conditions_applyAll empty steps]
      exact id_map _
    rw [apply, Step.asked, ← hgroup]
    simp [conditions_pushGroup]
  | raw sql values =>
    rw [apply, Step.asked]
    exact congrArg Except.ok (conditions_pushRaw clause sql values)

/-- So is what steps add. -/
theorem conditions_applyAll (clause : Clause) (steps : List Step) :
    conditions <$> clause.applyAll steps =
      (clause.conditions ++ ·) <$> (Step.askedAll steps).mapM Condition.checked := by
  cases steps with
  | nil =>
    rw [applyAll, Step.askedAll]
    exact congrArg Except.ok (List.append_nil _).symm
  | cons step rest =>
    rw [Step.askedAll, List.mapM_append, applyAll]
    calc
      conditions <$> (clause.apply step >>= fun next => next.applyAll rest)
        = clause.apply step >>= fun next =>
            (next.conditions ++ ·) <$> (Step.askedAll rest).mapM Condition.checked := by
          simp only [map_bind, conditions_applyAll _ rest]
      _ = (conditions <$> clause.apply step) >>= fun tests =>
            (tests ++ ·) <$> (Step.askedAll rest).mapM Condition.checked := by
          rw [bind_map_left]
      _ = _ := by
          rw [conditions_apply clause step]
          simp [map_bind, bind_map_left]

end

/-- Steps that build a clause add the tests that they ask for, with operands in form. -/
theorem conditions_of_applyAll {clause : Clause} {steps : List Step}
    (h : empty.applyAll steps = .ok clause) :
    clause.conditions = (Step.askedAll steps).map Condition.shaped ∧
      ∀ test ∈ Step.askedAll steps, test.shaped.Fits := by
  have hmap := conditions_applyAll empty steps
  rw [h] at hmap
  rcases Condition.mapM_checked_cases (Step.askedAll steps) with ⟨hfits, hm⟩ | ⟨-, fault, -, hm⟩
  · rw [hm] at hmap
    exact ⟨Except.ok.inj hmap, hfits⟩
  · rw [hm] at hmap
    cases hmap

end Clause

/-- The tests of a clause that steps build fit their operators. -/
theorem fits_of_applyAll {clause : Clause} {steps : List Step}
    (h : Clause.empty.applyAll steps = .ok clause) : ∀ test ∈ clause.conditions, test.Fits := by
  obtain ⟨hc, hfits⟩ := Clause.conditions_of_applyAll h
  rw [hc, List.forall_mem_map]
  exact hfits

/-- Steps without SQL as given add comparisons only. -/
theorem isComparison_of_applyAll {clause : Clause} {steps : List Step}
    (h : Clause.empty.applyAll steps = .ok clause) (hs : Step.areStructured steps = true) :
    ∀ test ∈ clause.conditions, test.IsComparison := by
  rw [(Clause.conditions_of_applyAll h).1, List.forall_mem_map]
  intro test ht
  have hc := Step.isComparison_of_areStructured steps hs test ht
  cases test with
  | raw sql values => exact hc
  | compare field op given => trivial

end BoundSql
