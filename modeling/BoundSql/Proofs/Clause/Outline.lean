import BoundSql.Clause.Step

/-!
# Outlines of clauses

The outline of a step or of a clause is what remains of it when the contents of its values are left
out: a single value is any single value, a list is known by its length, and SQL that is written as
given keeps the names of its values. Two steps with one outline differ in contents alone.

Steps do not look at contents: what a step does to the outline of a clause, and whether it fails, is
told by the two outlines.

* `operandOf_outline`: the check of an operand;
* `apply_outline`: a step, and the outline of the step;
* `apply_alike`: two steps with one outline.
-/

namespace BoundSql

/-! ## What is left of values and tests -/

/-- An element without contents: null, or an empty list. -/
def Value.blank : Value → Value
  | .list _ => .list []
  | _ => .null

/-- A value without contents: null, or a list of as many elements, without theirs. -/
def Value.outline : Value → Value
  | .list items => .list (items.map blank)
  | _ => .null

/-- The names of a map, with null under each. -/
def OrderedMap.outline (values : OrderedMap Value) : OrderedMap Value :=
  ⟨values.entries.map fun entry => (entry.1, .null), by
    simpa [Function.comp_def] using values.nodup⟩

/-- A test without the contents of its operand or of its values. -/
def Condition.outline : Condition → Condition
  | .compare field op operand => .compare field op (operand.map Value.outline)
  | .raw sql values => .raw sql values.outline

def Predicate.outline (p : Predicate) : Predicate :=
  { p with condition := p.condition.outline }

def Clause.outline (clause : Clause) : Clause :=
  ⟨clause.predicates.map Predicate.outline⟩

mutual

/-- A step without the contents of its values. -/
def Step.outline : Step → Step
  | .equal conjunction field value => .equal conjunction field value.outline
  | .compare conjunction field op value => .compare conjunction field op value.outline
  | .token conjunction field word value => .token conjunction field word value.outline
  | .nullTest conjunction field negated => .nullTest conjunction field negated
  | .group conjunction steps => .group conjunction (Step.outlineAll steps)
  | .raw sql values => .raw sql values.outline

def Step.outlineAll : List Step → List Step
  | [] => []
  | step :: rest => step.outline :: Step.outlineAll rest

end

namespace Value

@[simp] theorem isList_blank (value : Value) : value.blank.isList = value.isList := by
  cases value <;> rfl

@[simp] theorem blank_blank (value : Value) : value.blank.blank = value.blank := by
  cases value <;> rfl

@[simp] theorem outline_outline (value : Value) : value.outline.outline = value.outline := by
  cases value with
  | list items => simp [outline, Function.comp_def]
  | _ => rfl

end Value

theorem Except.map_bind_congr {ε α β γ δ : Type} {x y : Except ε α} {f g : α → Except ε β}
    {o : α → γ} {p : β → δ} (h : x.map o = y.map o)
    (hf : ∀ a b, o a = o b → (f a).map p = (g b).map p) : (x >>= f).map p = (y >>= g).map p := by
  cases x with
  | error e =>
    cases y with
    | error e' =>
      cases h
      rfl
    | ok b => cases h
  | ok a =>
    cases y with
    | error e' => cases h
    | ok b => exact hf a b (Except.ok.inj h)

/-! ## Comparisons -/

/-- The check of an operand looks at its outline, and keeps it. -/
theorem operandOf_outline (op : Operator) (field : String) (given : Option Value) :
    op.operandOf field (given.map Value.outline) =
      (op.operandOf field given).map (Option.map Value.outline) := by
  unfold Operator.operandOf
  by_cases hu : op.isUnary
  · simp [hu, Except.map]
  by_cases hl : op.isList
  · cases given with
    | none => simp [hu, hl, Except.map]
    | some value =>
      cases value with
      | list items =>
        by_cases hn : items = []
        · simp [hu, hl, hn, Value.outline, Except.map]
        · by_cases ha : items.any Value.isList = true <;>
            simp [hu, hl, hn, ha, Value.outline, Except.map, Function.comp_def]
      | _ => simp [hu, hl, Value.isList, Except.map, Value.outline, Value.blank]
  by_cases hr : op.isRange
  · cases given with
    | none => simp [hu, hl, hr, Except.map]
    | some value =>
      cases value with
      | list items =>
        by_cases h2 : items.length = 2 <;> simp [hu, hl, hr, h2, Value.outline, Except.map]
      | _ => simp [hu, hl, hr, Except.map, Value.outline]
  · cases given with
    | none => simp [hu, hl, hr, Except.map, Value.outline]
    | some value => cases value <;> simp [hu, hl, hr, Except.map, Value.outline]

namespace Clause

theorem equality_outline (value : Value) :
    equality value.outline = ((equality value).1, (equality value).2.outline) := by
  cases value with
  | list items => cases items <;> rfl
  | _ => rfl

/-- The operator of a token, and what is compared, without looking at the value. -/
theorem tokenComparison_outline (token : String) (value : Value) :
    (tokenComparison token value.outline).1 = (tokenComparison token value).1 ∧
    (tokenComparison token value.outline).2.outline = (tokenComparison token value).2.outline := by
  unfold tokenComparison
  cases Operator.ofToken? token with
  | some op => exact ⟨rfl, value.outline_outline⟩
  | none => exact ⟨rfl, rfl⟩

theorem map_outline_closeLast (ps : List Predicate) :
    (closeLast ps).map Predicate.outline = closeLast (ps.map Predicate.outline) := by
  fun_induction closeLast ps with
  | case1 => rfl
  | case2 => rfl
  | case3 p q rest ih => simpa [closeLast] using ih

theorem map_outline_openFirst (c : Conjunction) (ps : List Predicate) :
    (openFirst c ps).map Predicate.outline = openFirst c (ps.map Predicate.outline) := by
  cases ps <;> rfl

theorem outline_push (clause : Clause) (p : Predicate) :
    (clause.push p).outline = clause.outline.push p.outline := by
  simp [push, outline]

theorem outline_pushGroup (clause : Clause) (c : Conjunction) (group : Clause) :
    (clause.pushGroup c group).outline = clause.outline.pushGroup c group.outline := by
  simp [pushGroup, outline, map_outline_closeLast, map_outline_openFirst]

theorem pushCompare_outline (clause : Clause) (c : Conjunction) (field : String) (op : Operator)
    (given : Option Value) :
    (clause.pushCompare c field op given).map outline =
      clause.outline.pushCompare c field op (given.map Value.outline) := by
  unfold pushCompare
  rw [operandOf_outline]
  cases op.operandOf field given with
  | error e => rfl
  | ok operand => exact congrArg Except.ok (outline_push clause _)

/-- Comparisons that agree in all but contents are added alike. -/
theorem pushCompare_alike {clause other : Clause} (h : clause.outline = other.outline)
    {c : Conjunction} {field : String} {op op' : Operator} {given given' : Value} (ho : op = op')
    (hg : given.outline = given'.outline) :
    (clause.pushCompare c field op (some given)).map outline =
      (other.pushCompare c field op' (some given')).map outline := by
  rw [pushCompare_outline, pushCompare_outline, h, ho, Option.map_some, Option.map_some, hg]

/-! ## Steps -/

mutual

/-- A step does to the outline of a clause what its own outline does. -/
theorem apply_outline {clause other : Clause} (h : clause.outline = other.outline) (step : Step) :
    (clause.apply step).map outline = (other.apply step.outline).map outline := by
  cases step with
  | equal c field value =>
    refine pushCompare_alike h ?_ ?_
    · rw [equality_outline]
    · rw [equality_outline, Value.outline_outline]
  | compare c field op value => exact pushCompare_alike h rfl value.outline_outline.symm
  | token c field token value =>
    obtain ⟨hop, hvalue⟩ := tokenComparison_outline token value
    exact pushCompare_alike h hop.symm hvalue.symm
  | nullTest c field negated =>
    refine congrArg Except.ok ?_
    rw [pushNullTest, pushNullTest, outline_push, outline_push, h]
  | group c steps =>
    refine Except.map_bind_congr (applyAll_outline rfl steps) fun group group' hg => ?_
    refine congrArg Except.ok ?_
    rw [outline_pushGroup, outline_pushGroup, h, hg]
  | raw sql values =>
    refine congrArg Except.ok ?_
    rw [pushRaw, pushRaw, outline_push, outline_push, h]
    simp [Predicate.outline, Condition.outline, OrderedMap.outline, Function.comp_def]

/-- So do steps in a row. -/
theorem applyAll_outline {clause other : Clause} (h : clause.outline = other.outline)
    (steps : List Step) :
    (clause.applyAll steps).map outline = (other.applyAll (Step.outlineAll steps)).map outline := by
  cases steps with
  | nil => exact congrArg Except.ok h
  | cons step rest =>
    exact Except.map_bind_congr (apply_outline h step) fun clause other hc =>
      applyAll_outline hc rest

end

/-- Steps with one outline succeed together, with one outline, or fail with one error. -/
theorem apply_alike {clause other : Clause} (h : clause.outline = other.outline)
    {step step' : Step} (hs : step.outline = step'.outline) :
    (clause.apply step).map outline = (other.apply step').map outline := by
  rw [apply_outline h step, hs, apply_outline rfl step']

end Clause

end BoundSql
