import BoundSql.Proofs.Clause.Operand

/-!
# Clauses under calls that may fail

A clause can be kept while calls on it succeed or fail: one that fails leaves it as it was, and the
next call goes on from there. A call checks the operands of all tests that it asks for
(`Call.asked`) before it adds any.

One class of operators lets more through than scalars: a range operator checks the number of its
bounds only, so that a bound may itself be a list (`Operator.nestsBounds`).

* `takes_iff`: what an operator takes are scalars, or such bounds;
* `perform_cases`: a call adds all that it asks for, or fails and adds nothing;
* `conditions_performAll`: so the tests of a clause are those that the calls on it kept;
* `fitsScalars_iff`: they hold scalars unless bounds were given as lists.
-/

namespace BoundSql

/-! ## Operands of scalars -/

/-- The value holds no list inside a list. -/
def Value.isFlat : Value → Bool
  | .list items => items.all fun item => !item.isList
  | _ => true

namespace Operator

/-- The operand has the shape that the operator takes and is made of scalars: nothing for a test for
null, some scalars for a list, two of them for a range, one otherwise. -/
def TakesScalars (op : Operator) (operand : Option Value) : Prop :=
  op.Takes operand ∧ ∀ value ∈ operand, value.isFlat = true

/-- Whether two bounds are given to a range operator and one of them is a list. -/
def nestsBounds (op : Operator) (given : Option Value) : Bool :=
  op.isRange &&
    match given with
    | some (.list [low, high]) => low.isList || high.isList
    | _ => false

variable {op : Operator}

theorem shaped_of_isRange (hr : op.isRange = true) (given : Option Value) :
    op.shaped given = given := by
  cases op with
  | between | notBetween => rfl
  | _ => cases hr

theorem nestsBounds_of_not_isRange (hr : ¬ op.isRange = true) (given : Option Value) :
    op.nestsBounds given = false := by
  simp [nestsBounds, hr]

theorem nestsBounds_shaped (op : Operator) (given : Option Value) :
    op.nestsBounds (op.shaped given) = op.nestsBounds given := by
  by_cases hr : op.isRange = true
  · rw [shaped_of_isRange hr]
  · rw [nestsBounds_of_not_isRange hr, nestsBounds_of_not_isRange hr]

theorem takes_iff_of_isRange (hr : op.isRange = true) {operand : Option Value} :
    op.Takes operand ↔ ∃ low high, operand = some (.list [low, high]) := by
  cases op with
  | between | notBetween => rfl
  | _ => cases hr

/-- Operators that take no bounds take no list inside a list. -/
theorem isFlat_of_takes {value : Value} (hr : ¬ op.isRange = true)
    (h : op.Takes (some value)) : value.isFlat = true := by
  unfold Takes at h
  split at h
  · cases h
  split at h
  · obtain ⟨items, hv, -, hscalars⟩ := h
    cases hv
    simpa [Value.isFlat] using hscalars
  · obtain ⟨single, hv, hscalar⟩ := h
    cases hv
    cases value with
    | list items => cases hscalar
    | _ => rfl

/-- What an operator takes is made of scalars, unless it takes bounds and one of them is a list. -/
theorem takesScalars_iff {operand : Option Value} (h : op.Takes operand) :
    op.TakesScalars operand ↔ op.nestsBounds operand = false := by
  rw [TakesScalars, and_iff_right h]
  by_cases hr : op.isRange = true
  · obtain ⟨low, high, rfl⟩ := (takes_iff_of_isRange hr).1 h
    simp [nestsBounds, hr, Value.isFlat]
  · refine iff_of_true ?_ (nestsBounds_of_not_isRange hr operand)
    rintro value rfl
    exact isFlat_of_takes hr h

/-- Scalars, or bounds of which one is a list, are all that an operator takes. -/
theorem takes_iff {operand : Option Value} :
    op.Takes operand ↔ op.TakesScalars operand ∨ op.nestsBounds operand = true := by
  constructor
  · intro h
    rw [takesScalars_iff h, ← Bool.not_eq_true, or_comm]
    exact Decidable.em _
  · rintro (h | h)
    · exact h.1
    · unfold nestsBounds at h
      obtain ⟨hr, hbounds⟩ := Bool.and_eq_true_iff.1 h
      split at hbounds
      · exact (takes_iff_of_isRange hr).2 ⟨_, _, rfl⟩
      · cases hbounds

end Operator

namespace Condition

/-- The operand of a comparison fits its operator and is made of scalars. -/
def FitsScalars : Condition → Prop
  | .raw _ _ => True
  | .compare _ op operand => op.TakesScalars operand

/-- Whether the test compares with bounds of which one is a list. -/
def nestsBounds : Condition → Bool
  | .raw _ _ => false
  | .compare _ op given => op.nestsBounds given

/-- A test is let through for its scalars, or because bounds are not looked into. -/
theorem fits_shaped_iff {asked : Condition} :
    asked.shaped.Fits ↔ asked.shaped.FitsScalars ∨ asked.nestsBounds = true := by
  cases asked with
  | raw sql values => exact iff_of_true trivial (.inl trivial)
  | compare field op given =>
    show op.Takes (op.shaped given) ↔
      op.TakesScalars (op.shaped given) ∨ op.nestsBounds given = true
    rw [← op.nestsBounds_shaped given]
    exact Operator.takes_iff

theorem fitsScalars_shaped_iff {asked : Condition} (h : asked.shaped.Fits) :
    asked.shaped.FitsScalars ↔ asked.nestsBounds = false := by
  cases asked with
  | raw sql values => exact iff_of_true trivial rfl
  | compare field op given =>
    show op.TakesScalars (op.shaped given) ↔ op.nestsBounds given = false
    rw [← op.nestsBounds_shaped given]
    exact Operator.takesScalars_iff h

end Condition

/-! ## Calls -/

namespace Clause

/-- One call on a clause that is changed in place. Tests for null and SQL as given are steps. -/
inductive Call where
  | step (step : Step)
  /-- A comparison with an operand, or without. -/
  | compare (conjunction : Conjunction) (field : String) (op : Operator) (given : Option Value)
  /-- A group of whatever other calls made of an empty clause. -/
  | group (conjunction : Conjunction) (calls : List Call)

/-- What a call that adds to a clause returns, and the clause after it: the longer one, or the same
one after an error. -/
def replaced (clause : Clause) : Except Error Clause → Except Error Unit × Clause
  | .ok next => (.ok (), next)
  | .error e => (.error e, clause)

mutual

/-- What a call returns, and the clause after it. -/
def perform (clause : Clause) : Call → Except Error Unit × Clause
  | .step step => clause.replaced (clause.apply step)
  | .compare conjunction field op given =>
    clause.replaced (clause.pushCompare conjunction field op given)
  | .group conjunction calls => (.ok (), clause.pushGroup conjunction (empty.performAll calls))

/-- The clause after calls, whether they fail or not. -/
def performAll (clause : Clause) : List Call → Clause
  | [] => clause
  | call :: rest => (clause.perform call).2.performAll rest

end

namespace Call

/-- The tests that a call asks for, with operands as they are given. A group that is built already
is added as it is. -/
def asked : Call → List Condition
  | .step added => added.asked
  | .compare _ field op given => [.compare field op given]
  | .group _ _ => []

/-- The tests that are added of those asked for: all of them, unless one is refused. -/
def keptOf (asked : List Condition) : List Condition :=
  match asked.mapM Condition.checked with
  | .ok _ => asked
  | .error _ => []

mutual

/-- The tests that a call adds, with operands as they were given. -/
def kept : Call → List Condition
  | .step added => keptOf added.asked
  | .compare _ field op given => keptOf [.compare field op given]
  | .group _ calls => keptAll calls

/-- The tests that calls add, in order. -/
def keptAll : List Call → List Condition
  | [] => []
  | call :: rest => call.kept ++ keptAll rest

end

end Call

/-- Adding tests that are asked for: all of them, when they fit, and otherwise none. -/
theorem replaced_cases {clause : Clause} {result : Except Error Clause} {asked : List Condition}
    (h : conditions <$> result = (clause.conditions ++ ·) <$> asked.mapM Condition.checked) :
    (∃ next, clause.replaced result = (.ok (), next) ∧
      next.conditions = clause.conditions ++ (Call.keptOf asked).map Condition.shaped ∧
      (∀ test ∈ Call.keptOf asked, test.shaped.Fits) ∧ ∀ test ∈ asked, test.shaped.Fits) ∨
    (∃ fault, clause.replaced result = (.error (.invalidArgument fault), clause) ∧
      Call.keptOf asked = [] ∧ (∃ test ∈ asked, test.Faulted fault) ∧
      ¬ ∀ test ∈ asked, test.shaped.Fits) := by
  unfold Call.keptOf
  rcases Condition.mapM_checked_cases asked with ⟨hfits, hm⟩ | ⟨hfits, fault, hfault, hm⟩
  · rw [hm] at h ⊢
    cases result with
    | error e => cases h
    | ok next => exact .inl ⟨next, rfl, Except.ok.inj h, hfits, hfits⟩
  · rw [hm] at h ⊢
    cases result with
    | error e =>
      cases h
      exact .inr ⟨fault, rfl, rfl, hfault, hfits⟩
    | ok next => cases h

mutual

/-- A call adds the tests that it keeps, with their operands in form, or fails at one that it asks
for and leaves the clause as it is. -/
theorem perform_cases (clause : Clause) (call : Call) :
    (∃ next, clause.perform call = (.ok (), next) ∧
      next.conditions = clause.conditions ++ call.kept.map Condition.shaped ∧
      (∀ test ∈ call.kept, test.shaped.Fits) ∧ ∀ test ∈ call.asked, test.shaped.Fits) ∨
    (∃ fault, clause.perform call = (.error (.invalidArgument fault), clause) ∧
      call.kept = [] ∧ (∃ test ∈ call.asked, test.Faulted fault) ∧
      ¬ ∀ test ∈ call.asked, test.shaped.Fits) := by
  cases call with
  | step step =>
    rw [perform, Call.kept, Call.asked]
    exact replaced_cases (conditions_apply clause step)
  | compare c field op given =>
    rw [perform, Call.kept, Call.asked]
    exact replaced_cases (conditions_map_pushCompare clause c field op given)
  | group c calls =>
    rw [perform, Call.kept]
    obtain ⟨hc, hfits⟩ := conditions_performAll empty calls
    refine .inl ⟨_, rfl, ?_, hfits, nofun⟩
    rw [conditions_pushGroup, hc]
    rfl

/-- The tests of a clause after calls are those before and those that the calls kept. -/
theorem conditions_performAll (clause : Clause) (calls : List Call) :
    (clause.performAll calls).conditions =
        clause.conditions ++ (Call.keptAll calls).map Condition.shaped ∧
      ∀ test ∈ Call.keptAll calls, test.shaped.Fits := by
  cases calls with
  | nil =>
    rw [performAll, Call.keptAll]
    exact ⟨(List.append_nil _).symm, nofun⟩
  | cons call rest =>
    rw [performAll, Call.keptAll, List.map_append, List.forall_mem_append]
    obtain ⟨hc, hfits⟩ := conditions_performAll (clause.perform call).2 rest
    rw [hc]
    rcases perform_cases clause call with ⟨next, hp, hn, hkept, -⟩ | ⟨fault, hp, hkept, -, -⟩
    · rw [hp, hn, List.append_assoc]
      exact ⟨rfl, hkept, hfits⟩
    · rw [hp, hkept]
      exact ⟨rfl, nofun, hfits⟩

end

end Clause

/-- After any calls every operand fits its operator. -/
theorem fits_of_performAll {calls : List Clause.Call} :
    ∀ test ∈ (Clause.empty.performAll calls).conditions, test.Fits := by
  obtain ⟨hc, hfits⟩ := Clause.conditions_performAll Clause.empty calls
  rw [hc, Clause.conditions_empty, List.nil_append, List.forall_mem_map]
  exact hfits

/-- The operands after any calls are made of scalars unless a call gave bounds of which one is a
list, and was not refused for another operand. -/
theorem fitsScalars_iff (calls : List Clause.Call) :
    (∀ test ∈ (Clause.empty.performAll calls).conditions, test.FitsScalars) ↔
      ∀ test ∈ Clause.Call.keptAll calls, test.nestsBounds = false := by
  obtain ⟨hc, hfits⟩ := Clause.conditions_performAll Clause.empty calls
  rw [hc, Clause.conditions_empty, List.nil_append, List.forall_mem_map]
  exact forall₂_congr fun test ht => Condition.fitsScalars_shaped_iff (hfits test ht)

end BoundSql
