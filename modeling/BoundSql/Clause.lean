import BoundSql.Error
import BoundSql.Value

/-!
# Predicates

A clause is the list of predicates of a `WHERE`, in the order in which they were added. Groups are
not nodes: the first predicate of a group counts one more opening parenthesis and the last one
counts one more closing parenthesis, so that the text can be written in one pass.

The operand of a comparison is brought into the shape that its operator takes when the predicate is
made (`Operator.operandOf`): nothing, a single value, a list, or a list of two bounds.

* `length_openFirst`, `length_closeLast`: a group has as many predicates as are put into it.
-/

namespace BoundSql

/-- How a predicate is joined to the one before it. -/
inductive Conjunction where
  | and
  | or
  deriving DecidableEq, Repr

/-- The SQL keyword. -/
def Conjunction.sql : Conjunction → String
  | and => "AND"
  | or => "OR"

/-- The operand of `op` on `field` that a given value makes. A single value is a list of one for a
list operator, and no value is null for an operator of a single value. -/
def Operator.operandOf (op : Operator) (field : String) (given : Option Value) :
    Except Error (Option Value) :=
  if op.isUnary then .ok none
  else if op.isList then
    let items :=
      match given with
      | some (.list items) => items
      | some value => [value]
      | none => []
    if items.isEmpty then .error (.invalidArgument (.emptyList op field))
    else if items.any Value.isList then .error (.invalidArgument (.nestedOperand op field))
    else .ok (some (.list items))
  else if op.isRange then
    match given with
    | some (.list items) =>
      if items.length = 2 then .ok (some (.list items))
      else .error (.invalidArgument (.boundCount op field items.length))
    | _ => .error (.invalidArgument (.noBounds op field))
  else
    match given with
    | some (.list _) => .error (.invalidArgument (.listOperand op field))
    | some value => .ok (some value)
    | none => .ok (some .null)

/-- What a predicate tests. -/
inductive Condition where
  /-- A field compared with an operand, a list for lists and for bounds. -/
  | compare (field : String) (op : Operator) (operand : Option Value)
  /-- SQL written as given, with values of its own. -/
  | raw (sql : String) (values : OrderedMap Value)
  deriving DecidableEq

/-- One test of a clause, with the groups that begin and end at it. -/
structure Predicate where
  conjunction : Conjunction
  condition : Condition
  /-- The number of groups that open right before the predicate. -/
  opens : Nat := 0
  /-- The number of groups that close right after the predicate. -/
  closes : Nat := 0
  deriving DecidableEq

/-- Whether the predicate is written as given. -/
def Predicate.isRaw (p : Predicate) : Bool :=
  match p.condition with
  | .raw _ _ => true
  | .compare _ _ _ => false

/-- Predicates with one more group opening at the first. -/
def openFirst (conjunction : Conjunction) : List Predicate → List Predicate
  | [] => []
  | p :: rest => { p with conjunction := conjunction, opens := p.opens + 1 } :: rest

/-- Predicates with one more group closing at the last. -/
def closeLast : List Predicate → List Predicate
  | [] => []
  | [p] => [{ p with closes := p.closes + 1 }]
  | p :: q :: rest => p :: closeLast (q :: rest)

/-- The predicates of a `WHERE`. -/
structure Clause where
  predicates : List Predicate
  deriving DecidableEq

namespace Clause

/-- No predicates. -/
def empty : Clause := ⟨[]⟩

instance : EmptyCollection Clause := ⟨empty⟩

instance : Inhabited Clause := ⟨empty⟩

/-- The clause with a predicate at the end. -/
def push (clause : Clause) (p : Predicate) : Clause :=
  ⟨clause.predicates ++ [p]⟩

/-- The clause with a comparison at the end, once its operand is checked. -/
def pushCompare (clause : Clause) (conjunction : Conjunction) (field : String) (op : Operator)
    (given : Option Value) : Except Error Clause := do
  let operand ← op.operandOf field given
  return clause.push { conjunction, condition := .compare field op operand }

/-- The clause with a test for null at the end, or for not null. -/
def pushNullTest (clause : Clause) (conjunction : Conjunction) (field : String)
    (negated : Bool) : Clause :=
  let op := if negated then Operator.isNotNull else Operator.isNull
  clause.push { conjunction, condition := .compare field op none }

/-- The clause with SQL written as given at the end. -/
def pushRaw (clause : Clause) (sql : String) (values : OrderedMap Value) : Clause :=
  clause.push { conjunction := .and, condition := .raw sql values }

/-- The clause with the predicates of a group in parentheses at the end. The conjunction before the
group takes the place of its first predicate's. -/
def pushGroup (clause : Clause) (conjunction : Conjunction) (group : Clause) : Clause :=
  ⟨clause.predicates ++ closeLast (openFirst conjunction group.predicates)⟩

/-- The operator and the operand of `field = value`. A list compares with `IN`, and an empty list
with `IN (NULL)`, which nothing satisfies. -/
def equality : Value → Operator × Value
  | .list [] => (.isIn, .list [.null])
  | .list items => (.isIn, .list items)
  | scalar => (.eq, scalar)

/-- The operator and the operand of a comparison whose operator is written as a token. A token that
writes no operator is itself the operand of `=`. -/
def tokenComparison (token : String) (value : Value) : Operator × Value :=
  match Operator.ofToken? token with
  | some op => (op, value)
  | none => (.eq, .text token)

/-- The clause with `field = value` at the end. -/
def pushEqual (clause : Clause) (conjunction : Conjunction) (field : String) (value : Value) :
    Except Error Clause :=
  clause.pushCompare conjunction field (equality value).1 (some (equality value).2)

/-- The clause with a comparison at the end whose operator is written as a token. -/
def pushToken (clause : Clause) (conjunction : Conjunction) (field token : String)
    (value : Value) : Except Error Clause :=
  clause.pushCompare conjunction field (tokenComparison token value).1
    (some (tokenComparison token value).2)

theorem length_closeLast (ps : List Predicate) : (closeLast ps).length = ps.length := by
  fun_induction closeLast ps with
  | case1 => rfl
  | case2 => rfl
  | case3 p q rest ih => simp [ih]

theorem length_openFirst (c : Conjunction) (ps : List Predicate) :
    (openFirst c ps).length = ps.length := by
  cases ps <;> rfl

end Clause

end BoundSql
