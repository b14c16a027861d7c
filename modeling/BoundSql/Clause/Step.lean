import BoundSql.Clause

/-!
# Building clauses step by step

A step adds one predicate or one group to a clause. A group is a list of steps of its own, applied
to an empty clause; the first step that fails makes the whole step fail.
-/

namespace BoundSql

/-- One addition to a clause. -/
inductive Step where
  /-- `field = value`, or membership when the value is a list. -/
  | equal (conjunction : Conjunction) (field : String) (value : Value)
  | compare (conjunction : Conjunction) (field : String) (op : Operator) (value : Value)
  /-- A comparison whose operator is written as a token. -/
  | token (conjunction : Conjunction) (field token : String) (value : Value)
  /-- A test for null, or for not null. -/
  | nullTest (conjunction : Conjunction) (field : String) (negated : Bool)
  | group (conjunction : Conjunction) (steps : List Step)
  /-- SQL written as given, keyword included. -/
  | raw (sql : String) (values : OrderedMap Value)
  deriving Inhabited

namespace Clause

mutual

/-- The clause after a step. -/
def apply (clause : Clause) : Step → Except Error Clause
  | .equal conjunction field value => clause.pushEqual conjunction field value
  | .compare conjunction field op value => clause.pushCompare conjunction field op (some value)
  | .token conjunction field token value => clause.pushToken conjunction field token value
  | .nullTest conjunction field negated => .ok (clause.pushNullTest conjunction field negated)
  | .group conjunction steps => do
    let group ← empty.applyAll steps
    return clause.pushGroup conjunction group
  | .raw sql values => .ok (clause.pushRaw sql values)

/-- The clause after steps, or the first error. -/
def applyAll (clause : Clause) : List Step → Except Error Clause
  | [] => .ok clause
  | step :: rest => do
    let clause ← clause.apply step
    clause.applyAll rest

end

end Clause

end BoundSql
