import BoundSql.Text.Blank
import BoundSql.Text.Letter

/-!
# Comparison operators

The sixteen operators of predicates, their SQL texts, and which operands they take: none, a list,
two bounds, or a single value. `ofToken?` recognises an operator by its words, in any case and with
any blanks around and between them.
-/

namespace BoundSql

/-- An operator of a predicate. -/
inductive Operator where
  | eq
  | gt
  | gte
  | lt
  | lte
  /-- Written `!=`. -/
  | notEq
  /-- Written `<>`. -/
  | differs
  | like
  | notLike
  | isNull
  | isNotNull
  | isIn
  | notIn
  | between
  | notBetween
  | regexp
  deriving DecidableEq, Repr

namespace Operator

/-- Every operator. -/
def all : List Operator :=
  [eq, gt, gte, lt, lte, notEq, differs, like, notLike, isNull, isNotNull, isIn, notIn, between,
    notBetween, regexp]

/-- The SQL text. -/
def sql : Operator → String
  | eq => "="
  | gt => ">"
  | gte => ">="
  | lt => "<"
  | lte => "<="
  | notEq => "!="
  | differs => "<>"
  | like => "LIKE"
  | notLike => "NOT LIKE"
  | isNull => "IS NULL"
  | isNotNull => "IS NOT NULL"
  | isIn => "IN"
  | notIn => "NOT IN"
  | between => "BETWEEN"
  | notBetween => "NOT BETWEEN"
  | regexp => "REGEXP"

/-- Whether the operator takes no operand. -/
def isUnary : Operator → Bool
  | isNull | isNotNull => true
  | _ => false

/-- Whether the operator takes a list in parentheses. -/
def isList : Operator → Bool
  | isIn | notIn => true
  | _ => false

/-- Whether the operator takes a lower and an upper bound. -/
def isRange : Operator → Bool
  | between | notBetween => true
  | _ => false

/-- The words of a token in upper case, with one space between them. -/
def normalizeToken (token : String) : String :=
  String.ofList (Text.upperCase ([' '].intercalate (Text.words token.toList)))

/-- The operator that a token writes. -/
def ofToken? (token : String) : Option Operator :=
  all.find? fun op => op.sql = normalizeToken token

theorem mem_all (op : Operator) : op ∈ all := by
  cases op <;> decide

theorem sql_injective {a b : Operator} (h : a.sql = b.sql) : a = b := by
  revert h
  cases a <;> cases b <;> decide

end Operator

end BoundSql
