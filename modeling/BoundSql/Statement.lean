import BoundSql.Clause
import BoundSql.Placeholder

/-!
# Statements with named placeholders

A statement on one table is an intent (select, insert, update, delete) and clauses: joins,
predicates, grouping, ordering, limit and offset. `compile` writes it as SQL with named
placeholders and collects the values under their names. The parts have a fixed order, whatever the
order in which they were given, and a name that is bound twice is an error.

Placeholders are named after the stem of their field: the bare stem for columns that are written,
the stem and the position of the predicate for comparisons, with `in0`, `in1`, … for the elements
of a list and `btw0`, `btw1` for bounds.

* `Binder.run_bind`: a value is bound exactly when its name is free.
-/

namespace BoundSql

/-- What a statement does. -/
inductive Intent where
  /-- Column expressions; none means every column. -/
  | select (columns : List String)
  | insert (data : OrderedMap Value)
  | update (data : OrderedMap Value)
  | delete
  deriving DecidableEq

instance : Inhabited Intent := ⟨.select []⟩

/-- How another table is joined. -/
inductive JoinKind where
  | left
  | right
  | inner
  | cross
  /-- The fragment holds the keywords too. -/
  | raw
  deriving DecidableEq, Repr

/-- A joined table. -/
structure Join where
  kind : JoinKind
  fragment : String
  deriving DecidableEq, Repr

/-- The text of a join, with the space before it. -/
def Join.sql (join : Join) : String :=
  match join.kind with
  | .left => " LEFT JOIN " ++ join.fragment
  | .right => " RIGHT JOIN " ++ join.fragment
  | .inner => " INNER JOIN " ++ join.fragment
  | .cross => " CROSS JOIN " ++ join.fragment
  | .raw => " " ++ join.fragment

/-- Everything that follows the first part of a statement. -/
structure Clauses where
  joins : List Join := []
  conditions : Clause := ∅
  groupBy : List String := []
  orderBy : List String := []
  /-- Written as given; a blank text is left out. -/
  limit : Option String := none
  offset : Option UInt64 := none
  deriving DecidableEq, Inhabited

/-- SQL with named placeholders and the values to bind. -/
structure Compiled where
  sql : String
  values : OrderedMap Value
  deriving DecidableEq

/-- Writing SQL while collecting values under distinct names. -/
abbrev Binder := StateT (OrderedMap Value) (Except Error)

namespace Binder

/-- Adds a value under a name that is still free. -/
def bind (name : String) (value : Value) : Binder Unit := do
  if (← get).contains name then throw (.invalidArgument (.boundTwice name))
  modify (·.insert name value)

/-- Adds values under names that are still free, in order. -/
def bindAll : List (String × Value) → Binder Unit
  | [] => return
  | (name, value) :: rest => do
    bind name value
    bindAll rest

theorem run_bind (name : String) (value : Value) (values : OrderedMap Value) :
    (bind name value).run values =
      if values.contains name then .error (.invalidArgument (.boundTwice name))
      else .ok ((), values.insert name value) := by
  by_cases h : values.contains name <;> simp [bind, h] <;> rfl

end Binder

/-- The columns of written data with their placeholders, whose values are bound. -/
def bindColumns : List (String × Value) → Binder (List (String × String))
  | [] => return []
  | (column, value) :: rest => do
    let name ← stem column
    Binder.bind name value
    let others ← bindColumns rest
    return (column, ":" ++ name) :: others

/-- The first part of a statement on a table. -/
def Intent.write (table : String) : Intent → Binder String
  | .select columns =>
    return "SELECT " ++ (if columns.isEmpty then "*" else ", ".intercalate columns) ++ " FROM " ++
      table
  | .insert data => do
    if data.isEmpty then throw (.invalidArgument (.nothingToInsert table))
    let columns ← bindColumns data.entries
    return "INSERT INTO " ++ table ++ " (" ++ ", ".intercalate (columns.map Prod.fst) ++
      ") VALUES (" ++ ", ".intercalate (columns.map Prod.snd) ++ ")"
  | .update data => do
    if data.isEmpty then throw (.invalidArgument (.nothingToUpdate table))
    let columns ← bindColumns data.entries
    return "UPDATE " ++ table ++ " SET " ++
      ", ".intercalate (columns.map fun (column, placeholder) => column ++ " = " ++ placeholder)
  | .delete => return "DELETE FROM " ++ table

/-- The name for element `position` of a list that is compared under `base`. -/
def elementName (base : String) (position : Nat) : String :=
  base ++ "in" ++ toString position

/-- The placeholders of the elements of a list from a position on, whose values are bound. -/
def bindElements (base : String) : Nat → List Value → Binder (List String)
  | _, [] => return []
  | position, item :: rest => do
    let name := elementName base position
    Binder.bind name item
    let others ← bindElements base (position + 1) rest
    return (":" ++ name) :: others

/-- The values of an operand that must be a list. -/
def listItems (op : Operator) (field : String) : Option Value → Except Error (List Value)
  | some (.list items) => .ok items
  | _ => .error (.invalidArgument (.noList op field))

/-- The text of the operand of a list operator, after the text before it. -/
def writeElements (head base field : String) (op : Operator) (operand : Option Value) :
    Binder String := do
  let items ← listItems op field operand
  let placeholders ← bindElements base 0 items
  return head ++ " (" ++ ", ".intercalate placeholders ++ ")"

/-- The text of the bounds of a range operator, after the text before them. -/
def writeBounds (head base field : String) (op : Operator) (operand : Option Value) :
    Binder String := do
  match ← listItems op field operand with
  | [low, high] =>
    let lowName := base ++ "btw0"
    let highName := base ++ "btw1"
    Binder.bind lowName low
    Binder.bind highName high
    return head ++ " :" ++ lowName ++ " AND :" ++ highName
  | items => throw (.invalidArgument (.boundCount op field items.length))

/-- The text of a comparison at a position of the clause. -/
def writeCompare (index : Nat) (field : String) (op : Operator) (operand : Option Value) :
    Binder String := do
  let head := field ++ " " ++ op.sql
  if op.isUnary then return head
  let base := (← stem field) ++ toString index
  if op.isList then writeElements head base field op operand
  else if op.isRange then writeBounds head base field op operand
  else
    Binder.bind base (operand.getD .null)
    return head ++ " :" ++ base

/-- A character written a number of times. -/
def repeated (c : Char) (n : Nat) : String :=
  String.ofList (List.replicate n c)

/-- The text of a predicate at a position of the clause, with its keyword and the space before it.
Predicates written as given have no keyword of their own. -/
def Predicate.write (index : Nat) (p : Predicate) : Binder String := do
  match p.condition with
  | .raw sql values => do
    Binder.bindAll values.entries
    return " " ++ repeated '(' p.opens ++ sql ++ repeated ')' p.closes
  | .compare field op operand => do
    let keyword := if index = 0 then "WHERE" else p.conjunction.sql
    let test ← writeCompare index field op operand
    return " " ++ keyword ++ " " ++ repeated '(' p.opens ++ test ++ repeated ')' p.closes

/-- The text of predicates from a position on. -/
def writePredicates : Nat → List Predicate → Binder String
  | _, [] => return ""
  | index, p :: rest => do
    let first ← p.write index
    let others ← writePredicates (index + 1) rest
    return first ++ others

/-- A keyword and its items between commas, or nothing when there are none. -/
def writeList (keyword : String) (items : List String) : String :=
  if items.isEmpty then "" else keyword ++ ", ".intercalate items

/-- The text of a limit, unless it is blank. -/
def writeLimit : Option String → String
  | none => ""
  | some text => if (Text.trim text.toList).isEmpty then "" else " LIMIT " ++ text

/-- The text of an offset. -/
def writeOffset : Option UInt64 → String
  | none => ""
  | some n => " OFFSET " ++ toString n.toNat

/-- What follows the predicates of a statement. -/
def Clauses.writeTail (clauses : Clauses) : String :=
  writeList " GROUP BY " clauses.groupBy ++ writeList " ORDER BY " clauses.orderBy ++
    writeLimit clauses.limit ++ writeOffset clauses.offset

/-- The text of joins. -/
def writeJoins (joins : List Join) : String :=
  String.join (joins.map Join.sql)

/-- The whole statement. -/
def writeStatement (table : String) (intent : Intent) (clauses : Clauses) : Binder String := do
  let first ← intent.write table
  let conditions ← writePredicates 0 clauses.conditions.predicates
  return first ++ writeJoins clauses.joins ++ conditions ++ clauses.writeTail

/-- A text and the values bound while writing it. -/
def Binder.compiled (text : Binder String) : Except Error Compiled := do
  let (sql, values) ← text.run ∅
  return { sql, values }

/-- The first part of a statement alone, with its values. -/
def compileIntent (table : String) (intent : Intent) : Except Error Compiled :=
  (intent.write table).compiled

/-- A statement as SQL with named placeholders and the values to bind. -/
def compile (table : String) (intent : Intent) (clauses : Clauses) : Except Error Compiled :=
  (writeStatement table intent clauses).compiled

end BoundSql
