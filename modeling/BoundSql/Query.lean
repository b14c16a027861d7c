import BoundSql.Connection
import BoundSql.Text.Quoted

/-!
# Queries

A query is a prepared statement with its values. Every reading of it (`count`, `get`, `getOne`,
`all`, `lastId`) runs the statement again first, so two readings may see different data. A list is
bound element by element, under the name followed by the position of the element.
-/

namespace BoundSql

/-- The rows of a query by their number. -/
inductive Fetched where
  | none
  | one (row : Row)
  | many (rows : List Row)
  deriving DecidableEq

namespace Fetched

/-- Rows by their number. -/
def ofRows : List Row → Fetched
  | [] => none
  | [row] => one row
  | rows => many rows

/-- Whether there is no row. -/
def isNone : Fetched → Bool
  | none => true
  | _ => false

/-- The rows as a list. -/
def rows : Fetched → List Row
  | none => []
  | one row => [row]
  | many rows => rows

/-- The number of rows. -/
def size (fetched : Fetched) : Nat :=
  fetched.rows.length

theorem rows_ofRows (rows : List Row) : (ofRows rows).rows = rows := by
  match rows with
  | [] => rfl
  | [_] => rfl
  | _ :: _ :: _ => rfl

end Fetched

/-- A prepared statement with its values. -/
structure Query where
  statement : Prepared
  deriving DecidableEq

namespace Query

variable {σ : Type} [Connection σ]

/-- A query of SQL, without values. -/
def prepare (sql : String) : Act σ Query := do
  return ⟨← Connection.prepare sql⟩

/-- Binds the elements of a list from a position on. -/
def bindItems (name : String) : Nat → List Value → Query → Act σ Query
  | _, [], query => return query
  | position, item :: rest, query => do
    if item.isList then throw (.invalidArgument (.nestedList name))
    let statement ← Connection.bind query.statement (name ++ toString position) item
    bindItems name (position + 1) rest ⟨statement⟩

/-- Binds a value, a list element by element. -/
def bindValue (query : Query) (name : String) (value : Value) : Act σ Query :=
  match value with
  | .list items => bindItems name 0 items query
  | scalar => do return ⟨← Connection.bind query.statement name scalar⟩

/-- Binds values in order. -/
def bindValues (query : Query) : List (String × Value) → Act σ Query
  | [] => return query
  | (name, value) :: rest => do
    let query ← query.bindValue name value
    query.bindValues rest

/-- Runs the statement. -/
def execute (query : Query) : Act σ Prepared :=
  Connection.execute query.statement

/-- Runs the statement and gives the identifier of the most recent insertion. -/
def lastId (query : Query) : Act σ Int64 := do
  let _ ← query.execute
  Connection.lastInsertId

/-- Runs the statement and gives the number of rows it returned or changed. -/
def count (query : Query) : Act σ UInt64 := do
  let statement ← query.execute
  Act.read (Connection.rowCount · statement)

/-- Runs the statement and gives its rows. -/
def all (query : Query) : Act σ (List Row) := do
  let statement ← query.execute
  Connection.fetchAll statement

/-- Runs the statement and gives its rows by their number. -/
def get (query : Query) : Act σ Fetched := do
  return Fetched.ofRows (← query.all)

/-- Runs the statement and gives its first row. -/
def getOne (query : Query) : Act σ (Option Row) := do
  let statement ← query.execute
  Connection.fetchOne statement

/-- The SQL and the values, for reading. -/
def dump (query : Query) : String :=
  query.statement.dump

/-- The query for reading, with its SQL quoted. -/
def describe (query : Query) (s : σ) : String :=
  "Query \x7b backend: " ++ (Connection.backend s).title ++ ", sql: " ++
    String.ofList (Text.quoteDebug query.statement.sql.toList) ++ " \x7d"

end Query

end BoundSql
