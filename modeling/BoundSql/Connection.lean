import BoundSql.Act
import BoundSql.Backend
import BoundSql.Prepared

/-!
# Connections

What a connection offers, as effects on its state: preparing, binding, executing and reading
statements, the last generated identifier, and transaction control. A failed effect on a statement
leaves the statement as it was, since the new statement is the effect's result.
-/

namespace BoundSql

/-- States of a connection and the effects on them. -/
class Connection (σ : Type) where
  /-- The family of the database. -/
  backend : σ → Backend
  /-- Whether a transaction is open. -/
  inTransaction : σ → Bool
  /-- A statement without values. -/
  prepare : String → Act σ Prepared
  /-- The statement with a value under a name; the name may begin with a colon. -/
  bind : Prepared → String → Value → Act σ Prepared
  /-- The statement with the outcome of running it. -/
  execute : Prepared → Act σ Prepared
  /-- The first row of the last execution. -/
  fetchOne : Prepared → Act σ (Option Row)
  /-- Every row of the last execution. -/
  fetchAll : Prepared → Act σ (List Row)
  /-- The number of rows that the last execution returned or changed. -/
  rowCount : σ → Prepared → UInt64
  /-- The identifier of the most recent insertion. -/
  lastInsertId : Act σ Int64
  beginTransaction : Act σ Unit
  commit : Act σ Unit
  rollback : Act σ Unit

/-- A connection for reading. -/
def describeConnection {σ : Type} [Connection σ] (s : σ) : String :=
  "Connection \x7b backend: " ++ (Connection.backend s).title ++ ", in_transaction: " ++
    (if Connection.inTransaction s then "true" else "false") ++ " \x7d"

end BoundSql
