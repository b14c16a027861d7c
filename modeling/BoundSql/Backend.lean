import BoundSql.Text.Letter

/-!
# Backends

The families of databases a connection may speak to, the engine names that mean them, and how each
writes positional placeholders.
-/

namespace BoundSql

/-- A family of databases. -/
inductive Backend where
  | postgres
  | mysql
  | sqlite
  deriving DecidableEq, Repr

namespace Backend

/-- The backend of an engine name or URL scheme, in any case. -/
def ofEngine? (engine : String) : Option Backend :=
  match String.ofList (Text.lowerCase engine.toList) with
  | "postgres" | "postgresql" | "pgsql" => some postgres
  | "mysql" | "mariadb" => some mysql
  | "sqlite" | "sqlite3" => some sqlite
  | _ => none

/-- The name of the backend, which is also its URL scheme. -/
def name : Backend → String
  | postgres => "postgres"
  | mysql => "mysql"
  | sqlite => "sqlite"

/-- The name of the backend as a title. -/
def title : Backend → String
  | postgres => "Postgres"
  | mysql => "MySQL"
  | sqlite => "SQLite"

/-- The placeholder at a position, counted from one. -/
def placeholder (backend : Backend) (position : Nat) : List Char :=
  match backend with
  | postgres => '$' :: Nat.toDigits 10 position
  | mysql | sqlite => ['?']

/-- Whether a placeholder can stand for an earlier position again, so that a repeated name is bound
once. -/
def reusesPositions : Backend → Bool
  | postgres => true
  | mysql | sqlite => false

end Backend

end BoundSql
