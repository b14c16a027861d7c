import BoundSql.Connection
import BoundSql.Embedded.Store
import BoundSql.Positional
import BoundSql.Registry
import BoundSql.ResultSet

/-!
# Embedded connections

A connection to a database of its own in memory. Statements are brought to positional
placeholders; every placeholder must have a value when a statement runs, and a list has none. A
transaction that is rolled back restores the table. The recorded identifier follows the most recent
insertion whenever a statement runs that returns no rows; what such a statement counts are the rows
that the most recent write changed.
-/

namespace BoundSql

/-- A connection to a database in memory. -/
structure EmbeddedConnection where
  name : String
  store : Embedded.Store := {}
  /-- The identifier that was recorded last. -/
  lastInsertId : Int64 := 0
  /-- The table as it was when the open transaction began. -/
  saved : Option (Option (List Embedded.Record)) := none

namespace EmbeddedConnection

/-- Whether a transaction is open. -/
def inTransaction (s : EmbeddedConnection) : Bool :=
  s.saved.isSome

/-- The name of a connection that is opened without one. -/
def defaultName : String := "default"

/-- The scheme of a URL: what stands before its first colon. -/
def scheme (url : String) : String :=
  String.ofList (url.toList.takeWhile (· != ':'))

/-- Opens a connection from a URL. Only databases in memory are available. -/
def connect (name url : String) : Except Error EmbeddedConnection :=
  match Backend.ofEngine? (scheme url) with
  | none => .error (.driver (.unsupportedScheme (scheme url)))
  | some backend =>
    if url = "sqlite::memory:" then .ok { name }
    else
      .error (.driver (.reported
        ("Failed to connect to " ++ backend.name ++ " database '" ++ name ++ "'")))

/-- The values of placeholders in the order in which they are bound. -/
def orderedValues (bindings : OrderedMap Value) : List String → Except Error (List Value)
  | [] => .ok []
  | name :: rest =>
    match bindings.get? name with
    | none => .error (.driver (.unbound name))
    | some value => do
      let values ← orderedValues bindings rest
      return value :: values

/-- Binds a value that is no list. -/
def bind (p : Prepared) (name : String) (value : Value) : Act EmbeddedConnection Prepared :=
  if value.isList then throw (.driver (.listBound (bindingName name)))
  else return p.bind name value

/-- Runs a statement with the values of all its placeholders. -/
def execute (p : Prepared) : Act EmbeddedConnection Prepared := do
  let positional := toPositional .sqlite p.sql
  let values ← Act.ofExcept (orderedValues p.bindings positional.bindOrder)
  let s ← get
  let kind := if returnsRows p.sql then "Query failed: " else "Statement failed: "
  let result : Except String (List Row × Embedded.Store) :=
    match Embedded.Command.read? positional.sql with
    | none => .error "unsupported statement"
    | some command => s.store.run command values
  match result with
  | .error report => throw (.driver (.reported (kind ++ report)))
  | .ok (rows, store) =>
    if returnsRows p.sql then
      set { s with store }
      return { p with rows, rowCount := UInt64.ofNat rows.length }
    else
      set { s with store, lastInsertId := store.lastRowId }
      return { p with rows := [], rowCount := UInt64.ofNat store.changes }

/-- Opens a transaction, unless one is open. -/
def beginTransaction : Act EmbeddedConnection Unit :=
  .ofFunction fun s =>
    if s.inTransaction then (.error (.driver .alreadyInTransaction), s)
    else (.ok (), { s with saved := some s.store.table })

/-- Keeps what the open transaction did. -/
def commit : Act EmbeddedConnection Unit :=
  .ofFunction fun s =>
    if s.inTransaction then (.ok (), { s with saved := none })
    else (.error (.driver .notInTransaction), s)

/-- Restores the table as it was before the open transaction. -/
def rollback : Act EmbeddedConnection Unit :=
  .ofFunction fun s =>
    match s.saved with
    | some table => (.ok (), { s with store.table := table, saved := none })
    | none => (.error (.driver .notInTransaction), s)

/-- Opens embedded connections for a registry. -/
def connector : Connector Unit EmbeddedConnection := fun name entry => do
  let dsn ← Act.ofExcept entry.dsn
  Act.ofExcept (connect name dsn)

end EmbeddedConnection

instance : Connection EmbeddedConnection where
  backend _ := .sqlite
  inTransaction := EmbeddedConnection.inTransaction
  prepare sql := return { sql }
  bind := EmbeddedConnection.bind
  execute := EmbeddedConnection.execute
  fetchOne p := return p.rows.head?
  fetchAll p := return p.rows
  rowCount _ p := p.rowCount
  lastInsertId := .read EmbeddedConnection.lastInsertId
  beginTransaction := EmbeddedConnection.beginTransaction
  commit := EmbeddedConnection.commit
  rollback := EmbeddedConnection.rollback

end BoundSql
