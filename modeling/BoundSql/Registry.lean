import BoundSql.Builder
import BoundSql.Config.Catalog
import BoundSql.Transaction

/-!
# Registries of connections

A registry opens the connections of a catalog when they are first used and keeps them until they
are disconnected. The connector that opens them is an effect on a state of its own. Every open
connection has a serial number, so that a connection that is opened again is told from the one
before it.

Work on a connection is an effect on the connection's state; the registry keeps the state that the
work leaves, whether it fails or not.
-/

namespace BoundSql

/-- Opens the connection of an entry under its name; `ω` is the state of the connector. -/
abbrev Connector (ω σ : Type) := String → Entry → Act ω σ

/-- An open connection. -/
structure Live (σ : Type) where
  /-- The number of connections opened before it. -/
  serial : Nat
  state : σ

/-- The connections of a catalog. -/
structure Registry (ω σ : Type) where
  catalog : Catalog
  connector : Connector ω σ
  /-- The state of the connector. -/
  world : ω
  /-- The open connections. -/
  live : OrderedMap (Live σ) := ∅
  /-- The number of connections opened so far. -/
  opened : Nat := 0

/-- The connection that is meant when no name is given. -/
def defaultConnection : String := "local"

namespace Registry

variable {ω σ α : Type}

/-- Calls the connector, with the name as context of its failure. -/
def connect (name : String) (entry : Entry) : Act (Registry ω σ) σ :=
  .ofFunction fun r =>
    let act := (r.connector name entry).withContext ("Failed to open connection '" ++ name ++ "'")
    let (result, world) := act.apply r.world
    (result, { r with world })

/-- The connection under a name, opened if it is not open yet. -/
def connection (name : String) : Act (Registry ω σ) (Live σ) := do
  let r ← get
  match r.live.get? name with
  | some live => return live
  | none =>
    match r.catalog.get? name with
    | none => throw (.unknownConnection name)
    | some entry =>
      let state ← connect name entry
      let live : Live σ := ⟨r.opened, state⟩
      Act.update fun r => { r with live := r.live.insert name live, opened := r.opened + 1 }
      return live

/-- Runs work on the connection under a name. -/
def within (name : String) (work : Act σ α) : Act (Registry ω σ) α := do
  let live ← connection name
  .ofFunction fun r =>
    let (result, state) := work.apply live.state
    (result, { r with live := r.live.insert name { live with state } })

/-- A builder of statements on a table, over the default connection. -/
def table (name : String) : Act (Registry ω σ) Builder :=
  within defaultConnection (pure { table := name })

/-- A query of SQL on the default connection, without values. -/
def query [Connection σ] (sql : String) : Act (Registry ω σ) Query :=
  within defaultConnection (Query.prepare sql)

/-- Runs work in a transaction on the default connection. -/
def transaction [Connection σ] (work : Act σ α) : Act (Registry ω σ) α :=
  within defaultConnection (BoundSql.transaction work)

/-- Whether the connection under a name is open. -/
def isConnected (r : Registry ω σ) (name : String) : Bool :=
  r.live.contains name

/-- Forgets the open connection under a name, and tells whether there was one. -/
def disconnect (name : String) : Act (Registry ω σ) Bool :=
  .ofFunction fun r => (.ok (r.isConnected name), { r with live := r.live.erase name })

end Registry

end BoundSql
