import BoundSql.Query

/-!
# Queries that are kept

A query that is kept between calls keeps the outcome of its last execution with its statement: the
rows and their number. Every accessor that reads an outcome runs the statement again first. A run
that fails leaves the outcome of the run before it, which no accessor then reads.

* `Accessor.apply_run`: an accessor gives what a query gives that keeps nothing.
-/

namespace BoundSql

/-- Effects on a query and a connection. -/
abbrev Using (σ : Type) := Act (Query × σ)

/-- What can be asked of a query. -/
inductive Accessor : Type → Type where
  /-- Whether the driver ran the statement. -/
  | execute : Accessor Bool
  /-- The same under its other name. -/
  | exec : Accessor Bool
  | lastId : Accessor Int64
  | count : Accessor UInt64
  | get : Accessor Fetched
  | getOne : Accessor (Option Row)
  | all : Accessor (List Row)
  | dump : Accessor String
  | sql : Accessor String
  | describe : Accessor String

namespace Accessor

variable {σ α : Type} [Connection σ]

/-- Runs the statement and keeps its outcome. -/
def rerun : Using σ Unit :=
  .ofFunction fun (query, s) =>
    match query.execute.apply s with
    | (.ok statement, s) => (.ok (), (⟨statement⟩, s))
    | (.error e, s) => (.error e, (query, s))

/-- An effect that reads the outcome that is kept. -/
def reading (read : Prepared → Act σ α) : Using σ α :=
  .ofFunction fun (query, s) =>
    let (result, s) := (read query.statement).apply s
    (result, (query, s))

/-- What an accessor does. -/
def run : {α : Type} → Accessor α → Using σ α
  | _, execute | _, exec => do
    rerun
    return true
  | _, lastId => do
    rerun
    Act.onSecond Connection.lastInsertId
  | _, count => do
    rerun
    Act.read fun (query, s) => Connection.rowCount s query.statement
  | _, get => do
    rerun
    return Fetched.ofRows (← reading Connection.fetchAll)
  | _, getOne => do
    rerun
    reading Connection.fetchOne
  | _, all => do
    rerun
    reading Connection.fetchAll
  | _, dump => Act.read fun (query, _) => query.dump
  | _, sql => Act.read fun (query, _) => query.statement.sql
  | _, describe => Act.read fun (query, s) => query.describe s

/-- What an accessor does on a query that keeps nothing. -/
def once (query : Query) : {α : Type} → Accessor α → Act σ α
  | _, execute | _, exec => do
    let _ ← query.execute
    return true
  | _, lastId => query.lastId
  | _, count => query.count
  | _, get => query.get
  | _, getOne => query.getOne
  | _, all => query.all
  | _, dump => return query.dump
  | _, sql => return query.statement.sql
  | _, describe => .read query.describe

/-! ## What accessors do -/

/-- What follows runs on the query with its new outcome, unless the statement could not be run. -/
theorem apply_rerun_bind (next : Unit → Using σ α) (query : Query) (s : σ) :
    (rerun >>= next).apply (query, s) =
      match query.execute.apply s with
      | (.ok statement, s) => (next ()).apply (⟨statement⟩, s)
      | (.error e, s) => (.error e, (query, s)) := by
  rw [Act.apply_bind, rerun, Act.apply_ofFunction]
  dsimp only
  obtain ⟨e | statement, t⟩ := query.execute.apply s <;> rfl

/-- An accessor gives what it gives on a query that keeps nothing, and changes the connection
alike. -/
theorem apply_run (accessor : Accessor α) (query : Query) (s : σ) :
    ∃ kept, accessor.run.apply (query, s) =
      (((accessor.once query).apply s).1, (kept, ((accessor.once query).apply s).2)) := by
  have after (next : Unit → Using σ α) (plain : Prepared → Act σ α)
      (h : ∀ statement t, ∃ kept, (next ()).apply (⟨statement⟩, t) =
        (((plain statement).apply t).1, (kept, ((plain statement).apply t).2))) :
      ∃ kept, (rerun >>= next).apply (query, s) =
        (((query.execute >>= plain).apply s).1, (kept, ((query.execute >>= plain).apply s).2)) := by
    rw [apply_rerun_bind, Act.apply_bind]
    obtain ⟨e | statement, t⟩ := query.execute.apply s
    · exact ⟨query, rfl⟩
    · exact h statement t
  cases accessor with
  | execute | exec => exact after _ (fun _ => pure true) fun statement t => ⟨⟨statement⟩, rfl⟩
  | lastId => exact after _ (fun _ => Connection.lastInsertId) fun statement t => ⟨⟨statement⟩, rfl⟩
  | count => exact after _ _ fun statement t => ⟨⟨statement⟩, rfl⟩
  | get =>
    have hget : once query (.get : Accessor Fetched) =
        (query.execute >>= fun statement => do
          return Fetched.ofRows (← Connection.fetchAll statement) : Act σ Fetched) :=
      bind_assoc _ _ _
    rw [hget]
    refine after _ _ fun statement t => ⟨⟨statement⟩, ?_⟩
    rw [Act.apply_bind, Act.apply_bind, reading, Act.apply_ofFunction]
    dsimp only
    obtain ⟨e | rows, u⟩ := (Connection.fetchAll statement : Act σ (List Row)).apply t <;> rfl
  | getOne => exact after _ _ fun statement t => ⟨⟨statement⟩, rfl⟩
  | all => exact after _ _ fun statement t => ⟨⟨statement⟩, rfl⟩
  | dump | sql | describe => exact ⟨query, rfl⟩

end Accessor

end BoundSql
