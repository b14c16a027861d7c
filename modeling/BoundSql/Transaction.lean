import BoundSql.Connection

/-!
# Transactions

`transaction` runs work between the beginning and the end of a transaction: it commits when the
work succeeds and rolls back when the work fails. A failed commit is rolled back too. The error of
the work, or of the commit, is the result; whether the rollback succeeds does not matter.

* `apply_rollbackQuietly`: an open transaction is rolled back, and nothing fails;
* `transaction_of_begin_error`, `transaction_of_work_error`, `transaction_of_commit_error`,
  `transaction_of_commit`: the four ways in which a transaction ends.
-/

namespace BoundSql

variable {σ α : Type} [Connection σ]

/-- Rolls back if a transaction is open, and does not fail. -/
def rollbackQuietly : Act σ Unit := do
  if Connection.inTransaction (← get) then
    let _ ← Act.attempt (σ := σ) Connection.rollback

theorem apply_rollbackQuietly (s : σ) :
    (rollbackQuietly : Act σ Unit).apply s =
      (.ok (), if Connection.inTransaction s then
        ((Connection.rollback : Act σ Unit).apply s).2 else s) := by
  simp only [rollbackQuietly, Act.apply_bind, Act.apply_get]
  by_cases h : Connection.inTransaction s <;> simp [h, Except.map]

/-- Runs work inside a transaction. -/
def transaction (work : Act σ α) : Act σ α := do
  Connection.beginTransaction
  match ← work.attempt with
  | .ok value =>
    match ← Act.attempt (σ := σ) Connection.commit with
    | .ok () => return value
    | .error e => do
      rollbackQuietly
      throw e
  | .error e => do
    rollbackQuietly
    throw e

section
variable {work : Act σ α} {s opened worked t : σ} {value : α} {e : Error}

theorem transaction_of_begin_error
    (hb : (Connection.beginTransaction : Act σ Unit).apply s = (.error e, t)) :
    (transaction work).apply s = (.error e, t) :=
  Act.apply_bind_of_error hb

theorem transaction_of_work_error
    (hb : (Connection.beginTransaction : Act σ Unit).apply s = (.ok (), opened))
    (hw : work.apply opened = (.error e, worked)) :
    (transaction work).apply s = (.error e, ((rollbackQuietly : Act σ Unit).apply worked).2) := by
  have hr := apply_rollbackQuietly worked
  rw [transaction, Act.apply_bind_of_ok hb, Act.apply_bind, Act.apply_attempt, hw, hr]
  exact Act.apply_bind_of_ok hr

theorem transaction_of_commit_error
    (hb : (Connection.beginTransaction : Act σ Unit).apply s = (.ok (), opened))
    (hw : work.apply opened = (.ok value, worked))
    (hc : (Connection.commit : Act σ Unit).apply worked = (.error e, t)) :
    (transaction work).apply s = (.error e, ((rollbackQuietly : Act σ Unit).apply t).2) := by
  have hr := apply_rollbackQuietly t
  rw [transaction, Act.apply_bind_of_ok hb, Act.apply_bind, Act.apply_attempt, hw]
  show (Act.attempt (σ := σ) Connection.commit >>= _).apply worked = _
  rw [Act.apply_bind, Act.apply_attempt, hc, hr]
  exact Act.apply_bind_of_ok hr

theorem transaction_of_commit
    (hb : (Connection.beginTransaction : Act σ Unit).apply s = (.ok (), opened))
    (hw : work.apply opened = (.ok value, worked))
    (hc : (Connection.commit : Act σ Unit).apply worked = (.ok (), t)) :
    (transaction work).apply s = (.ok value, t) := by
  rw [transaction, Act.apply_bind_of_ok hb, Act.apply_bind, Act.apply_attempt, hw]
  show (Act.attempt (σ := σ) Connection.commit >>= _).apply worked = _
  rw [Act.apply_bind, Act.apply_attempt, hc]
  rfl

end

end BoundSql
