import BoundSql.Proofs.Query.Sending

/-!
# Queries on a scripted connection

Preparing, binding and fetching change nothing of a script unless they meet an armed failure
(`Quiet`), so that a query which succeeds leaves one trace: the execution of its statement.

* `Scripted.quiet_send`: a statement that is prepared and bound;
* `count_ok`, `all_ok`: a `SELECT` that is executed and read.
-/

namespace BoundSql

variable {α β : Type}

namespace Scripted

/-- The state after another execution. -/
def record (sql : String) (bindings : OrderedMap Value) (s : Scripted) : Scripted :=
  { s with executed := s.executed ++ [(sql, bindings)] }

/-- An effect that leaves the script as it is when it succeeds. -/
def Quiet (act : Act Scripted α) : Prop :=
  ∀ s a t, act.apply s = (.ok a, t) → t = s

theorem quiet_pure (a : α) : Quiet (pure a) := by
  intro s b t h
  cases h
  rfl

theorem quiet_throw (e : Error) : Quiet (throw e : Act Scripted α) := by
  intro s a t h
  cases h

theorem Quiet.bind {act : Act Scripted α} {next : α → Act Scripted β} (h : Quiet act)
    (hn : ∀ a, Quiet (next a)) : Quiet (act >>= next) := by
  intro s b t hb
  obtain ⟨a, u, ha, hb⟩ := Act.apply_bind_eq_ok.1 hb
  exact (hn a u b t hb).trans (h s a u ha)

theorem eq_of_disarm {call : Call} {s t : Scripted} (h : s.disarm call = (none, t)) : t = s := by
  unfold disarm at h
  split at h <;> cases h
  rfl

theorem quiet_guarded_pure (call : Call) (a : α) : Quiet (guarded call (pure a)) := by
  intro s b t h
  unfold guarded at h
  rw [Act.apply_ofFunction] at h
  split at h
  · cases h
  · rename_i hd
    cases h
    exact eq_of_disarm hd

theorem quiet_prepare (sql : String) : Quiet (Query.prepare sql) := by
  rw [Query.prepare]
  exact (quiet_guarded_pure .prepare ({ sql } : Prepared)).bind fun _ => quiet_pure _

theorem quiet_bind (p : Prepared) (name : String) (value : Value) :
    Quiet (Connection.bind p name value) :=
  quiet_guarded_pure .bind (p.bind name value)

theorem quiet_bindItems (name : String) (position : Nat) (items : List Value) (query : Query) :
    Quiet (Query.bindItems name position items query) := by
  induction items generalizing position query with
  | nil => exact quiet_pure query
  | cons item rest ih =>
    rw [Query.bindItems]
    split
    · exact quiet_throw _
    · exact (quiet_bind _ _ item).bind fun p => ih (position + 1) ⟨p⟩

theorem quiet_bindValue (query : Query) (name : String) (value : Value) :
    Quiet (query.bindValue name value) := by
  unfold Query.bindValue
  split
  · exact quiet_bindItems name 0 _ query
  · exact (quiet_bind _ name value).bind fun _ => quiet_pure _

theorem quiet_bindValues (query : Query) (entries : List (String × Value)) :
    Quiet (query.bindValues entries) := by
  induction entries generalizing query with
  | nil => exact quiet_pure query
  | cons entry rest ih => exact (quiet_bindValue query entry.1 entry.2).bind ih

theorem quiet_send (compiled : Compiled) : Quiet (send compiled) := by
  rw [send]
  exact (quiet_prepare compiled.sql).bind fun query => quiet_bindValues query _

/-- An execution that succeeds is recorded, and a `SELECT` has the rows of the script. -/
theorem execute_ok {p q : Prepared} {s t : Scripted} (hs : isSelect p.sql)
    (h : (execute p).apply s = (.ok q, t)) :
    q = { p with rows := s.rows, rowCount := UInt64.ofNat s.rows.length } ∧
      t = s.record p.sql p.bindings := by
  unfold execute at h
  rw [Act.apply_ofFunction] at h
  split at h
  · cases h
  · rw [if_pos hs] at h
    cases h
    exact ⟨rfl, rfl⟩

end Scripted

/-- The state after a compiled statement has been executed. -/
def Scripted.ran (compiled : Compiled) (s : Scripted) : Scripted :=
  s.record compiled.sql (.ofList (received compiled.values.entries))

section
variable {compiled : Compiled} {s t : Scripted}

/-- A `SELECT` that is handed over and executed holds the rows of the script. -/
theorem execute_sent_ok {read : Prepared → Act Scripted α} {a : α}
    (hs : Scripted.isSelect compiled.sql)
    (h : (do
      let query ← send compiled
      let p ← query.execute
      read p).apply s = (.ok a, t)) :
    (read { compiled.statement with rows := s.rows, rowCount := UInt64.ofNat s.rows.length }).apply
      (s.ran compiled) = (.ok a, t) := by
  obtain ⟨query, u, hq, h⟩ := Act.apply_bind_eq_ok.1 h
  obtain ⟨p, u', hp, h⟩ := Act.apply_bind_eq_ok.1 h
  obtain rfl := Scripted.quiet_send compiled s query u hq
  have hstatement := statement_of_send hq
  rw [← compiled.sql_statement, ← hstatement] at hs
  obtain ⟨rfl, rfl⟩ := Scripted.execute_ok hs hp
  rw [hstatement] at h
  rwa [Scripted.ran, ← compiled.sql_statement, ← compiled.bindings_statement]

theorem count_ok {total : UInt64} (h : (send compiled >>= Query.count).apply s = (.ok total, t))
    (hs : Scripted.isSelect compiled.sql) :
    total = s.rowCount.getD (UInt64.ofNat s.rows.length) ∧ t = s.ran compiled := by
  cases execute_sent_ok hs h
  exact ⟨rfl, rfl⟩

theorem all_ok {rows : List Row} (h : (send compiled >>= Query.all).apply s = (.ok rows, t))
    (hs : Scripted.isSelect compiled.sql) :
    rows = s.rows ∧ t = s.ran compiled := by
  have hf := execute_sent_ok hs h
  exact ⟨Scripted.apply_guarded_pure hf, Scripted.quiet_guarded_pure _ _ _ _ _ hf⟩

end

end BoundSql
