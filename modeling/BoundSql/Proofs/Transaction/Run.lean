import BoundSql.Connection.Scripted
import BoundSql.Transaction

/-!
# Runs on a scripted connection

What a program does with a scripted connection, as a tree: its calls (`Operation`), its
transactions, whose works are trees themselves, and what it does next after each result, be it a
failure or not (`Work`). Transactions are opened by `transaction` only; the script may be changed at
any point, so that any call can be made to fail, other than a rollback.

`Moment` says which states a run passes through: those between two calls of the program, and those
between two calls of a work that is running.

* `Operation.keeps`: no call touches the log or the transaction;
* `moment_run`: the end of a run is one of its moments.
-/

namespace BoundSql

/-- A change of the script of a connection. Failures can be armed for every call but a rollback. -/
inductive Script where
  | rows (rows : List Row)
  | affected (count : UInt64)
  | lastInsertId (id : Int64)
  | rowCount (count : Option UInt64)
  | failExecute (text : String)
  | failCommit (text : String)
  | arm (call : Call) (text : String) (h : call ≠ .rollback)

/-- The connection with the script changed. -/
def Script.change : Script → Scripted → Scripted
  | rows list, s => { s with rows := list }
  | affected count, s => { s with affected := count }
  | lastInsertId id, s => { s with lastInsertId := id }
  | rowCount count, s => { s with rowCount := count }
  | failExecute text, s => { s with executeFailure := some text }
  | failCommit text, s => { s with commitFailure := some text }
  | arm call text _, s => s.arm call text

/-- A call of a connection other than transaction control. -/
inductive Operation : Type → Type 1 where
  | prepare (sql : String) : Operation Prepared
  | bind (p : Prepared) (name : String) (value : Value) : Operation Prepared
  | execute (p : Prepared) : Operation Prepared
  | fetchOne (p : Prepared) : Operation (Option Row)
  | fetchAll (p : Prepared) : Operation (List Row)
  | lastInsertId : Operation Int64
  | observe {α : Type} (f : Scripted → α) : Operation α
  | script (change : Script) : Operation Unit

/-- What a call does. -/
def Operation.act : {α : Type} → Operation α → Act Scripted α
  | _, prepare sql => Connection.prepare sql
  | _, bind p name value => Connection.bind p name value
  | _, execute p => Connection.execute p
  | _, fetchOne p => Connection.fetchOne p
  | _, fetchAll p => Connection.fetchAll p
  | _, lastInsertId => Connection.lastInsertId
  | _, observe f => .read f
  | _, script change => .update change.change

/-- A program, or the work of a transaction. What follows a call is chosen by its result, so that a
failure can be passed on, changed or ignored. -/
inductive Work : Type → Type 1 where
  | done {α : Type} (result : Except Error α) : Work α
  | call {α β : Type} (operation : Operation β) (next : Except Error β → Work α) : Work α
  | transaction {α β : Type} (inner : Work β) (next : Except Error β → Work α) : Work α

/-- What a program does. -/
def Work.run : {α : Type} → Work α → Act Scripted α
  | _, done result => .ofExcept result
  | _, call operation next => do
    let result ← operation.act.attempt
    (next result).run
  | _, transaction inner next => do
    let result ← (BoundSql.transaction inner.run).attempt
    (next result).run

/-- The moments of a run of a program from a state: whether the work of a transaction is running,
what is still to be done of it, or else of the program, and the state of the connection. -/
inductive Moment {α : Type} (program : Work α) (s : Scripted) :
    Bool → {β : Type} → Work β → Scripted → Prop where
  | start : Moment program s false program s
  | call {β γ : Type} {inside : Bool} {operation : Operation β} {next : Except Error β → Work γ}
    {u : Scripted} (h : Moment program s inside (.call operation next) u) :
    Moment program s inside (next (operation.act.apply u).1) (operation.act.apply u).2
  | enter {β γ : Type} {inside : Bool} {inner : Work β} {next : Except Error β → Work γ}
    {u opened : Scripted} (h : Moment program s inside (.transaction inner next) u)
    (hb : (Connection.beginTransaction : Act Scripted Unit).apply u = (.ok (), opened)) :
    Moment program s true inner opened
  | leave {β γ : Type} {inside : Bool} {inner : Work β} {next : Except Error β → Work γ}
    {u : Scripted} (h : Moment program s inside (.transaction inner next) u) :
    Moment program s inside (next ((transaction inner.run).apply u).1)
      ((transaction inner.run).apply u).2

theorem Work.apply_call {α β : Type} (operation : Operation β) (next : Except Error β → Work α)
    (s : Scripted) :
    (Work.call operation next).run.apply s =
      (next (operation.act.apply s).1).run.apply (operation.act.apply s).2 :=
  Act.apply_bind_of_ok (Act.apply_attempt operation.act s)

theorem Work.apply_transaction {α β : Type} (inner : Work β) (next : Except Error β → Work α)
    (s : Scripted) :
    (Work.transaction inner next).run.apply s =
      (next ((BoundSql.transaction inner.run).apply s).1).run.apply
        ((BoundSql.transaction inner.run).apply s).2 :=
  Act.apply_bind_of_ok (Act.apply_attempt (BoundSql.transaction inner.run) s)

/-- The end of a run is one of its moments. -/
theorem moment_run {α β : Type} {program : Work α} {s : Scripted} {inside : Bool}
    (current : Work β) {u : Scripted} (h : Moment program s inside current u) :
    Moment program s inside (.done (current.run.apply u).1) (current.run.apply u).2 := by
  induction current generalizing u with
  | done result => exact h
  | call operation next ih =>
    rw [Work.apply_call]
    exact ih _ h.call
  | transaction inner next _ ih =>
    rw [Work.apply_transaction]
    exact ih _ h.leave

/-! ## Calls that touch no transaction -/

namespace Scripted

/-- No failure is armed for a rollback. -/
def RollsBack (s : Scripted) : Prop :=
  ∀ entry ∈ s.armed, entry.1 ≠ .rollback

instance (s : Scripted) : Decidable s.RollsBack :=
  inferInstanceAs (Decidable (∀ entry ∈ s.armed, entry.1 ≠ .rollback))

/-- The second state is like the first as far as transactions are concerned. -/
structure Keeps (s t : Scripted) : Prop where
  log : t.log = s.log
  inTransaction : t.inTransaction = s.inTransaction
  rollsBack : s.RollsBack → t.RollsBack

namespace Keeps

theorem refl (s : Scripted) : s.Keeps s :=
  ⟨rfl, rfl, id⟩

theorem trans {s t u : Scripted} (h : s.Keeps t) (h' : t.Keeps u) : s.Keeps u :=
  ⟨h'.log.trans h.log, h'.inTransaction.trans h.inTransaction, h'.rollsBack ∘ h.rollsBack⟩

end Keeps

theorem keeps_pure {α : Type} (a : α) (s : Scripted) :
    s.Keeps ((pure a : Act Scripted α).apply s).2 :=
  .refl s

theorem keeps_read {α : Type} (f : Scripted → α) (s : Scripted) :
    s.Keeps ((Act.read f).apply s).2 :=
  .refl s

theorem keeps_disarm (call : Call) (s : Scripted) : s.Keeps (s.disarm call).2 := by
  unfold disarm
  split
  · exact ⟨rfl, rfl, fun h entry he => h entry (List.mem_filter.1 he).1⟩
  · exact .refl s

/-- A guarded effect reports the armed failure, or is the effect itself. -/
theorem guarded_cases {α : Type} (call : Call) (act : Act Scripted α) (s : Scripted) :
    (∃ text, (guarded call act).apply s = (.error (failure text), (s.disarm call).2)) ∨
    (guarded call act).apply s = act.apply (s.disarm call).2 := by
  unfold guarded
  rw [Act.apply_ofFunction]
  obtain ⟨_ | text, t⟩ := s.disarm call
  · exact .inr rfl
  · exact .inl ⟨text, rfl⟩

theorem guarded_of_disarm_none {α : Type} {call : Call} (act : Act Scripted α) {s : Scripted}
    (h : s.disarm call = (none, s)) : (guarded call act).apply s = act.apply s := by
  unfold guarded
  rw [Act.apply_ofFunction, h]

theorem keeps_guarded {α : Type} (call : Call) {act : Act Scripted α}
    (h : ∀ s : Scripted, s.Keeps (act.apply s).2) (s : Scripted) :
    s.Keeps ((guarded call act).apply s).2 := by
  rcases guarded_cases call act s with ⟨text, he⟩ | he
  · rw [he]
    exact keeps_disarm call s
  · rw [he]
    exact (keeps_disarm call s).trans (h _)

theorem keeps_execute (p : Prepared) (s : Scripted) : s.Keeps ((execute p).apply s).2 := by
  unfold execute
  rw [Act.apply_ofFunction]
  cases s.executeFailure with
  | some text => exact ⟨rfl, rfl, id⟩
  | none => by_cases hs : isSelect p.sql = true <;> simp only [hs] <;> exact ⟨rfl, rfl, id⟩

theorem keeps_change (change : Script) (s : Scripted) : s.Keeps (change.change s) := by
  cases change with
  | arm call text hc =>
    refine ⟨rfl, rfl, fun h => ?_⟩
    exact List.forall_mem_cons.2 ⟨hc, fun entry he => h entry (List.mem_filter.1 he).1⟩
  | _ => exact ⟨rfl, rfl, id⟩

end Scripted

/-- No call touches the log or the transaction, or makes a rollback fail. -/
theorem Operation.keeps {α : Type} (operation : Operation α) (s : Scripted) :
    s.Keeps (operation.act.apply s).2 := by
  cases operation with
  | prepare sql => exact Scripted.keeps_guarded .prepare (Scripted.keeps_pure _) s
  | bind p name value => exact Scripted.keeps_guarded .bind (Scripted.keeps_pure _) s
  | execute p => exact Scripted.keeps_execute p s
  | fetchOne p => exact Scripted.keeps_guarded .fetch (Scripted.keeps_pure _) s
  | fetchAll p => exact Scripted.keeps_guarded .fetch (Scripted.keeps_pure _) s
  | lastInsertId => exact Scripted.keeps_guarded .lastInsertId (Scripted.keeps_read _) s
  | observe f => exact Scripted.keeps_read f s
  | script change => exact Scripted.keeps_change change s

end BoundSql
