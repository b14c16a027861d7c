import BoundSql.Proofs.Transaction.Run

/-!
# Transactions end where they began

A run in which no rollback fails leaves only whole transactions in the log, and at most one that is
open while its work is running. The invariant (`Traced`) is carried from moment to moment: a
transaction that is begun outside of another adds one block to the log, or nothing if it cannot be
begun (`Ends`), and one within another adds nothing, since it cannot be begun.

* `Work.keeping`: a work that is run in a transaction leaves the transaction open;
* `ends_transaction`: how a transaction ends;
* `Moment.traced`: what the log says at every moment of a run;
* `transactions_never_leak`: all of it, for every run.
-/

namespace BoundSql

/-- A transaction that was begun and has ended. -/
inductive Block where
  | committed
  | rolledBack
  /-- The commit failed. -/
  | commitFailed
  deriving DecidableEq, Repr

/-- The calls of a transaction, as they are recorded. -/
def Block.events : Block → List TransactionEvent
  | committed => [.begin, .commit]
  | rolledBack => [.begin, .rollback]
  | commitFailed => [.begin, .commit, .rollback]

/-- The calls of transactions that have ended, and of the one that is open. -/
def recorded (blocks : List Block) (inside : Bool) : List TransactionEvent :=
  blocks.flatMap Block.events ++ if inside then [.begin] else []

/-- Between two beginnings a transaction is closed. -/
theorem not_infix_recorded (blocks : List Block) (inside : Bool) :
    ¬ [.begin, .begin] <:+: recorded blocks inside := by
  induction blocks with
  | nil => cases inside <;> decide
  | cons block rest ih =>
    have happ : recorded (block :: rest) inside = block.events ++ recorded rest inside := by
      rw [recorded, List.flatMap_cons, List.append_assoc]
      rfl
    rw [happ]
    cases block <;> simpa [Block.events, List.infix_cons_iff] using ih

/-! ## Transaction control -/

namespace Scripted

/-- The second state has one more call in its log. -/
structure Records (event : TransactionEvent) (inside : Bool) (s t : Scripted) : Prop where
  log : t.log = s.log ++ [event]
  inTransaction : t.inTransaction = inside
  rollsBack : s.RollsBack → t.RollsBack

/-- A beginning fails and changes nothing, or no transaction was open. -/
theorem begin_cases (s : Scripted) :
    (∃ e t, (Connection.beginTransaction : Act Scripted Unit).apply s = (.error e, t) ∧
      s.Keeps t) ∨
    (s.inTransaction = false ∧
      ∃ t, (Connection.beginTransaction : Act Scripted Unit).apply s = (.ok (), t) ∧
        Records .begin true s t) := by
  have hk := keeps_disarm .begin s
  rcases guarded_cases .begin beginTransaction s with ⟨text, he⟩ | he
  · exact .inl ⟨_, _, he, hk⟩
  · cases hs : s.inTransaction with
    | true => exact .inl ⟨_, _, he.trans (if_pos (hk.inTransaction.trans hs)), hk⟩
    | false =>
      have hclosed : (s.disarm .begin).2.inTransaction ≠ true := by
        rw [hk.inTransaction, hs]
        exact Bool.false_ne_true
      exact .inr ⟨rfl, _, he.trans (if_neg hclosed), congrArg (· ++ _) hk.log, rfl, hk.rollsBack⟩

/-- A commit is recorded and closes the transaction, unless it fails. -/
theorem commit_cases (s : Scripted) :
    (∃ e t, (Connection.commit : Act Scripted Unit).apply s = (.error e, t) ∧
      Records .commit s.inTransaction s t) ∨
    (∃ t, (Connection.commit : Act Scripted Unit).apply s = (.ok (), t) ∧
      Records .commit false s t) := by
  show (∃ e t, commit.apply s = (.error e, t) ∧ _) ∨ (∃ t, commit.apply s = (.ok (), t) ∧ _)
  unfold commit
  simp only [Act.apply_ofFunction]
  cases s.commitFailure with
  | some text => exact .inl ⟨_, _, rfl, rfl, rfl, id⟩
  | none => exact .inr ⟨_, rfl, rfl, rfl, id⟩

theorem disarm_rollback {s : Scripted} (h : s.RollsBack) : s.disarm .rollback = (none, s) := by
  have hfind : s.armed.find? (·.1 = .rollback) = none :=
    List.find?_eq_none.2 fun entry he => by simpa using h entry he
  rw [disarm, hfind]

/-- An open transaction is closed by a rollback. -/
theorem records_rollbackQuietly {s : Scripted} (h : s.RollsBack) (hs : s.inTransaction = true) :
    Records .rollback false s ((rollbackQuietly : Act Scripted Unit).apply s).2 := by
  have happ : (Connection.rollback : Act Scripted Unit).apply s = rollback.apply s :=
    guarded_of_disarm_none rollback (disarm_rollback h)
  have hopen : Connection.inTransaction s = true := hs
  rw [apply_rollbackQuietly, if_pos hopen, happ]
  exact ⟨rfl, rfl, id⟩

end Scripted

/-! ## One transaction -/

section
variable {α β : Type} {work : Act Scripted α} {s : Scripted}

/-- An effect that leaves an open transaction as it is. -/
def Keeping (work : Act Scripted α) : Prop :=
  ∀ s : Scripted, s.inTransaction = true → s.Keeps (work.apply s).2

/-- A transaction within another fails, whatever its work is. -/
theorem refused_transaction (α : Type) (hs : s.inTransaction = true) :
    ∃ e t, (Connection.beginTransaction : Act Scripted Unit).apply s = (.error e, t) ∧
      (∀ work : Act Scripted α, (transaction work).apply s = (.error e, t)) ∧ s.Keeps t := by
  rcases s.begin_cases with ⟨e, t, hb, hk⟩ | ⟨hclosed, -⟩
  · exact ⟨e, t, hb, fun work => transaction_of_begin_error hb, hk⟩
  · rw [hs] at hclosed
    cases hclosed

/-- A work that is run in a transaction leaves the transaction open. -/
theorem Work.keeping (work : Work α) : Keeping work.run := by
  intro s hs
  induction work generalizing s with
  | done result => exact .refl s
  | call operation next ih =>
    have hk := operation.keeps s
    rw [Work.apply_call]
    exact hk.trans (ih _ _ (hk.inTransaction.trans hs))
  | transaction inner next _ ih =>
    -- The transaction within is refused, so that its work does not matter.
    obtain ⟨e, t, -, happ, hk⟩ := refused_transaction _ hs
    rw [Work.apply_transaction, happ]
    exact hk.trans (ih _ _ (hk.inTransaction.trans hs))

/-- How a transaction ends that is not within another: its result and the state after it. -/
inductive Ends (work : Act Scripted α) (s : Scripted) : Except Error α → Scripted → Prop where
  | notBegun {e : Error} {t : Scripted}
    (hb : (Connection.beginTransaction : Act Scripted Unit).apply s = (.error e, t))
    (log : t.log = s.log) : Ends work s (.error e) t
  | committed {opened worked t : Scripted} {value : α}
    (hb : (Connection.beginTransaction : Act Scripted Unit).apply s = (.ok (), opened))
    (hw : work.apply opened = (.ok value, worked))
    (hc : (Connection.commit : Act Scripted Unit).apply worked = (.ok (), t))
    (log : t.log = s.log ++ Block.committed.events) : Ends work s (.ok value) t
  | rolledBack {opened worked t : Scripted} {e : Error}
    (hb : (Connection.beginTransaction : Act Scripted Unit).apply s = (.ok (), opened))
    (hw : work.apply opened = (.error e, worked))
    (log : t.log = s.log ++ Block.rolledBack.events) : Ends work s (.error e) t
  | commitFailed {opened worked refused t : Scripted} {value : α} {e : Error}
    (hb : (Connection.beginTransaction : Act Scripted Unit).apply s = (.ok (), opened))
    (hw : work.apply opened = (.ok value, worked))
    (hc : (Connection.commit : Act Scripted Unit).apply worked = (.error e, refused))
    (log : t.log = s.log ++ Block.commitFailed.events) : Ends work s (.error e) t

/-- A transaction gives a value exactly when it was committed and its work gave the value. -/
theorem Ends.ok_iff {result : Except Error α} {t : Scripted} (h : Ends work s result t)
    (value : α) :
    result = .ok value ↔ t.log = s.log ++ Block.committed.events ∧
      ∃ opened, (Connection.beginTransaction : Act Scripted Unit).apply s = (.ok (), opened) ∧
        (work.apply opened).1 = .ok value := by
  cases h with
  | notBegun hb log => simp [hb]
  | committed hb hw hc log => simp [hb, hw, log]
  | rolledBack hb hw log => simp [hb, hw]
  | commitFailed hb hw hc log => simp [log, Block.events]

/-- A transaction that ends has added a block to the log, or nothing. -/
theorem Ends.log_cases {result : Except Error α} {t : Scripted} (h : Ends work s result t) :
    ∃ blocks : List Block, t.log = s.log ++ blocks.flatMap Block.events := by
  cases h with
  | notBegun hb log => exact ⟨[], by rw [log, List.flatMap_nil, List.append_nil]⟩
  | committed hb hw hc log => exact ⟨[.committed], by rw [log, List.flatMap_singleton]⟩
  | rolledBack hb hw log => exact ⟨[.rolledBack], by rw [log, List.flatMap_singleton]⟩
  | commitFailed hb hw hc log => exact ⟨[.commitFailed], by rw [log, List.flatMap_singleton]⟩

/-- A transaction that is not within another is closed when it ends. -/
theorem ends_transaction (hw : Keeping work) (hs : s.inTransaction = false) (hr : s.RollsBack) :
    Ends work s ((transaction work).apply s).1 ((transaction work).apply s).2 ∧
      ((transaction work).apply s).2.inTransaction = false ∧
      ((transaction work).apply s).2.RollsBack := by
  rcases s.begin_cases with ⟨e, t, hb, hk⟩ | ⟨-, opened, hb, begins⟩
  · rw [transaction_of_begin_error hb]
    exact ⟨.notBegun hb hk.log, hk.inTransaction.trans hs, hk.rollsBack hr⟩
  · have hk := hw opened begins.inTransaction
    rcases hwork : work.apply opened with ⟨e | value, worked⟩
    · rw [hwork] at hk
      have rolls := hk.rollsBack (begins.rollsBack hr)
      have ends := Scripted.records_rollbackQuietly rolls
        (hk.inTransaction.trans begins.inTransaction)
      rw [transaction_of_work_error hb hwork]
      refine ⟨.rolledBack hb hwork ?_, ends.inTransaction, ends.rollsBack rolls⟩
      rw [ends.log, hk.log, begins.log, List.append_assoc]
      rfl
    · rw [hwork] at hk
      have rolls := hk.rollsBack (begins.rollsBack hr)
      rcases worked.commit_cases with ⟨e, refused, hc, commits⟩ | ⟨t, hc, commits⟩
      · -- After a failed commit the transaction is still open, so it is rolled back.
        have stillOpen := commits.inTransaction.trans
          (hk.inTransaction.trans begins.inTransaction)
        have ends := Scripted.records_rollbackQuietly (commits.rollsBack rolls) stillOpen
        rw [transaction_of_commit_error hb hwork hc]
        refine ⟨.commitFailed hb hwork hc ?_, ends.inTransaction,
          ends.rollsBack (commits.rollsBack rolls)⟩
        rw [ends.log, commits.log, hk.log, begins.log, List.append_assoc, List.append_assoc]
        rfl
      · rw [transaction_of_commit hb hwork hc]
        refine ⟨.committed hb hwork hc ?_, commits.inTransaction, commits.rollsBack rolls⟩
        rw [commits.log, hk.log, begins.log, List.append_assoc]
        rfl

end

/-! ## Runs -/

/-- What a run has left on the connection since it started: whole transactions, and the beginning of
one whose work is running. -/
structure Traced (s : Scripted) (inside : Bool) (u : Scripted) : Prop where
  inTransaction : u.inTransaction = inside
  rollsBack : u.RollsBack
  log : ∃ blocks, u.log = s.log ++ recorded blocks inside

namespace Traced

variable {s u t : Scripted} {inside : Bool}

theorem keeps (h : Traced s inside u) (hk : u.Keeps t) : Traced s inside t where
  inTransaction := hk.inTransaction.trans h.inTransaction
  rollsBack := hk.rollsBack h.rollsBack
  log := h.log.imp fun _ hlog => hk.log.trans hlog

theorem begins (h : Traced s false u) (hb : Scripted.Records .begin true u t) :
    Traced s true t where
  inTransaction := hb.inTransaction
  rollsBack := hb.rollsBack h.rollsBack
  log := by
    obtain ⟨blocks, hlog⟩ := h.log
    refine ⟨blocks, ?_⟩
    rw [hb.log, hlog, List.append_assoc]
    simp [recorded]

theorem ends (h : Traced s false u) {more : List Block}
    (hl : t.log = u.log ++ more.flatMap Block.events) (hs : t.inTransaction = false)
    (hr : t.RollsBack) : Traced s false t where
  inTransaction := hs
  rollsBack := hr
  log := by
    obtain ⟨blocks, hlog⟩ := h.log
    refine ⟨blocks ++ more, ?_⟩
    rw [hl, hlog, List.append_assoc]
    simp [recorded]

end Traced

/-- Every moment of a run lies between whole transactions, or in the only one that is open. -/
theorem Moment.traced {α β : Type} {program : Work α} {s u : Scripted} {inside : Bool}
    {current : Work β} (hs : s.inTransaction = false) (hr : s.RollsBack)
    (h : Moment program s inside current u) : Traced s inside u := by
  induction h with
  | start => exact ⟨hs, hr, [], (List.append_nil s.log).symm⟩
  | call h ih => exact ih.keeps (Operation.keeps _ _)
  | @enter _ _ inside inner next u opened h hb ih =>
    rcases u.begin_cases with ⟨e, t, he, -⟩ | ⟨hclosed, t, ht, begins⟩
    · rw [hb] at he
      cases he
    · obtain rfl : inside = false := ih.inTransaction.symm.trans hclosed
      obtain ⟨-, rfl⟩ := Prod.mk.inj (hb.symm.trans ht)
      exact ih.begins begins
  | @leave _ _ inside inner next u h ih =>
    cases inside with
    | true =>
      obtain ⟨e, t, -, happ, hk⟩ := refused_transaction _ ih.inTransaction
      rw [happ]
      exact ih.keeps hk
    | false =>
      obtain ⟨ends, closed, rolls⟩ := ends_transaction inner.keeping ih.inTransaction ih.rollsBack
      obtain ⟨blocks, hlog⟩ := ends.log_cases
      exact ih.ends hlog closed rolls

/-- In a run that starts outside of transactions and in which no rollback fails, the log is made of
whole transactions and of the beginning of the one whose work is running. A transaction outside of
another is closed after its call, which gives a value exactly when the transaction was committed and
the work gave the value, and else the error of the beginning, the work or the commit. A transaction
within another fails when it is begun, without its work, and leaves the other open. -/
theorem transactions_never_leak {α : Type} (program : Work α) {s : Scripted}
    (hs : s.inTransaction = false) (hr : s.RollsBack) :
    Moment program s false (.done (program.run.apply s).1) (program.run.apply s).2 ∧
    (∀ {β : Type} {inside : Bool} {current : Work β} {u : Scripted},
      Moment program s inside current u → u.inTransaction = inside ∧
        ∃ blocks, u.log = s.log ++ recorded blocks inside ∧
          ¬ [.begin, .begin] <:+: recorded blocks inside) ∧
    (∀ {β γ : Type} {inner : Work β} {next : Except Error β → Work γ} {u : Scripted},
      Moment program s false (.transaction inner next) u →
        ∃ result t, (transaction inner.run).apply u = (result, t) ∧ t.inTransaction = false ∧
          Ends inner.run u result t ∧
          ∀ value, result = .ok value ↔ t.log = u.log ++ [.begin, .commit] ∧
            ∃ opened,
              (Connection.beginTransaction : Act Scripted Unit).apply u = (.ok (), opened) ∧
              (inner.run.apply opened).1 = .ok value) ∧
    (∀ {β γ : Type} {inner : Work β} {next : Except Error β → Work γ} {u : Scripted},
      Moment program s true (.transaction inner next) u →
        ∃ e t, (Connection.beginTransaction : Act Scripted Unit).apply u = (.error e, t) ∧
          (∀ work : Act Scripted β, (transaction work).apply u = (.error e, t)) ∧
          t.log = u.log ∧ t.inTransaction = true) := by
  refine ⟨moment_run program .start, fun h => ?_, @fun β γ inner next u h => ?_,
    @fun β γ inner next u h => ?_⟩
  · have traced := h.traced hs hr
    obtain ⟨blocks, hlog⟩ := traced.log
    exact ⟨traced.inTransaction, blocks, hlog, not_infix_recorded blocks _⟩
  · have traced := h.traced hs hr
    obtain ⟨ends, closed, -⟩ :=
      ends_transaction inner.keeping traced.inTransaction traced.rollsBack
    exact ⟨_, _, rfl, closed, ends, ends.ok_iff⟩
  · have traced := h.traced hs hr
    obtain ⟨e, t, hb, happ, hk⟩ := refused_transaction β traced.inTransaction
    exact ⟨e, t, hb, happ, hk.log, hk.inTransaction.trans traced.inTransaction⟩

/-- A work that goes on after a refused transaction, and whose commit fails. -/
def goesOn : Work Nat :=
  .transaction (.call (.prepare "SELECT 1") fun _ => .done (.ok 0)) fun _ =>
    .call (.script (.failCommit "disk full")) fun _ => .done (.ok 1)

/-- The transaction of such a work gives the error of the commit, rolled back. -/
theorem transactions_never_leak_commit_failed :
    ({} : Scripted).inTransaction = false ∧ ({} : Scripted).RollsBack ∧
    ∃ result t, (transaction goesOn.run).apply {} = (result, t) ∧ t.inTransaction = false ∧
      Ends goesOn.run {} result t ∧ result = .error (Scripted.failure "disk full") ∧
      t.log = [.begin, .commit, .rollback] := by
  have hr : ({} : Scripted).RollsBack := nofun
  obtain ⟨-, -, outermost, -⟩ :=
    @transactions_never_leak Nat (.transaction goesOn .done) {} rfl hr
  obtain ⟨result, t, happ, closed, ends, -⟩ := outermost .start
  refine ⟨rfl, hr, result, t, happ, closed, ends, ?_⟩
  obtain ⟨rfl, rfl⟩ := Prod.mk.inj happ
  exact ⟨rfl, rfl⟩

end BoundSql
