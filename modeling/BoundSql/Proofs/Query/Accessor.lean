import BoundSql.Proofs.Query.Scripted
import BoundSql.Proofs.Transaction.Run
import BoundSql.Query.Accessor

/-!
# Every reading is a new execution

On a scripted connection an accessor tells what the script holds at that moment (`Accessor.told`):
what the query kept of earlier executions does not matter, neither for the answer nor for what
happens to the script. A run of accessors, with any changes of the script in between, is therefore
known from the script alone, and each accessor that executes the statement and meets no failure is
recorded once.

* `Accessor.run_eq_told`: one accessor;
* `fresh_of_mem_observe`, `executed_observe`: a run, by induction on it;
* `agree_of_steady`: what the accessors say of a script that stays as it is;
* `accessors_observe_fresh`: all of it together.
-/

namespace BoundSql

variable {α : Type}

/-! ## What a script tells -/

namespace Scripted

/-- The rows that a statement returns. -/
def rowsOf (sql : String) (s : Scripted) : List Row :=
  if isSelect sql then s.rows else []

/-- The number of rows that a statement reports. -/
def countOf (sql : String) (s : Scripted) : UInt64 :=
  s.rowCount.getD (if isSelect sql then UInt64.ofNat s.rows.length else s.affected)

/-- A result, unless a failure is armed for the call that gives it. -/
def unlessArmed (call : Call) (a : α) (s : Scripted) : Except Error α × Scripted :=
  (guarded call (pure a)).apply s

/-- A failure that is armed takes the place of a result, whatever is made of it. -/
theorem unlessArmed_map {β : Type} (f : α → β) (call : Call) (a : α) (s : Scripted) :
    s.unlessArmed call (f a) =
      ((s.unlessArmed call a).1.map f, (s.unlessArmed call a).2) := by
  unfold unlessArmed guarded
  rw [Act.apply_ofFunction, Act.apply_ofFunction]
  obtain ⟨_ | text, t⟩ := s.disarm call <;> rfl

theorem apply_guarded_read (call : Call) (f : Scripted → α) (s : Scripted) :
    (guarded call (.read f)).apply s = s.unlessArmed call (f s) := by
  unfold unlessArmed guarded
  rw [Act.apply_ofFunction, Act.apply_ofFunction]
  rcases hd : s.disarm call with ⟨_ | text, t⟩
  · rw [eq_of_disarm hd]
    rfl
  · rfl

end Scripted

namespace Accessor

/-- Whether an accessor executes the statement. -/
def executes : Accessor α → Bool
  | execute | exec | lastId | count | get | getOne | all => true
  | dump | sql | describe => false

/-- What an accessor reads from a script, once the statement is executed if it has to be. -/
def answer (text : String) (bindings : OrderedMap Value) :
    {α : Type} → Accessor α → Scripted → Except Error α × Scripted
  | _, execute, s | _, exec, s => (.ok true, s)
  | _, lastId, s => s.unlessArmed .lastInsertId s.lastInsertId
  | _, count, s => (.ok (s.countOf text), s)
  | _, get, s => s.unlessArmed .fetch (Fetched.ofRows (s.rowsOf text))
  | _, getOne, s => s.unlessArmed .fetch (s.rowsOf text).head?
  | _, all, s => s.unlessArmed .fetch (s.rowsOf text)
  | _, dump, s => (.ok (dumpParameters text bindings.entries), s)
  | _, sql, s => (.ok text, s)
  | _, describe, s => (.ok (Query.describe ⟨{ sql := text }⟩ s), s)

/-- What an accessor of a query with some SQL and values does to a script: an execution that fails
is all that happens, and one that does not is recorded first. -/
def told (text : String) (bindings : OrderedMap Value) (accessor : Accessor α) (s : Scripted) :
    Except Error α × Scripted :=
  if accessor.executes then
    match s.executeFailure with
    | some failure => (.error (Scripted.failure failure), { s with executeFailure := none })
    | none => accessor.answer text bindings (s.record text bindings)
  else accessor.answer text bindings s

end Accessor

/-- A query has given SQL and values, whatever it keeps of earlier executions. -/
structure Query.Holds (query : Query) (text : String) (bindings : OrderedMap Value) : Prop where
  sql : query.statement.sql = text
  bindings : query.statement.bindings = bindings

namespace Accessor

variable {text : String} {bindings : OrderedMap Value} {query : Query} {accessor : Accessor α}

/-- An execution fails as the script wants it, or is recorded and leaves what the script holds with
the statement. -/
theorem execute_cases (hq : query.Holds text bindings) (s : Scripted) :
    (∃ failure, s.executeFailure = some failure ∧ query.execute.apply s =
      (.error (Scripted.failure failure), { s with executeFailure := none })) ∨
    s.executeFailure = none ∧ ∃ statement : Prepared,
      query.execute.apply s = (.ok statement, s.record text bindings) ∧
      Query.Holds ⟨statement⟩ text bindings ∧ statement.rows = s.rowsOf text ∧
      s.rowCount.getD statement.rowCount = s.countOf text := by
  obtain ⟨rfl, rfl⟩ := hq
  have happly : query.execute.apply s = (Scripted.execute query.statement).apply s := rfl
  rw [happly, Scripted.execute, Act.apply_ofFunction]
  split
  · rename_i failure hfail
    exact .inl ⟨failure, hfail, rfl⟩
  · rename_i hfail
    refine .inr ⟨hfail, ?_⟩
    unfold Scripted.rowsOf Scripted.countOf
    by_cases hs : Scripted.isSelect query.statement.sql = true
    · simp only [if_pos hs]
      exact ⟨{ query.statement with rows := s.rows, rowCount := UInt64.ofNat s.rows.length }, rfl,
        ⟨rfl, rfl⟩, rfl, rfl⟩
    · simp only [if_neg hs]
      exact ⟨{ query.statement with rows := [], rowCount := s.affected }, rfl, ⟨rfl, rfl⟩, rfl, rfl⟩

/-- An accessor that executes the statement tells what it reads of the outcome. -/
theorem told_of_rerun {next : Unit → Using Scripted α} (hrun : accessor.run = rerun >>= next)
    (hexecutes : accessor.executes = true) (hq : query.Holds text bindings) (s : Scripted)
    (h : ∀ (statement : Prepared) (t : Scripted), statement.rows = t.rowsOf text →
      t.rowCount.getD statement.rowCount = t.countOf text →
      (next ()).apply (⟨statement⟩, t) =
        ((accessor.answer text bindings t).1,
          (⟨statement⟩, (accessor.answer text bindings t).2))) :
    ∃ kept : Query, kept.Holds text bindings ∧ accessor.run.apply (query, s) =
      ((accessor.told text bindings s).1, (kept, (accessor.told text bindings s).2)) := by
  rw [hrun, apply_rerun_bind, told, if_pos hexecutes]
  obtain ⟨failure, hfail, happly⟩ | ⟨hfail, statement, happly, hkept, hrows, hcount⟩ :=
    execute_cases hq s
  · rw [happly, hfail]
    exact ⟨query, hq, rfl⟩
  · rw [happly, hfail]
    exact ⟨⟨statement⟩, hkept, h statement _ hrows hcount⟩

/-- What an accessor gives and does to the script is told by the script, the SQL and the values.
The query may keep another outcome afterwards, but its SQL and its values stay. -/
theorem run_eq_told (accessor : Accessor α) (hq : query.Holds text bindings) (s : Scripted) :
    ∃ kept : Query, kept.Holds text bindings ∧ accessor.run.apply (query, s) =
      ((accessor.told text bindings s).1, (kept, (accessor.told text bindings s).2)) := by
  cases accessor with
  | execute | exec => exact told_of_rerun rfl rfl hq s fun _ _ _ _ => rfl
  | lastId =>
    refine told_of_rerun rfl rfl hq s fun statement t _ _ => ?_
    rw [Act.apply_onSecond, answer, ← Scripted.apply_guarded_read]
    rfl
  | count =>
    refine told_of_rerun rfl rfl hq s fun statement t _ hcount => ?_
    rw [answer, ← hcount]
    rfl
  | get =>
    refine told_of_rerun rfl rfl hq s fun statement t hrows _ => ?_
    rw [answer, ← hrows, Scripted.unlessArmed_map]
    exact Act.apply_map _ _ _
  | getOne | all =>
    refine told_of_rerun rfl rfl hq s fun statement t hrows _ => ?_
    rw [answer, ← hrows]
    rfl
  | dump | sql | describe =>
    obtain ⟨rfl, rfl⟩ := hq
    exact ⟨query, ⟨rfl, rfl⟩, rfl⟩

end Accessor

/-! ## What accessors leave alone -/

namespace Scripted

theorem disarm_state (call : Call) (s : Scripted) :
    ∃ armed, armed ⊆ s.armed ∧ (s.disarm call).2 = { s with armed } := by
  unfold disarm
  split
  · exact ⟨_, List.filter_sublist.subset, rfl⟩
  · exact ⟨s.armed, List.Subset.refl _, rfl⟩

theorem unlessArmed_state (call : Call) (a : α) (s : Scripted) :
    ∃ armed, armed ⊆ s.armed ∧ (s.unlessArmed call a).2 = { s with armed } := by
  unfold unlessArmed
  obtain ⟨text, he⟩ | he := guarded_cases call (pure a) s
  · rw [he]
    exact disarm_state call s
  · rw [he]
    exact disarm_state call s

/-- A script that says the same of rows and counts and lets no execution and no fetch fail. -/
structure Steady (s t : Scripted) : Prop where
  rows : t.rows = s.rows
  affected : t.affected = s.affected
  rowCount : t.rowCount = s.rowCount
  executes : t.executeFailure = none
  fetches : ∀ entry ∈ t.armed, entry.1 ≠ .fetch

theorem Steady.unlessArmed_fetch {s t : Scripted} (h : s.Steady t) (a : α) :
    t.unlessArmed .fetch a = (.ok a, t) := by
  have hfind : t.armed.find? (fun entry => decide (entry.1 = Call.fetch)) = none :=
    List.find?_eq_none.2 fun entry he hc => h.fetches entry he (of_decide_eq_true hc)
  unfold unlessArmed guarded
  rw [Act.apply_ofFunction, disarm, hfind]
  rfl

end Scripted

namespace Accessor

variable {text : String} {bindings : OrderedMap Value} {s t : Scripted}

/-- Reading an outcome at most takes an armed failure off the script. -/
theorem answer_state (accessor : Accessor α) (text : String) (bindings : OrderedMap Value)
    (s : Scripted) :
    ∃ armed, armed ⊆ s.armed ∧ (accessor.answer text bindings s).2 = { s with armed } := by
  cases accessor with
  | lastId | get | getOne | all => exact Scripted.unlessArmed_state _ _ s
  | execute | exec | count | dump | sql | describe => exact ⟨s.armed, List.Subset.refl _, rfl⟩

/-- One execution is recorded, when there is one and it does not fail. -/
theorem executed_told (accessor : Accessor α) (text : String) (bindings : OrderedMap Value)
    (s : Scripted) :
    (accessor.told text bindings s).2.executed = s.executed ++
      if accessor.executes && s.executeFailure.isNone then [(text, bindings)] else [] := by
  rw [told]
  by_cases he : accessor.executes = true
  · rw [if_pos he, he, Bool.true_and]
    cases s.executeFailure with
    | some failure => exact (List.append_nil _).symm
    | none =>
      obtain ⟨armed, -, hstate⟩ := accessor.answer_state text bindings (s.record text bindings)
      rw [hstate]
      rfl
  · rw [if_neg he, Bool.eq_false_iff.2 he, Bool.false_and]
    obtain ⟨armed, -, hstate⟩ := accessor.answer_state text bindings s
    rw [hstate]
    exact (List.append_nil _).symm

/-- A failed execution is all that an accessor tells. -/
theorem told_of_failure {accessor : Accessor α} (he : accessor.executes = true) {failure : String}
    (hf : s.executeFailure = some failure) :
    (accessor.told text bindings s).1 = .error (Scripted.failure failure) := by
  rw [told, if_pos he, hf]

/-- An accessor on a steady script reads it, once it has recorded the execution. -/
theorem told_of_steady (accessor : Accessor α) (text : String) (bindings : OrderedMap Value)
    (h : s.Steady t) :
    ∃ u, s.Steady u ∧ accessor.told text bindings t = accessor.answer text bindings u := by
  rw [told]
  split
  · refine ⟨t.record text bindings, ⟨h.rows, h.affected, h.rowCount, h.executes, h.fetches⟩, ?_⟩
    rw [h.executes]
  · exact ⟨t, h, rfl⟩

theorem steady_told (accessor : Accessor α) (h : s.Steady t) :
    s.Steady (accessor.told text bindings t).2 := by
  obtain ⟨u, hu, htold⟩ := accessor.told_of_steady text bindings h
  obtain ⟨armed, harmed, hstate⟩ := accessor.answer_state text bindings u
  rw [htold, hstate]
  exact ⟨hu.rows, hu.affected, hu.rowCount, hu.executes,
    fun entry he => hu.fetches entry (harmed he)⟩

end Accessor

/-! ## Runs -/

/-- What may happen to a query and its connection. -/
inductive Move : Type 1 where
  | change (change : Script)
  | use {Answer : Type} (accessor : Accessor Answer)

/-- Whether the script stays as it is. -/
def Move.IsUse : Move → Prop
  | change _ => False
  | use _ => True

/-- A use of an accessor: what it found, what it gave and what it left. -/
structure Observation : Type 1 where
  {Answer : Type}
  accessor : Accessor Answer
  before : Query × Scripted
  outcome : Except Error Answer
  after : Query × Scripted

/-- What is observed in a run, in order, and how it ends. -/
def observe : List Move → Query × Scripted → List Observation × (Query × Scripted)
  | [], now => ([], now)
  | .change change :: rest, now => observe rest (now.1, change.change now.2)
  | .use accessor :: rest, now =>
    let (outcome, next) := accessor.run.apply now
    let (later, last) := observe rest next
    (⟨accessor, now, outcome, next⟩ :: later, last)

theorem observe_use (accessor : Accessor α) (rest : List Move) (now : Query × Scripted) :
    observe (.use accessor :: rest) now =
      (⟨accessor, now, (accessor.run.apply now).1, (accessor.run.apply now).2⟩ ::
          (observe rest (accessor.run.apply now).2).1,
        (observe rest (accessor.run.apply now).2).2) :=
  rfl

namespace Observation

/-- Whether an execution is recorded. -/
def records (o : Observation) : Bool :=
  o.accessor.executes && o.before.2.executeFailure.isNone

/-- An observation that earlier executions have no part in. -/
structure Fresh (text : String) (bindings : OrderedMap Value) (o : Observation) : Prop where
  /-- The script that the accessor finds says what it gives and what it leaves of the script. -/
  told : (o.outcome, o.after.2) = o.accessor.told text bindings o.before.2
  /-- The execution is recorded with the SQL and the values of the query, even if reading its
  outcome fails. -/
  recorded : o.after.2.executed =
    o.before.2.executed ++ if o.records then [(text, bindings)] else []
  /-- An execution that fails gives its error. -/
  failed : o.accessor.executes = true → ∀ failure, o.before.2.executeFailure = some failure →
    o.outcome = .error (Scripted.failure failure)
  /-- The query keeps its SQL and its values. -/
  same : o.after.1.Holds text bindings

end Observation

section
variable {text : String} {bindings : OrderedMap Value}

theorem fresh_use (accessor : Accessor α) {now : Query × Scripted}
    (hq : now.1.Holds text bindings) :
    Observation.Fresh text bindings
      ⟨accessor, now, (accessor.run.apply now).1, (accessor.run.apply now).2⟩ := by
  obtain ⟨kept, hkept, hrun⟩ := accessor.run_eq_told hq now.2
  rw [hrun]
  exact ⟨rfl, accessor.executed_told text bindings now.2,
    fun he _ hf => Accessor.told_of_failure he hf, hkept⟩

/-- Every observation of a run is fresh. -/
theorem fresh_of_mem_observe (moves : List Move) (now : Query × Scripted)
    (hq : now.1.Holds text bindings) : ∀ o ∈ (observe moves now).1, o.Fresh text bindings := by
  induction moves generalizing now with
  | nil => exact List.forall_mem_nil _
  | cons move rest ih =>
    cases move with
    | change change => exact ih (now.1, change.change now.2) hq
    | use accessor =>
      have hfresh := fresh_use accessor hq
      rw [observe_use]
      exact List.forall_mem_cons.2 ⟨hfresh, ih _ hfresh.same⟩

/-- A run records the executions that are observed, and no others. -/
theorem executed_observe (moves : List Move) (now : Query × Scripted)
    (hq : now.1.Holds text bindings) :
    (observe moves now).2.2.executed = now.2.executed ++
      List.replicate ((observe moves now).1.countP Observation.records) (text, bindings) := by
  induction moves generalizing now with
  | nil => exact (List.append_nil _).symm
  | cons move rest ih =>
    cases move with
    | change change =>
      have hchange : (change.change now.2).executed = now.2.executed := by
        cases change <;> rfl
      rw [observe, ih (now.1, change.change now.2) hq, hchange]
    | use accessor =>
      have hfresh := fresh_use accessor hq
      rw [observe_use, ih _ hfresh.same, hfresh.recorded, List.countP_cons, List.append_assoc]
      split
      · rw [List.replicate_succ, List.singleton_append]
      · rfl

/-- While the script stays as it is, every observation finds it so. -/
theorem steady_of_mem_observe (moves : List Move) (now : Query × Scripted)
    (hq : now.1.Holds text bindings) {s : Scripted} (hu : ∀ move ∈ moves, move.IsUse)
    (h : s.Steady now.2) :
    ∀ o ∈ (observe moves now).1, s.Steady o.before.2 := by
  induction moves generalizing now with
  | nil => exact List.forall_mem_nil _
  | cons move rest ih =>
    rw [List.forall_mem_cons] at hu
    cases move with
    | change change => exact hu.1.elim
    | use accessor =>
      obtain ⟨kept, hkept, hrun⟩ := accessor.run_eq_told hq now.2
      rw [observe_use, hrun]
      exact List.forall_mem_cons.2 ⟨h, ih _ hkept hu.2 (accessor.steady_told h)⟩

/-! ## Agreement -/

/-- Rows by their number have the shape that their number says. -/
structure Fetched.Shows (list : List Row) (fetched : Fetched) : Prop where
  rows : fetched.rows = list
  size : fetched.size = list.length
  none : fetched = .none ↔ list.length = 0
  one : (∃ row, fetched = .one row) ↔ list.length = 1
  many : (∃ several, fetched = .many several) ↔ 2 ≤ list.length

theorem Fetched.shows_ofRows (list : List Row) : (ofRows list).Shows list := by
  have hrows := rows_ofRows list
  have hsize : (ofRows list).size = list.length := congrArg List.length hrows
  match list with
  | [] => exact ⟨hrows, hsize, by simp [ofRows], by simp [ofRows], by simp [ofRows]⟩
  | [row] => exact ⟨hrows, hsize, by simp [ofRows], by simp [ofRows], by simp [ofRows]⟩
  | first :: second :: rest =>
    exact ⟨hrows, hsize, by simp [ofRows], by simp [ofRows], by simp [ofRows]⟩

/-- Observations that agree on the rows of a statement. -/
structure Agree (text : String) (rowCount : Option UInt64) (rows : List Row)
    (observations : List Observation) : Prop where
  all : ∀ before outcome after, ⟨Accessor.all, before, outcome, after⟩ ∈ observations →
    outcome = .ok rows
  get : ∀ before outcome after, ⟨Accessor.get, before, outcome, after⟩ ∈ observations →
    ∃ fetched : Fetched, outcome = .ok fetched ∧ fetched.Shows rows
  getOne : ∀ before outcome after, ⟨Accessor.getOne, before, outcome, after⟩ ∈ observations →
    outcome = .ok rows.head?
  count : Scripted.isSelect text = true → rowCount = none →
    ∀ before outcome after, ⟨Accessor.count, before, outcome, after⟩ ∈ observations →
      outcome = .ok (UInt64.ofNat rows.length)

/-- Fresh observations of a script that stays as it is agree on its rows. -/
theorem agree_of_steady {observations : List Observation} {s : Scripted}
    (hfresh : ∀ o ∈ observations, o.Fresh text bindings)
    (hsteady : ∀ o ∈ observations, s.Steady o.before.2) :
    Agree text s.rowCount (s.rowsOf text) observations := by
  have answered {Answer : Type} {accessor : Accessor Answer} {before outcome after}
      (hm : ⟨accessor, before, outcome, after⟩ ∈ observations) :
      ∃ u, s.Steady u ∧ outcome = (accessor.answer text bindings u).1 := by
    obtain ⟨u, hu, htold⟩ := accessor.told_of_steady text bindings (hsteady _ hm)
    exact ⟨u, hu, (congrArg Prod.fst (hfresh _ hm).told).trans (congrArg Prod.fst htold)⟩
  have rows {u : Scripted} (hu : s.Steady u) : u.rowsOf text = s.rowsOf text := by
    rw [Scripted.rowsOf, hu.rows, Scripted.rowsOf]
  refine ⟨fun before outcome after hm => ?_, fun before outcome after hm => ?_,
    fun before outcome after hm => ?_, fun hselect hcount before outcome after hm => ?_⟩
  · obtain ⟨u, hu, rfl⟩ := answered hm
    rw [Accessor.answer, hu.unlessArmed_fetch, rows hu]
  · obtain ⟨u, hu, rfl⟩ := answered hm
    rw [Accessor.answer, hu.unlessArmed_fetch, rows hu]
    exact ⟨_, rfl, Fetched.shows_ofRows _⟩
  · obtain ⟨u, hu, rfl⟩ := answered hm
    rw [Accessor.answer, hu.unlessArmed_fetch, rows hu]
  · obtain ⟨u, hu, rfl⟩ := answered hm
    rw [Accessor.answer, Scripted.countOf, hu.rowCount, hcount, if_pos hselect, hu.rows,
      Scripted.rowsOf, if_pos hselect]
    rfl

end

/-- In any run of accessors and changes of the script, on a query that keeps anything of earlier
executions, every accessor tells what the script holds at that moment. One that executes the
statement adds one entry to the log, with the SQL and the values of the query, when the execution
succeeds, and gives the error when it fails; the others add none. While the script stays as it is
and no execution and no fetch fails, the accessors agree on the rows. -/
theorem accessors_observe_fresh (moves : List Move) (query : Query) (s : Scripted) :
    (∀ o ∈ (observe moves (query, s)).1,
      o.Fresh query.statement.sql query.statement.bindings) ∧
    (observe moves (query, s)).2.2.executed = s.executed ++
      List.replicate ((observe moves (query, s)).1.countP Observation.records)
        (query.statement.sql, query.statement.bindings) ∧
    ((∀ move ∈ moves, move.IsUse) → s.executeFailure = none →
      (∀ entry ∈ s.armed, entry.1 ≠ .fetch) →
      Agree query.statement.sql s.rowCount (s.rowsOf query.statement.sql)
        (observe moves (query, s)).1) := by
  have hq : query.Holds query.statement.sql query.statement.bindings := ⟨rfl, rfl⟩
  have hfresh := fresh_of_mem_observe moves (query, s) hq
  refine ⟨hfresh, executed_observe moves (query, s) hq, fun hu he hf => ?_⟩
  exact agree_of_steady hfresh
    (steady_of_mem_observe moves (query, s) hq hu ⟨rfl, rfl, rfl, he, hf⟩)

end BoundSql
