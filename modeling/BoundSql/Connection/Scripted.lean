import BoundSql.Connection
import BoundSql.Text.Blank

/-!
# Scripted connections

A connection that runs no database. Every `SELECT` returns the rows of the script, every other
statement reports the scripted number of affected rows, and failures are armed in advance: each is
reported once, by the next call of its kind. Executed statements and transaction calls are
recorded.

* `isSelect_iff`: which statements count as a `SELECT`.
-/

namespace BoundSql

/-- The calls that can be made to fail before they reach the script. -/
inductive Call where
  | prepare
  | bind
  | fetch
  | begin
  | rollback
  | lastInsertId
  deriving DecidableEq, Repr

/-- A recorded transaction call. -/
inductive TransactionEvent where
  | begin
  | commit
  | rollback
  deriving DecidableEq, Repr

/-- The name of a transaction call. -/
def TransactionEvent.name : TransactionEvent → String
  | begin => "begin"
  | commit => "commit"
  | rollback => "rollback"

/-- The state of a scripted connection. -/
structure Scripted where
  backend : Backend := .sqlite
  /-- The rows of every `SELECT`. -/
  rows : List Row := []
  /-- The row count of every other statement. -/
  affected : UInt64 := 0
  lastInsertId : Int64 := 0
  /-- The failure of the next execution. -/
  executeFailure : Option String := none
  /-- The failure of the next commit. -/
  commitFailure : Option String := none
  /-- The failures armed for other calls, at most one for each. -/
  armed : List (Call × String) := []
  /-- The row count that every statement reports instead of its own. -/
  rowCount : Option UInt64 := none
  /-- The statements executed so far with their values, oldest first. -/
  executed : List (String × OrderedMap Value) := []
  /-- The transaction calls so far, oldest first. -/
  log : List TransactionEvent := []
  inTransaction : Bool := false

namespace Scripted

/-- A failure that the script reports. -/
def failure (text : String) : Error :=
  .driver (.reported text)

/-- Arms the failure of the next call of a kind, in place of one armed before. -/
def arm (call : Call) (text : String) (s : Scripted) : Scripted :=
  { s with armed := (call, text) :: s.armed.filter (·.1 ≠ call) }

/-- The armed failure of a call, and the state without it. -/
def disarm (call : Call) (s : Scripted) : Option String × Scripted :=
  match s.armed.find? (·.1 = call) with
  | some (_, text) => (some text, { s with armed := s.armed.filter (·.1 ≠ call) })
  | none => (none, s)

/-- An effect that fails instead when a failure is armed for its kind. -/
def guarded {α : Type} (call : Call) (act : Act Scripted α) : Act Scripted α :=
  .ofFunction fun s =>
    match s.disarm call with
    | (some text, s) => (.error (failure text), s)
    | (none, s) => act.apply s

/-- Whether SQL is a `SELECT`, in any case and after any blanks. -/
def isSelect (sql : String) : Bool :=
  Text.startsWith "SELECT".toList (Text.upperCase (Text.trimStart sql.toList))

/-- A `SELECT` is a text with this word, in letters of either case, behind nothing but blanks. The
word may go on. -/
theorem isSelect_iff {sql : String} :
    isSelect sql = true ↔ ∃ gap word rest, sql.toList = gap ++ (word ++ rest) ∧
      (∀ c ∈ gap, Text.isBlank c = true) ∧ Text.upperCase word = "SELECT".toList := by
  rw [isSelect, Text.startsWith, List.isPrefixOf_iff_prefix]
  constructor
  · rintro ⟨after, htext⟩
    obtain ⟨word, rest, hrest, hword, -⟩ := List.map_eq_append_iff.1 htext.symm
    refine ⟨sql.toList.takeWhile Text.isBlank, word, rest, ?_, fun c => Text.of_mem_takeWhile,
      hword⟩
    rw [← hrest, Text.trimStart, List.takeWhile_append_dropWhile]
  · rintro ⟨gap, word, rest, htext, hgap, hword⟩
    -- The word begins with a letter, so that trimming stops in front of it.
    obtain ⟨c, letters, rfl, hc, -⟩ := List.map_eq_cons_iff.1 hword
    have hends : Text.EndsRun Text.isBlank (c :: letters ++ rest) := by
      rw [List.cons_append, Text.endsRun_cons, ← Text.isBlank_toUpper, hc]
      rfl
    rw [htext, Text.trimStart, Text.dropWhile_run hgap hends, Text.upperCase_append, hword]
    exact List.prefix_append _ _

/-- Records an execution and gives it the outcome of the script, unless a failure is pending. -/
def execute (p : Prepared) : Act Scripted Prepared :=
  .ofFunction fun s =>
    match s.executeFailure with
    | some text => (.error (failure text), { s with executeFailure := none })
    | none =>
      let s := { s with executed := s.executed ++ [(p.sql, p.bindings)] }
      if isSelect p.sql then
        (.ok { p with rows := s.rows, rowCount := UInt64.ofNat s.rows.length }, s)
      else (.ok { p with rows := [], rowCount := s.affected }, s)

/-- Opens a transaction, unless one is open. -/
def beginTransaction : Act Scripted Unit :=
  .ofFunction fun s =>
    if s.inTransaction then (.error (.driver .alreadyInTransaction), s)
    else (.ok (), { s with inTransaction := true, log := s.log ++ [.begin] })

/-- Records a commit and closes the transaction, unless a failure is pending. -/
def commit : Act Scripted Unit :=
  .ofFunction fun s =>
    let s : Scripted := { s with log := s.log ++ [TransactionEvent.commit] }
    match s.commitFailure with
    | some text => (.error (failure text), { s with commitFailure := none })
    | none => (.ok (), { s with inTransaction := false })

/-- Records a rollback and closes the transaction. -/
def rollback : Act Scripted Unit :=
  .update fun s => { s with log := s.log ++ [.rollback], inTransaction := false }

/-- The SQL executed last. -/
def lastSql? (s : Scripted) : Option String :=
  s.executed.getLast?.map Prod.fst

end Scripted

instance : Connection Scripted where
  backend := Scripted.backend
  inTransaction := Scripted.inTransaction
  prepare sql := Scripted.guarded .prepare (pure { sql })
  bind p name value := Scripted.guarded .bind (pure (p.bind name value))
  execute := Scripted.execute
  fetchOne p := Scripted.guarded .fetch (pure p.rows.head?)
  fetchAll p := Scripted.guarded .fetch (pure p.rows)
  rowCount s p := s.rowCount.getD p.rowCount
  lastInsertId := Scripted.guarded .lastInsertId (.read Scripted.lastInsertId)
  beginTransaction := Scripted.guarded .begin Scripted.beginTransaction
  commit := Scripted.commit
  rollback := Scripted.guarded .rollback Scripted.rollback

end BoundSql
