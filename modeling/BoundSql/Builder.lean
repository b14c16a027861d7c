import BoundSql.Clause.Step
import BoundSql.Page.Source
import BoundSql.Page.Window
import BoundSql.Query
import BoundSql.Statement

/-!
# Statement builders

A builder holds the statement under construction on one table and the source of page numbers.
Modifiers return a new builder. Terminal calls are effects on a builder and a connection: they set
the intent, compile what the builder holds and run it as a fresh query, so that one builder can
count its rows and then read them. Only pagination changes more than the intent: it replaces the
limit and the offset.
-/

namespace BoundSql

/-- A statement under construction. -/
structure Builder where
  table : String
  intent : Intent := .select []
  clauses : Clauses := {}
  pageSource : PageSource := .fixed 1
  deriving DecidableEq

namespace Builder

/-! ## Modifiers -/

/-- The builder with another source of page numbers. -/
def withPageSource (builder : Builder) (source : PageSource) : Builder :=
  { builder with pageSource := source }

/-- The builder with another table joined. -/
def join (builder : Builder) (kind : JoinKind) (fragment : String) : Builder :=
  { builder with clauses.joins := builder.clauses.joins ++ [{ kind, fragment }] }

/-- The builder after a step on its predicates. -/
def filter (builder : Builder) (step : Step) : Except Error Builder := do
  let conditions ← builder.clauses.conditions.apply step
  return { builder with clauses.conditions := conditions }

/-- The builder with one more expression to group by. -/
def groupBy (builder : Builder) (expression : String) : Builder :=
  { builder with clauses.groupBy := builder.clauses.groupBy ++ [expression] }

/-- The builder with one more expression to order by. -/
def orderBy (builder : Builder) (expression : String) : Builder :=
  { builder with clauses.orderBy := builder.clauses.orderBy ++ [expression] }

/-- The builder with a limit, written as given. -/
def limit (builder : Builder) (text : String) : Builder :=
  { builder with clauses.limit := some text }

/-- The builder with an offset. -/
def offset (builder : Builder) (n : UInt64) : Builder :=
  { builder with clauses.offset := some n }

/-- The current statement. -/
def compile (builder : Builder) : Except Error Compiled :=
  BoundSql.compile builder.table builder.intent builder.clauses

end Builder

/-- Effects on a builder and a connection. -/
abbrev Building (σ : Type) := Act (Builder × σ)

namespace Building

variable {σ : Type}

/-- An effect on the connection. -/
def onConnection {α : Type} (act : Act σ α) : Building σ α :=
  act.onSecond

/-- A change of the builder. -/
def modifyBuilder (f : Builder → Builder) : Building σ Unit :=
  .update fun (builder, s) => (f builder, s)

variable [Connection σ]

/-! ## Preparing -/

/-- The current statement as a query with its values. -/
def prepare : Building σ Query := do
  let (builder, _) ← get
  let compiled ← Act.ofExcept builder.compile
  onConnection do
    let query ← Query.prepare compiled.sql
    query.bindValues compiled.values.entries

/-- The statement with an intent as a query with its values. -/
def prepareAs (intent : Intent) : Building σ Query := do
  modifyBuilder fun builder => { builder with intent }
  prepare

/-- A query for columns, every one when none is named. -/
def select (columns : List String) : Building σ Query :=
  prepareAs (.select columns)

/-- A query that inserts data. -/
def insert (data : OrderedMap Value) : Building σ Query :=
  prepareAs (.insert data)

/-- A query that sets data on the matched rows. -/
def update (data : OrderedMap Value) : Building σ Query :=
  prepareAs (.update data)

/-- A query that deletes the matched rows. -/
def delete : Building σ Query :=
  prepareAs .delete

/-! ## Running -/

/-- The matched rows by their number. -/
def fetch : Building σ Fetched := do
  let query ← select []
  onConnection query.get

/-- The first matched row. -/
def fetchOne : Building σ (Option Row) := do
  let query ← select []
  onConnection query.getOne

/-- The matched rows. -/
def all : Building σ (List Row) := do
  let query ← select []
  onConnection query.all

/-- The number of matched rows. -/
def count : Building σ UInt64 := do
  let query ← select []
  onConnection query.count

/-- The first value of the first row of a function of a field, or null. -/
def aggregate (function field : String) : Building σ Value := do
  let query ← select [function ++ "(" ++ field ++ ")"]
  let row ← onConnection query.getOne
  return (row.bind (·.valueAt? 0)).getD .null

/-- The page that a pagination shows: the one whose number the source gives, and the first one for
the number zero. -/
def pageOf (source : PageSource) : UInt64 :=
  max source.page 1

theorem one_le_pageOf (source : PageSource) : 1 ≤ (pageOf source).toNat :=
  PageSource.one_le_max_one source.page

/-- The matched rows of a page: a first statement counts them all, a second one selects columns of
the page. -/
def paginate (source : PageSource) (perPage : UInt64) (columns : List String) :
    Building σ Page := do
  if perPage = 0 then throw (.invalidArgument .emptyPages)
  let page := pageOf source
  modifyBuilder fun builder =>
    { builder with clauses.limit := none, clauses.offset := none }
  let total ← count
  let window ← Act.ofExcept (PageWindow.compute total perPage page)
  modifyBuilder fun builder => { builder with clauses.limit := some (window.limit perPage) }
  let query ← select columns
  let rows ← onConnection query.all
  return { total, perPage, current := page, window, rows }

/-- `paginate` with the builder's own source. -/
def paginateOwn (perPage : UInt64) (columns : List String) : Building σ Page := do
  let (builder, _) ← get
  paginate builder.pageSource perPage columns

/-- The current statement and its values, for reading, without running it. -/
def dump : Building σ String := do
  return (← prepare).dump

end Building

end BoundSql
