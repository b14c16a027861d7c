import BoundSql.Embedded.Command
import BoundSql.Row

/-!
# The store of the embedded database

What commands do to the table. A new row gets the identifier after the largest one present; rows
stay in the order of their identifiers. Values are stored and returned as the database knows them:
truth values are integers, and a NaN is null.
-/

namespace BoundSql.Embedded

/-- A row of the table. -/
structure Record where
  id : Int64
  /-- A text or null. -/
  name : Value
  deriving DecidableEq

/-- The table, and what is known of the most recent changes. -/
structure Store where
  /-- The rows in the order of their identifiers; without a table, none. -/
  table : Option (List Record) := none
  /-- The identifier of the most recent insertion. -/
  lastRowId : Int64 := 0
  /-- How many rows the most recent insertion, update or deletion changed. -/
  changes : Nat := 0
  deriving DecidableEq

/-- A bound value as the database knows it. -/
def storedValue : Value → Value
  | .bool b => .int (if b then 1 else 0)
  | .double x => if x.isNaN then .null else .double x
  | value => value

/-- A value in a column of texts. -/
def textValue (value : Value) : Value :=
  match storedValue value with
  | .int i => .text (toString i.toInt)
  | .double x => .text (String.ofList (Json.floatText x))
  | other => other

/-- The integer that a value equals, if it equals one; a text is read as a numeral, with ASCII
blanks around it. -/
def integerOfValue? (value : Value) : Option Int :=
  let ofDouble? (x : Double) : Option Int :=
    if x.isFinite && x.isIntegral then some x.truncate else none
  match storedValue value with
  | .int i => some i.toInt
  | .double x => ofDouble? x
  | .text s =>
    let s := Text.trimAscii s.toList
    match Text.readInt? s with
    | some i => some i
    | none => (Number.readDouble? s).bind ofDouble?
  | _ => none

/-- Whether an identifier equals a value. -/
def matchesId (id : Int64) (value : Value) : Bool :=
  integerOfValue? value == some id.toInt

/-- The value of a term for given parameters. -/
def Term.value (parameters : List Value) : Term → Value
  | .constant value => value
  | .parameter index => parameters[index]?.getD .null

/-- Whether a selection with parameters is about an identifier. -/
def Selection.isAbout (selection : Selection) (parameters : List Value) (id : Int64) : Bool :=
  match selection with
  | .all => true
  | .equal term => matchesId id (term.value parameters)
  | .among terms => terms.any fun term => matchesId id (term.value parameters)

/-- The identifier of a new row. -/
def nextId (records : List Record) : Int64 :=
  records.foldl (fun id record => max id record.id) 0 + 1

/-- Columns of a record as a row. -/
def Record.toRow (columns : List String) (record : Record) : Row :=
  Row.ofList (columns.map fun column =>
    (column, if column = "id" then .int record.id else record.name))

/-- The rows that a limit leaves: below zero it skips nothing and takes all. Its terms must be
integers of 64 bits. -/
def Limit.leave? {α : Type} (limit : Limit) (parameters : List Value) (rows : List α) :
    Option (List α) := do
  let skip ← (integerOfValue? (limit.skip.value parameters)).filter Text.fitsInt64
  let take ← (integerOfValue? (limit.take.value parameters)).filter Text.fitsInt64
  let rows := rows.drop skip.toNat
  return if take < 0 then rows else rows.take take.toNat

namespace Store

/-- What the database reports of a table that does not exist. -/
def noTable : String :=
  "error returned from database: (code: 1) no such table: t"

/-- What the database reports of a table that exists already. -/
def tableExists : String :=
  "error returned from database: (code: 1) table t already exists"

/-- What the database reports of a limit that is no integer. -/
def mismatch : String :=
  "error returned from database: (code: 20) datatype mismatch"

/-- Runs a command with the values of its parameters: the rows it returns, and the store after
it. -/
def run (store : Store) (command : Command) (parameters : List Value) :
    Except String (List Row × Store) :=
  match command, store.table with
  | .evaluate items, _ =>
    let entries := items.map fun (term, name) => (name, storedValue (term.value parameters))
    .ok ([Row.ofList entries], store)
  | .createTable, none => .ok ([], { store with table := some [] })
  | .createTable, some _ => .error tableExists
  | _, none => .error noTable
  | .insert name returning, some records =>
    let id := nextId records
    let record : Record := ⟨id, textValue (name.value parameters)⟩
    let rows := if returning then [record.toRow ["id"]] else []
    .ok (rows, { table := some (records ++ [record]), lastRowId := id, changes := 1 })
  | .update name selection, some records =>
    let value := textValue (name.value parameters)
    let isAbout (record : Record) : Bool := selection.isAbout parameters record.id
    let changed := records.map fun record =>
      if isAbout record then { record with name := value } else record
    .ok ([], { store with table := some changed, changes := records.countP isAbout })
  | .delete selection, some records =>
    let isAbout (record : Record) : Bool := selection.isAbout parameters record.id
    .ok ([], { store with
      table := some (records.filter (!isAbout ·)), changes := records.countP isAbout })
  | .select columns selection limit, some records =>
    let found := records.filter fun record => selection.isAbout parameters record.id
    match limit.elim (some found) (·.leave? parameters found) with
    | some rows => .ok (rows.map (Record.toRow columns), store)
    | none => .error mismatch

end Store

end BoundSql.Embedded
