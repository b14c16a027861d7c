import BoundSql.Value

/-!
# Rows

A result row is an ordered map from column names to values, in the order in which the driver
reported the columns.
-/

namespace BoundSql

/-- One result row. -/
structure Row where
  columns : OrderedMap Value
  deriving DecidableEq, Inhabited

namespace Row

/-- A row without columns. -/
def empty : Row := ⟨∅⟩

/-- The row of named values: of a repeated name, the first place and the last value. -/
def ofList (entries : List (String × Value)) : Row :=
  ⟨OrderedMap.ofList entries⟩

/-- The names and values in order. -/
def toList (row : Row) : List (String × Value) :=
  row.columns.entries

/-- The row with a value under a column: in place of the one there, or at the end. -/
def insert (row : Row) (column : String) (value : Value) : Row :=
  ⟨row.columns.insert column value⟩

/-- The value of a column. -/
def get? (row : Row) (column : String) : Option Value :=
  row.columns.get? column

/-- The value at a position, counted from zero. -/
def valueAt? (row : Row) (index : Nat) : Option Value :=
  row.toList[index]?.map Prod.snd

/-- A column as an integer of 64 bits. -/
def getInt64? (row : Row) (column : String) : Option Int64 :=
  (row.get? column).bind Value.toInt64?

/-- A column as a double. -/
def getDouble? (row : Row) (column : String) : Option Double :=
  (row.get? column).bind Value.toDouble?

/-- A column as a truth value. -/
def getBool? (row : Row) (column : String) : Option Bool :=
  (row.get? column).bind Value.toBool?

/-- A column as a text. -/
def getText? (row : Row) (column : String) : Option String :=
  (row.get? column).bind Value.toText?

/-- Whether the row has a column. -/
def contains (row : Row) (column : String) : Bool :=
  row.columns.contains column

/-- The names of the columns in order. -/
def names (row : Row) : List String :=
  row.columns.keys

/-- The row as a JSON object with its columns in order. -/
def toObject (row : Row) : Json :=
  .object (row.toList.map fun (name, value) => (name, value.toJson))

/-- The row as a JSON object with its columns in the order of their names. -/
def toJson (row : Row) : Json :=
  row.toObject.sorted

end Row

end BoundSql
