import BoundSql.Placeholder
import BoundSql.Row
import BoundSql.Text.Utf8

/-!
# Prepared statements

A statement as a connection holds it: the SQL it was prepared with, the values bound so far, and
the outcome of its last execution. `dump` lists the SQL and the values, with lengths in bytes.
-/

namespace BoundSql

/-- A prepared statement. -/
structure Prepared where
  /-- The SQL with named placeholders. -/
  sql : String
  /-- The values bound so far, under names without colons. -/
  bindings : OrderedMap Value := ∅
  /-- The rows of the last execution. -/
  rows : List Row := []
  /-- The number of rows that the last execution returned or changed. -/
  rowCount : UInt64 := 0
  deriving DecidableEq, Inhabited

/-- One parameter of a dump. -/
def dumpParameter (name : String) (value : Value) : String :=
  "Key: Name: [" ++ toString (Text.utf8Size name.toList + 1) ++ "] :" ++ name ++ "\nvalue=" ++
    value.display ++ "\n"

/-- SQL and its parameters, for reading. -/
def dumpParameters (sql : String) (parameters : List (String × Value)) : String :=
  "SQL: [" ++ toString (Text.utf8Size sql.toList) ++ "] " ++ sql ++ "\nParams:  " ++
    toString parameters.length ++ "\n" ++
    String.join (parameters.map fun (name, value) => dumpParameter name value)

namespace Prepared

/-- The statement with a value bound under a name, in place of an earlier one. -/
def bind (p : Prepared) (name : String) (value : Value) : Prepared :=
  { p with bindings := p.bindings.insert (bindingName name) value }

/-- The SQL of the statement and its parameters, for reading. -/
def dump (p : Prepared) : String :=
  dumpParameters p.sql p.bindings.entries

end Prepared

end BoundSql
