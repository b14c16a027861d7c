import BoundSql.Connection.Scripted
import BoundSql.Registry

/-!
# Opening scripted connections

A connector for registries that records the names and URLs with which it is called, can be told to
refuse a name, and otherwise opens a new scripted connection.
-/

namespace BoundSql

/-- What a scripted connector has seen and been told. -/
structure Switchboard where
  /-- The names and URLs of the calls, oldest first. -/
  calls : List (String × String) := []
  /-- The names that are refused, with the driver's report. -/
  refused : OrderedMap String := ∅

namespace Switchboard

/-- Refuses a name from now on, or accepts it again. -/
def refuse (name : String) (report : Option String) (s : Switchboard) : Switchboard :=
  match report with
  | some text => { s with refused := s.refused.insert name text }
  | none => { s with refused := s.refused.erase name }

/-- Records a call and opens a new connection, unless the name is refused. -/
def connector : Connector Switchboard Scripted := fun name entry => do
  let dsn ← Act.ofExcept entry.dsn
  Act.update fun s => { s with calls := s.calls ++ [(name, dsn)] }
  match (← get).refused.get? name with
  | some text => throw (Scripted.failure text)
  | none => return { backend := (Backend.ofEngine? entry.engine).getD .sqlite }

end Switchboard

end BoundSql
