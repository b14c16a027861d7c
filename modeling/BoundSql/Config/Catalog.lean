import BoundSql.Config.Entry
import BoundSql.Toml.Reading

/-!
# Catalogs of connections

A catalog holds connection entries under names, in the order in which they were declared. It is
built entry by entry or read from a TOML document with one table for each connection. Missing keys
of a table have defaults, except the engine, and unknown keys are ignored. An entry may also be
written as an array of its parts in order.
-/

namespace BoundSql

/-- Connection entries under names, in order. -/
abbrev Catalog := OrderedMap Entry

namespace Entry

/-- A text. -/
def textOf? : Toml → Option String
  | .string s => some s
  | _ => none

/-- A port number. -/
def portOf? : Toml → Option UInt16
  | .integer i => if 0 ≤ i && i < 2 ^ 16 then some (UInt16.ofNat i.toNat) else none
  | _ => none

/-- The name under which a moment stands where a table of texts is asked for. -/
def momentName : String :=
  "$__toml_private_datetime"

/-- A table of texts. A moment is one with the moment's writing as its only text. -/
def optionsOf? : Toml → Option (OrderedMap String)
  | .moment m => some (OrderedMap.ofList [(momentName, m.text)])
  | .table entries =>
    (entries.mapM fun entry => (textOf? entry.2).map fun text => (entry.1, text)).map
      OrderedMap.ofList
  | _ => none

/-- A part that must be well formed when it is there, and has a default when it is not. -/
def partOr {α : Type} (read? : Toml → Option α) (default : α) : Option Toml → Option α
  | none => some default
  | some v => read? v

/-- The entry whose parts are given by name. -/
def ofParts? (part : String → Option Toml) : Option Entry := do
  return {
    engine := ← (part "engine").bind textOf?
    host := ← partOr textOf? "localhost" (part "host")
    port := ← partOr (fun v => (portOf? v).map some) none (part "port")
    name := ← partOr textOf? "" (part "name")
    user := ← partOr textOf? "" (part "user")
    password := ← partOr textOf? "" (part "password")
    charset := ← partOr textOf? "utf8" (part "charset")
    options := ← partOr optionsOf? ∅ (part "options") }

/-- The names of the parts of an entry, in order. -/
def partNames : List String :=
  ["engine", "host", "port", "name", "user", "password", "charset", "options"]

/-- The entry that a value of a document describes. -/
def ofToml? : Toml → Option Entry
  | .table entries => ofParts? fun name => lookup? name entries
  | .array items =>
    if partNames.length < items.length then none
    else ofParts? fun name => lookup? name (partNames.zip items)
  | _ => none

end Entry

namespace Catalog

/-- The names of the connections, in order of declaration. -/
def names (catalog : Catalog) : List String :=
  catalog.keys

/-- A catalog with the entries of another; of a name in both, the other's entry. -/
def merge (catalog other : Catalog) : Catalog :=
  catalog.insertAll other.entries

/-- The first entry whose engine is not supported makes an error that names it. -/
def checkEngines : List (String × Entry) → Except Error Unit
  | [] => .ok ()
  | (name, entry) :: rest =>
    match entry.backend with
    | .error e => .error (e.withContext ("Invalid connection '" ++ name ++ "'"))
    | .ok _ => checkEngines rest

/-- The entries of a document. -/
def entriesOf? : Toml → Option (List (String × Entry))
  | .table tables => tables.mapM fun table => (Entry.ofToml? table.2).map fun e => (table.1, e)
  | _ => none

/-- The catalog that a TOML document describes. -/
def ofToml (text : String) : Except Error Catalog := do
  match Toml.read? text with
  | none => throw (.config (.malformed "the text is not a TOML document"))
  | some document =>
    match entriesOf? document with
    | none => throw (.config (.malformed "the document does not describe connections"))
    | some entries =>
      checkEngines entries
      return OrderedMap.ofList entries

/-- The error of a catalog whose file cannot be read. -/
def unreadable (path reason : String) : Error :=
  .withContext ("Failed to read database configuration " ++ path) (.io reason)

/-- The catalog as a JSON object. -/
def toJson (catalog : Catalog) : Json :=
  .object (catalog.entries.map fun (name, entry) => (name, entry.toJson))

end Catalog

end BoundSql
