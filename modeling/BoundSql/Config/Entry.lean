import BoundSql.Backend
import BoundSql.Error
import BoundSql.Json
import BoundSql.Text.Percent

/-!
# Connection entries

An entry describes one connection: the engine, where the server is, the database, credentials, and
driver options. `Entry.dsn` writes it as a URL for the driver. `EntryDraft` holds the parts of an
entry before the engine is known to be supported.
-/

namespace BoundSql

/-- The description of one connection. -/
structure Entry where
  /-- The name of the engine. -/
  engine : String
  host : String := "localhost"
  port : Option UInt16 := none
  /-- The database, or the file of an SQLite database. -/
  name : String := ""
  user : String := ""
  password : String := ""
  /-- The character set, which only MySQL uses. -/
  charset : String := "utf8"
  /-- Options for the driver, in order. -/
  options : OrderedMap String := ∅
  deriving DecidableEq, Inhabited

namespace Entry

/-- The backend that the engine names. -/
def backend (entry : Entry) : Except Error Backend :=
  match Backend.ofEngine? entry.engine with
  | some backend => .ok backend
  | none => .error (.config (.unsupportedEngine entry.engine))

/-- A text as a component of a URL. -/
def component (text : String) : String :=
  String.ofList (Text.percentEncode text.toList)

/-- The name and password in a URL, with the `@` after them; without a name, nothing. -/
def credentials (entry : Entry) : String :=
  if entry.user.isEmpty then ""
  else
    component entry.user ++
      (if entry.password.isEmpty then "" else ":" ++ component entry.password) ++ "@"

/-- The host in a URL, with the port if there is one. -/
def address (entry : Entry) : String :=
  match entry.port with
  | none => entry.host
  | some port => entry.host ++ ":" ++ toString port.toNat

/-- The URL up to its query, for a backend. -/
def location (entry : Entry) (backend : Backend) : Except Error String :=
  match backend with
  | .sqlite =>
    if entry.name.isEmpty then .error (.config .noFileName)
    else if entry.name = ":memory:" then .ok "sqlite::memory:"
    else .ok ("sqlite://" ++ entry.name)
  | .mysql | .postgres =>
    .ok (backend.name ++ "://" ++ entry.credentials ++ entry.address ++ "/" ++
      component entry.name)

/-- The names and values of the query of the URL: the character set first, then the options. -/
def parameters (entry : Entry) (backend : Backend) : List (String × String) :=
  let charset :=
    if backend = .mysql && !entry.charset.isEmpty then [("charset", entry.charset)] else []
  charset ++ entry.options.entries

/-- The query of a URL with the `?` before it; without parameters, nothing. -/
def query (parameters : List (String × String)) : String :=
  if parameters.isEmpty then ""
  else
    "?" ++ "&".intercalate
      (parameters.map fun (name, value) => component name ++ "=" ++ component value)

/-- The URL of the entry for the driver. -/
def dsn (entry : Entry) : Except Error String := do
  let backend ← entry.backend
  let location ← entry.location backend
  return location ++ query (entry.parameters backend)

/-- The entry as a JSON object. -/
def toJson (entry : Entry) : Json :=
  .object [
    ("engine", .string entry.engine),
    ("host", .string entry.host),
    ("port", (entry.port.map fun port => Json.int port.toNat).getD .null),
    ("name", .string entry.name),
    ("user", .string entry.user),
    ("password", .string entry.password),
    ("charset", .string entry.charset),
    ("options", .object (entry.options.entries.map fun (name, value) => (name, .string value)))]

end Entry

/-- An entry whose engine may be missing or unsupported. -/
structure EntryDraft where
  engine : Option String := none
  host : String := "localhost"
  port : Option UInt16 := none
  name : String := ""
  user : String := ""
  password : String := ""
  charset : String := "utf8"
  options : OrderedMap String := ∅
  deriving DecidableEq, Inhabited

namespace EntryDraft

/-- The draft with one more option, or another value for one. -/
def option (draft : EntryDraft) (name value : String) : EntryDraft :=
  { draft with options := draft.options.insert name value }

/-- The entry, if its engine is given and supported. -/
def build (draft : EntryDraft) : Except Error Entry := do
  match draft.engine with
  | none => throw (.config .noEngine)
  | some engine =>
    let entry : Entry :=
      { engine, host := draft.host, port := draft.port, name := draft.name, user := draft.user
        password := draft.password, charset := draft.charset, options := draft.options }
    let _ ← entry.backend
    return entry

end EntryDraft

end BoundSql
