import BoundSql.Toml

/-!
# Tables under construction

While a document is read, a table remembers how it came to be: by a header of its own, as a step on
the way to a header, or as a step of a dotted key. A header may define a table only once, and may
complete one that was only a step; a dotted key may pass a table that was only a step, but its value
goes only into a table of dotted keys; values, inline tables and arrays among them, are never
extended.

A table is entered into its parent when it is complete, so a table that was first a step on the way
to another header and gets its own header later stands where that header ends.
-/

namespace BoundSql.Toml

/-- How a table came to be. -/
inductive Origin where
  /-- By a header of its own. -/
  | header
  /-- As a step on the way to a header. -/
  | step
  /-- As a step of a dotted key. -/
  | dotted
  deriving DecidableEq, Repr

/-- A value or a table under construction. -/
inductive Node where
  | value (v : Toml)
  | table (origin : Origin) (entries : List (String × Node))
  /-- An array of tables, each made by a header. -/
  | tables (items : List (List (String × Node)))
  deriving Inhabited

/-- The entries of a table under construction. -/
abbrev Entries := List (String × Node)

/-- The entry under a name. -/
def find? (name : String) : Entries → Option Node
  | [] => none
  | (key, node) :: rest => if key = name then some node else find? name rest

/-- Entries with the one under a name replaced, or a new one at the end. -/
def put (name : String) (node : Node) : Entries → Entries
  | [] => [(name, node)]
  | (key, old) :: rest =>
    if key = name then (key, node) :: rest else (key, old) :: put name node rest

/-- Entries without a name. -/
def remove (name : String) (entries : Entries) : Entries :=
  entries.filter (·.1 ≠ name)

/-- Items with the last one replaced by a result that may fail. -/
def updateLast? {α : Type} (f : α → Option α) : List α → Option (List α)
  | [] => none
  | [item] => (f item).map ([·])
  | item :: rest => (updateLast? f rest).map (item :: ·)

/-- Changes the table at the end of a path of headers; missing tables on the way are steps, and of
an array of tables the last one is meant. -/
def alongHeader? (f : Entries → Option Entries) : List String → Entries → Option Entries
  | [], entries => f entries
  | name :: path, entries => do
    match find? name entries with
    | none => return put name (.table .step (← alongHeader? f path [])) entries
    | some (.table origin inner) =>
      return put name (.table origin (← alongHeader? f path inner)) entries
    | some (.tables items) =>
      return put name (.tables (← updateLast? (alongHeader? f path) items)) entries
    | some (.value _) => none

/-- Enters a value under a dotted key. On the way no table of a header is passed and no value, and
of an array of tables the last one is meant. The table that takes the value must be one of dotted
keys or, as `accepts` says, the table at which the way began. -/
def insert? (v : Toml) (accepts : Bool) : List String → Entries → Option Entries
  | [], _ => none
  | [name], entries =>
    match find? name entries with
    | none => if accepts then some (put name (.value v) entries) else none
    | some _ => none
  | name :: path, entries => do
    match find? name entries with
    | none => return put name (.table .dotted (← insert? v true path [])) entries
    | some (.table .dotted inner) =>
      return put name (.table .dotted (← insert? v true path inner)) entries
    | some (.table .step inner) =>
      return put name (.table .step (← insert? v false path inner)) entries
    | some (.tables items) =>
      return put name (.tables (← updateLast? (insert? v false path) items)) entries
    | some _ => none

mutual

/-- The value that a finished node is. -/
def Node.finish : Node → Toml
  | .value v => v
  | .table _ entries => .table (finishEntries entries)
  | .tables items => .array (finishItems items)

/-- `finish` on every entry. -/
def finishEntries : List (String × Node) → List (String × Toml)
  | [] => []
  | (name, node) :: rest => (name, node.finish) :: finishEntries rest

/-- `finish` on every table of an array. -/
def finishItems : List (List (String × Node)) → List Toml
  | [] => []
  | entries :: rest => .table (finishEntries entries) :: finishItems rest

end

/-- The header whose table is being read. -/
structure Header where
  /-- The names on the way to the table. -/
  path : List String
  name : String
  /-- Whether the table is one more of an array of tables. -/
  repeated : Bool
  deriving DecidableEq, Repr

/-- A document of which some lines have been read. -/
structure Reader where
  /-- The tables that are complete. -/
  root : Entries := []
  /-- The header of the current table; at the start of a document there is none. -/
  header : Option Header := none
  /-- The entries of the current table. -/
  current : Entries := []

namespace Reader

/-- One more table in the array under a name. -/
def append? (name : String) (table : Entries) (entries : Entries) : Option Entries :=
  match find? name entries with
  | none => some (put name (.tables [table]) entries)
  | some (.tables items) => some (put name (.tables (items ++ [table])) entries)
  | some _ => none

/-- Enters the current table into its parent. -/
def close? (r : Reader) : Option Reader :=
  match r.header with
  | none => some { root := r.current }
  | some header => do
    let enter (entries : Entries) : Option Entries :=
      if header.repeated then append? header.name r.current entries
      else some (put header.name (.table .header r.current) entries)
    return { root := ← alongHeader? enter header.path r.root }

/-- The entries with which a table begins that is about to be read, and its parent without it. -/
def claim? (header : Header) (entries : Entries) : Option (Entries × Entries) :=
  match find? header.name entries with
  | none => some ([], entries)
  | some (.table .step inner) =>
    if header.repeated then none else some (inner, remove header.name entries)
  | some (.tables _) => if header.repeated then some ([], entries) else none
  | some _ => none

/-- The entries of the table at the end of a path of headers. -/
def atHeader? : List String → Entries → Option Entries
  | [], entries => some entries
  | name :: path, entries =>
    match find? name entries with
    | none => some []
    | some (.table _ inner) => atHeader? path inner
    | some (.tables items) => items.getLast?.bind (atHeader? path)
    | some (.value _) => none

/-- Begins the table of a header. -/
def open? (r : Reader) (path : List String) (repeated : Bool) : Option Reader := do
  let r ← r.close?
  let header : Header := ⟨path.dropLast, path.getLastD "", repeated⟩
  let (current, _) ← claim? header (← atHeader? header.path r.root)
  let root ← alongHeader? (fun entries => (claim? header entries).map Prod.snd) header.path r.root
  return { root, header := some header, current }

/-- Enters a value into the current table. -/
def enter? (r : Reader) (path : List String) (v : Toml) : Option Reader := do
  return { r with current := ← insert? v true path r.current }

/-- The document. -/
def finish? (r : Reader) : Option Toml := do
  let r ← r.close?
  return .table (finishEntries r.root)

end Reader

end BoundSql.Toml
