import BoundSql.Operator

/-!
# Errors

An error is a cause: a fault of an argument, of a driver or of a configuration, an unknown
connection, a failed input or output, or another error under a line of context. The wording is in
one function for each kind of fault.

A line of context is added to an error, or to a result, which takes it over its failure if it has
one (`addContext`, `addContextLazily`); `ContextCall` is one such call.

* `code_withContext`, `isDriver_withContext`: context does not change what an error is;
* `chain_withContext`: the chain of an error lists its contexts from the outside in.
-/

namespace BoundSql

/-- What is wrong with an argument. -/
inductive ArgumentFault where
  /-- A list operator without values. -/
  | emptyList (op : Operator) (field : String)
  /-- A list operator with a list among its values. -/
  | nestedOperand (op : Operator) (field : String)
  /-- A range operator with another number of bounds than two. -/
  | boundCount (op : Operator) (field : String) (count : Nat)
  /-- A range operator whose operand is not a list. -/
  | noBounds (op : Operator) (field : String)
  /-- A list or range operator whose operand is written without a list. -/
  | noList (op : Operator) (field : String)
  /-- A list given to an operator of a single value. -/
  | listOperand (op : Operator) (field : String)
  /-- An insertion without columns. -/
  | nothingToInsert (table : String)
  /-- An update without columns. -/
  | nothingToUpdate (table : String)
  /-- A field without a character that a placeholder may hold. -/
  | noStem (field : String)
  /-- Two values for one placeholder. -/
  | boundTwice (name : String)
  /-- A list inside a list that is bound element by element. -/
  | nestedList (name : String)
  /-- Pages without rows. -/
  | emptyPages
  /-- A page that ends beyond the 64-bit numbers. -/
  | pageOutOfRange (page perPage : UInt64)
  | other (text : String)
  deriving DecidableEq, Repr

/-- What a driver reports. -/
inductive DriverFault where
  | alreadyInTransaction
  | notInTransaction
  | unsupportedScheme (scheme : String)
  | unbound (name : String)
  /-- A list bound to one placeholder. -/
  | listBound (name : String)
  | reported (text : String)
  deriving DecidableEq, Repr

/-- What is wrong with a configuration. -/
inductive ConfigFault where
  | noEngine
  | unsupportedEngine (engine : String)
  | noFileName
  /-- The text of a configuration does not describe connections. -/
  | malformed (reason : String)
  | other (text : String)
  deriving DecidableEq, Repr

/-- Why an operation failed. -/
inductive Error where
  | invalidArgument (fault : ArgumentFault)
  | unknownConnection (name : String)
  | driver (fault : DriverFault)
  | config (fault : ConfigFault)
  | io (text : String)
  | withContext (context : String) (source : Error)
  deriving DecidableEq, Repr

/-- The wording of a fault of an argument. -/
def ArgumentFault.text : ArgumentFault → String
  | .emptyList op field => op.sql ++ " on '" ++ field ++ "' needs at least one value"
  | .nestedOperand op field => op.sql ++ " on '" ++ field ++ "' takes scalar values only"
  | .boundCount op field count =>
    op.sql ++ " on '" ++ field ++ "' needs exactly 2 values, got " ++ toString count
  | .noBounds op field => op.sql ++ " on '" ++ field ++ "' needs exactly 2 values"
  | .noList op field => op.sql ++ " on '" ++ field ++ "' needs a list of values"
  | .listOperand op field => "Operator " ++ op.sql ++ " on '" ++ field ++ "' takes a single value"
  | .nothingToInsert table => "No data provided for INSERT into " ++ table
  | .nothingToUpdate table => "No data provided for UPDATE of " ++ table
  | .noStem field => "Cannot derive a placeholder name from field '" ++ field ++ "'"
  | .boundTwice name => "Placeholder :" ++ name ++ " is bound twice in one statement"
  | .nestedList name => "Nested list bound to :" ++ name
  | .emptyPages => "Cannot paginate with 0 rows per page"
  | .pageOutOfRange page perPage =>
    "Page " ++ toString page.toNat ++ " with " ++ toString perPage.toNat ++
      " rows per page is out of range"
  | .other text => text

/-- The wording of a driver's report. -/
def DriverFault.text : DriverFault → String
  | .alreadyInTransaction => "There is already an active transaction"
  | .notInTransaction => "There is no active transaction"
  | .unsupportedScheme scheme => "Unsupported database URL scheme '" ++ scheme ++ "'"
  | .unbound name => "No value bound for placeholder :" ++ name
  | .listBound name => "Cannot bind an array to :" ++ name ++ "; expand it first"
  | .reported text => text

/-- The wording of a fault of a configuration. -/
def ConfigFault.text : ConfigFault → String
  | .noEngine => "Database engine is required"
  | .unsupportedEngine engine => "Unsupported database engine '" ++ engine ++ "'"
  | .noFileName => "SQLite connections need a database file name"
  | .malformed reason => reason
  | .other text => text

namespace Error

/-- The outermost text of an error. -/
def message : Error → String
  | invalidArgument fault => "Invalid argument: " ++ fault.text
  | unknownConnection name => "Unknown connection: " ++ name
  | driver fault => "Driver error: " ++ fault.text
  | config fault => "Configuration error: " ++ fault.text
  | io text => "IO error: " ++ text
  | withContext context _ => context

/-- A code that names the kind of the innermost error. -/
def code : Error → String
  | invalidArgument _ => "E_INVALID_ARGUMENT"
  | unknownConnection _ => "E_UNKNOWN_CONNECTION"
  | driver _ => "E_DRIVER"
  | config _ => "E_CONFIG"
  | io _ => "E_IO"
  | withContext _ source => source.code

/-- Whether the innermost error comes from a driver. -/
def isDriver : Error → Bool
  | driver _ => true
  | withContext _ source => source.isDriver
  | _ => false

/-- The walk down an error, with the texts collected so far. The text of an error is collected
before the walk comes to it. -/
def walk (collected : List String) : Error → List String
  | withContext _ source => walk (collected ++ [source.message]) source
  | _ => collected

/-- The texts of an error and of every error under it, outermost first. -/
def chain (e : Error) : List String :=
  walk [e.message] e

/-- The chain on one line. -/
def chainText (e : Error) : String :=
  " -> ".intercalate e.chain

theorem message_withContext (context : String) (e : Error) :
    (withContext context e).message = context :=
  rfl

theorem code_withContext (context : String) (e : Error) : (withContext context e).code = e.code :=
  rfl

theorem isDriver_withContext (context : String) (e : Error) :
    (withContext context e).isDriver = e.isDriver :=
  rfl

/-- What a walk has collected stays in front of what it collects. -/
theorem walk_append (before collected : List String) (e : Error) :
    walk (before ++ collected) e = before ++ walk collected e := by
  induction e generalizing collected with
  | withContext context source ih =>
    rw [walk, walk, List.append_assoc]
    exact ih (collected ++ [source.message])
  | _ => rfl

theorem chain_withContext (context : String) (e : Error) :
    (withContext context e).chain = context :: e.chain :=
  walk_append [context] [e.message] e

/-! ## Context on results -/

variable {α : Type}

/-- The result with a line of context over its failure. -/
def addContext (context : String) (result : Except Error α) : Except Error α :=
  result.mapError (withContext context)

/-- The result with a line of context over its failure, where only a failure has the line made. -/
def addContextLazily (context : Unit → String) (result : Except Error α) : Except Error α :=
  result.mapError fun e => e.withContext (context ())

end Error

/-- A call that adds a line of context. -/
inductive ContextCall where
  /-- To the error. -/
  | onError (line : String)
  /-- To the result that holds the error. -/
  | onResult (line : String)
  /-- To the result, with a line that is made when it is needed. -/
  | lazily (line : Unit → String)

namespace ContextCall

variable {α : Type}

/-- The line that a call adds. -/
def line : ContextCall → String
  | onError line => line
  | onResult line => line
  | lazily line => line ()

/-- The result after a call. -/
def addTo : ContextCall → Except Error α → Except Error α
  | onError line, result => result.mapError fun e => e.withContext line
  | onResult line, result => Error.addContext line result
  | lazily line, result => Error.addContextLazily line result

/-- The result after calls, the first call first. -/
def addAllTo (calls : List ContextCall) (result : Except Error α) : Except Error α :=
  calls.foldl (fun result call => call.addTo result) result

@[simp] theorem addTo_error (call : ContextCall) (e : Error) :
    call.addTo (.error e : Except Error α) = .error (e.withContext call.line) := by
  cases call <;> rfl

end ContextCall

end BoundSql
